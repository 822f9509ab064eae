/-
What can go wrong, by cause, and how each cause is put into words.
-/
namespace SwaggerClient

/-- A reference or an import path that leads nowhere. -/
inductive ResolveError where
  | malformedReference (path : String)
  | malformedImport (path package : String)
  | targetNotFound (path : String)
deriving DecidableEq, Repr

/-- A text that is no document.  The readers of the two formats give no reason. -/
inductive ParseError where
  | yaml
  | json
  | unsupportedVersion (version : String)
deriving DecidableEq, Repr

/-- A document that no client can be generated from, with the place of the fault. -/
inductive GenerateError where
  | parse (cause : ParseError)
  | model (name : String) (cause : ResolveError)
  | operation (method path : String) (cause : ResolveError)
  | operationSet (classname : String) (cause : ResolveError)
deriving DecidableEq, Repr

namespace ResolveError

/-- The wording. -/
def message : ResolveError → String
  | malformedReference path => "malformed reference `" ++ path ++ "`"
  | malformedImport path package =>
    "malformed import `" ++ path ++ "`: expected a `" ++ package ++ "/` prefix"
  | targetNotFound path => "reference target not found: " ++ path

end ResolveError

namespace ParseError

/-- The wording, where this library decides it. -/
def message? : ParseError → Option String
  | yaml | json => none
  | unsupportedVersion version => some ("unsupported Swagger version: " ++ version)

end ParseError

namespace GenerateError

/-- The wording, where this library decides it. -/
def message? : GenerateError → Option String
  | parse cause => cause.message?.map ("parse error: " ++ ·)
  | model name cause => some ("model `" ++ name ++ "`: " ++ cause.message)
  | operation method path cause =>
    some ("operation `" ++ method ++ " " ++ path ++ "`: " ++ cause.message)
  | operationSet classname cause =>
    some ("operation set `" ++ classname ++ "`: " ++ cause.message)

/-- The faulty reference or import underneath, if there is one. -/
def resolveError? : GenerateError → Option ResolveError
  | parse _ => none
  | model _ cause | operation _ _ cause | operationSet _ cause => some cause

end GenerateError

end SwaggerClient
