/-
Imports: which model stands behind an import path, and which imports a whole pass needs.
-/
import SwaggerClient.Naming
import SwaggerClient.Text.Affix
import SwaggerClient.Error

namespace SwaggerClient

/-- An import as templates see it: its path, its file and the type behind it. -/
structure ImportEntry where
  importPath : String
  filename : String
  classname : String
deriving DecidableEq, Repr, Inhabited

namespace ImportEntry

/-- The type behind an import path: a package, a slash and the file of a model. -/
def classnameOf (package path : String) : Except ResolveError String :=
  match Text.stripStart? (package ++ "/") path with
  | none => .error (.malformedImport path package)
  | some file =>
    if file = "" then .error (.malformedImport path package) else .ok (Text.pascalCase file)

/-- The entry of an import path. -/
def resolve (package path : String) : Except ResolveError ImportEntry :=
  match classnameOf package path with
  | .ok classname => .ok ⟨path, path, classname⟩
  | .error e => .error e

/-- The entries of import paths, up to the first fault. -/
def resolveAll (package : String) (paths : List String) :
    Except ResolveError (List ImportEntry) :=
  paths.mapM (resolve package)

/-- The entry as templates see it, with its members in the order of their names. -/
def toJson (entry : ImportEntry) : Json := .object [
  ("classname", .string entry.classname),
  ("filename", .string entry.filename),
  ("importPath", .string entry.importPath)]

end ImportEntry

/-- The entries of all operation sets of a pass.  The first entry of an import path stays. -/
structure ImportRefs where
  entries : List ImportEntry := []
deriving DecidableEq, Repr, Inhabited

namespace ImportRefs

/-- Whether an import path has an entry. -/
def contains (refs : ImportRefs) (path : String) : Bool :=
  refs.entries.any fun e => e.importPath == path

/-- Records an entry, unless its import path has one. -/
def add (refs : ImportRefs) (entry : ImportEntry) : ImportRefs :=
  if refs.contains entry.importPath then refs else ⟨refs.entries ++ [entry]⟩

/-- Records entries one after the other. -/
def extend (refs : ImportRefs) (entries : List ImportEntry) : ImportRefs :=
  entries.foldl add refs

/-- The number of entries. -/
def size (refs : ImportRefs) : Nat := refs.entries.length

/-- Whether nothing was recorded. -/
def isEmpty (refs : ImportRefs) : Bool := refs.entries.isEmpty

end ImportRefs

end SwaggerClient
