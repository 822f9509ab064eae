/-
Types as the generated client sees them.
-/
import SwaggerClient.Naming
import SwaggerClient.Reference

namespace SwaggerClient

/-- A type of the generated client.  A reference carries the name of a model type. -/
inductive TypeExpr where
  | string
  | number
  | integer
  | boolean
  | dateTime
  | binary
  | any
  | array (item : TypeExpr)
  | map (value : TypeExpr)
  | ref (model : String)
deriving DecidableEq, Repr, Inhabited

namespace TypeExpr

/-- The model that a type refers to, as a list of at most one. -/
def models : TypeExpr → List String
  | ref model => [model]
  | array item => item.models
  | map value => value.models
  | _ => []

/-- The type of a descriptor that is neither a reference nor an array with items. -/
def ofPrimitive (p : Primitive) : TypeExpr :=
  match p.type with
  | some "string" =>
    match p.format with
    | some "date-time" | some "date" => dateTime
    | some "binary" | some "byte" => binary
    | _ => string
  | some "number" => number
  | some "integer" => integer
  | some "boolean" => boolean
  | some "file" => binary
  | some "array" => array any
  | some "object" => map any
  | _ => any

end TypeExpr

/-- The type of a descriptor.  References have to have their full path. -/
def Naming.typeOf (naming : Naming) : Property → Except ResolveError TypeExpr
  | .ref path =>
    match definitionName path with
    | .ok name => .ok (.ref (naming.modelName name))
    | .error e => .error e
  | .array items _ =>
    match naming.typeOf items with
    | .ok item => .ok (.array item)
    | .error e => .error e
  | .primitive facets => .ok (.ofPrimitive facets)

end SwaggerClient
