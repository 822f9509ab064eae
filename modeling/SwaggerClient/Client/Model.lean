/-
Models: what a definition becomes.

Of the references in a composition the first is the parent; all of them have to lead to a
definition.  The parts written in place contribute their properties and their required names,
one level deep.
-/
import SwaggerClient.Client.TypeExpr
import SwaggerClient.Json.Printer

namespace SwaggerClient

/-- A field of a model. -/
structure ModelProperty where
  /-- The variable. -/
  name : String
  /-- The key in the schema. -/
  baseName : String
  dataType : TypeExpr
  required : Bool
  description : Option String
  descriptor : Property
deriving Repr, Inhabited

/-- A model of the generated client, made from one definition. -/
structure Model where
  /-- The name of the definition. -/
  name : String
  classname : String
  classFilename : String
  description : Option String
  /-- The type of the parent. -/
  parent : Option String
  properties : List ModelProperty
  /-- The import paths of the models that this one refers to. -/
  imports : List String
  /-- The localized schema as indented JSON, once it is made. -/
  modelJson : Option String
deriving Repr, Inhabited

namespace Model

/-- The first field with a key. -/
def property? (model : Model) (baseName : String) : Option ModelProperty :=
  model.properties.find? fun p => p.baseName == baseName

end Model

/-! ### What a schema is composed of -/

namespace Schema

/-- The references among the parts, in order. -/
def partRefs (schema : Schema) : List String :=
  schema.allOf.filterMap fun
    | .ref path => some path
    | .inline _ => none

/-- The parts written in place, in order. -/
def inlineParts (schema : Schema) : List Schema :=
  schema.allOf.filterMap fun
    | .ref _ => none
    | .inline part => some part

/-- The properties of the schema and of its parts in place. -/
def allProperties (schema : Schema) : List (String × Property) :=
  schema.properties.entries ++ schema.inlineParts.flatMap fun part => part.properties.entries

/-- The required names of the schema and of its parts in place. -/
def allRequired (schema : Schema) : List String :=
  schema.required ++ schema.inlineParts.flatMap fun part => part.required

end Schema

/-- The name of the definition that a path leads to. -/
def existingDefinition (definitions : Dict Schema) (path : String) : Except ResolveError String :=
  match definitionName path with
  | .error e => .error e
  | .ok name => if definitions.contains name then .ok name else .error (.targetNotFound path)

namespace Naming

variable (naming : Naming)

/-- One field of a model. -/
def modelProperty (required : List String) (entry : String × Property) :
    Except ResolveError ModelProperty :=
  match naming.typeOf entry.2 with
  | .error e => .error e
  | .ok dataType => .ok {
      name := naming.variableName entry.1
      baseName := entry.1
      dataType := dataType
      required := required.contains entry.1
      description := entry.2.description?
      descriptor := entry.2 }

/-- The imports of the models that a list of types refers to, each once, the model of
`classname` itself left out. -/
def modelImports (classname : String) (models : List String) : List String :=
  Text.firstOccurrences ((models.filter (· ≠ classname)).map naming.modelImport)

/-- The outline of a model: everything but its JSON, and with descriptors as they were. -/
def outline? (definitions : Dict Schema) (name : String) (schema : Schema) :
    Except ResolveError Model := do
  let parents ← schema.partRefs.mapM (existingDefinition definitions)
  let properties ← schema.allProperties.mapM (naming.modelProperty schema.allRequired)
  let classname := naming.modelName name
  let parent := parents.head?.map naming.modelName
  return {
    name := name
    classname := classname
    classFilename := naming.modelFilename name
    description := schema.description
    parent := parent
    properties := properties
    imports := naming.modelImports classname
      (parent.toList ++ properties.flatMap fun p => p.dataType.models)
    modelJson := none }

/-- The outline of a model, faults told with its name. -/
def outline (definitions : Dict Schema) (name : String) (schema : Schema) :
    Except GenerateError Model :=
  (naming.outline? definitions name schema).mapError (.model name)

/-- A field with its reference localized. -/
def localizeProperty (p : ModelProperty) : Except ResolveError ModelProperty :=
  match p.descriptor.localize with
  | .error e => .error e
  | .ok descriptor => .ok { p with descriptor := descriptor }

/-- A model in its final form, faults told without its name. -/
def model? (definitions : Dict Schema) (name : String) (schema : Schema) :
    Except ResolveError Model := do
  let outline ← naming.outline? definitions name schema
  let properties ← outline.properties.mapM localizeProperty
  match schema.localize with
  | (_, some e) => .error e
  | (schema, none) =>
    return { outline with properties := properties, modelJson := some schema.toJson.pretty }

/-- A model in its final form: its references localized and its schema as JSON. -/
def model (definitions : Dict Schema) (name : String) (schema : Schema) :
    Except GenerateError Model :=
  (naming.model? definitions name schema).mapError (.model name)

end Naming

/-- What is told about a model. -/
def Model.notice (model : Model) : Notice :=
  .modelOutlined model.classname model.properties.length model.imports.length

end SwaggerClient
