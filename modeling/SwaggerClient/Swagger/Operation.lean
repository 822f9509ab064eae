/-
Operations: what can be asked of a path, with its parameters and responses.
-/
import SwaggerClient.Swagger.Schema

namespace SwaggerClient

/-! ### Methods and locations -/

/-- The methods that a path item can define, in the order in which they are visited. -/
inductive Method where
  | get | post | put | delete | patch | options | head
deriving DecidableEq, Repr, Inhabited

namespace Method

/-- All methods in the order in which they are visited. -/
def all : List Method := [get, post, put, delete, patch, options, head]

/-- No method is missing from the list. -/
theorem mem_all (m : Method) : m ∈ all := by cases m <;> decide

/-- The name in capitals, as it stands in a request. -/
def name : Method → String
  | get => "GET"
  | post => "POST"
  | put => "PUT"
  | delete => "DELETE"
  | patch => "PATCH"
  | options => "OPTIONS"
  | head => "HEAD"

/-- The key of a path item. -/
def key : Method → String
  | get => "get"
  | post => "post"
  | put => "put"
  | delete => "delete"
  | patch => "patch"
  | options => "options"
  | head => "head"

end Method

/-- Where a parameter travels. -/
inductive Location where
  | query | header | path | formData | body
deriving DecidableEq, Repr, Inhabited

namespace Location

/-- All locations. -/
def all : List Location := [query, header, path, formData, body]

/-- The name in a document. -/
def name : Location → String
  | query => "query"
  | header => "header"
  | path => "path"
  | formData => "formData"
  | body => "body"

/-- The location of a name. -/
def ofName? (s : String) : Option Location := all.find? fun l => l.name == s

/-- A location by its name. -/
def ofDatum? (d : Datum) : Option Location := (d.choice? (all.map name)).bind ofName?

end Location

/-! ### Parameters and responses -/

/-- A parameter.  Body parameters carry a schema; all others describe their type in place. -/
structure Parameter where
  name : String
  location : Location
  description : Option String := none
  required : Bool := false
  schema : Option Property := none
  type : Option String := none
  format : Option String := none
  items : Option Property := none
deriving Repr, Inhabited

namespace Parameter

/-- The fields of a parameter in declared order. -/
def fieldShapes : List (String × Shape) := [
  ("name", .text),
  ("in", .choice),
  ("description", .optional .text),
  ("required", .flag),
  ("schema", .optional Property.shape),
  ("type", .optional .text),
  ("format", .optional .text),
  ("items", .optional Property.shape)]

/-- What a parameter looks like in a text. -/
def shape : Shape := .record fieldShapes

/-- The fields of a parameter as a record. -/
def form : Datum.RecordForm where
  names := fieldShapes.map Prod.fst

/-- Decodes a parameter; unknown fields are ignored. -/
def ofDatum? (d : Datum) : Option Parameter := do
  let fields ← d.fields? form
  return {
    name := ← Datum.required? fields "name" Datum.text?
    location := ← Datum.required? fields "in" Location.ofDatum?
    description := ← Datum.optional? fields "description" Datum.text?
    required := ← Datum.defaulted? fields "required" false Datum.flag?
    schema := ← Datum.optional? fields "schema" Property.ofDatum?
    type := ← Datum.optional? fields "type" Datum.text?
    format := ← Datum.optional? fields "format" Datum.text?
    items := ← Datum.optional? fields "items" Property.ofDatum? }

/-- Encodes a parameter: fields in declared order, absent and empty ones left out. -/
def toJson (p : Parameter) : Json := .object <|
  Json.member "name" (.string p.name) ++
  Json.member "in" (.string p.location.name) ++
  Json.optionalMember "description" .string p.description ++
  Json.member "required" (.bool p.required) ++
  Json.optionalMember "schema" Property.toJson p.schema ++
  Json.optionalMember "type" .string p.type ++
  Json.optionalMember "format" .string p.format ++
  Json.optionalMember "items" Property.toJson p.items

/-- The type of the parameter as a descriptor: its schema if it has one, else what it says in
place.  An array in place needs items, and keeps no bounds. -/
def property (p : Parameter) : Property :=
  match p.schema with
  | some schema => schema
  | none =>
    match p.type, p.items with
    | some "array", some items => .array items { description := p.description }
    | _, _ => .primitive { type := p.type, format := p.format, description := p.description }

section Descriptor

variable {p : Parameter} {schema items : Property}

theorem property_of_schema (h : p.schema = some schema) : p.property = schema := by
  rw [property, h]

theorem property_of_items (hschema : p.schema = none) (htype : p.type = some "array")
    (hitems : p.items = some items) :
    p.property = .array items { description := p.description } := by
  rw [property, hschema, htype, hitems]
  rfl

theorem property_of_inPlace (hschema : p.schema = none)
    (h : p.type ≠ some "array" ∨ p.items = none) :
    p.property =
      .primitive { type := p.type, format := p.format, description := p.description } := by
  rw [property, hschema]
  dsimp only
  split
  · rename_i htype hitems
    rcases h with h | h
    · exact absurd htype h
    · rw [h] at hitems
      cases hitems
  · rfl

end Descriptor

end Parameter

/-- What an operation can answer. -/
structure Response where
  description : String := ""
  schema : Option Property := none
deriving Repr, Inhabited

namespace Response

/-- The fields of a response in declared order. -/
def fieldShapes : List (String × Shape) := [
  ("description", .text),
  ("schema", .optional Property.shape)]

/-- What a response looks like in a text. -/
def shape : Shape := .record fieldShapes

/-- The fields of a response as a record. -/
def form : Datum.RecordForm where
  names := fieldShapes.map Prod.fst

/-- Decodes a response; unknown fields are ignored. -/
def ofDatum? (d : Datum) : Option Response := do
  let fields ← d.fields? form
  return {
    description := ← Datum.defaulted? fields "description" "" Datum.text?
    schema := ← Datum.optional? fields "schema" Property.ofDatum? }

/-- Encodes a response: fields in declared order, absent and empty ones left out. -/
def toJson (r : Response) : Json := .object <|
  Json.member "description" (.string r.description) ++
  Json.optionalMember "schema" Property.toJson r.schema

end Response

/-! ### Operations and path items -/

/-- What one method of a path does. -/
structure Operation where
  operationId : Option String := none
  summary : Option String := none
  description : Option String := none
  tags : List String := []
  consumes : List String := []
  produces : List String := []
  parameters : List (OrRef Parameter) := []
  responses : Dict (OrRef Response) := Dict.empty
  deprecated : Option Bool := none
deriving Inhabited

namespace Operation

/-- The fields of an operation in declared order. -/
def fieldShapes : List (String × Shape) := [
  ("operationId", .optional .text),
  ("summary", .optional .text),
  ("description", .optional .text),
  ("tags", .list .text),
  ("consumes", .list .text),
  ("produces", .list .text),
  ("parameters", .list OrRef.shape),
  ("responses", .dict OrRef.shape),
  ("deprecated", .optional .flag)]

/-- What an operation looks like in a text. -/
def shape : Shape := .record fieldShapes

/-- The fields of an operation as a record. -/
def form : Datum.RecordForm where
  names := fieldShapes.map Prod.fst

/-- Decodes an operation; unknown fields are ignored. -/
def ofDatum? (d : Datum) : Option Operation := do
  let fields ← d.fields? form
  return {
    operationId := ← Datum.optional? fields "operationId" Datum.text?
    summary := ← Datum.optional? fields "summary" Datum.text?
    description := ← Datum.optional? fields "description" Datum.text?
    tags := ← Datum.defaulted? fields "tags" [] (Datum.listOf? Datum.text?)
    consumes := ← Datum.defaulted? fields "consumes" [] (Datum.listOf? Datum.text?)
    produces := ← Datum.defaulted? fields "produces" [] (Datum.listOf? Datum.text?)
    parameters := ← Datum.defaulted? fields "parameters" []
      (Datum.listOf? (OrRef.ofDatum? Parameter.ofDatum?))
    responses := ← Datum.defaulted? fields "responses" Dict.empty
      (Datum.dictOf? (OrRef.ofDatum? Response.ofDatum?))
    deprecated := ← Datum.optional? fields "deprecated" Datum.flag? }

/-- Encodes an operation: fields in declared order, absent and empty ones left out. -/
def toJson (op : Operation) : Json := .object <|
  Json.optionalMember "operationId" .string op.operationId ++
  Json.optionalMember "summary" .string op.summary ++
  Json.optionalMember "description" .string op.description ++
  Json.listMember "tags" .string op.tags ++
  Json.listMember "consumes" .string op.consumes ++
  Json.listMember "produces" .string op.produces ++
  Json.listMember "parameters" (OrRef.toJson Parameter.toJson) op.parameters ++
  Json.tableMember "responses" (OrRef.toJson Response.toJson) op.responses.entries ++
  Json.optionalMember "deprecated" .bool op.deprecated

end Operation

/-- The operations of one path, and the parameters that they share. -/
structure PathItem where
  parameters : List (OrRef Parameter) := []
  get : Option Operation := none
  post : Option Operation := none
  put : Option Operation := none
  delete : Option Operation := none
  patch : Option Operation := none
  options : Option Operation := none
  head : Option Operation := none
deriving Inhabited

namespace PathItem

/-- The fields of a path item in declared order. -/
def fieldShapes : List (String × Shape) :=
  ("parameters", .list OrRef.shape) ::
    Method.all.map fun m => (m.key, .optional Operation.shape)

/-- What a path item looks like in a text. -/
def shape : Shape := .record fieldShapes

/-- The fields of a path item as a record. -/
def form : Datum.RecordForm where
  names := fieldShapes.map Prod.fst

/-- Decodes a path item; unknown fields are ignored. -/
def ofDatum? (d : Datum) : Option PathItem := do
  let fields ← d.fields? form
  let operation? (m : Method) := Datum.optional? fields m.key Operation.ofDatum?
  return {
    parameters := ← Datum.defaulted? fields "parameters" []
      (Datum.listOf? (OrRef.ofDatum? Parameter.ofDatum?))
    get := ← operation? .get
    post := ← operation? .post
    put := ← operation? .put
    delete := ← operation? .delete
    patch := ← operation? .patch
    options := ← operation? .options
    head := ← operation? .head }

/-- The operation of a method. -/
def operation? (item : PathItem) : Method → Option Operation
  | .get => item.get
  | .post => item.post
  | .put => item.put
  | .delete => item.delete
  | .patch => item.patch
  | .options => item.options
  | .head => item.head

/-- The operations that are present, in the order of the methods. -/
def operations (item : PathItem) : List (Method × Operation) :=
  Method.all.filterMap fun m => (item.operation? m).map fun op => (m, op)

/-- Encodes a path item: fields in declared order, absent and empty ones left out. -/
def toJson (item : PathItem) : Json := .object <|
  Json.listMember "parameters" (OrRef.toJson Parameter.toJson) item.parameters ++
  Method.all.flatMap fun m => Json.optionalMember m.key Operation.toJson (item.operation? m)

end PathItem

end SwaggerClient
