/-
Definitions: the schemas of models.

A schema may be composed (`allOf`) of references and of further schemas written in place, so
the type is recursive through the list of its parts.
-/
import SwaggerClient.Swagger.Property

namespace SwaggerClient

/-- Something written in place, or a reference to it. -/
inductive OrRef (α : Type) where
  | ref (path : String)
  | inline (value : α)
deriving Repr, Inhabited

/-- The description of a model. -/
structure Schema where
  type : Option String := none
  title : Option String := none
  description : Option String := none
  properties : Dict Property := Dict.empty
  required : List String := []
  allOf : List (OrRef Schema) := []
  discriminator : Option String := none
  enumeration : List Json := []
  items : Option Property := none
  sample : Option Json := none

instance : Inhabited Schema := ⟨{}⟩

namespace OrRef

/-- A value that is decided by trial is read as a whole first. -/
def shape : Shape := .buffered

/-- A reference, or else the value in place. -/
def ofDatum? (inline : Datum → Option α) (d : Datum) : Option (OrRef α) :=
  match d.refPath? with
  | some path => some (.ref path)
  | none => (inline d).map .inline

/-- A reference as an object with the path alone, or the value in place. -/
def toJson (encode : α → Json) : OrRef α → Json
  | ref path => .object [("$ref", .string path)]
  | inline value => encode value

end OrRef

namespace Schema

/-! ### Decoding -/

/-- The fields of a schema in declared order. -/
def fieldShapes : List (String × Shape) := [
  ("type", .optional .text),
  ("title", .optional .text),
  ("description", .optional .text),
  ("properties", .dict Property.shape),
  ("required", .list .text),
  ("allOf", .list OrRef.shape),
  ("discriminator", .optional .text),
  ("enum", .list .value),
  ("items", .optional Property.shape),
  ("example", .optional .value)]

/-- What a schema looks like in a text. -/
def shape : Shape := .record fieldShapes

/-- The fields of a schema as a record. -/
def form : Datum.RecordForm where
  names := fieldShapes.map Prod.fst

/-- A schema from its fields, once its parts are known. -/
def ofFields? (fields : List (String × Datum)) (parts : List (OrRef Schema)) : Option Schema := do
  return {
    type := ← Datum.optional? fields "type" Datum.text?
    title := ← Datum.optional? fields "title" Datum.text?
    description := ← Datum.optional? fields "description" Datum.text?
    properties :=
      ← Datum.defaulted? fields "properties" Dict.empty (Datum.dictOf? Property.ofDatum?)
    required := ← Datum.defaulted? fields "required" [] (Datum.listOf? Datum.text?)
    allOf := parts
    discriminator := ← Datum.optional? fields "discriminator" Datum.text?
    enumeration := ← Datum.defaulted? fields "enum" [] (Datum.listOf? Json.ofDatum?)
    items := ← Datum.optional? fields "items" Property.ofDatum?
    sample := ← Datum.optional? fields "example" Json.ofDatum? }

/-- Decodes each part of a list, given that every item is smaller than a bound. -/
def partsOf? (bound : Nat) (decode : (d : Datum) → sizeOf d < bound → Option Schema) :
    (items : List Datum) → (∀ d ∈ items, sizeOf d < bound) → Option (List (OrRef Schema))
  | [], _ => some []
  | d :: rest, h => do
    let part ←
      match d.refPath? with
      | some path => some (.ref path)
      | none => (decode d (h d List.mem_cons_self)).map .inline
    let parts ← partsOf? bound decode rest fun x hx => h x (List.mem_cons_of_mem _ hx)
    return part :: parts

/-- A schema from a datum; its parts are decided one by one. -/
def ofDatum? (d : Datum) : Option Schema :=
  match hf : d.fields? form with
  | none => none
  | some fields =>
    match hp : fields.lookup "allOf" with
    | none => ofFields? fields []
    | some (.list items) => do
      have : sizeOf (Datum.list items) < sizeOf d := Datum.sizeOf_lookup hf hp
      let parts ← partsOf? (sizeOf d) (fun x _smaller => ofDatum? x) items fun _ hx =>
        Nat.lt_trans (Datum.sizeOf_item hx) this
      ofFields? fields parts
    | some _ => none
termination_by sizeOf d
decreasing_by assumption

/-! ### Encoding -/

mutual

/-- The schema with its fields in declared order, absent and empty ones left out. -/
def toJson : Schema → Json
  | ⟨type, title, description, properties, required, allOf, discriminator, enumeration, items,
      sample⟩ => .object <|
    Json.optionalMember "type" .string type ++
    Json.optionalMember "title" .string title ++
    Json.optionalMember "description" .string description ++
    Json.tableMember "properties" Property.toJson properties.entries ++
    Json.listMember "required" .string required ++
    (match allOf with
      | [] => []
      | part :: parts => [("allOf", .array (partsToJson (part :: parts)))]) ++
    Json.optionalMember "discriminator" .string discriminator ++
    Json.listMember "enum" id enumeration ++
    Json.optionalMember "items" Property.toJson items ++
    Json.optionalMember "example" id sample

/-- The parts of a composition in order. -/
def partsToJson : List (OrRef Schema) → List Json
  | [] => []
  | .ref path :: rest => .object [("$ref", .string path)] :: partsToJson rest
  | .inline schema :: rest => schema.toJson :: partsToJson rest

end

end Schema

end SwaggerClient
