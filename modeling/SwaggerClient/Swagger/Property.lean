/-
Property descriptors: the type of a model property, a parameter or a response.

A descriptor is a reference, an array or anything else.  Which of the three a datum is gets
tried in this order, and the first that fits wins: an object with a text under `$ref` is a
reference whatever else it holds, and an array that is not well formed in every field is
read as a primitive, which knows nothing of items.
-/
import SwaggerClient.Datum.Shape

namespace SwaggerClient

/-- What an array says about itself besides its items. -/
structure ArrayFacets where
  description : Option String := none
  minItems : Option Nat := none
  maxItems : Option Nat := none
  uniqueItems : Option Bool := none
deriving Repr, Inhabited, DecidableEq

/-- A descriptor that is neither a reference nor an array. -/
structure Primitive where
  type : Option String := none
  format : Option String := none
  description : Option String := none
  enumeration : List Json := []
  defaultValue : Option Json := none
  readOnly : Option Bool := none
  sample : Option Json := none
deriving Repr, Inhabited

/-- A type description as a document gives it. -/
inductive Property where
  | ref (path : String)
  | array (items : Property) (facets : ArrayFacets)
  | primitive (facets : Primitive)
deriving Repr, Inhabited

/-! ### References in data -/

namespace Datum

/-- A table with a text under `$ref`.  Its other entries do not matter. -/
def refPath? : Datum → Option String
  | table entries => do
    let fields ← knownEntries? ["$ref"] entries
    required? fields "$ref" text?
  | _ => none

end Datum

/-! ### Decoding -/

namespace Primitive

/-- The fields of a primitive in declared order. -/
def form : Datum.RecordForm where
  names := ["type", "format", "description", "enum", "default", "readOnly", "example"]

/-- A primitive from its fields; unknown ones are ignored. -/
def ofDatum? (d : Datum) : Option Primitive := do
  let fields ← d.fields? form
  return {
    type := ← Datum.optional? fields "type" Datum.text?
    format := ← Datum.optional? fields "format" Datum.text?
    description := ← Datum.optional? fields "description" Datum.text?
    enumeration := ← Datum.defaulted? fields "enum" [] (Datum.listOf? Json.ofDatum?)
    defaultValue := ← Datum.optional? fields "default" Json.ofDatum?
    readOnly := ← Datum.optional? fields "readOnly" Datum.flag?
    sample := ← Datum.optional? fields "example" Json.ofDatum? }

end Primitive

namespace ArrayFacets

/-- The fields of an array, its items among them. -/
def form : Datum.RecordForm where
  names := ["type", "items", "description", "minItems", "maxItems", "uniqueItems"]

/-- The facets of an array from its fields; the type has to be `array`. -/
def ofFields? (fields : List (String × Datum)) : Option ArrayFacets := do
  let _ ← Datum.required? fields "type" (Datum.choice? ["array"])
  return {
    description := ← Datum.optional? fields "description" Datum.text?
    minItems := ← Datum.optional? fields "minItems" Datum.natural?
    maxItems := ← Datum.optional? fields "maxItems" Datum.natural?
    uniqueItems := ← Datum.optional? fields "uniqueItems" Datum.flag? }

end ArrayFacets

namespace Property

/-- A descriptor is decided by trial, so all of it has to be read first. -/
def shape : Shape := .buffered

/-- A reference, else an array, else a primitive, whichever fits first. -/
def ofDatum? (d : Datum) : Option Property :=
  match d.refPath? with
  | some path => some (.ref path)
  | none =>
    let array? : Option Property :=
      match hf : d.fields? ArrayFacets.form with
      | none => none
      | some fields =>
        match hi : fields.lookup "items" with
        | none => none
        | some items =>
          have : sizeOf items < sizeOf d := Datum.sizeOf_lookup hf hi
          match ofDatum? items, ArrayFacets.ofFields? fields with
          | some q, some facets => some (.array q facets)
          | _, _ => none
    array?.or ((Primitive.ofDatum? d).map .primitive)
termination_by sizeOf d

/-! ### Encoding -/

/-- The descriptor with its fields in declared order, absent ones left out. -/
def toJson : Property → Json
  | ref path => .object [("$ref", .string path)]
  | array items facets => .object <|
      Json.member "type" (.string "array") ++
      Json.member "items" items.toJson ++
      Json.optionalMember "description" .string facets.description ++
      Json.optionalMember "minItems" (fun n => .int n) facets.minItems ++
      Json.optionalMember "maxItems" (fun n => .int n) facets.maxItems ++
      Json.optionalMember "uniqueItems" .bool facets.uniqueItems
  | primitive p => .object <|
      Json.optionalMember "type" .string p.type ++
      Json.optionalMember "format" .string p.format ++
      Json.optionalMember "description" .string p.description ++
      Json.listMember "enum" id p.enumeration ++
      Json.optionalMember "default" id p.defaultValue ++
      Json.optionalMember "readOnly" .bool p.readOnly ++
      Json.optionalMember "example" id p.sample

/-! ### Access -/

/-- The description of an array or a primitive; a reference has none. -/
def description? : Property → Option String
  | ref _ => none
  | array _ facets => facets.description
  | primitive p => p.description

/-- The descriptor inside all arrays. -/
def leaf : Property → Property
  | array items _ => items.leaf
  | p => p

/-- The number of arrays around the leaf. -/
def arrayDepth : Property → Nat
  | array items _ => items.arrayDepth + 1
  | _ => 0

/-- The path of the reference at the leaf, if the leaf is one. -/
def leafRef? : Property → Option String
  | ref path => some path
  | array items _ => items.leafRef?
  | primitive _ => none

end Property

end SwaggerClient
