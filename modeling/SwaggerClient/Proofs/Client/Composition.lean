/-
What a composition contributes to a model.

A schema is composed of parts, and a part that is written in place may be composed again.
Localizing goes through the parts at every depth (`Schema.localPaths_everyPart`).  A model
takes the properties of the schema and of its parts in place, and does not go any deeper
(`Naming.baseNames_outline`).  It takes them as they come, so a key that is in two of these
is there twice, and a key that is only further down is missing
(`composedKeys_of_outline`).
-/
import SwaggerClient.Proofs.Client.References
import SwaggerClient.Proofs.Reference.Localizing
import Mathlib.Data.List.Nodup

namespace SwaggerClient

/-! ### Parts at every depth -/

namespace Schema

mutual

/-- The schema and the parts in place that it is composed of, at every depth: each part
comes before its own parts. -/
def everyPart : Schema → List Schema
  | ⟨type, title, description, properties, required, allOf, discriminator, enumeration, items,
      sample⟩ =>
    ⟨type, title, description, properties, required, allOf, discriminator, enumeration, items,
      sample⟩ :: everyPartIn allOf

/-- The parts in place of a composition, at every depth. -/
def everyPartIn : List (OrRef Schema) → List Schema
  | [] => []
  | .ref _ :: rest => everyPartIn rest
  | .inline part :: rest => part.everyPart ++ everyPartIn rest

end

/-- The leaves that a schema has itself, those of its parts left out. -/
def ownLeaves (schema : Schema) : List String :=
  leavesOfEntries schema.properties.entries ++ leavesOfItems schema.items

theorem everyPartIn_eq (parts : List (OrRef Schema)) :
    everyPartIn parts =
      (parts.filterMap fun
        | .ref _ => none
        | .inline part => some part).flatMap everyPart := by
  induction parts with
  | nil => rfl
  | cons part rest ih =>
      cases part with
      | ref path => exact ih
      | inline part => exact congrArg (part.everyPart ++ ·) ih

/-- **Every part is the schema itself or a part of one of its parts.** -/
theorem everyPart_eq (schema : Schema) :
    schema.everyPart = schema :: schema.inlineParts.flatMap everyPart := by
  cases schema
  exact congrArg _ (everyPartIn_eq _)

/-- The schema and its parts in place, one level deep. -/
def nearParts (schema : Schema) : List Schema := schema :: schema.inlineParts

/-- The parts in place that are more than one level deep. -/
def deepParts (schema : Schema) : List Schema :=
  schema.inlineParts.flatMap fun part => part.inlineParts.flatMap everyPart

theorem mem_everyPart_iff {schema part : Schema} :
    part ∈ schema.everyPart ↔ part ∈ schema.nearParts ∨ part ∈ schema.deepParts := by
  have hpart : part ∈ schema.inlineParts.flatMap everyPart ↔
      part ∈ schema.inlineParts ∨ part ∈ schema.deepParts := by
    unfold deepParts
    rw [List.mem_flatMap, List.mem_flatMap]
    constructor
    · rintro ⟨near, hnear, hpart⟩
      rw [everyPart_eq] at hpart
      rcases List.mem_cons.mp hpart with rfl | hdeep
      · exact Or.inl hnear
      · exact Or.inr ⟨near, hnear, hdeep⟩
    · rintro (hnear | ⟨near, hnear, hdeep⟩)
      · refine ⟨part, hnear, ?_⟩
        rw [everyPart_eq]
        exact List.mem_cons_self
      · refine ⟨near, hnear, ?_⟩
        rw [everyPart_eq]
        exact List.mem_cons_of_mem near hdeep
  rw [everyPart_eq, List.mem_cons, hpart, nearParts, List.mem_cons, or_assoc]

mutual

theorem leaves_eq : ∀ schema : Schema, schema.leaves = schema.everyPart.flatMap ownLeaves
  | ⟨_, _, _, _, _, allOf, _, _, _, _⟩ => by
      rw [leaves, everyPart, List.flatMap_cons, leavesOfParts_eq allOf, ownLeaves,
        List.append_assoc]

theorem leavesOfParts_eq :
    ∀ parts : List (OrRef Schema), leavesOfParts parts = (everyPartIn parts).flatMap ownLeaves
  | [] => rfl
  | .ref _ :: rest => by rw [leavesOfParts, everyPartIn, leavesOfParts_eq rest]
  | .inline part :: rest => by
      rw [leavesOfParts, everyPartIn, List.flatMap_append, leaves_eq part, leavesOfParts_eq rest]

end

/-- **Localizing goes through the parts at every depth.** -/
theorem localPaths_everyPart (schema : Schema) :
    localPaths (schema.everyPart.flatMap ownLeaves) =
      (schema.localize.1.everyPart.flatMap ownLeaves, schema.localize.2) := by
  rw [← leaves_eq, ← leaves_eq, leaves_localize]

end Schema

/-! ### Models -/

namespace Naming

variable {naming : Naming} {definitions : Dict Schema} {name : String} {schema : Schema} {m : Model}

theorem baseName_modelProperty {required : List String} {entry : String × Property}
    {p : ModelProperty} (h : naming.modelProperty required entry = .ok p) :
    p.baseName = entry.1 := by
  obtain ⟨t, -, rfl⟩ := modelProperty_eq_ok h
  rfl

/-- The keys of a model are those of its schema and of the parts in place, as they come. -/
theorem baseNames_outline (h : naming.outline definitions name schema = .ok m) :
    m.properties.map (·.baseName) = schema.nearParts.flatMap fun part => part.properties.keys := by
  unfold outline at h
  rw [mapError_eq_ok_iff] at h
  obtain ⟨parents, properties, -, hproperties, rfl⟩ := outline_eq_ok h
  have hkeys : properties.map (·.baseName) = schema.allProperties.map Prod.fst :=
    map_of_mapM (fun _ _ => baseName_modelProperty) hproperties
  show properties.map (·.baseName) = _
  rw [hkeys, Schema.allProperties, List.map_append, List.map_flatMap]
  rfl

theorem mem_baseNames_iff (h : naming.outline definitions name schema = .ok m) {key : String} :
    key ∈ m.properties.map (·.baseName) ↔
      ∃ part ∈ schema.nearParts, key ∈ part.properties.keys := by
  rw [baseNames_outline h, List.mem_flatMap]

theorem nodup_baseNames_iff (h : naming.outline definitions name schema = .ok m) :
    (m.properties.map (·.baseName)).Nodup ↔
      schema.nearParts.Pairwise fun s t => s.properties.keys.Disjoint t.properties.keys := by
  rw [baseNames_outline h, List.nodup_flatMap]
  -- within one part no key is repeated, that is part of the type of a dictionary
  exact and_iff_right fun part _ => part.properties.nodup_keys

/-- No key is missing exactly if the near parts have every key of the deep ones. -/
theorem complete_baseNames_iff (h : naming.outline definitions name schema = .ok m) :
    (∀ key, key ∈ m.properties.map (·.baseName) ↔
        ∃ part ∈ schema.everyPart, key ∈ part.properties.keys) ↔
      ∀ deep ∈ schema.deepParts, ∀ key ∈ deep.properties.keys,
        ∃ near ∈ schema.nearParts, key ∈ near.properties.keys := by
  constructor
  · intro hall deep hdeep key hkey
    have hmem := (hall key).mpr ⟨deep, Schema.mem_everyPart_iff.mpr (Or.inr hdeep), hkey⟩
    exact (mem_baseNames_iff h).mp hmem
  · intro hdeep key
    rw [mem_baseNames_iff h]
    constructor
    · rintro ⟨part, hpart, hkey⟩
      exact ⟨part, Schema.mem_everyPart_iff.mpr (Or.inl hpart), hkey⟩
    · rintro ⟨part, hpart, hkey⟩
      -- only a deep part can have a key that the model misses
      rcases Schema.mem_everyPart_iff.mp hpart with hnear | hpart
      · exact ⟨part, hnear, hkey⟩
      · exact hdeep part hpart key hkey

end Naming

/-- What the keys of a model are, against those of a composition. -/
structure ComposedKeys (schema : Schema) (m : Model) : Prop where
  keys_eq : m.properties.map (·.baseName) =
    schema.nearParts.flatMap fun part => part.properties.keys
  nodup_iff : (m.properties.map (·.baseName)).Nodup ↔
    schema.nearParts.Pairwise fun s t => s.properties.keys.Disjoint t.properties.keys
  complete_iff :
    (∀ key, key ∈ m.properties.map (·.baseName) ↔
        ∃ part ∈ schema.everyPart, key ∈ part.properties.keys) ↔
      ∀ deep ∈ schema.deepParts, ∀ key ∈ deep.properties.keys,
        ∃ near ∈ schema.nearParts, key ∈ near.properties.keys
  /-- Localizing goes through the parts at every depth. -/
  localized : localPaths (schema.everyPart.flatMap Schema.ownLeaves) =
    (schema.localize.1.everyPart.flatMap Schema.ownLeaves, schema.localize.2)

/-- **A model has the keys of its schema and of the parts one level deep.**  It has each
once exactly if these parts share no key, and it has the keys of the whole composition
exactly if no deeper part adds one.  Localizing goes deeper than that. -/
theorem composedKeys_of_outline (naming : Naming) (definitions : Dict Schema) (name : String)
    (schema : Schema) (m : Model) (h : naming.outline definitions name schema = .ok m) :
    ComposedKeys schema m where
  keys_eq := Naming.baseNames_outline h
  nodup_iff := Naming.nodup_baseNames_iff h
  complete_iff := Naming.complete_baseNames_iff h
  localized := schema.localPaths_everyPart

/-- A schema that shares a key with its part, which has a part with a key of its own. -/
def layeredSchema : Schema where
  properties := ⟨[("id", .primitive {})], by simp⟩
  allOf := [.inline {
    properties := ⟨[("id", .primitive {})], by simp⟩
    allOf := [.inline { properties := ⟨[("deep", .ref "#/definitions/Pet")], by simp⟩ }] }]

theorem composedKeys_layered :
    ∃ m, Config.standard.naming.outline .empty "Layered" layeredSchema = .ok m ∧
      m.properties.map (·.baseName) = ["id", "id"] ∧
      layeredSchema.everyPart.map (·.properties.keys) = [["id"], ["id"], ["deep"]] ∧
      layeredSchema.localize.1.leaves = ["/Pet"] ∧
      ¬(m.properties.map (·.baseName)).Nodup ∧
      ComposedKeys layeredSchema m := by
  have hkeys : (Config.standard.naming.outline .empty "Layered" layeredSchema).toOption.map
      (fun m => m.properties.map (·.baseName)) = some ["id", "id"] := by decide +kernel
  obtain ⟨m, hm, hkeys⟩ := exists_ok_of_map hkeys
  refine ⟨m, hm, hkeys, by decide +kernel, by decide +kernel, ?_, ?_⟩
  · rw [hkeys]
    decide
  · exact composedKeys_of_outline _ _ _ _ m hm

end SwaggerClient
