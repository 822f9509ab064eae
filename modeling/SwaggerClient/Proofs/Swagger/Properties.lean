/-
Descriptors that were written and are read again.

A descriptor is read by trial: as a reference, else as an array, else as a primitive.  What is
written for one of the three is refused by those that are tried before it and taken,
unchanged, by its own (`Property.ofDatum?_toJson`).  All that is asked of the descriptor is
that the values it carries are settled, and that is so for every descriptor that was read
(`Property.yields_settled`) and kept when its reference is localized.
-/
import SwaggerClient.Proofs.Datum.Parts
import SwaggerClient.Proofs.Json.FreeValues
import SwaggerClient.Swagger.Property

namespace SwaggerClient

open Datum

/-! ### Free values in fields -/

/-- A value that can stand in a field that may be left out. -/
def Json.Present (value : Json) : Prop := value.Settled ∧ value ≠ .null

theorem yields_free : Yields Plain Json.ofDatum? Json.Settled :=
  fun _ _ _ h => Json.settled_of_ofDatum h

/-- A plain datum that is not null is not taken as null. -/
theorem yields_present : Yields (fun d => d.Plain ∧ d ≠ .null) Json.ofDatum? Json.Present := by
  rintro d v ⟨hplain, hnull⟩ h
  refine ⟨Json.settled_of_ofDatum h, ?_⟩
  rintro rfl
  cases hplain with
  | null => exact hnull rfl
  | bool b => cases h
  | int hk => cases h
  | float hx =>
      rw [Json.ofDatum?, if_pos hx] at h
      cases h
  | text s => cases h
  | list hitems =>
      obtain ⟨values, -, hvalue⟩ := Option.map_eq_some_iff.mp h
      cases hvalue
  | table hentries =>
      obtain ⟨members, -, hvalue⟩ := Option.map_eq_some_iff.mp h
      cases hvalue
  | unreadable => cases h

/-! ### Primitives -/

namespace Primitive

/-- The slots of a primitive. -/
def slots (p : Primitive) : List (String × Option Json) := [
  ("type", p.type.map .string),
  ("format", p.format.map .string),
  ("description", p.description.map .string),
  ("enum", listSlot id p.enumeration),
  ("default", p.defaultValue.map id),
  ("readOnly", p.readOnly.map .bool),
  ("example", p.sample.map id)]

/-- A primitive whose values are settled. -/
structure Settled (p : Primitive) : Prop where
  enumeration : ∀ v ∈ p.enumeration, v.Settled
  defaultValue : ∀ v ∈ p.defaultValue, v.Present
  sample : ∀ v ∈ p.sample, v.Present

theorem writes (p : Primitive) : Writes form p.slots (Property.primitive p).toJson where
  value_eq := by
    simp [Property.toJson, slots, written, optionalMember_eq_slot, listMember_eq_slot]
  names_eq := rfl
  nodup := by decide

theorem ofDatum?_toJson {p : Primitive} (h : p.Settled) :
    ofDatum? (Property.primitive p).toJson.toDatum = some p := by
  obtain ⟨fields, hfields, hcarries⟩ := p.writes.exists_fields
  have htype : optional? fields "type" text? = some p.type :=
    hcarries.text (by simp [slots])
  have hformat : optional? fields "format" text? = some p.format :=
    hcarries.text (by simp [slots])
  have hdescription : optional? fields "description" text? = some p.description :=
    hcarries.text (by simp [slots])
  have henumeration : defaulted? fields "enum" [] (listOf? Json.ofDatum?) = some p.enumeration :=
    hcarries.list id (by simp [slots]) h.enumeration
  have hdefault : optional? fields "default" Json.ofDatum? = some p.defaultValue :=
    hcarries.optional id (by simp [slots]) h.defaultValue
  have hreadOnly : optional? fields "readOnly" flag? = some p.readOnly :=
    hcarries.flag (by simp [slots])
  have hsample : optional? fields "example" Json.ofDatum? = some p.sample :=
    hcarries.optional id (by simp [slots]) h.sample
  simp only [ofDatum?, hfields, htype, hformat, hdescription, henumeration, hdefault, hreadOnly,
    hsample, Option.bind_eq_bind, Option.bind_some, pure]

theorem yields_settled : Yields Plain ofDatum? Settled := by
  intro d p hd h
  unfold ofDatum? at h
  simp only [Option.bind_eq_bind, Option.bind_eq_some_iff] at h
  obtain ⟨fields, hfields, _, -, _, -, _, -, enumeration, henumeration, defaultValue, hdefault, _,
    -, sample, hsample, h⟩ := h
  have hplain := hd.fields hfields
  rw [← Option.some.inj h]
  exact ⟨yields_free.listField hplain henumeration,
    yields_present.optional hplain hdefault, yields_present.optional hplain hsample⟩

end Primitive

/-! ### Arrays -/

namespace ArrayFacets

/-- The slots of an array, its items among them. -/
def slots (items : Json) (facets : ArrayFacets) : List (String × Option Json) := [
  ("type", some (.string "array")),
  ("items", some items),
  ("description", facets.description.map .string),
  ("minItems", facets.minItems.map fun n : Nat => .int n),
  ("maxItems", facets.maxItems.map fun n : Nat => .int n),
  ("uniqueItems", facets.uniqueItems.map .bool)]

theorem writes (items : Property) (facets : ArrayFacets) :
    Writes form (facets.slots items.toJson) (Property.array items facets).toJson where
  value_eq := by
    -- the bounds are turned into integers before they are written, so they are taken apart
    obtain ⟨_, _ | min, _ | max, _⟩ := facets <;>
      simp [Property.toJson, slots, written, member_eq_slot, optionalMember_eq_slot]
  names_eq := rfl
  nodup := by decide

theorem natural?_int (n : Nat) : natural? (.int n) = some n := by
  rw [natural?, if_neg (by omega), Int.toNat_natCast]

theorem ofFields?_of_carries {items : Json} {facets : ArrayFacets}
    {fields : List (String × Datum)} (h : Carries (facets.slots items) fields) :
    ofFields? fields = some facets := by
  have htype : required? fields "type" (choice? ["array"]) = some "array" :=
    h.required (.string "array") (by simp [slots]) rfl
  have hdescription : optional? fields "description" text? = some facets.description :=
    h.text (by simp [slots])
  have hmin : optional? fields "minItems" natural? = some facets.minItems :=
    h.optional (fun n : Nat => .int n) (by simp [slots]) fun n _ => ⟨natural?_int n, nofun⟩
  have hmax : optional? fields "maxItems" natural? = some facets.maxItems :=
    h.optional (fun n : Nat => .int n) (by simp [slots]) fun n _ => ⟨natural?_int n, nofun⟩
  have hunique : optional? fields "uniqueItems" flag? = some facets.uniqueItems :=
    h.flag (by simp [slots])
  simp only [ofFields?, htype, hdescription, hmin, hmax, hunique, Option.bind_eq_bind,
    Option.bind_some, pure]

end ArrayFacets

/-! ### Descriptors -/

namespace Property

/-- An array from a datum. -/
def arrayOf? (d : Datum) : Option Property :=
  (d.fields? ArrayFacets.form).bind fun fields =>
    (required? fields "items" ofDatum?).bind fun items =>
      (ArrayFacets.ofFields? fields).map (array items)

/-- **The three ways to read a descriptor,** in the order in which they are tried. -/
theorem ofDatum?_eq (d : Datum) :
    ofDatum? d =
      match d.refPath? with
      | some path => some (.ref path)
      | none => (arrayOf? d).or ((Primitive.ofDatum? d).map .primitive) := by
  rw [ofDatum?]
  cases d.refPath? with
  | some path => rfl
  | none =>
      simp only [arrayOf?]
      congr 1
      split
      · rename_i hf
        rw [hf]
        rfl
      · rename_i fields hf
        rw [hf, Option.bind_some, required?]
        split
        · rename_i hi
          rw [hi]
          rfl
        · rename_i items hi
          simp only [hi]
          cases ofDatum? items with
          | none => rfl
          | some q =>
              cases ArrayFacets.ofFields? fields with
              | none => rfl
              | some facets => rfl

/-- A descriptor whose values are settled. -/
def Settled : Property → Prop
  | ref _ => True
  | array items _ => items.Settled
  | primitive p => p.Settled

/-- Nothing that is written as a record with other names is taken for a reference. -/
theorem refPath?_of_writes {form : RecordForm} {slots : List (String × Option Json)}
    {value : Json} (h : Writes form slots value) (hname : "$ref" ∉ form.names) :
    value.toDatum.refPath? = none := by
  obtain ⟨entries, hvalue, hknown⟩ := h.knownEntries? ["$ref"]
  have hlookup : (known ["$ref"] (written slots)).lookup "$ref" = none := by
    rw [lookup_known List.mem_cons_self, lookup_written_of_notMem (h.names_eq ▸ hname),
      Option.map_none]
  simp only [hvalue, refPath?, hknown, Option.bind_eq_bind, Option.bind_some, required?, hlookup]

theorem arrayOf?_toJson {items : Property} (facets : ArrayFacets)
    (h : ofDatum? items.toJson.toDatum = some items) :
    arrayOf? (array items facets).toJson.toDatum = some (array items facets) := by
  obtain ⟨fields, hfields, hcarries⟩ := (ArrayFacets.writes items facets).exists_fields
  have hitems : required? fields "items" ofDatum? = some items :=
    hcarries.required items.toJson (by simp [ArrayFacets.slots]) h
  rw [arrayOf?, hfields, Option.bind_some, hitems, Option.bind_some,
    ArrayFacets.ofFields?_of_carries hcarries, Option.map_some]

/-- A primitive has no items, so it is not taken for an array. -/
theorem arrayOf?_primitive (p : Primitive) : arrayOf? (primitive p).toJson.toDatum = none := by
  obtain ⟨fields, hfields, hlookup⟩ := p.writes.lookup_foreign ArrayFacets.form
  have hitems : fields.lookup "items" = none := hlookup "items" (by decide) (by decide)
  rw [arrayOf?, hfields, Option.bind_some, required?, hitems]
  rfl

/-- **A descriptor that was written is read as itself.** -/
theorem ofDatum?_toJson {p : Property} (h : p.Settled) : ofDatum? p.toJson.toDatum = some p := by
  induction p with
  | ref path =>
      rw [ofDatum?_eq]
      rfl
  | array items facets ih =>
      have hno := refPath?_of_writes (ArrayFacets.writes items facets) (by decide)
      rw [ofDatum?_eq, hno]
      simp only [arrayOf?_toJson facets (ih h), Option.some_or]
  | primitive p =>
      have hno := refPath?_of_writes p.writes (by decide)
      rw [ofDatum?_eq, hno]
      simp only [arrayOf?_primitive, Option.none_or, Primitive.ofDatum?_toJson h, Option.map_some]

/-- **A descriptor that was read is settled.** -/
theorem yields_settled : Yields Plain ofDatum? Settled := by
  intro d p hd h
  induction hsize : sizeOf d using Nat.strong_induction_on generalizing d p with
  | _ n ih =>
      rw [ofDatum?_eq] at h
      split at h
      · rw [← Option.some.inj h]
        exact trivial
      · rcases Option.or_eq_some_iff.mp h with harray | ⟨-, hprimitive⟩
        · simp only [arrayOf?, Option.bind_eq_some_iff, Option.map_eq_some_iff] at harray
          obtain ⟨fields, hfields, items, hitems, facets, -, rfl⟩ := harray
          have hyields : Yields (fun d => d.Plain ∧ sizeOf d < n) ofDatum? Settled :=
            fun d p hd h => ih _ hd.2 d p hd.1 h rfl
          have hsettled : items.Settled := hyields.required
            (fun f hf => ⟨hd.fields hfields f hf, hsize ▸ sizeOf_fields hfields hf⟩) hitems
          exact hsettled
        · obtain ⟨q, hq, rfl⟩ := Option.map_eq_some_iff.mp hprimitive
          exact Primitive.yields_settled d q hd hq

theorem toJson_ne_null (p : Property) : p.toJson ≠ .null := by
  cases p with
  | ref path => exact nofun
  | array items facets => exact nofun
  | primitive p => exact nofun

end Property

end SwaggerClient
