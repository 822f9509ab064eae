/-
Schemas that were written and are read again.

A schema is recursive through its parts, and a part is a reference or a schema.  Reading is
brought into the same form first (`Schema.ofDatum?_eq`).  What is written for a schema knows
no field `$ref`, so a part in place is not taken for a reference, and the round trip goes
through the parts at every depth (`Schema.ofDatum?_toJson`).

Whether a schema is settled does not depend on the paths at its leaves, so a schema stays
settled when it is localized, as far as that gets (`Schema.Settled.localize`).
-/
import SwaggerClient.Proofs.Client.Composition
import SwaggerClient.Proofs.Swagger.Properties

namespace SwaggerClient

open Datum

variable {α : Type}

/-! ### References and values in place -/

namespace OrRef

/-- **A reference, or a value in place that is not taken for one, is read as itself.** -/
theorem ofDatum?_toJson {decode : Datum → Option α} {encode : α → Json} (x : OrRef α)
    (h : ∀ value, x = inline value → (encode value).toDatum.refPath? = none ∧
      decode (encode value).toDatum = some value) :
    ofDatum? decode (x.toJson encode).toDatum = some x := by
  cases x with
  | ref path => rfl
  | inline value =>
      obtain ⟨hno, hvalue⟩ := h value rfl
      rw [toJson, ofDatum?, hno]
      simp only [hvalue, Option.map_some]

end OrRef

namespace Schema

/-! ### Decoding, part by part -/

theorem partsOf?_eq {bound : Nat} {items : List Datum} (h : ∀ d ∈ items, sizeOf d < bound) :
    partsOf? bound (fun d _ => ofDatum? d) items h = items.mapM (OrRef.ofDatum? ofDatum?) := by
  induction items with
  | nil => rfl
  | cons d rest ih =>
      rw [partsOf?, List.mapM_cons, ih, OrRef.ofDatum?]
      cases d.refPath? with
      | some path => rfl
      | none => rfl

/-- **A schema is read as a record,** with a list of parts as one of its fields. -/
theorem ofDatum?_eq (d : Datum) :
    ofDatum? d = (d.fields? form).bind fun fields =>
      (defaulted? fields "allOf" [] (listOf? (OrRef.ofDatum? ofDatum?))).bind
        (ofFields? fields) := by
  rw [ofDatum?]
  split
  · rename_i hf
    rw [hf]
    rfl
  · rename_i fields hf
    conv_rhs => rw [hf, Option.bind_some]
    split
    · rename_i hp
      simp only [defaulted?, hp, Option.bind_some]
    · rename_i items hp
      simp only [defaulted?, hp, listOf?, partsOf?_eq]
      rfl
    · rename_i other hother hp
      simp only [defaulted?, hp]
      cases other with
      | list items => exact absurd rfl (hother items)
      | _ => rfl

/-! ### Encoding, slot by slot -/

theorem partsToJson_eq (parts : List (OrRef Schema)) :
    partsToJson parts = parts.map (OrRef.toJson toJson) := by
  induction parts with
  | nil => rfl
  | cons part rest ih =>
      cases part with
      | ref path => exact congrArg _ ih
      | inline schema => exact congrArg _ ih

/-- The slots of a schema. -/
def slots (s : Schema) : List (String × Option Json) := [
  ("type", s.type.map .string),
  ("title", s.title.map .string),
  ("description", s.description.map .string),
  ("properties", tableSlot Property.toJson s.properties.entries),
  ("required", listSlot .string s.required),
  ("allOf", listSlot (OrRef.toJson toJson) s.allOf),
  ("discriminator", s.discriminator.map .string),
  ("enum", listSlot id s.enumeration),
  ("items", s.items.map Property.toJson),
  ("example", s.sample.map id)]

theorem writes (s : Schema) : Writes form s.slots s.toJson where
  value_eq := by
    obtain ⟨_, _, _, _, _, allOf, _, _, _, _⟩ := s
    cases allOf with
    | nil =>
        simp [toJson, slots, written, optionalMember_eq_slot, listMember_eq_slot,
          tableMember_eq_slot]
        rfl
    | cons part parts =>
        simp [toJson, slots, written, optionalMember_eq_slot, listMember_eq_slot,
          tableMember_eq_slot, partsToJson_eq]
        rfl
  names_eq := rfl
  nodup := by decide

/-- A schema in place is not taken for a reference. -/
theorem refPath?_toJson (s : Schema) : s.toJson.toDatum.refPath? = none :=
  Property.refPath?_of_writes s.writes (by decide)

/-! ### Settled schemas -/

/-- The values that a schema carries itself are settled. -/
structure OwnSettled (s : Schema) : Prop where
  properties : ∀ e ∈ s.properties.entries, e.2.Settled
  enumeration : ∀ v ∈ s.enumeration, v.Settled
  items : ∀ p ∈ s.items, p.Settled
  sample : ∀ v ∈ s.sample, v.Present

/-- The values of a schema and of its parts, at every depth, are settled. -/
inductive Settled : Schema → Prop
  | mk {s : Schema} (own : s.OwnSettled) (parts : ∀ part, .inline part ∈ s.allOf → Settled part) :
      Settled s

theorem settled_iff {s : Schema} :
    s.Settled ↔ s.OwnSettled ∧ ∀ part, .inline part ∈ s.allOf → part.Settled := by
  constructor
  · rintro ⟨own, parts⟩
    exact ⟨own, parts⟩
  · exact fun h => .mk h.1 h.2

/-- **A schema that was written is read as itself.** -/
theorem ofDatum?_toJson {s : Schema} (h : s.Settled) : ofDatum? s.toJson.toDatum = some s := by
  induction h with
  | @mk s own _ ih =>
      obtain ⟨fields, hfields, hcarries⟩ := s.writes.exists_fields
      have htype : optional? fields "type" text? = some s.type :=
        hcarries.text (by simp [slots])
      have htitle : optional? fields "title" text? = some s.title :=
        hcarries.text (by simp [slots])
      have hdescription : optional? fields "description" text? = some s.description :=
        hcarries.text (by simp [slots])
      have hproperties : defaulted? fields "properties" Dict.empty (dictOf? Property.ofDatum?) =
          some s.properties :=
        hcarries.table Property.toJson (by simp [slots]) fun e he =>
          Property.ofDatum?_toJson (own.properties e he)
      have hrequired : defaulted? fields "required" [] (listOf? text?) = some s.required :=
        hcarries.list .string (by simp [slots]) fun _ _ => rfl
      have hallOf : defaulted? fields "allOf" [] (listOf? (OrRef.ofDatum? ofDatum?)) =
          some s.allOf := by
        refine hcarries.list (OrRef.toJson toJson) (by simp [slots]) fun part hpart => ?_
        refine part.ofDatum?_toJson fun value hvalue => ?_
        exact ⟨value.refPath?_toJson, ih value (hvalue ▸ hpart)⟩
      have hdiscriminator : optional? fields "discriminator" text? = some s.discriminator :=
        hcarries.text (by simp [slots])
      have henumeration : defaulted? fields "enum" [] (listOf? Json.ofDatum?) =
          some s.enumeration :=
        hcarries.list id (by simp [slots]) own.enumeration
      have hitems : optional? fields "items" Property.ofDatum? = some s.items :=
        hcarries.optional Property.toJson (by simp [slots]) fun p hp =>
          ⟨Property.ofDatum?_toJson (own.items p hp), p.toJson_ne_null⟩
      have hsample : optional? fields "example" Json.ofDatum? = some s.sample :=
        hcarries.optional id (by simp [slots]) own.sample
      rw [ofDatum?_eq, hfields, Option.bind_some, hallOf, Option.bind_some]
      simp only [ofFields?, htype, htitle, hdescription, hproperties, hrequired, hdiscriminator,
        henumeration, hitems, hsample, Option.bind_eq_bind, Option.bind_some, pure]
      cases s
      rfl

theorem ownSettled_of_ofFields {fields : List (String × Datum)} {parts : List (OrRef Schema)}
    {s : Schema} (hplain : ∀ f ∈ fields, f.2.Plain) (h : ofFields? fields parts = some s) :
    s.OwnSettled ∧ s.allOf = parts := by
  unfold ofFields? at h
  simp only [Option.bind_eq_bind, Option.bind_eq_some_iff] at h
  obtain ⟨_, -, _, -, _, -, properties, hproperties, _, -, _, -, enumeration, henumeration, items,
    hitems, sample, hsample, h⟩ := h
  rw [← Option.some.inj h]
  exact ⟨⟨Property.yields_settled.tableField hplain hproperties,
    yields_free.listField hplain henumeration, Property.yields_settled.optionalField hplain hitems,
    yields_present.optional hplain hsample⟩, rfl⟩

/-- **A schema that was read is settled.** -/
theorem yields_settled : Yields Plain ofDatum? Settled := by
  intro d s hd h
  induction hsize : sizeOf d using Nat.strong_induction_on generalizing d s with
  | _ n ih =>
      simp only [ofDatum?_eq, Option.bind_eq_some_iff] at h
      obtain ⟨fields, hfields, parts, hparts, h⟩ := h
      have hplain := hd.fields hfields
      obtain ⟨hown, hallOf⟩ := ownSettled_of_ofFields hplain h
      refine .mk hown fun part hpart => ?_
      rw [hallOf] at hpart
      have hyields : Yields (fun d => d.Plain ∧ sizeOf d < n) ofDatum? Settled :=
        fun d s hd h => ih _ hd.2 d s hd.1 h rfl
      have hlist := hyields.orRef.listOf? (D := fun d => d.Plain ∧ sizeOf d < n)
        fun items hitems d hd => ⟨hitems.1.items d hd, (sizeOf_item hd).trans hitems.2⟩
      have hall : ∀ x ∈ parts, x.Inline Settled := hlist.defaulted
        (fun f hf => ⟨hplain f hf, hsize ▸ sizeOf_fields hfields hf⟩)
        (fun _ hx => absurd hx List.not_mem_nil) hparts
      exact hall _ hpart part rfl

section Parts

variable {Q : Schema → Prop}

mutual

/-- **What goes over from a schema to its parts in place goes over to the parts at every
depth.** -/
theorem forall_everyPart (hstep : ∀ s part, Q s → .inline part ∈ s.allOf → Q part) :
    ∀ s : Schema, Q s → ∀ part ∈ s.everyPart, Q part
  | ⟨type, title, description, properties, required, allOf, discriminator, enumeration, items,
      sample⟩, h => by
      rw [everyPart]
      exact List.forall_mem_cons.mpr
        ⟨h, forall_everyPartIn hstep allOf fun part hpart => hstep _ part h hpart⟩

theorem forall_everyPartIn (hstep : ∀ s part, Q s → .inline part ∈ s.allOf → Q part) :
    ∀ parts : List (OrRef Schema), (∀ part, .inline part ∈ parts → Q part) →
      ∀ part ∈ everyPartIn parts, Q part
  | [], _ => nofun
  | .ref _ :: rest, h => by
      rw [everyPartIn]
      exact forall_everyPartIn hstep rest fun part hpart => h part (List.mem_cons_of_mem _ hpart)
  | .inline schema :: rest, h => by
      rw [everyPartIn]
      exact List.forall_mem_append.mpr
        ⟨forall_everyPart hstep schema (h schema List.mem_cons_self),
          forall_everyPartIn hstep rest fun part hpart => h part (List.mem_cons_of_mem _ hpart)⟩

end

end Parts

/-- The parts of a settled schema are settled. -/
theorem Settled.part {s part : Schema} (h : s.Settled) (hpart : part ∈ s.everyPart) :
    part.Settled :=
  forall_everyPart (fun _ part hs hin => (settled_iff.mp hs).2 part hin) s h part hpart

/-! ### Localizing -/

end Schema

namespace Property

theorem settled_mapLeaves (f : String → String) (p : Property) :
    (p.mapLeaves f).Settled ↔ p.Settled := by
  induction p with
  | ref path => exact Iff.rfl
  | array items facets ih => exact ih
  | primitive p => exact Iff.rfl

end Property

namespace Schema

theorem ownSettled_mapLeaves (f : String → String) (s : Schema) :
    (s.mapLeaves f).OwnSettled ↔ s.OwnSettled := by
  obtain ⟨_, _, _, properties, _, _, _, enumeration, items, sample⟩ := s
  have hproperties : (∀ e ∈ (properties.mapValues (Property.mapLeaves f)).entries, e.2.Settled) ↔
      ∀ e ∈ properties.entries, e.2.Settled := by
    show (∀ e ∈ properties.entries.map fun e => (e.1, e.2.mapLeaves f), e.2.Settled) ↔ _
    rw [List.forall_mem_map]
    exact forall₂_congr fun e _ => e.2.settled_mapLeaves f
  have hitems : (∀ p ∈ items.map (Property.mapLeaves f), p.Settled) ↔ ∀ p ∈ items, p.Settled := by
    simp [Property.settled_mapLeaves]
  rw [mapLeaves]
  constructor
  · intro h
    exact ⟨hproperties.mp h.properties, h.enumeration, hitems.mp h.items, h.sample⟩
  · intro h
    exact ⟨hproperties.mpr h.properties, h.enumeration, hitems.mpr h.items, h.sample⟩

mutual

/-- Whether a schema is settled does not depend on its leaves. -/
theorem settled_mapLeaves (f : String → String) :
    ∀ s : Schema, (s.mapLeaves f).Settled ↔ s.Settled
  | ⟨type, title, description, properties, required, allOf, discriminator, enumeration, items,
      sample⟩ => by
      have hown := ownSettled_mapLeaves f ⟨type, title, description, properties, required, allOf,
        discriminator, enumeration, items, sample⟩
      have hparts := settled_mapPartLeaves f allOf
      rw [settled_iff, settled_iff, hown]
      rw [mapLeaves]
      exact and_congr_right fun _ => hparts

theorem settled_mapPartLeaves (f : String → String) :
    ∀ parts : List (OrRef Schema),
      (∀ part, .inline part ∈ mapPartLeaves f parts → part.Settled) ↔
        ∀ part, .inline part ∈ parts → part.Settled
  | [] => Iff.rfl
  | .ref _ :: rest => by
      rw [mapPartLeaves]
      simpa using settled_mapPartLeaves f rest
  | .inline schema :: rest => by
      have hschema := settled_mapLeaves f schema
      have hrest := settled_mapPartLeaves f rest
      rw [mapPartLeaves]
      simp only [List.mem_cons, OrRef.inline.injEq, forall_eq_or_imp, hschema, hrest]

end

/-- **A settled schema stays settled when it is localized,** as far as that gets. -/
theorem Settled.localize {s : Schema} (h : s.Settled) : s.localize.1.Settled := by
  have hskeleton : s.localize.1.skeleton.Settled := by
    rw [s.skeleton_localize]
    exact (settled_mapLeaves blank s).mpr h
  exact (settled_mapLeaves blank _).mp hskeleton

end Schema

end SwaggerClient
