/-
How deep the records of a document are nested, by the data that they were read from.

Reading passes over what a record does not know, and writing puts each field where it was
read, so nothing is nested deeper than it was (`Document.keeps`).  What is written for a
schema is no deeper than the document around it, nor is what is written for one of its parts
or for the schema with other leaves (`Schema.within_part`, `Schema.within_mapLeaves`).
-/
import SwaggerClient.Proofs.Datum.Nesting
import SwaggerClient.Proofs.Swagger.Documents

namespace SwaggerClient

open Datum

variable {α : Type} {P : Json → Prop} {n : Nat}

/-! ### Descriptors -/

theorem nested_ref {d : Datum} {path : String} (hfits : d.fits n = true)
    (h : d.refPath? = some path) : (Json.object [("$ref", .string path)]).Nested n := by
  cases d with
  | table entries =>
      obtain ⟨m, rfl, -⟩ := exists_of_fits_table hfits
      exact .object fun x hx => by rw [List.mem_singleton.mp hx]; exact .string path
  | _ => cases h

namespace Primitive

/-- What a primitive needs of each field. -/
def shapes : List (String × Shape) := [
  ("type", .optional .text),
  ("format", .optional .text),
  ("description", .optional .text),
  ("enum", .list .value),
  ("default", .optional .value),
  ("readOnly", .optional .flag),
  ("example", .optional .value)]

theorem yields_nested (n : Nat) : Yields (fun d => d.Plain ∧ d.fits n = true) ofDatum?
    fun p => (Property.primitive p).toJson.Nested n := by
  rintro d p ⟨hplain, hfits⟩ h
  unfold ofDatum? at h
  simp only [Option.bind_eq_bind, Option.bind_eq_some_iff] at h
  obtain ⟨fields, hfields, _, -, _, -, _, -, enumeration, henumeration, defaultValue, hdefault, _,
    -, sample, hsample, h⟩ := h
  have hshapes : form.names = shapes.map Prod.fst := rfl
  obtain ⟨m, rfl, hadmitted⟩ :=
    exists_admitted hshapes (by decide) hplain (Shape.admits_of_fits hfits) hfields
  have henum := keeps_free.list hadmitted (by simp [shapes]) henumeration
  have hvalue := keeps_free.optional rfl hadmitted (by simp [shapes]) hdefault
  have hexample := keeps_free.optional rfl hadmitted (by simp [shapes]) hsample
  refine (writes p).within_iff.mpr ⟨m, rfl, ?_⟩
  rw [← Option.some.inj h]
  simp only [slots, List.forall_mem_cons]
  exact ⟨nested_text, nested_text, nested_text, henum, hvalue, nested_flag, hexample,
    List.forall_mem_nil _⟩

end Primitive

namespace ArrayFacets

/-- What an array needs of each field. -/
def shapes : List (String × Shape) := [
  ("type", .choice),
  ("items", .buffered),
  ("description", .optional .text),
  ("minItems", .optional .value),
  ("maxItems", .optional .value),
  ("uniqueItems", .optional .flag)]

/-- An array is nested one level deeper than its items. -/
theorem nested {fields : List (String × Datum)} {items : Property} {facets : ArrayFacets}
    (hadmitted : Admitted shapes n fields) (hitems : items.toJson.Nested n)
    (h : ofFields? fields = some facets) : (Property.array items facets).toJson.Nested (n + 1) := by
  unfold ofFields? at h
  simp only [Option.bind_eq_bind, Option.bind_eq_some_iff] at h
  obtain ⟨_, -, _, -, minItems, hmin, maxItems, hmax, _, -, h⟩ := h
  have hminSlot := keeps_natural.optional rfl hadmitted (by simp [shapes]) hmin
  have hmaxSlot := keeps_natural.optional rfl hadmitted (by simp [shapes]) hmax
  refine (writes items facets).within_iff.mpr ⟨n, rfl, ?_⟩
  rw [← Option.some.inj h]
  simp only [slots, List.forall_mem_cons]
  refine ⟨?_, ?_, nested_text, hminSlot, hmaxSlot, nested_flag, List.forall_mem_nil _⟩
  · rintro _ ⟨⟩
    exact .string "array"
  · rintro _ ⟨⟩
    exact hitems

end ArrayFacets

namespace Property

theorem ofDatum?_unreadable : ofDatum? .unreadable = none := by
  rw [ofDatum?_eq]
  rfl

theorem yields_nested (n : Nat) :
    Yields (fun d => d.Plain ∧ d.fits n = true) ofDatum? fun p => p.toJson.Nested n := by
  rintro d p ⟨hplain, hfits⟩ h
  induction hsize : sizeOf d using Nat.strong_induction_on generalizing n d p with
  | _ size ih =>
      rw [ofDatum?_eq] at h
      split at h
      · rename_i path hpath
        rw [← Option.some.inj h]
        exact nested_ref hfits hpath
      · rcases Option.or_eq_some_iff.mp h with harray | ⟨-, hprimitive⟩
        · simp only [arrayOf?, Option.bind_eq_some_iff, Option.map_eq_some_iff] at harray
          obtain ⟨fields, hfields, items, hitems, facets, hfacets, rfl⟩ := harray
          have hshapes : ArrayFacets.form.names = ArrayFacets.shapes.map Prod.fst := rfl
          obtain ⟨m, rfl, hadmitted⟩ :=
            exists_admitted hshapes (by decide) hplain (Shape.admits_of_fits hfits) hfields
          unfold required? at hitems
          split at hitems
          · cases hitems
          · rename_i datum hdatum
            obtain ⟨hplainItems, hadmits⟩ :=
              hadmitted "items" .buffered (by simp [ArrayFacets.shapes]) datum hdatum
            have hfitsItems : datum.fits m = true :=
              Shape.fits_of_decoded (Or.inr rfl) ofDatum?_unreadable hadmits hitems
            have hsmaller : sizeOf datum < size := hsize ▸ sizeOf_lookup hfields hdatum
            exact ArrayFacets.nested hadmitted
              (ih _ hsmaller m datum items hplainItems hfitsItems hitems rfl) hfacets
        · obtain ⟨q, hq, rfl⟩ := Option.map_eq_some_iff.mp hprimitive
          exact Primitive.yields_nested n d q ⟨hplain, hfits⟩ hq

theorem keeps : Keeps shape ofDatum? toJson :=
  keeps_of_fits (Or.inr rfl) ofDatum?_unreadable yields_nested

end Property

namespace OrRef

variable {inner : Shape} {decode : Datum → Option α} {encode : α → Json}

theorem ofDatum?_unreadable (h : decode .unreadable = none) :
    OrRef.ofDatum? decode .unreadable = none := by
  rw [OrRef.ofDatum?, h]
  rfl

/-- A reference or a value in place is nested no deeper than its datum if the value is not. -/
theorem nested {d : Datum} {x : OrRef α} (hfits : d.fits n = true)
    (h : ∀ value, decode d = some value → (encode value).Nested n)
    (hx : OrRef.ofDatum? decode d = some x) : (x.toJson encode).Nested n := by
  unfold OrRef.ofDatum? at hx
  split at hx
  · rename_i path hpath
    rw [← Option.some.inj hx]
    exact nested_ref hfits hpath
  · obtain ⟨value, hvalue, rfl⟩ := Option.map_eq_some_iff.mp hx
    exact h value hvalue

theorem keeps (h : Keeps inner decode encode) (hnone : decode .unreadable = none) :
    Keeps OrRef.shape (OrRef.ofDatum? decode) (OrRef.toJson encode) :=
  keeps_of_fits (Or.inr rfl) (ofDatum?_unreadable hnone) fun n d _ hd hx =>
    nested hd.2 (fun value hvalue => h n d value ⟨hd.1, Shape.admits_of_fits hd.2⟩ hvalue) hx

end OrRef

/-! ### Schemas -/

namespace Schema

theorem ofDatum?_unreadable : ofDatum? .unreadable = none := by
  rw [ofDatum?_eq]
  rfl

theorem keeps : Keeps shape ofDatum? toJson := by
  rintro n d s ⟨hplain, hadmits⟩ h
  induction hsize : sizeOf d using Nat.strong_induction_on generalizing n d s with
  | _ size ih =>
      simp only [ofDatum?_eq, Option.bind_eq_some_iff] at h
      obtain ⟨fields, hfields, parts, hparts, h⟩ := h
      obtain ⟨m, rfl, hadmitted⟩ := exists_admitted rfl (by decide) hplain hadmits hfields
      have hpartsSlot : ∀ v ∈ listSlot (OrRef.toJson toJson) parts, v.Nested m := by
        unfold defaulted? at hparts
        split at hparts
        · rw [← Option.some.inj hparts]
          exact nofun
        · rename_i datum hdatum
          have hsmaller : sizeOf datum < size := hsize ▸ sizeOf_lookup hfields hdatum
          cases datum with
          | list items =>
              have hshape : ("allOf", .list OrRef.shape) ∈ fieldShapes := by simp [fieldShapes]
              obtain ⟨k, rfl, hitems⟩ := hadmitted.exists_items hshape hdatum
              refine nested_listSlot (forall_of_mapM hparts fun x hx part hpart => ?_)
              obtain ⟨hplainItem, hadmitsItem⟩ := hitems x hx
              have hfitsItem : x.fits k = true := Shape.fits_of_decoded (Or.inr rfl)
                (OrRef.ofDatum?_unreadable ofDatum?_unreadable) hadmitsItem hpart
              exact OrRef.nested hfitsItem (fun s hs => ih _ ((sizeOf_item hx).trans hsmaller) k x s
                hplainItem (Shape.admits_of_fits hfitsItem) hs rfl) hpart
          | _ => cases hparts
      unfold ofFields? at h
      simp only [Option.bind_eq_bind, Option.bind_eq_some_iff] at h
      obtain ⟨_, -, _, -, _, -, properties, hproperties, required, hrequired, _, -, enumeration,
        henumeration, items, hitems, sample, hsample, h⟩ := h
      have hpropertiesSlot := Property.keeps.dict hadmitted (by simp [fieldShapes]) hproperties
      have hrequiredSlot := keeps_text.list hadmitted (by simp [fieldShapes]) hrequired
      have henumSlot := keeps_free.list hadmitted (by simp [fieldShapes]) henumeration
      have hitemsSlot := Property.keeps.optional rfl hadmitted (by simp [fieldShapes]) hitems
      have hsampleSlot := keeps_free.optional rfl hadmitted (by simp [fieldShapes]) hsample
      refine s.writes.within_iff.mpr ⟨m, rfl, ?_⟩
      rw [← Option.some.inj h]
      simp only [slots, List.forall_mem_cons]
      exact ⟨nested_text, nested_text, nested_text, hpropertiesSlot, hrequiredSlot, hpartsSlot,
        nested_text, henumSlot, hitemsSlot, hsampleSlot, List.forall_mem_nil _⟩

end Schema

/-! ### Documents -/

theorem nested_string {m : Nat} (s : String) : ∀ v ∈ some (Json.string s), v.Nested m := by
  rintro _ ⟨⟩
  exact .string s

theorem Info.keeps : Keeps shape ofDatum? toJson := by
  rintro n d info ⟨hplain, hadmits⟩ h
  unfold ofDatum? at h
  simp only [Option.bind_eq_bind, Option.bind_eq_some_iff] at h
  obtain ⟨fields, hfields, -⟩ := h
  obtain ⟨m, rfl, -⟩ := exists_admitted rfl (by decide) hplain hadmits hfields
  refine info.writes.within_iff.mpr ⟨m, rfl, ?_⟩
  simp only [slots, List.forall_mem_cons]
  exact ⟨nested_string _, nested_text, nested_string _, List.forall_mem_nil _⟩

theorem Tag.keeps : Keeps shape ofDatum? toJson := by
  rintro n d tag ⟨hplain, hadmits⟩ h
  unfold ofDatum? at h
  simp only [Option.bind_eq_bind, Option.bind_eq_some_iff] at h
  obtain ⟨fields, hfields, -⟩ := h
  obtain ⟨m, rfl, -⟩ := exists_admitted rfl (by decide) hplain hadmits hfields
  refine tag.writes.within_iff.mpr ⟨m, rfl, ?_⟩
  simp only [slots, List.forall_mem_cons]
  exact ⟨nested_string _, nested_text, List.forall_mem_nil _⟩

namespace Parameter

theorem keeps : Keeps shape ofDatum? toJson := by
  rintro n d p ⟨hplain, hadmits⟩ h
  unfold ofDatum? at h
  simp only [Option.bind_eq_bind, Option.bind_eq_some_iff] at h
  obtain ⟨fields, hfields, _, -, _, -, _, -, _, -, schema, hschema, _, -, _, -, items, hitems, h⟩ :=
    h
  obtain ⟨m, rfl, hadmitted⟩ := exists_admitted rfl (by decide) hplain hadmits hfields
  have hschemaSlot := Property.keeps.optional rfl hadmitted (by simp [fieldShapes]) hschema
  have hitemsSlot := Property.keeps.optional rfl hadmitted (by simp [fieldShapes]) hitems
  refine p.writes.within_iff.mpr ⟨m, rfl, ?_⟩
  rw [← Option.some.inj h]
  simp only [slots, List.forall_mem_cons]
  refine ⟨nested_string _, nested_string _, nested_text, ?_, hschemaSlot, nested_text, nested_text,
    hitemsSlot, List.forall_mem_nil _⟩
  rintro _ ⟨⟩
  exact .bool _

end Parameter

namespace Response

theorem keeps : Keeps shape ofDatum? toJson := by
  rintro n d r ⟨hplain, hadmits⟩ h
  unfold ofDatum? at h
  simp only [Option.bind_eq_bind, Option.bind_eq_some_iff] at h
  obtain ⟨fields, hfields, _, -, schema, hschema, h⟩ := h
  obtain ⟨m, rfl, hadmitted⟩ := exists_admitted rfl (by decide) hplain hadmits hfields
  have hschemaSlot := Property.keeps.optional rfl hadmitted (by simp [fieldShapes]) hschema
  refine r.writes.within_iff.mpr ⟨m, rfl, ?_⟩
  rw [← Option.some.inj h]
  simp only [slots, List.forall_mem_cons]
  exact ⟨nested_string _, hschemaSlot, List.forall_mem_nil _⟩

end Response

namespace Operation

theorem keeps : Keeps shape ofDatum? toJson := by
  rintro n d op ⟨hplain, hadmits⟩ h
  unfold ofDatum? at h
  simp only [Option.bind_eq_bind, Option.bind_eq_some_iff] at h
  obtain ⟨fields, hfields, _, -, _, -, _, -, tags, htags, consumes, hconsumes, produces, hproduces,
    parameters, hparameters, responses, hresponses, _, -, h⟩ := h
  obtain ⟨m, rfl, hadmitted⟩ := exists_admitted rfl (by decide) hplain hadmits hfields
  have htagsSlot := keeps_text.list hadmitted (by simp [fieldShapes]) htags
  have hconsumesSlot := keeps_text.list hadmitted (by simp [fieldShapes]) hconsumes
  have hproducesSlot := keeps_text.list hadmitted (by simp [fieldShapes]) hproduces
  have hparametersSlot :=
    (OrRef.keeps Parameter.keeps rfl).list hadmitted (by simp [fieldShapes]) hparameters
  have hresponsesSlot :=
    (OrRef.keeps Response.keeps rfl).dict hadmitted (by simp [fieldShapes]) hresponses
  refine op.writes.within_iff.mpr ⟨m, rfl, ?_⟩
  rw [← Option.some.inj h]
  simp only [slots, List.forall_mem_cons]
  exact ⟨nested_text, nested_text, nested_text, htagsSlot, hconsumesSlot, hproducesSlot,
    hparametersSlot, hresponsesSlot, nested_flag, List.forall_mem_nil _⟩

end Operation

namespace PathItem

theorem keeps : Keeps shape ofDatum? toJson := by
  rintro n d item ⟨hplain, hadmits⟩ h
  unfold ofDatum? at h
  simp only [Option.bind_eq_bind, Option.bind_eq_some_iff] at h
  obtain ⟨fields, hfields, parameters, hparameters, get, hget, post, hpost, put, hput, delete,
    hdelete, patch, hpatch, options, hoptions, head, hhead, h⟩ := h
  obtain ⟨m, rfl, hadmitted⟩ := exists_admitted rfl (by decide) hplain hadmits hfields
  have hparametersSlot :=
    (OrRef.keeps Parameter.keeps rfl).list hadmitted List.mem_cons_self hparameters
  have hoperation : ∀ (method : Method) (o : Option Operation),
      optional? fields method.key Operation.ofDatum? = some o →
        ∀ v ∈ o.map Operation.toJson, v.Nested m := fun method _ ho =>
    Operation.keeps.optional rfl hadmitted
      (List.mem_cons_of_mem _ (List.mem_map_of_mem method.mem_all)) ho
  refine item.writes.within_iff.mpr ⟨m, rfl, ?_⟩
  rw [← Option.some.inj h]
  simp only [slots, Method.all, List.map_cons, List.map_nil, List.forall_mem_cons]
  exact ⟨hparametersSlot, hoperation _ _ hget, hoperation _ _ hpost, hoperation _ _ hput,
    hoperation _ _ hdelete, hoperation _ _ hpatch, hoperation _ _ hoptions, hoperation _ _ hhead,
    List.forall_mem_nil _⟩

end PathItem

namespace Document

/-- **A document is written no deeper than it was read.** -/
theorem keeps : Keeps shape ofDatum? toJson := by
  rintro n d doc ⟨hplain, hadmits⟩ h
  unfold ofDatum? at h
  simp only [Option.bind_eq_bind, Option.bind_eq_some_iff] at h
  obtain ⟨fields, hfields, _, -, info, hinfo, _, -, _, -, consumes, hconsumes, produces, hproduces,
    paths, hpaths, definitions, hdefinitions, parameters, hparameters, responses, hresponses, tags,
    htags, h⟩ := h
  obtain ⟨m, rfl, hadmitted⟩ := exists_admitted rfl (by decide) hplain hadmits hfields
  have hinfoSlot := Info.keeps.required hadmitted (by simp [fieldShapes]) hinfo
  have hconsumesSlot := keeps_text.list hadmitted (by simp [fieldShapes]) hconsumes
  have hproducesSlot := keeps_text.list hadmitted (by simp [fieldShapes]) hproduces
  have hpathsSlot := PathItem.keeps.dict hadmitted (by simp [fieldShapes]) hpaths
  have hdefinitionsSlot := Schema.keeps.dict hadmitted (by simp [fieldShapes]) hdefinitions
  have hparametersSlot := Parameter.keeps.dict hadmitted (by simp [fieldShapes]) hparameters
  have hresponsesSlot := Response.keeps.dict hadmitted (by simp [fieldShapes]) hresponses
  have htagsSlot := Tag.keeps.list hadmitted (by simp [fieldShapes]) htags
  refine doc.writes.within_iff.mpr ⟨m, rfl, ?_⟩
  rw [← Option.some.inj h]
  simp only [slots, List.forall_mem_cons]
  exact ⟨nested_string _, hinfoSlot, nested_text, nested_text, hconsumesSlot, hproducesSlot,
    hpathsSlot, hdefinitionsSlot, hparametersSlot, hresponsesSlot, htagsSlot,
    List.forall_mem_nil _⟩

end Document

/-! ### Parts, and other leaves -/

theorem Property.within_mapLeaves (f : String → String) (p : Property) :
    (p.mapLeaves f).toJson.Within P n ↔ p.toJson.Within P n := by
  induction p generalizing n with
  | ref path =>
      have hstring : ∀ m s, Json.Within P m (.string s) := fun _ s => .string s
      simp only [mapLeaves, toJson, Json.within_object_iff, List.forall_mem_singleton, hstring]
  | array items facets ih =>
      rw [mapLeaves, (ArrayFacets.writes _ facets).within_iff,
        (ArrayFacets.writes items facets).within_iff]
      simp only [ArrayFacets.slots, List.forall_mem_cons, Option.mem_some_iff, forall_eq', ih]
  | primitive p => exact Iff.rfl

namespace Schema

mutual

/-- How deep a schema is nested, and with which numbers, does not depend on its leaves. -/
theorem within_mapLeaves (f : String → String) (n : Nat) :
    ∀ s : Schema, (s.mapLeaves f).toJson.Within P n ↔ s.toJson.Within P n
  | ⟨type, title, description, properties, required, allOf, discriminator, enumeration, items,
      sample⟩ => by
      have hproperties : ∀ m, (∀ v ∈ tableSlot Property.toJson
          (properties.mapValues (Property.mapLeaves f)).entries, v.Within P m) ↔
            ∀ v ∈ tableSlot Property.toJson properties.entries, v.Within P m := by
        intro m
        rw [within_tableSlot_iff, within_tableSlot_iff]
        simp only [Dict.mapValues, List.map_eq_nil_iff, List.forall_mem_map,
          Property.within_mapLeaves]
      have hallOf : ∀ m, (∀ v ∈ listSlot (OrRef.toJson toJson) (mapPartLeaves f allOf),
          v.Within P m) ↔ ∀ v ∈ listSlot (OrRef.toJson toJson) allOf, v.Within P m := by
        intro m
        rw [within_listSlot_iff, within_listSlot_iff]
        refine or_congr ?_ (exists_congr fun k => and_congr_right fun _ =>
          within_mapPartLeaves f k allOf)
        cases allOf with
        | nil => exact Iff.rfl
        | cons part rest =>
            cases part with
            | ref path => exact iff_of_false nofun nofun
            | inline part => exact iff_of_false nofun nofun
      have hitems : ∀ m, (∀ v ∈ (items.map (Property.mapLeaves f)).map Property.toJson,
          v.Within P m) ↔ ∀ v ∈ items.map Property.toJson, v.Within P m := by
        intro m
        cases items with
        | none => exact Iff.rfl
        | some p =>
            simp only [Option.map_some, Option.mem_some_iff, forall_eq', Property.within_mapLeaves]
      rw [(writes _).within_iff, (writes _).within_iff, mapLeaves]
      simp only [slots, List.forall_mem_cons, hproperties, hallOf, hitems]

theorem within_mapPartLeaves (f : String → String) (n : Nat) :
    ∀ parts : List (OrRef Schema),
      (∀ part ∈ mapPartLeaves f parts, (part.toJson toJson).Within P n) ↔
        ∀ part ∈ parts, (part.toJson toJson).Within P n
  | [] => Iff.rfl
  | .ref _ :: rest => by
      have hrest := within_mapPartLeaves f n rest
      rw [mapPartLeaves, List.forall_mem_cons, List.forall_mem_cons, hrest]
  | .inline schema :: rest => by
      have hschema := within_mapLeaves f n schema
      have hrest := within_mapPartLeaves f n rest
      rw [mapPartLeaves, List.forall_mem_cons, List.forall_mem_cons, hrest]
      exact and_congr_left fun _ => hschema

end

variable {s part : Schema}

/-- What is written for a schema that was localized is like what is written for the schema. -/
theorem within_localize (h : s.toJson.Within P n) : s.localize.1.toJson.Within P n := by
  have hskeleton : s.localize.1.skeleton.toJson.Within P n := by
    rw [s.skeleton_localize]
    exact (within_mapLeaves blank n s).mpr h
  exact (within_mapLeaves blank n _).mp hskeleton

theorem within_inline (h : s.toJson.Within P n) (hpart : .inline part ∈ s.allOf) :
    part.toJson.Within P n := by
  obtain ⟨m, rfl, hslots⟩ := s.writes.within_iff.mp h
  have hparts := hslots ("allOf", listSlot (OrRef.toJson toJson) s.allOf) (by simp [slots])
  rcases within_listSlot_iff.mp hparts with hnil | ⟨k, rfl, hall⟩
  · rw [hnil] at hpart
    cases hpart
  · exact (hall (.inline part) hpart).mono (by omega)

/-- What is written for a part, at any depth, is like what is written for the schema. -/
theorem within_part (h : s.toJson.Within P n) (hpart : part ∈ s.everyPart) :
    part.toJson.Within P n :=
  forall_everyPart (fun _ _ hs hin => within_inline hs hin) s h part hpart

end Schema

/-- What is written for a definition is like what is written for the document. -/
theorem Document.within_definition {doc : Document} (h : doc.toJson.Within P n)
    {definition : String × Schema} (hdefinition : definition ∈ doc.definitions.entries) :
    definition.2.toJson.Within P n := by
  obtain ⟨m, rfl, hslots⟩ := doc.writes.within_iff.mp h
  have hdefinitions := hslots ("definitions", tableSlot Schema.toJson doc.definitions.entries)
    (by simp [slots])
  rcases within_tableSlot_iff.mp hdefinitions with hnil | ⟨k, rfl, hall⟩
  · rw [hnil] at hdefinition
    cases hdefinition
  · exact (hall definition hdefinition).mono (by omega)

end SwaggerClient
