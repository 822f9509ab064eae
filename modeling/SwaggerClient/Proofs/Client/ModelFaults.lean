/-
When a definition has a model, and what is told if it has none.

Three passes go over a definition, and each looks at something else: the first at the
references among the parts, the second at the properties of the schema and of its parts in
place, the third at the leaves at every depth.  Their faults in a row are the faults of the
definition (`Schema.faults`), and the first of them is told (`Naming.fault?_model`).

The second pass sees nothing that the third one does not, so what decides is the references
among the parts and the leaves at every depth.  Between the two the descriptors of the
outline are localized.  By then the second pass has seen every one of them, so this never
fails (`Naming.exists_localized`).
-/
import SwaggerClient.Proofs.Client.Typing
import SwaggerClient.Proofs.Client.Composition

namespace SwaggerClient

/-! ### Faults in order -/

/-- The fault of a reference among the parts: it has to lead to a definition that exists. -/
def partFault? (definitions : Dict Schema) (path : String) : Option ResolveError :=
  if IsReference path then
    if ∃ name ∈ definitions.keys, path = definitionsStart ++ name then none
    else some (.targetNotFound path)
  else some (.malformedReference path)

/-- The leaves of the properties of a schema and of its parts in place. -/
def Schema.nearLeaves (schema : Schema) : List String :=
  schema.nearParts.flatMap fun part => leavesOfEntries part.properties.entries

/-- All faults of a definition, in the order in which they are looked for. -/
def Schema.faults (definitions : Dict Schema) (schema : Schema) : List ResolveError :=
  schema.partRefs.filterMap (partFault? definitions) ++
    (schema.nearLeaves.filterMap malformed? ++ schema.leaves.filterMap malformed?)

theorem fault?_existingDefinition (definitions : Dict Schema) (path : String) :
    fault? (existingDefinition definitions path) = partFault? definitions path := by
  unfold existingDefinition partFault?
  by_cases h : IsReference path
  · obtain ⟨name, hname⟩ := isReference_iff.mp h
    obtain ⟨-, rfl⟩ := definitionName_eq_ok_iff.mp hname
    have hkey : (∃ n ∈ definitions.keys, definitionsStart ++ name = definitionsStart ++ n) ↔
        definitions.contains name = true := by
      rw [Dict.contains, List.contains_iff_mem]
      constructor
      · rintro ⟨n, hn, heq⟩
        rw [(String.append_right_inj _).mp heq]
        exact hn
      · exact fun hn => ⟨name, hn, rfl⟩
    rw [if_pos h, hname]
    by_cases hcontains : definitions.contains name = true
    · rw [if_pos (hkey.mpr hcontains)]
      simp only [hcontains, if_true, fault?]
    · rw [if_neg (hkey.not.mpr hcontains)]
      simp only [if_neg hcontains, fault?]
  · rw [if_neg h, definitionName_of_not_isReference h]
    rfl

namespace Naming

variable (naming : Naming) (definitions : Dict Schema) (name : String) (schema : Schema)

theorem fault?_modelProperty (required : List String) (entry : String × Property) :
    fault? (naming.modelProperty required entry) = entry.2.leaves.findSome? malformed? := by
  rw [modelProperty, ← naming.fault?_typeOf]
  cases naming.typeOf entry.2 with
  | error e => rfl
  | ok t => rfl

/-- The properties of a model have the first fault of a leaf. -/
theorem fault?_modelProperties (required : List String) :
    fault? (schema.allProperties.mapM (naming.modelProperty required)) =
      schema.nearLeaves.findSome? malformed? := by
  have hleaves : schema.nearLeaves = leavesOfEntries schema.allProperties := by
    unfold Schema.nearLeaves Schema.nearParts leavesOfEntries Schema.allProperties
    rw [List.flatMap_cons, List.flatMap_append, List.flatMap_assoc]
  rw [fault?_mapM, hleaves, leavesOfEntries, findSome?_flatMap]
  exact congrArg (schema.allProperties.findSome? ·) (funext (naming.fault?_modelProperty required))

variable {naming definitions name schema}

theorem fault?_localizeProperty (p : ModelProperty) :
    fault? (localizeProperty p) = p.descriptor.leaves.findSome? malformed? := by
  rw [localizeProperty, ← p.descriptor.fault?_localize]
  cases p.descriptor.localize with
  | error e => rfl
  | ok q => rfl

theorem descriptor_modelProperty {required : List String} {entry : String × Property}
    {p : ModelProperty} (h : naming.modelProperty required entry = .ok p) :
    p.descriptor = entry.2 := by
  obtain ⟨t, -, rfl⟩ := modelProperty_eq_ok h
  rfl

/-- **The descriptors of an outline can all be localized.** -/
theorem exists_localized {outline : Model}
    (h : naming.outline? definitions name schema = .ok outline) :
    ∃ properties, outline.properties.mapM localizeProperty = .ok properties := by
  obtain ⟨parents, properties, -, hproperties, rfl⟩ := outline_eq_ok h
  rw [← fault?_eq_none_iff, fault?_mapM, List.findSome?_eq_none_iff]
  intro p hp
  -- the type of the property could be told, so its leaf is a reference
  obtain ⟨entry, -, hentry⟩ := exists_of_mem_right (mapM_eq_ok_iff.mp hproperties) hp
  rw [fault?_localizeProperty, descriptor_modelProperty hentry,
    ← naming.fault?_modelProperty schema.allRequired]
  exact fault?_eq_none_iff.mpr ⟨p, hentry⟩

variable (naming definitions name schema)

theorem fault?_outline? :
    fault? (naming.outline? definitions name schema) =
      (schema.partRefs.findSome? (partFault? definitions)).or
        (schema.nearLeaves.findSome? malformed?) := by
  have hparents : schema.partRefs.findSome? (partFault? definitions) =
      fault? (schema.partRefs.mapM (existingDefinition definitions)) := by
    rw [fault?_mapM]
    exact congrArg (schema.partRefs.findSome? ·)
      (funext fun path => (fault?_existingDefinition definitions path).symm)
  rw [hparents, ← naming.fault?_modelProperties schema schema.allRequired, outline?]
  cases schema.partRefs.mapM (existingDefinition definitions) with
  | error e => rfl
  | ok parents =>
      cases schema.allProperties.mapM (naming.modelProperty schema.allRequired) with
      | error e => rfl
      | ok properties => rfl

/-- **The first of the faults in a row is told.** -/
theorem fault?_model :
    fault? (naming.model definitions name schema) =
      (schema.faults definitions).head?.map (.model name) := by
  have hfaults : (schema.faults definitions).head? =
      (fault? (naming.outline? definitions name schema)).or schema.localize.2 := by
    rw [Schema.faults, List.head?_append, List.head?_append, List.head?_filterMap,
      List.head?_filterMap, List.head?_filterMap, naming.fault?_outline?, schema.fault_localize,
      Option.or_assoc]
  rw [model, fault?_mapError, hfaults]
  congr 1
  unfold model?
  cases houtline : naming.outline? definitions name schema with
  | error e => rfl
  | ok outline =>
      obtain ⟨properties, hproperties⟩ := exists_localized houtline
      simp only [bind, Except.bind, hproperties]
      show _ = schema.localize.2
      split
      · rename_i hlocal
        rw [hlocal]
        rfl
      · rename_i hlocal
        rw [hlocal]
        rfl

end Naming

/-! ### What decides -/

section Decided

variable {definitions : Dict Schema} {schema : Schema}

theorem partFault?_eq_none_iff {path : String} :
    partFault? definitions path = none ↔
      ∃ name ∈ definitions.keys, name ≠ "" ∧ path = definitionsStart ++ name := by
  unfold partFault?
  by_cases h : IsReference path
  · obtain ⟨name, hname, rfl⟩ := h
    have hsame : ∀ n, definitionsStart ++ name = definitionsStart ++ n → n = name :=
      fun n heq => ((String.append_right_inj _).mp heq).symm
    rw [if_pos ⟨name, hname, rfl⟩, ite_eq_left_iff]
    constructor
    · intro hnone
      obtain ⟨n, hn, heq⟩ := not_not.mp fun hno => Option.some_ne_none _ (hnone hno)
      exact ⟨n, hn, hsame n heq ▸ hname, heq⟩
    · rintro ⟨n, hn, -, heq⟩ hno
      exact absurd ⟨n, hn, heq⟩ hno
  · rw [if_neg h]
    constructor
    · intro hnone
      cases hnone
    · rintro ⟨name, -, hpath⟩
      exact absurd ⟨name, hpath⟩ h

/-- What the outline looks at is among the leaves. -/
theorem Schema.mem_leaves_of_mem_nearLeaves {path : String} (h : path ∈ schema.nearLeaves) :
    path ∈ schema.leaves := by
  obtain ⟨part, hpart, hpath⟩ := List.mem_flatMap.mp h
  rw [schema.leaves_eq]
  exact List.mem_flatMap.mpr
    ⟨part, mem_everyPart_iff.mpr (Or.inl hpart), List.mem_append_left _ hpath⟩

/-- A definition without faults: the parts lead to definitions, and all leaves are
references. -/
theorem Schema.faults_eq_nil_iff :
    schema.faults definitions = [] ↔
      (∀ path ∈ schema.partRefs,
        ∃ name ∈ definitions.keys, name ≠ "" ∧ path = definitionsStart ++ name) ∧
      ∀ path ∈ schema.leaves, IsReference path := by
  simp only [faults, List.append_eq_nil_iff, List.filterMap_eq_nil_iff, partFault?_eq_none_iff,
    malformed?_eq_none_iff]
  constructor
  · rintro ⟨hparts, -, hleaves⟩
    exact ⟨hparts, hleaves⟩
  · rintro ⟨hparts, hleaves⟩
    exact ⟨hparts, fun path hpath => hleaves path (mem_leaves_of_mem_nearLeaves hpath), hleaves⟩

end Decided

/-- When a definition has a model, and what is told if not. -/
structure ModelDecided (naming : Naming) (definitions : Dict Schema) (name : String)
    (schema : Schema) : Prop where
  /-- The references among the parts have to lead to definitions; a reference at a leaf, at
  whatever depth, only has to look like one. -/
  succeeds_iff : (∃ m, naming.model definitions name schema = .ok m) ↔
    (∀ path ∈ schema.partRefs,
      ∃ n ∈ definitions.keys, n ≠ "" ∧ path = "#/definitions/" ++ n) ∧
    ∀ part ∈ schema.everyPart, ∀ path ∈ part.ownLeaves,
      ∃ n, n ≠ "" ∧ path = "#/definitions/" ++ n
  /-- The fault is told with the name of the definition: the first one among the parts, or
  else at a leaf of the own properties, or else at one of the parts in place, or else of the
  walk over all leaves. -/
  fails_iff : ∀ e, naming.model definitions name schema = .error e ↔
    ∃ cause, e = .model name cause ∧
      (schema.partRefs.filterMap (partFault? definitions) ++
        ((leavesOfEntries schema.properties.entries ++
          schema.inlineParts.flatMap fun part => leavesOfEntries part.properties.entries) ++
            schema.leaves).filterMap malformed?).head? = some cause
  /-- What the walk over all leaves tells is its own first fault. -/
  localize_fault : schema.localize.2 = (schema.leaves.filterMap malformed?).head?
  /-- Localizing the descriptors of an outline never fails. -/
  descriptors : ∀ outline, naming.outline? definitions name schema = .ok outline →
    ∃ properties, outline.properties.mapM Naming.localizeProperty = .ok properties

/-- **When a definition has a model, and which of its faults is told.** -/
theorem modelDecided (naming : Naming) (definitions : Dict Schema) (name : String)
    (schema : Schema) : ModelDecided naming definitions name schema where
  succeeds_iff := by
    have hleaves : (∀ part ∈ schema.everyPart, ∀ path ∈ part.ownLeaves, IsReference path) ↔
        ∀ path ∈ schema.leaves, IsReference path := by
      rw [schema.leaves_eq]
      exact List.forall_mem_flatMap.symm
    rw [← fault?_eq_none_iff, naming.fault?_model, Option.map_eq_none_iff, List.head?_eq_none_iff,
      Schema.faults_eq_nil_iff, ← hleaves]
    rfl
  fails_iff := by
    intro e
    have hfaults : schema.faults definitions =
        schema.partRefs.filterMap (partFault? definitions) ++
          (schema.nearLeaves ++ schema.leaves).filterMap malformed? := by
      rw [List.filterMap_append, Schema.faults]
    rw [← fault?_eq_some_iff, naming.fault?_model, Option.map_eq_some_iff, hfaults]
    constructor
    · rintro ⟨cause, hcause, rfl⟩
      exact ⟨cause, rfl, hcause⟩
    · rintro ⟨cause, rfl, hcause⟩
      exact ⟨cause, hcause, rfl⟩
  localize_fault := by rw [List.head?_filterMap, schema.fault_localize]
  descriptors := fun _ => Naming.exists_localized

-- a leaf deep in the parts is malformed, and so is one of the own properties: the reference
-- among the parts goes before both, and it is one that leads to no definition
example : fault? (Config.standard.naming.model Dict.empty "Pet"
    { properties := Dict.ofList [("owner", .ref "Owner")]
      allOf := [
        .inline { allOf := [.inline { items := some (.ref "/Toy") }] },
        .ref "#/definitions/Animal"] }) =
    some (.model "Pet" (.targetNotFound "#/definitions/Animal")) := by
  decide +kernel

end SwaggerClient
