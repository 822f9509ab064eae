/-
What a model says about its fields.

A field is made in two steps.  The outline takes the key apart from the descriptor: the key
gives the variable and says whether the field is required, the descriptor gives the type.  Only
then the descriptor is localized, and its reference is cut down to the local path.  So the type
was computed from a path that is not there any more.

Cutting can be undone: with the beginning put back every descriptor is the one that the schema
has (`Property.restored_of_localize`).  Since the type depends on the leaf and on the number of
arrays around it only (`Naming.exists_leafType`), and cutting changes nothing about the arrays,
the type can be read off the localized descriptor as well, and names the same model.

Both steps go over the fields in order, so what holds of one field (`fieldOf_of_steps`) holds
of all, and nothing is left out or added (`modelFields_of_model`).
-/
import SwaggerClient.Proofs.Client.Typing

namespace SwaggerClient

/-! ### One field -/

/-- What a model says about a property of its schema. -/
structure FieldOf (naming : Naming) (schema : Schema) (entry : String × Property)
    (p : ModelProperty) : Prop where
  baseName_eq : p.baseName = entry.1
  name_eq : p.name = naming.variableName entry.1
  /-- It does not matter which part the property comes from, and which one requires it. -/
  required_iff : p.required = true ↔
    entry.1 ∈ schema.required ∨ ∃ part ∈ schema.inlineParts, entry.1 ∈ part.required
  /-- A reference describes nothing, -/
  description_ref : ∀ path, entry.2 = .ref path → p.description = none
  /-- and every other descriptor has the description of its own facets. -/
  description_array : ∀ items facets, entry.2 = .array items facets →
    p.description = facets.description
  description_primitive : ∀ facets, entry.2 = .primitive facets →
    p.description = facets.description
  /-- The descriptor differs from the raw one in the path at its leaf, -/
  descriptor_eq : p.descriptor.mapLeaves ("#/definitions" ++ ·) = entry.2
  /-- which is a local path. -/
  descriptor_local : ∀ path ∈ p.descriptor.leaves, ∃ n, n ≠ "" ∧ path = "/" ++ n
  /-- The type names the model that the local path leads to, in as many arrays. -/
  dataType_ref : ∀ n, p.descriptor.leaf = .ref ("/" ++ n) →
    p.dataType = (TypeExpr.ref (naming.modelName n)).inArrays p.descriptor.arrayDepth
  /-- Every other type is that of the leaf, in as many arrays. -/
  dataType_primitive : ∀ facets, p.descriptor.leaf = .primitive facets →
    p.dataType = (TypeExpr.ofPrimitive facets).inArrays p.descriptor.arrayDepth

section Steps

variable {naming : Naming} {schema : Schema}

theorem Schema.mem_allRequired_iff {key : String} :
    key ∈ schema.allRequired ↔
      key ∈ schema.required ∨ ∃ part ∈ schema.inlineParts, key ∈ part.required := by
  rw [allRequired, List.mem_append, List.mem_flatMap]

theorem localizeProperty_eq_ok {q p : ModelProperty} (h : Naming.localizeProperty q = .ok p) :
    ∃ descriptor, q.descriptor.localize = .ok descriptor ∧
      p = { q with descriptor := descriptor } := by
  unfold Naming.localizeProperty at h
  split at h
  · cases h
  · rename_i descriptor hdescriptor
    exact ⟨descriptor, hdescriptor, (Except.ok.inj h).symm⟩

/-- **What went through both steps says what is true of its property.** -/
theorem fieldOf_of_steps {entry : String × Property} {q p : ModelProperty}
    (hfirst : naming.modelProperty schema.allRequired entry = .ok q)
    (hsecond : Naming.localizeProperty q = .ok p) : FieldOf naming schema entry p := by
  obtain ⟨t, ht, rfl⟩ := Naming.modelProperty_eq_ok hfirst
  obtain ⟨descriptor, hdescriptor, rfl⟩ := localizeProperty_eq_ok hsecond
  obtain ⟨hrestored, hlocal⟩ := Property.restored_of_localize hdescriptor
  -- the type was told from the raw descriptor, which is this one with the beginning put back
  obtain ⟨leafType, hleaf, hdepth⟩ := Naming.exists_leafType ht
  dsimp only at hrestored
  rw [← hrestored, Property.leaf_mapLeaves] at hleaf
  rw [← hrestored, Property.arrayDepth_mapLeaves] at hdepth
  refine ⟨rfl, rfl, ?_, ?_, ?_, ?_, hrestored, hlocal, ?_, ?_⟩
  · exact List.contains_iff_mem.trans Schema.mem_allRequired_iff
  · intro path hraw
    exact congrArg Property.description? hraw
  · intro items facets hraw
    exact congrArg Property.description? hraw
  · intro facets hraw
    exact congrArg Property.description? hraw
  · intro n hn
    rw [hn, Property.mapLeaves, Schema.restored_path] at hleaf
    rw [← Naming.eq_of_typeOf_ref hleaf]
    exact hdepth
  · intro facets hfacets
    rw [hfacets] at hleaf
    have htype : TypeExpr.ofPrimitive facets = leafType := Except.ok.inj hleaf
    rw [htype]
    exact hdepth

end Steps

/-! ### Models -/

/-- What a model says about the properties and the parent of its schema. -/
structure ModelFields (naming : Naming) (definitions : Dict Schema) (schema : Schema) (m : Model) :
    Prop where
  /-- The fields are those of the schema and then those of its parts in place, in order. -/
  fields : List.Forall₂ (FieldOf naming schema)
    (schema.properties.entries ++ schema.inlineParts.flatMap fun part => part.properties.entries)
    m.properties
  /-- All references among the parts lead to definitions, and the first one to the parent. -/
  parent : ∃ names : List String,
    schema.partRefs = names.map ("#/definitions/" ++ ·) ∧ (∀ n ∈ names, n ∈ definitions.keys) ∧
      m.parent = names.head?.map naming.modelName

/-- **What a model says about its fields** is true of the schema, field by field. -/
theorem modelFields_of_model (naming : Naming) (definitions : Dict Schema) (name : String)
    (schema : Schema) (m : Model) (h : naming.model definitions name schema = .ok m) :
    ModelFields naming definitions schema m := by
  obtain ⟨outline, properties, s, houtline, hlocalized, -, rfl⟩ := Naming.model_eq_ok h
  obtain ⟨parents, raw, hparents, hraw, rfl⟩ := Naming.outline_eq_ok houtline
  rw [mapM_eq_ok_iff] at hparents hraw hlocalized
  have hfields : List.Forall₂ (FieldOf naming schema) schema.allProperties properties := by
    refine forall₂_trans ?_ hraw hlocalized
    exact fun _ _ _ hfirst hsecond => fieldOf_of_steps hfirst hsecond
  refine ⟨hfields, parents, ?_, ?_, rfl⟩
  · have hpaths : parents.map ("#/definitions/" ++ ·) = schema.partRefs.map id := by
      refine map_eq_of_forall₂ ?_ hparents
      intro path n hn
      exact (definitionName_eq_ok_iff.mp (Naming.existingDefinition_eq_ok hn).1).2.symm
    rw [hpaths, List.map_id]
  · intro n hn
    obtain ⟨path, -, hpath⟩ := exists_of_mem_right hparents hn
    exact (Naming.existingDefinition_eq_ok hpath).2

/-- A schema with a parent, whose part in place adds a property and requires another one.  One
property is described, one is an array that is, and one is a reference. -/
def dogSchema : Schema where
  properties := ⟨[("class", .primitive { type := some "string", description := some "breed" }),
    ("tags", .array (.array (.ref "#/definitions/Tag") {}) { description := some "labels" }),
    ("rival", .ref "#/definitions/Dog")], by simp⟩
  allOf := [.inline {
    properties := ⟨[("owner_id", .primitive { type := some "integer" })], by simp⟩
    required := ["tags"] }, .ref "#/definitions/Animal"]

theorem modelFields_dog :
    ∃ m, Config.standard.naming.model (.ofList [("Animal", {})]) "Dog" dogSchema = .ok m ∧
      m.parent = some "Animal" ∧
      m.properties.map (fun p => (p.name, p.required, p.dataType)) = [
        ("_class", false, .string), ("tags", true, .array (.array (.ref "Tag"))),
        ("rival", false, .ref "Dog"), ("ownerId", false, .integer)] ∧
      m.properties.map (·.description) = [some "breed", some "labels", none, none] ∧
      ModelFields Config.standard.naming (.ofList [("Animal", {})]) dogSchema m := by
  have hview : (Config.standard.naming.model (.ofList [("Animal", {})]) "Dog"
      dogSchema).toOption.map (fun m =>
        (m.parent, m.properties.map fun p => (p.name, p.required, p.dataType),
          m.properties.map (·.description))) = some (some "Animal", [
        ("_class", false, .string), ("tags", true, .array (.array (.ref "Tag"))),
        ("rival", false, .ref "Dog"), ("ownerId", false, .integer)],
        [some "breed", some "labels", none, none]) := by
    decide +kernel
  obtain ⟨m, hm, hview⟩ := exists_ok_of_map hview
  obtain ⟨hparent, hview⟩ := Prod.mk.inj hview
  obtain ⟨hfields, hdescriptions⟩ := Prod.mk.inj hview
  exact ⟨m, hm, hparent, hfields, hdescriptions, modelFields_of_model _ _ _ _ m hm⟩

end SwaggerClient
