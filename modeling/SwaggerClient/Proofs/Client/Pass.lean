/-
What a pass is made of.

A pass that succeeds went through three stages (`generate_ok`), and each leaves something
to rely on: every definition has its model (`generate_models`), the operation sets are those that
grouping gives, and normalizing kept their names and imports and resolved the latter
(`Normal`, `generate_sets`).  The imports of the pass as a whole are what the entries of its
sets record, one set after the other (`refs_eq_firstBy`), and its files are those of its
models and sets (`generate_targets`).
-/
import SwaggerClient.Client.Pass
import SwaggerClient.Proofs.Client.Recording
import SwaggerClient.Proofs.Client.References
import SwaggerClient.Proofs.Dict

namespace SwaggerClient

/-! ### Normalizing -/

/-- What normalizing makes of a set: its file is named, its operations are normalized and its
imports are resolved. -/
structure Normal (package : String) (set set' : OperationSet) : Prop where
  classname_eq : set'.classname = set.classname
  apiFilename_eq : set'.apiFilename = some (Naming.apiFilename set.classname)
  operations_eq : set'.operations = set.operations.map .normalize
  imports_eq : set'.imports = set.imports
  resolved : ImportEntry.resolveAll package set.imports = .ok set'.importEntries

namespace OperationSet

theorem normal_normalize {package : String} {set set' : OperationSet} {refs refs' : ImportRefs}
    (h : set.normalize package refs = ⟨set', refs', none⟩) :
    Normal package set set' ∧ refs' = refs.extend set'.importEntries := by
  unfold normalize at h
  split at h
  · cases h
  · rename_i entries hentries
    cases h
    exact ⟨⟨rfl, rfl, rfl, rfl, hentries⟩, rfl⟩

/-- **Normalizing goes through the sets one by one.** -/
theorem normalizeAll_ok {package : String} {sets sets' : List OperationSet}
    {refs refs' : ImportRefs} (h : normalizeAll package sets refs = .ok (sets', refs')) :
    List.Forall₂ (Normal package) sets sets' ∧
      refs' = sets'.foldl (fun refs set => refs.extend set.importEntries) refs := by
  induction sets generalizing refs sets' with
  | nil =>
      rw [normalizeAll] at h
      cases h
      exact ⟨.nil, rfl⟩
  | cons set sets ih =>
      rw [normalizeAll] at h
      split at h
      · cases h
      · rename_i set' refs₁ hset
        obtain ⟨hnormal, hrefs⟩ := normal_normalize hset
        split at h
        · cases h
        · rename_i rest refs₂ hrest
          cases h
          obtain ⟨hall, hfold⟩ := ih hrest
          refine ⟨.cons hnormal hall, ?_⟩
          rw [hfold, hrefs]
          rfl

end OperationSet

/-! ### The stages -/

section Stages

variable {config : Config} {doc : Document} {pass : Pass}

/-- The stages that a pass went through, and what it was put together from. -/
theorem generate_ok (h : generate config doc = .ok pass) :
    config.naming.allModels doc = .ok pass.models ∧
      ∃ sets refs, config.naming.operationSets doc = .ok sets ∧
        OperationSet.normalizeAll config.modelPackage sets {} = .ok (pass.operationSets, refs) ∧
        pass.refs = refs.entries ∧
        pass.targets = config.targets pass.models pass.operationSets ∧
        pass.additionalProperties =
          config.additionalProperties.insert Pass.versionKey (.string config.apiVersion) := by
  unfold generate at h
  obtain ⟨models, hmodels, h⟩ := bind_eq_ok_iff.mp h
  obtain ⟨sets, hsets, h⟩ := bind_eq_ok_iff.mp h
  obtain ⟨⟨normal, refs⟩, hnormal, h⟩ := bind_eq_ok_iff.mp h
  cases h
  exact ⟨hmodels, sets, refs, hsets, hnormal, rfl, rfl, rfl⟩

/-- **The models of a pass are those of the definitions,** in the same order. -/
theorem generate_definitions (h : generate config doc = .ok pass) :
    List.Forall₂ (fun e m => config.naming.model doc.definitions e.1 e.2 = .ok m)
      doc.definitions.entries pass.models :=
  mapM_eq_ok_iff.mp (generate_ok h).1

theorem generate_models (h : generate config doc = .ok pass) :
    List.Forall₂ (fun e m => ModelOf config.naming e.1 e.2 m) doc.definitions.entries
      pass.models :=
  List.Forall₂.imp (fun _ _ hm => Naming.modelOf_model hm) (generate_definitions h)

/-- The operation sets of a pass are those of grouping, normalized. -/
theorem generate_sets (h : generate config doc = .ok pass) :
    ∃ sets, config.naming.operationSets doc = .ok sets ∧
      List.Forall₂ (Normal config.modelPackage) sets pass.operationSets := by
  obtain ⟨-, sets, refs, hsets, hnormal, -⟩ := generate_ok h
  exact ⟨sets, hsets, (OperationSet.normalizeAll_ok hnormal).1⟩

/-- **The imports of a pass are the first entries of all paths,** set by set. -/
theorem refs_eq_firstBy (h : generate config doc = .ok pass) :
    pass.refs =
      Text.firstBy ImportEntry.importPath (pass.operationSets.flatMap (·.importEntries)) := by
  obtain ⟨-, sets, refs, -, hnormal, hrefs, -⟩ := generate_ok h
  have hfold := ImportRefs.foldl_extend_recorded [] pass.operationSets
  rw [hrefs, (OperationSet.normalizeAll_ok hnormal).2]
  exact congrArg ImportRefs.entries hfold

/-- Every import of a pass is one of its operation sets. -/
theorem generate_refs (h : generate config doc = .ok pass) {entry : ImportEntry}
    (hentry : entry ∈ pass.refs) : ∃ set ∈ pass.operationSets, entry ∈ set.importEntries := by
  rw [refs_eq_firstBy h] at hentry
  exact List.mem_flatMap.mp (Text.mem_of_mem_firstBy _ hentry)

/-- The files of a pass are those of its models and of its operation sets. -/
theorem generate_targets (h : generate config doc = .ok pass) :
    pass.targets = config.targets pass.models pass.operationSets := by
  obtain ⟨-, _, _, -, -, -, htargets, -⟩ := generate_ok h
  exact htargets

/-- The additional properties of a pass are those of the settings, and the version. -/
theorem generate_properties (h : generate config doc = .ok pass) :
    pass.additionalProperties =
      config.additionalProperties.insert Pass.versionKey (.string config.apiVersion) := by
  obtain ⟨-, _, _, -, -, -, -, hproperties⟩ := generate_ok h
  exact hproperties

/-! ### Models by name -/

/-- In lists that run in step, the model found by a name is the partner of that entry. -/
theorem find?_of_forall₂ {R : String × Schema → Model → Prop}
    (hname : ∀ e m, R e m → m.name = e.1) {entries : List (String × Schema)}
    {models : List Model} (hall : List.Forall₂ R entries models)
    (hnodup : (entries.map Prod.fst).Nodup) {e : String × Schema} (h : e ∈ entries) :
    ∃ m, models.find? (fun m => m.name == e.1) = some m ∧ R e m := by
  induction hall with
  | nil => exact absurd h List.not_mem_nil
  | @cons first m entries models hfirst _ ih =>
      obtain ⟨hnew, hnodup⟩ := List.nodup_cons.mp hnodup
      have hm := hname first m hfirst
      rcases List.mem_cons.mp h with rfl | h
      · refine ⟨m, ?_, hfirst⟩
        rw [List.find?_cons_of_pos (by simp [hm])]
      · obtain ⟨m', hm', hR⟩ := ih hnodup h
        refine ⟨m', ?_, hR⟩
        have hne : first.1 ≠ e.1 := fun heq => hnew (heq ▸ List.mem_map_of_mem h)
        rw [List.find?_cons_of_neg (by simp [hm, hne]), hm']

/-- **A definition is found in the pass under its name,** as the model that is made of it. -/
theorem model?_definition (h : generate config doc = .ok pass) {e : String × Schema}
    (hmem : e ∈ doc.definitions.entries) :
    ∃ m, pass.model? e.1 = some m ∧ config.naming.model doc.definitions e.1 e.2 = .ok m :=
  find?_of_forall₂ (fun _ _ hm => (Naming.modelOf_model hm).name_eq) (generate_definitions h)
    doc.definitions.nodup_keys hmem

/-- The models of a pass are named like the definitions. -/
theorem names_models (h : generate config doc = .ok pass) :
    pass.models.map (·.name) = doc.definitions.keys :=
  map_eq_of_forall₂ (fun _ _ hof => hof.name_eq) (generate_models h)

/-- **The model of a name is the model of the definition with this name.** -/
theorem model?_eq (h : generate config doc = .ok pass) (name : String) :
    pass.model? name = (doc.definitions.find? name).bind fun schema =>
      (config.naming.model doc.definitions name schema).toOption := by
  cases hfind : doc.definitions.find? name with
  | none =>
      have hmissing : name ∉ pass.models.map (·.name) := by
        rw [names_models h]
        exact Dict.find?_eq_none_iff.mp hfind
      refine List.find?_eq_none.mpr ?_
      intro m hm heq
      exact hmissing (beq_iff_eq.mp heq ▸ List.mem_map_of_mem hm)
  | some schema =>
      obtain ⟨m, hm, hmodel⟩ := model?_definition h (Dict.find?_eq_some_iff.mp hfind)
      rw [hm, Option.bind_some, hmodel]
      rfl

/-- Every definition has its model in the pass. -/
theorem exists_model (h : generate config doc = .ok pass) {name : String} {schema : Schema}
    (hmem : (name, schema) ∈ doc.definitions.entries) :
    ∃ m, pass.model? name = some m ∧ ModelOf config.naming name schema m := by
  obtain ⟨m, hfound, hm⟩ := model?_definition h hmem
  exact ⟨m, hfound, Naming.modelOf_model hm⟩

/-- Every model of a pass belongs to a definition. -/
theorem exists_definition (h : generate config doc = .ok pass) {m : Model}
    (hm : m ∈ pass.models) :
    ∃ schema, (m.name, schema) ∈ doc.definitions.entries ∧
      ModelOf config.naming m.name schema m := by
  obtain ⟨⟨name, schema⟩, hmem, hof⟩ := exists_of_mem_right (generate_models h) hm
  have hname : m.name = name := hof.name_eq
  rw [hname]
  exact ⟨schema, hmem, hof⟩

end Stages

end SwaggerClient
