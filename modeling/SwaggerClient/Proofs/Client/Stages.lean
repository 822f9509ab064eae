/-
Where a pass can fail.

A pass goes through three stages.  The first two are the only ones that can fail, and the
first one goes first: a faulty definition is told whatever the paths are
(`staged_of_generate` puts the cases together).  The last stage reads every import path
back.  It cannot fail, because grouping asks for no other imports than those of models, and
the file of a model always has a name, however odd the name of its definition is
(`Naming.exists_resolve`).
-/
import SwaggerClient.Proofs.Client.Grouping
import SwaggerClient.Proofs.Client.Pass
import SwaggerClient.Proofs.Naming.Types

namespace SwaggerClient

/-! ### Imports -/

namespace Naming

variable (naming : Naming)

/-- **The import of a model can be read back.** -/
theorem exists_resolve (model : String) :
    ∃ entry, ImportEntry.resolve naming.modelPackage (naming.modelImport model) = .ok entry := by
  have hback : ImportEntry.classnameOf naming.modelPackage
      (naming.modelPackage ++ "/" ++ naming.modelFilename model) = .ok _ :=
    classnameOf_append (naming.modelFilename_ne_empty model)
  unfold ImportEntry.resolve modelImport
  rw [hback]
  exact ⟨_, rfl⟩

/-- Grouping asks for the imports of models and for no others. -/
theorem exists_model_of_import {doc : Document} {sets : List OperationSet}
    (h : naming.operationSets doc = .ok sets) {set : OperationSet} (hset : set ∈ sets)
    {path : String} (hpath : path ∈ set.imports) : ∃ model, naming.modelImport model = path := by
  obtain ⟨build, -, rfl⟩ := sets_of_operationSets h
  obtain ⟨tag, -, rfl⟩ := List.mem_map.mp hset
  have hcollected : path ∈ ((doc.routesUnder tag).map build).flatMap fun op =>
      op.models.map naming.modelImport := Text.mem_firstOccurrences.mp hpath
  obtain ⟨op, -, himport⟩ := List.mem_flatMap.mp hcollected
  obtain ⟨model, -, rfl⟩ := List.mem_map.mp himport
  exact ⟨model, rfl⟩

end Naming

theorem ImportEntry.exists_resolveAll {package : String} {paths : List String}
    (h : ∀ path ∈ paths, ∃ entry, resolve package path = .ok entry) :
    ∃ entries, resolveAll package paths = .ok entries := by
  rw [← fault?_eq_none_iff, resolveAll, fault?_mapM, List.findSome?_eq_none_iff]
  intro path hpath
  exact fault?_eq_none_iff.mpr (h path hpath)

/-- Sets whose imports can be read back are normalized. -/
theorem OperationSet.exists_normalizeAll {package : String} {sets : List OperationSet}
    (h : ∀ set ∈ sets, ∃ entries, ImportEntry.resolveAll package set.imports = .ok entries)
    (refs : ImportRefs) : ∃ result, normalizeAll package sets refs = .ok result := by
  induction sets generalizing refs with
  | nil => exact ⟨_, rfl⟩
  | cons set sets ih =>
      obtain ⟨entries, hentries⟩ := h set List.mem_cons_self
      have hrest := fun s hs => h s (List.mem_cons_of_mem set hs)
      obtain ⟨result, hresult⟩ := ih hrest (refs.extend entries)
      refine ⟨({ set.prepare with importEntries := entries } :: result.1, result.2), ?_⟩
      simp only [normalizeAll, normalize, hentries, hresult]

/-- **Sets that come from grouping are normalized.** -/
theorem exists_normalizeAll_of_operationSets {config : Config} {doc : Document}
    {sets : List OperationSet} (h : config.naming.operationSets doc = .ok sets) :
    ∃ result, OperationSet.normalizeAll config.modelPackage sets {} = .ok result := by
  refine OperationSet.exists_normalizeAll (fun set hset => ?_) {}
  refine ImportEntry.exists_resolveAll fun path hpath => ?_
  obtain ⟨model, rfl⟩ := config.naming.exists_model_of_import h hset hpath
  exact config.naming.exists_resolve model

/-! ### Faults -/

namespace Naming

variable {naming : Naming} {definitions : Dict Schema} {doc : Document}

/-- A model fails with its name. -/
theorem exists_of_model_error {name : String} {schema : Schema} {e : GenerateError}
    (h : naming.model definitions name schema = .error e) : ∃ cause, e = .model name cause := by
  rw [← fault?_eq_some_iff, model, fault?_mapError, Option.map_eq_some_iff] at h
  obtain ⟨cause, -, rfl⟩ := h
  exact ⟨cause, rfl⟩

/-- An operation fails with its method and path. -/
theorem exists_of_operation_error {route : Route} {e : GenerateError}
    (h : naming.operation doc route = .error e) :
    ∃ cause, e = .operation route.method.name route.path cause := by
  rw [← fault?_eq_some_iff, operation, fault?_mapError, Option.map_eq_some_iff] at h
  obtain ⟨cause, -, rfl⟩ := h
  exact ⟨cause, rfl⟩

theorem exists_of_operationSets_error {e : GenerateError}
    (h : naming.operationSets doc = .error e) :
    ∃ route ∈ doc.routes, ∃ cause, e = .operation route.method.name route.path cause := by
  rw [← fault?_eq_some_iff, naming.fault?_operationSets] at h
  obtain ⟨route, hroute, hfault⟩ := List.exists_of_findSome?_eq_some h
  exact ⟨route, hroute, exists_of_operation_error (fault?_eq_some_iff.mp hfault)⟩

/-- The models fail with the first definition that does. -/
theorem fault?_allModels (doc : Document) :
    fault? (naming.allModels doc) = doc.definitions.entries.findSome? fun d =>
      fault? (naming.model doc.definitions d.1 d.2) :=
  fault?_mapM _ _

theorem exists_allModels (h : ∀ d ∈ doc.definitions.entries, ∃ m,
    naming.model doc.definitions d.1 d.2 = .ok m) :
    ∃ models, naming.allModels doc = .ok models := by
  rw [← fault?_eq_none_iff, fault?_allModels, List.findSome?_eq_none_iff]
  intro d hd
  exact fault?_eq_none_iff.mpr (h d hd)

end Naming

section Stages

variable {config : Config} {doc : Document}

theorem generate_of_models_error {e : GenerateError}
    (h : config.naming.allModels doc = .error e) : generate config doc = .error e := by
  simp only [generate, h, bind, Except.bind]

theorem generate_of_sets_error {models : List Model} {e : GenerateError}
    (hmodels : config.naming.allModels doc = .ok models)
    (h : config.naming.operationSets doc = .error e) : generate config doc = .error e := by
  simp only [generate, hmodels, h, bind, Except.bind]

/-- **What gets through the first two stages succeeds.** -/
theorem exists_generate {models : List Model} {sets : List OperationSet}
    (hmodels : config.naming.allModels doc = .ok models)
    (hsets : config.naming.operationSets doc = .ok sets) :
    ∃ pass, generate config doc = .ok pass := by
  obtain ⟨⟨normal, refs⟩, hnormal⟩ := exists_normalizeAll_of_operationSets hsets
  simp only [generate, hmodels, hsets, hnormal, bind, Except.bind]
  exact ⟨_, rfl⟩

end Stages

/-- Which stage decides a pass, and what it says. -/
structure Staged (config : Config) (doc : Document) : Prop where
  /-- The first definition that has no model ends the pass, whatever else there is. -/
  of_definition : ∀ before name schema behind e,
    doc.definitions.entries = before ++ (name, schema) :: behind →
    (∀ d ∈ before, ∃ m, config.naming.model doc.definitions d.1 d.2 = .ok m) →
    config.naming.model doc.definitions name schema = .error e →
    (∃ cause, e = .model name cause) ∧
      ∀ doc' : Document, doc'.definitions = doc.definitions → generate config doc' = .error e
  /-- If all definitions have models, an operation that cannot be grouped ends it. -/
  of_operation : (∀ d ∈ doc.definitions.entries, ∃ m,
      config.naming.model doc.definitions d.1 d.2 = .ok m) →
    ∀ e, config.naming.operationSets doc = .error e →
      (∃ method path cause, e = .operation method path cause) ∧ generate config doc = .error e
  /-- Otherwise the pass succeeds. -/
  succeeds : (∀ d ∈ doc.definitions.entries, ∃ m,
      config.naming.model doc.definitions d.1 d.2 = .ok m) →
    ∀ sets, config.naming.operationSets doc = .ok sets → ∃ pass, generate config doc = .ok pass
  /-- So a pass only ever fails with a definition or an operation. -/
  fault : ∀ e, generate config doc = .error e →
    (∃ name ∈ doc.definitions.keys, ∃ cause, e = .model name cause) ∨
      ∃ route ∈ doc.routes, ∃ cause, e = .operation route.method.name route.path cause

/-- **Only definitions and operations can fail,** and definitions go first.  Resolving the
imports never fails, in any package and for any names. -/
theorem staged_of_generate (config : Config) (doc : Document) : Staged config doc where
  of_definition := by
    intro before name schema behind e hentries hbefore he
    refine ⟨Naming.exists_of_model_error he, fun doc' hsame => ?_⟩
    have hfirst : fault? (config.naming.allModels doc') = some e := by
      rw [Naming.fault?_allModels, hsame, hentries, List.findSome?_append,
        List.findSome?_eq_none_iff.mpr fun d hd => fault?_eq_none_iff.mpr (hbefore d hd),
        Option.none_or, List.findSome?_cons, fault?_eq_some_iff.mpr he]
    exact generate_of_models_error (fault?_eq_some_iff.mp hfirst)
  of_operation := by
    intro hall e he
    obtain ⟨models, hmodels⟩ := Naming.exists_allModels hall
    obtain ⟨route, -, cause, rfl⟩ := Naming.exists_of_operationSets_error he
    exact ⟨⟨_, _, cause, rfl⟩, generate_of_sets_error hmodels he⟩
  succeeds := by
    intro hall sets hsets
    obtain ⟨models, hmodels⟩ := Naming.exists_allModels hall
    exact exists_generate hmodels hsets
  fault := by
    intro e he
    cases hmodels : config.naming.allModels doc with
    | error e' =>
        rw [generate_of_models_error hmodels] at he
        rw [Except.error.inj he, ← fault?_eq_some_iff, Naming.fault?_allModels] at hmodels
        obtain ⟨⟨name, schema⟩, hd, hmodel⟩ := List.exists_of_findSome?_eq_some hmodels
        obtain ⟨cause, rfl⟩ := Naming.exists_of_model_error (fault?_eq_some_iff.mp hmodel)
        exact Or.inl ⟨name, List.mem_map_of_mem hd, cause, rfl⟩
    | ok models =>
        cases hsets : config.naming.operationSets doc with
        | error e' =>
            rw [generate_of_sets_error hmodels hsets] at he
            rw [Except.error.inj he] at hsets
            exact Or.inr (Naming.exists_of_operationSets_error hsets)
        | ok sets =>
            obtain ⟨pass, hpass⟩ := exists_generate hmodels hsets
            rw [hpass] at he
            cases he

/-- A route that returns a list of definitions, one parameter each. -/
def oddRoute (names : List String) : String × PathItem :=
  ("/odd", {
    put := some {
      parameters := names.map fun name => .inline {
        name := name, location := .query, schema := some (.ref ("#/definitions/" ++ name)) } } })

-- no name here has an ASCII letter, and the package is empty
example : (generate { modelPackage := "" }
    { swagger := "2.0"
      info := { title := "Odd", version := "1" }
      paths := Dict.ofList [oddRoute ["--", "1", "ß", "犬"]]
      definitions := Dict.ofList [("--", {}), ("1", {})] }).toOption.map
        (fun pass => pass.refs.map (·.importPath)) =
    some ["/unnamed", "/model1", "/ss", "/犬"] := by
  decide +kernel

-- two definitions and the route are faulty, and the first definition is told
example : fault? (generate .standard
    { swagger := "2.0"
      info := { title := "Odd", version := "1" }
      paths := Dict.ofList [oddRoute [""]]
      definitions := Dict.ofList [
        ("Dog", {}),
        ("Cat", { items := some (.ref "Dog") }),
        ("Ape", { properties := Dict.ofList [("pet", .ref "Cat")] })] }) =
    some (.model "Cat" (.malformedReference "Dog")) := by
  decide +kernel

end SwaggerClient
