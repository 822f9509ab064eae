/-
Which references a pass checks, and how far.

A document refers to definitions from four places: the parts of a composition, the properties
of definitions, and the parameters and the response of a route.  The parts are followed, and
so are the references to shared parameters and responses.  The leaves are only read: they
have to look like references, and nobody looks where they lead.  That is all that a pass
depends on (`exists_generate_iff`).

So a pass that succeeds may refer to definitions that are not there.  It is closed exactly
if each of its leaves leads to one of its models, and a leaf of a route that does not
leaves the import of a file behind that is never rendered (`closure_of_generate`).
-/
import SwaggerClient.Proofs.Client.OperationFaults
import SwaggerClient.Proofs.Client.Refs
import SwaggerClient.Proofs.Client.Stages

namespace SwaggerClient

/-! ### Places of references -/

namespace Document

variable (doc : Document)

/-- The leaves that models and operations are made from. -/
def leafPaths : List String :=
  doc.definitions.entries.flatMap (fun d => d.2.nearLeaves) ++ doc.routes.flatMap doc.leavesAt

/-- The references among the parts of definitions. -/
def partPaths : List String := doc.definitions.entries.flatMap fun d => d.2.partRefs

/-- A path that leads to a definition of the document. -/
def Defines (path : String) : Prop :=
  ∃ name ∈ doc.definitions.keys, path = "#/definitions/" ++ name

/-- Everything that a pass asks of a document.  What stands among the parts of a definition or
is taken from a shared section is there; a leaf only has to look like a reference. -/
structure Checked : Prop where
  parts : ∀ d ∈ doc.definitions.entries, ∀ part ∈ d.2.allOf,
    part.LeadsInto doc.definitions "#/definitions/"
  shared : ∀ route ∈ doc.routes, doc.FindsShared route
  definition_leaves : ∀ d ∈ doc.definitions.entries, ∀ path ∈ d.2.leaves, IsReference path
  route_leaves : ∀ route ∈ doc.routes, ∀ path ∈ doc.leavesAt route, IsReference path

end Document

/-! ### Operations and models -/

namespace Naming

variable {naming : Naming} {doc : Document}

/-- **When there is an operation for a route:** what it takes from the shared sections is
there, and its leaves are references. -/
theorem exists_operation_iff {route : Route} :
    (∃ op, naming.operation doc route = .ok op) ↔
      doc.FindsShared route ∧ ∀ path ∈ doc.leavesAt route, IsReference path := by
  rw [← fault?_eq_none_iff, naming.fault?_operation, Option.map_eq_none_iff,
    List.head?_eq_none_iff, doc.faultsAt_eq_nil_iff]

/-- Operations are grouped if there is one for each route. -/
theorem exists_operationSets_iff :
    (∃ sets, naming.operationSets doc = .ok sets) ↔
      ∀ route ∈ doc.routes, ∃ op, naming.operation doc route = .ok op := by
  simp only [← fault?_eq_none_iff, naming.fault?_operationSets, List.findSome?_eq_none_iff]

theorem exists_allModels_iff :
    (∃ models, naming.allModels doc = .ok models) ↔
      ∀ d ∈ doc.definitions.entries, d.2.faults doc.definitions = [] := by
  rw [allModels, exists_mapM_iff]
  refine forall₂_congr fun d _ => ?_
  rw [← fault?_eq_none_iff, naming.fault?_model, Option.map_eq_none_iff, List.head?_eq_none_iff]

end Naming

/-! ### Passes -/

theorem Schema.mem_partRefs {schema : Schema} {path : String} :
    path ∈ schema.partRefs ↔ .ref path ∈ schema.allOf := by
  unfold partRefs
  rw [List.mem_filterMap]
  constructor
  · rintro ⟨part, hpart, hpath⟩
    cases part with
    | ref path' => exact Option.some.inj hpath ▸ hpart
    | inline part => cases hpath
  · exact fun hpart => ⟨.ref path, hpart, rfl⟩

section Passes

variable {config : Config} {doc : Document} {pass : Pass}

/-- The parts of a definition lead to definitions if the references among them do. -/
theorem leadsInto_iff {definitions : Dict Schema} {schema : Schema} :
    (∀ part ∈ schema.allOf, part.LeadsInto definitions "#/definitions/") ↔
      ∀ path ∈ schema.partRefs,
        ∃ name ∈ definitions.keys, name ≠ "" ∧ path = definitionsStart ++ name := by
  constructor
  · exact fun h path hpath => h (.ref path) (Schema.mem_partRefs.mp hpath)
  · intro h part hpart
    cases part with
    | inline part => exact trivial
    | ref path => exact h path (Schema.mem_partRefs.mpr hpart)

/-- **A pass succeeds exactly for a document that is checked.** -/
theorem exists_generate_iff :
    (∃ pass, generate config doc = .ok pass) ↔ doc.Checked := by
  have hstages : (∃ pass, generate config doc = .ok pass) ↔
      (∃ models, config.naming.allModels doc = .ok models) ∧
        ∃ sets, config.naming.operationSets doc = .ok sets := by
    constructor
    · rintro ⟨pass, hpass⟩
      obtain ⟨hmodels, sets, -, hsets, -⟩ := generate_ok hpass
      exact ⟨⟨_, hmodels⟩, sets, hsets⟩
    · rintro ⟨⟨models, hmodels⟩, sets, hsets⟩
      exact exists_generate hmodels hsets
  rw [hstages, Naming.exists_allModels_iff, Naming.exists_operationSets_iff]
  simp only [Schema.faults_eq_nil_iff, ← leadsInto_iff, Naming.exists_operation_iff]
  constructor
  · rintro ⟨hmodels, hroutes⟩
    exact ⟨fun d hd => (hmodels d hd).1, fun route hr => (hroutes route hr).1,
      fun d hd => (hmodels d hd).2, fun route hr => (hroutes route hr).2⟩
  · intro h
    exact ⟨fun d hd => ⟨h.parts d hd, h.definition_leaves d hd⟩,
      fun route hr => ⟨h.shared route hr, h.route_leaves route hr⟩⟩

theorem Document.Checked.isReference (h : doc.Checked) {path : String}
    (hpath : path ∈ doc.leafPaths) : IsReference path := by
  rcases List.mem_append.mp hpath with hpath | hpath
  · obtain ⟨d, hd, hleaf⟩ := List.mem_flatMap.mp hpath
    exact h.definition_leaves d hd path (Schema.mem_leaves_of_mem_nearLeaves hleaf)
  · obtain ⟨route, hroute, hleaf⟩ := List.mem_flatMap.mp hpath
    exact h.route_leaves route hroute path hleaf

theorem Document.Checked.defines (h : doc.Checked) {path : String}
    (hpath : path ∈ doc.partPaths) : doc.Defines path := by
  obtain ⟨d, hd, hpart⟩ := List.mem_flatMap.mp hpath
  obtain ⟨name, hname, -, heq⟩ := leadsInto_iff.mp (h.parts d hd) path hpart
  exact ⟨name, hname, heq⟩

theorem exists_model_iff (h : generate config doc = .ok pass) {path : String} :
    (∃ m ∈ pass.models, path = "#/definitions/" ++ m.name) ↔ doc.Defines path := by
  unfold Document.Defines
  rw [← names_models h]
  constructor
  · rintro ⟨m, hm, heq⟩
    exact ⟨m.name, List.mem_map_of_mem hm, heq⟩
  · rintro ⟨name, hname, heq⟩
    obtain ⟨m, hm, rfl⟩ := List.mem_map.mp hname
    exact ⟨m, hm, heq⟩

end Passes

/-- How far the references of a pass that succeeded can be relied on. -/
structure Closure (config : Config) (doc : Document) (pass : Pass) : Prop where
  /-- The references among the parts lead to definitions. -/
  parts : ∀ path ∈ doc.partPaths, doc.Defines path
  /-- The leaves have the form of such references, and that is all. -/
  leaves : ∀ path ∈ doc.leafPaths, ∃ name, name ≠ "" ∧ path = "#/definitions/" ++ name
  /-- All paths lead to definitions exactly if the leaves lead to models of the pass. -/
  closed_iff : (∀ path ∈ doc.leafPaths ++ doc.partPaths, doc.Defines path) ↔
    ∀ path ∈ doc.leafPaths, ∃ m ∈ pass.models, path = "#/definitions/" ++ m.name
  /-- A definition that a route refers to is imported, also one that is not there. -/
  dangling : ∀ route ∈ doc.routes, ∀ name ∈ doc.referencesAt route,
    name ∉ doc.definitions.keys →
      config.naming.modelImport (config.naming.modelName name) ∈
          pass.refs.map ImportEntry.importPath ∧
        ∀ m ∈ pass.models, m.name ≠ name

/-- **What a pass checks about references, and what it leaves open.** -/
theorem closure_of_generate (config : Config) (doc : Document) :
    ((∃ pass, generate config doc = .ok pass) ↔ doc.Checked) ∧
      ∀ pass, generate config doc = .ok pass → Closure config doc pass := by
  refine ⟨exists_generate_iff, fun pass h => ?_⟩
  have hchecked : doc.Checked := exists_generate_iff.mp ⟨pass, h⟩
  refine ⟨fun _ => hchecked.defines, fun _ => hchecked.isReference, ?_, ?_⟩
  · simp only [exists_model_iff h, List.forall_mem_append]
    constructor
    · exact fun hall => hall.1
    · exact fun hleaves => ⟨hleaves, fun _ => hchecked.defines⟩
  · intro route hroute name hname hmissing
    obtain ⟨set, hset, hmentions⟩ := exists_mentions h hroute hname
    refine ⟨(mem_paths_refs h).mpr ⟨set, hset, hmentions⟩, fun m hm hsame => hmissing ?_⟩
    rw [← names_models h, ← hsame]
    exact List.mem_map_of_mem hm

/-- A model and a route that refer to definitions that are not there. -/
def strayDocument : Document where
  swagger := "2.0"
  info := { title := "Strays", version := "1" }
  paths := ⟨[("/pets", {
    get := some {
      responses := ⟨[("200", .inline {
        schema := some (.array (.ref "#/definitions/Stray") {}) })], by simp⟩ } })], by simp⟩
  definitions := ⟨[("Pet", {
    properties := ⟨[("owner", .ref "#/definitions/Owner")], by simp⟩ })], by simp⟩

theorem closure_stray :
    ∃ pass, generate .standard strayDocument = .ok pass ∧
      strayDocument.leafPaths = ["#/definitions/Owner", "#/definitions/Stray"] ∧
      strayDocument.definitions.keys = ["Pet"] ∧
      pass.refs.map ImportEntry.importPath = ["model/stray"] ∧
      pass.targets.map RenderTarget.path =
        ["generated-code/rule/src/model/pet.ts",
          "generated-code/rule/src/validator/defaultApi.ts"] ∧
      Closure .standard strayDocument pass := by
  have hview : (generate .standard strayDocument).toOption.map
      (fun pass => (pass.refs.map ImportEntry.importPath, pass.targets.map RenderTarget.path)) =
        some (["model/stray"], ["generated-code/rule/src/model/pet.ts",
          "generated-code/rule/src/validator/defaultApi.ts"]) := by
    decide +kernel
  obtain ⟨pass, hpass, hseen⟩ := exists_ok_of_map hview
  obtain ⟨hrefs, htargets⟩ := Prod.mk.inj hseen
  exact ⟨pass, hpass, by decide +kernel, rfl, hrefs, htargets,
    (closure_of_generate .standard strayDocument).2 pass hpass⟩

end SwaggerClient
