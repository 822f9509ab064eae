/-
The imports of a pass: each model once, in the order of first mention.

Imports are made unique three times, inside an operation, inside a set and over all sets,
and each time by other means.  Together they amount to one thing.  A set imports the models
of its operations in order, each once, and its entries stand for its imports one by one
(`ImportsOperations`); the pass keeps the first entry of each path over all sets
(`refs_eq_firstBy`).  So a model that some operation mentions has one entry in the pass, no
more and no fewer, and an entry that no operation asked for is not there
(`collectedRefs_of_generate`).
-/
import SwaggerClient.Proofs.Client.Grouping
import SwaggerClient.Proofs.Client.Pass

namespace SwaggerClient

/-! ### One set -/

/-- The imports of the models that a set mentions, as often as it does: operation by
operation, the types of the parameters before the type that is returned. -/
def OperationSet.mentions (naming : Naming) (set : OperationSet) : List String :=
  set.operations.flatMap fun op =>
    (op.parameters.flatMap (fun p => p.dataType.models) ++
      op.returnType.toList.flatMap TypeExpr.models).map naming.modelImport

/-- A set imports what it mentions, and has an entry for each import. -/
structure ImportsOperations (naming : Naming) (set : OperationSet) : Prop where
  imports_eq : set.imports = Text.firstOccurrences (set.mentions naming)
  nodup_imports : set.imports.Nodup
  /-- The entries stand for the imports one by one, under their own paths. -/
  entries : List.Forall₂ (fun path entry => entry.importPath = path ∧ entry.filename = path)
    set.imports set.importEntries

theorem OperationSet.mem_mentions {naming : Naming} {set : OperationSet} {path : String} :
    path ∈ set.mentions naming ↔
      ∃ op ∈ set.operations, ∃ model ∈ op.models, path = naming.modelImport model := by
  unfold mentions
  rw [List.mem_flatMap]
  constructor
  · rintro ⟨op, hop, hpath⟩
    obtain ⟨model, hmodel, rfl⟩ := List.mem_map.mp hpath
    exact ⟨op, hop, model, hmodel, rfl⟩
  · rintro ⟨op, hop, model, hmodel, rfl⟩
    exact ⟨op, hop, List.mem_map_of_mem hmodel⟩

/-- Normalizing operations changes nothing about the models that they mention. -/
theorem mentions_of_normal {naming : Naming} {package : String} {set set' : OperationSet}
    (h : Normal package set set') : set'.mentions naming = set.mentions naming := by
  unfold OperationSet.mentions
  rw [h.operations_eq, List.flatMap_map]
  rfl

theorem paths_importEntries {naming : Naming} {set : OperationSet}
    (h : ImportsOperations naming set) :
    set.importEntries.map ImportEntry.importPath = set.imports := by
  have hall := h.entries
  have hpath : ∀ (path : String) (entry : ImportEntry),
      (entry.importPath = path ∧ entry.filename = path) → entry.importPath = id path :=
    fun _ _ hentry => hentry.1
  rw [map_eq_of_forall₂ hpath hall, List.map_id]

/-! ### The pass -/

section Pass

variable {config : Config} {doc : Document} {pass : Pass}

/-- **Every set of a pass imports the models of its operations,** in order and each once. -/
theorem importsOperations_of_mem (h : generate config doc = .ok pass) {set : OperationSet}
    (hset : set ∈ pass.operationSets) : ImportsOperations config.naming set := by
  obtain ⟨sets, hsets, hnormal⟩ := generate_sets h
  obtain ⟨build, -, rfl⟩ := Naming.sets_of_operationSets hsets
  obtain ⟨grouped, hgrouped, hnorm⟩ := exists_of_mem_right hnormal hset
  obtain ⟨tag, -, rfl⟩ := List.mem_map.mp hgrouped
  have himports : set.imports = Text.firstOccurrences (set.mentions config.naming) := by
    rw [hnorm.imports_eq, mentions_of_normal hnorm]
    rfl
  refine ⟨himports, ?_, ?_⟩
  · rw [himports]
    exact Text.nodup_firstOccurrences _
  · rw [hnorm.imports_eq]
    refine List.Forall₂.imp (fun path entry hentry => ?_)
      (ImportEntry.resolveAll_eq_ok_iff.mp hnorm.resolved)
    obtain ⟨hpath, hfile, -⟩ := ImportEntry.of_resolve hentry
    exact ⟨hpath, hfile⟩

/-- A path has an entry in the pass exactly if some set mentions its model. -/
theorem mem_paths_refs (h : generate config doc = .ok pass) {path : String} :
    path ∈ pass.refs.map ImportEntry.importPath ↔
      ∃ set ∈ pass.operationSets, path ∈ set.mentions config.naming := by
  have hset : ∀ set ∈ pass.operationSets, (path ∈ set.importEntries.map ImportEntry.importPath ↔
      path ∈ set.mentions config.naming) := by
    intro set hset
    have himports := importsOperations_of_mem h hset
    rw [paths_importEntries himports, himports.imports_eq, Text.mem_firstOccurrences]
  rw [refs_eq_firstBy h, Text.map_firstBy, Text.mem_firstOccurrences, List.map_flatMap,
    List.mem_flatMap]
  exact exists_congr fun set => and_congr_right fun hmem => hset set hmem

theorem nodup_paths_refs (h : generate config doc = .ok pass) :
    (pass.refs.map ImportEntry.importPath).Nodup := by
  rw [refs_eq_firstBy h]
  exact Text.nodup_map_firstBy _ _

theorem count_paths_refs (h : generate config doc = .ok pass) {set : OperationSet}
    (hset : set ∈ pass.operationSets) {path : String} (hpath : path ∈ set.mentions config.naming) :
    (pass.refs.map ImportEntry.importPath).count path = 1 :=
  List.count_eq_one_of_mem (nodup_paths_refs h) ((mem_paths_refs h).mpr ⟨set, hset, hpath⟩)

/-- What a route refers to is mentioned by the sets of its tags. -/
theorem exists_mentions (h : generate config doc = .ok pass) {route : Route}
    (hroute : route ∈ doc.routes) {name : String} (hname : name ∈ doc.referencesAt route) :
    ∃ set ∈ pass.operationSets,
      config.naming.modelImport (config.naming.modelName name) ∈ set.mentions config.naming := by
  obtain ⟨sets, hsets, hnormal⟩ := generate_sets h
  obtain ⟨build, hbuild, rfl⟩ := Naming.sets_of_operationSets hsets
  obtain ⟨tag, htag⟩ : ∃ tag, tag ∈ route.operation.listedTags := by
    unfold Operation.listedTags
    split
    · exact ⟨defaultTag, List.mem_cons_self⟩
    · rename_i hsome
      exact List.exists_mem_of_ne_nil _ (by simpa using hsome)
  have hused : tag ∈ doc.usedTags := Document.mem_usedTags.mpr ⟨route, hroute, htag⟩
  have hunder : route ∈ doc.routesUnder tag := by
    rw [Document.routesUnder_eq]
    refine List.mem_flatMap.mpr ⟨route, hroute, List.mem_replicate.mpr ⟨?_, rfl⟩⟩
    exact (List.count_pos_iff.mpr htag).ne'
  obtain ⟨set, hset, hnorm⟩ := exists_of_mem_left hnormal (List.mem_map_of_mem hused)
  refine ⟨set, hset, ?_⟩
  rw [mentions_of_normal hnorm, OperationSet.mem_mentions]
  refine ⟨build route, List.mem_map_of_mem hunder, config.naming.modelName name, ?_, rfl⟩
  rw [Naming.models_operation (hbuild route hroute)]
  exact List.mem_map_of_mem hname

end Pass

/-- What it means that a pass collects the imports of its operations. -/
structure CollectedRefs (config : Config) (doc : Document) (pass : Pass) : Prop where
  sets : ∀ set ∈ pass.operationSets, ImportsOperations config.naming set
  /-- Of all entries of the sets in a row, the first of each path stays. -/
  refs_eq : pass.refs =
    Text.firstBy ImportEntry.importPath (pass.operationSets.flatMap (·.importEntries))
  /-- A model that an operation mentions has one entry. -/
  complete : ∀ set ∈ pass.operationSets, ∀ op ∈ set.operations, ∀ model ∈ op.models,
    (pass.refs.map ImportEntry.importPath).count (config.naming.modelImport model) = 1
  /-- So has every definition that a route of the document refers to. -/
  complete_document : ∀ route ∈ doc.routes, ∀ name ∈ doc.referencesAt route,
    (pass.refs.map ImportEntry.importPath).count
      (config.naming.modelImport (config.naming.modelName name)) = 1
  /-- An entry comes from an operation that mentions its model. -/
  sound : ∀ entry ∈ pass.refs, ∃ set ∈ pass.operationSets, ∃ op ∈ set.operations,
    ∃ model ∈ op.models, entry.importPath = config.naming.modelImport model

/-- **The imports of a pass are those of its operations,** each once and in the order of
first mention. -/
theorem collectedRefs_of_generate (config : Config) (doc : Document) (pass : Pass)
    (h : generate config doc = .ok pass) : CollectedRefs config doc pass where
  sets := fun _ hset => importsOperations_of_mem h hset
  refs_eq := refs_eq_firstBy h
  complete := by
    intro set hset op hop model hmodel
    refine count_paths_refs h hset ?_
    exact OperationSet.mem_mentions.mpr ⟨op, hop, model, hmodel, rfl⟩
  complete_document := by
    intro route hroute name hname
    obtain ⟨set, hset, hmentions⟩ := exists_mentions h hroute hname
    exact count_paths_refs h hset hmentions
  sound := by
    intro entry hentry
    obtain ⟨set, hset, hmentions⟩ :=
      (mem_paths_refs h).mp (List.mem_map_of_mem hentry)
    obtain ⟨op, hop, model, hmodel, hpath⟩ := OperationSet.mem_mentions.mp hmentions
    exact ⟨set, hset, op, hop, model, hmodel, hpath⟩

/-- Three operations under two tags.  `Pet` is mentioned twice by one of them and by both
sets, and the set that comes first in the pass mentions `Order` before it. -/
def shelterDocument : Document where
  swagger := "2.0"
  info := { title := "Shelter", version := "1" }
  paths := ⟨[
    ("/pets", {
      post := some {
        tags := ["pet"]
        parameters := [.inline {
          name := "pet", location := .body, schema := some (.ref "#/definitions/Pet") }]
        responses := ⟨[("200", .inline {
          schema := some (.array (.ref "#/definitions/Pet") {}) })], by simp⟩ } }),
    ("/orders", {
      get := some {
        tags := ["admin", "pet"]
        responses := ⟨[("default", .inline {
          schema := some (.ref "#/definitions/Order") })], by simp⟩ }
      put := some {
        tags := ["admin"]
        parameters := [.inline {
          name := "pet", location := .body, schema := some (.ref "#/definitions/Pet") }] } })],
    by simp⟩

theorem collectedRefs_shelter :
    ∃ pass, generate .standard shelterDocument = .ok pass ∧
      pass.operationSets.map (·.imports) =
        [["model/order", "model/pet"], ["model/pet", "model/order"]] ∧
      pass.refs =
        [⟨"model/order", "model/order", "Order"⟩, ⟨"model/pet", "model/pet", "Pet"⟩] ∧
      CollectedRefs .standard shelterDocument pass := by
  have hrefs : (generate .standard shelterDocument).toOption.map
      (fun pass => (pass.operationSets.map (·.imports), pass.refs)) =
        some ([["model/order", "model/pet"], ["model/pet", "model/order"]],
          [⟨"model/order", "model/order", "Order"⟩, ⟨"model/pet", "model/pet", "Pet"⟩]) := by
    decide +kernel
  obtain ⟨pass, hpass, hview⟩ := exists_ok_of_map hrefs
  obtain ⟨himports, hentries⟩ := Prod.mk.inj hview
  exact ⟨pass, hpass, himports, hentries,
    collectedRefs_of_generate .standard shelterDocument pass hpass⟩

end SwaggerClient
