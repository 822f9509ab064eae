/-
What a pass consists of, part by part.

Models stand for the definitions one by one, and each is found under the name of its
definition.  Files come from two products, of the models with the templates for models and
of the operation sets with the templates for sets.  The second product has a way out, for a
set that has no file name yet; it is never taken in a pass, because normalizing names the
file of every set (`apiFilename_of_mem`).  So there are as many files as the templates say
(`Config.length_expectedTargets`).

Templates see the additional properties of the settings with two keys written over them.
Writing keeps the keys in their places (`Dict.keys_insert`) and the other values as they
are (`Dict.find?_insert`), also where the settings use one of the two keys themselves.
-/
import SwaggerClient.Proofs.Client.Pass
import SwaggerClient.Proofs.Dict

namespace SwaggerClient

/-! ### Files -/

section Files

variable {config : Config} {doc : Document} {pass : Pass}

/-- **Every set of a pass has a file name.** -/
theorem apiFilename_of_mem (h : generate config doc = .ok pass) {set : OperationSet}
    (hset : set ∈ pass.operationSets) :
    set.apiFilename = some (Naming.apiFilename set.classname) := by
  obtain ⟨sets, -, hnormal⟩ := generate_sets h
  obtain ⟨grouped, -, hnorm⟩ := exists_of_mem_right hnormal hset
  rw [hnorm.apiFilename_eq, hnorm.classname_eq]

/-- A set with a file name has a file for each template. -/
theorem Config.apiTargets_of_some {set : OperationSet} {filename : String}
    (h : set.apiFilename = some filename) :
    config.apiTargets set = config.apiTemplates.entries.map fun template =>
      ⟨.api, set.classname, template.1, config.apiFolder ++ "/" ++ filename ++ template.2⟩ := by
  unfold apiTargets
  rw [h]
  rfl

/-- The files that a pass should have: for each model one for each template, then for each
set. -/
def Config.expectedTargets (config : Config) (models : List Model) (sets : List OperationSet) :
    List RenderTarget :=
  (models.flatMap fun m => config.modelTemplates.entries.map fun template => {
      kind := .model
      name := m.name
      template := template.1
      path := config.modelFolder ++ "/" ++ m.classFilename ++ template.2 }) ++
    sets.flatMap fun set => config.apiTemplates.entries.map fun template => {
      kind := .api
      name := set.classname
      template := template.1
      path := config.apiFolder ++ "/" ++ Naming.apiFilename set.classname ++ template.2 }

/-- **No set is skipped:** the files of a pass are those that it should have. -/
theorem targets_eq_expected (h : generate config doc = .ok pass) :
    pass.targets = config.expectedTargets pass.models pass.operationSets := by
  have hsets : pass.operationSets.flatMap config.apiTargets =
      pass.operationSets.flatMap fun set => config.apiTemplates.entries.map fun template =>
        ⟨.api, set.classname, template.1,
          config.apiFolder ++ "/" ++ Naming.apiFilename set.classname ++ template.2⟩ :=
    List.flatMap_congr fun set hset => Config.apiTargets_of_some (apiFilename_of_mem h hset)
  rw [generate_targets h, Config.targets, hsets]
  rfl

theorem Config.length_expectedTargets (config : Config) (models : List Model)
    (sets : List OperationSet) :
    (config.expectedTargets models sets).length =
      models.length * config.modelTemplates.size + sets.length * config.apiTemplates.size := by
  simp [expectedTargets, List.length_flatMap, Dict.size]

end Files

/-! ### Properties for templates -/

theorem templateProperties_eq {config : Config} {doc : Document} {pass : Pass}
    (h : generate config doc = .ok pass) :
    pass.templateProperties =
      (config.additionalProperties.insert "apiVersion" (.string config.apiVersion)).insert "refs"
        (.array (pass.refs.map ImportEntry.toJson)) := by
  rw [Pass.templateProperties, generate_properties h]
  rfl

/-- Of two keys that are written, the new ones come last in the order of the writes. -/
theorem Dict.keys_insert_insert {α : Type} (d : Dict α) {first second : String} (x y : α)
    (hne : second ≠ first) :
    ((d.insert first x).insert second y).keys =
      d.keys ++ [first, second].filter fun key => !d.contains key := by
  have hkeys : ∀ key, (!d.contains key) = decide (key ∉ d.keys) := by
    intro key
    rw [contains, List.contains_eq_mem, decide_not]
  rw [keys_insert, keys_insert, List.append_assoc]
  by_cases hfirst : first ∈ d.keys
  · by_cases hsecond : second ∈ d.keys <;> simp [hkeys, hfirst, hsecond]
  · by_cases hsecond : second ∈ d.keys <;> simp [hkeys, hne, hfirst, hsecond]

/-! ### The pass -/

/-- What a pass consists of. -/
structure Layout (config : Config) (doc : Document) (pass : Pass) : Prop where
  /-- Models are made of the definitions, in the same order. -/
  models : List.Forall₂ (fun e m => config.naming.model doc.definitions e.1 e.2 = .ok m)
    doc.definitions.entries pass.models
  /-- The model of a definition is found under its name. -/
  found : ∀ e ∈ doc.definitions.entries, ∃ m,
    config.naming.model doc.definitions e.1 e.2 = .ok m ∧ pass.model? e.1 = some m
  named : ∀ set ∈ pass.operationSets, set.apiFilename = some (Naming.apiFilename set.classname)
  targets_eq : pass.targets = config.expectedTargets pass.models pass.operationSets
  targets_length : pass.targets.length =
    pass.models.length * config.modelTemplates.size +
      pass.operationSets.length * config.apiTemplates.size
  version : pass.templateProperties.find? "apiVersion" = some (.string config.apiVersion)
  /-- The imports of the pass are published in order, each with its members by name. -/
  refs : pass.templateProperties.find? "refs" =
    some (.array (pass.refs.map fun entry => .object [
      ("classname", .string entry.classname),
      ("filename", .string entry.filename),
      ("importPath", .string entry.importPath)]))
  /-- Whatever else the settings hold is unchanged, and there is nothing else. -/
  others : ∀ key, key ≠ "apiVersion" → key ≠ "refs" →
    pass.templateProperties.find? key = config.additionalProperties.find? key
  /-- The keys of the settings stay in order, and the two keys come behind if they are new. -/
  keys_eq : pass.templateProperties.keys = config.additionalProperties.keys ++
    ["apiVersion", "refs"].filter fun key => !config.additionalProperties.contains key

/-- **The shape of a pass.** -/
theorem layout_of_generate (config : Config) (doc : Document) (pass : Pass)
    (h : generate config doc = .ok pass) : Layout config doc pass where
  models := generate_definitions h
  found := by
    intro e he
    obtain ⟨m, hfound, hm⟩ := model?_definition h he
    exact ⟨m, hm, hfound⟩
  named := fun _ hset => apiFilename_of_mem h hset
  targets_eq := targets_eq_expected h
  targets_length := by
    rw [targets_eq_expected h, config.length_expectedTargets]
  version := by
    rw [templateProperties_eq h, Dict.find?_insert, if_neg (by decide), Dict.find?_insert,
      if_pos rfl]
  refs := by
    rw [templateProperties_eq h, Dict.find?_insert, if_pos rfl]
    rfl
  others := by
    intro key hversion hrefs
    rw [templateProperties_eq h, Dict.find?_insert, if_neg hrefs, Dict.find?_insert,
      if_neg hversion]
  keys_eq := by
    rw [templateProperties_eq h, Dict.keys_insert_insert _ _ _ (by decide)]

/-- Settings with two templates for models, and with an entry of their own for the imports. -/
def configWithOwnRefs : Config :=
  { Config.standard with
    modelTemplates := ⟨[("model.mustache", ".ts"), ("spec.mustache", ".spec.ts")], by simp⟩
    additionalProperties := ⟨[("refs", .string "none"), ("vendor", .string "zoo")], by simp⟩ }

/-- Two definitions, and routes under two tags. -/
def zooDocument : Document where
  swagger := "2.0"
  info := { title := "Zoo", version := "1" }
  paths := ⟨[
    ("/cages", { get := some {
      tags := ["keeper", "guest"]
      responses := ⟨[("200", .inline { schema := some (.ref "#/definitions/cage") })],
        by simp⟩ } })], by simp⟩
  definitions := ⟨[("zoo-animal", {}), ("cage", {})], by simp⟩

theorem layout_zoo :
    ∃ pass, generate configWithOwnRefs zooDocument = .ok pass ∧
      pass.models.map (·.classname) = ["ZooAnimal", "Cage"] ∧
      pass.targets.map (fun target => (target.name, target.path)) = [
        ("zoo-animal", "generated-code/rule/src/model/zooAnimal.ts"),
        ("zoo-animal", "generated-code/rule/src/model/zooAnimal.spec.ts"),
        ("cage", "generated-code/rule/src/model/cage.ts"),
        ("cage", "generated-code/rule/src/model/cage.spec.ts"),
        ("GuestApi", "generated-code/rule/src/validator/guestApi.ts"),
        ("KeeperApi", "generated-code/rule/src/validator/keeperApi.ts")] ∧
      pass.templateProperties.keys = ["refs", "vendor", "apiVersion"] ∧
      pass.templateProperties.find? "refs" = some (.array [.object [
        ("classname", .string "Cage"),
        ("filename", .string "model/cage"),
        ("importPath", .string "model/cage")]]) ∧
      Layout configWithOwnRefs zooDocument pass := by
  have hview : (generate configWithOwnRefs zooDocument).toOption.map (fun pass =>
      (pass.models.map (·.classname),
        pass.targets.map (fun target => (target.name, target.path)),
        pass.templateProperties.keys, pass.refs)) = some (
      ["ZooAnimal", "Cage"],
      [("zoo-animal", "generated-code/rule/src/model/zooAnimal.ts"),
        ("zoo-animal", "generated-code/rule/src/model/zooAnimal.spec.ts"),
        ("cage", "generated-code/rule/src/model/cage.ts"),
        ("cage", "generated-code/rule/src/model/cage.spec.ts"),
        ("GuestApi", "generated-code/rule/src/validator/guestApi.ts"),
        ("KeeperApi", "generated-code/rule/src/validator/keeperApi.ts")],
      ["refs", "vendor", "apiVersion"],
      [{ importPath := "model/cage", filename := "model/cage", classname := "Cage" }]) := by
    decide +kernel
  obtain ⟨pass, hpass, hview⟩ := exists_ok_of_map hview
  obtain ⟨hmodels, hview⟩ := Prod.mk.inj hview
  obtain ⟨htargets, hview⟩ := Prod.mk.inj hview
  obtain ⟨hkeys, hrefs⟩ := Prod.mk.inj hview
  have hlayout := layout_of_generate configWithOwnRefs zooDocument pass hpass
  have hpublished := hlayout.refs
  rw [hrefs] at hpublished
  exact ⟨pass, hpass, hmodels, htargets, hkeys, hpublished, hlayout⟩

end SwaggerClient
