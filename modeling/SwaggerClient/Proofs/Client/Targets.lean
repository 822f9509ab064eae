/-
Which files of a pass meet.

A file goes under the name of its model or of its set, and naming is not injective: two
definitions may share a file, and two tags a type.  Nothing in a pass looks for that.  Where
paths can be taken apart again (`Config.Readable`), this is the only way in which two files
can meet: the paths of a pass are distinct exactly if the names of the files are
(`nodup_pathsIn_iff`, `separateFiles_of_generate`).

The sets of a pass are those of its tags in order (`operationSets_eq`).  A look-up by type
finds the set of the first tag of this type, so it finds every set where no type is shared.
-/
import SwaggerClient.Proofs.Client.Grouping
import SwaggerClient.Proofs.Client.Normalizing
import SwaggerClient.Proofs.Client.Pass
import SwaggerClient.Proofs.Text.Separators
import Mathlib.Data.List.Infix

namespace SwaggerClient

/-! ### Paths -/

/-- The name of a file, made of words. -/
def FileName (f : String) : Prop := Text.Unbroken f.toList

theorem fileName_camelCase (s : String) : FileName (Text.camelCase s) := by
  unfold FileName Text.camelCase
  rw [String.toList_ofList]
  exact Text.unbroken_camelChars s.toList

theorem FileName.slash_notMem {f : String} (h : FileName f) : '/' ∉ f.toList := by
  intro hslash
  have hsign := h '/' hslash
  exact absurd hsign (by decide)

/-- No ending is another one with something in front that could end a name. -/
def EndingsApart (exts : List String) : Prop :=
  ∀ e ∈ exts, ∀ e' ∈ exts, ∀ w, Text.Unbroken w → w ++ e'.toList = e.toList → w = []

instance (exts : List String) : Decidable (EndingsApart exts) :=
  decidable_of_iff (∀ e ∈ exts, ∀ e' ∈ exts, ∀ w ∈ e.toList.inits,
      Text.Unbroken w → w ++ e'.toList = e.toList → w = [])
    ⟨fun h e he e' he' w hw heq => h e he e' he' w ((List.mem_inits _ _).mpr ⟨_, heq⟩) hw heq,
      fun h e he e' he' w _ hw heq => h e he e' he' w hw heq⟩

/-- One folder lies inside another. -/
def Inside (inner outer : String) : Prop := outer.toList ++ ['/'] <+: inner.toList

instance (inner outer : String) : Decidable (Inside inner outer) := by
  unfold Inside
  infer_instance

/-- The paths of files in a folder, each with every ending. -/
def pathsIn (folder : String) (exts files : List String) : List String :=
  files.flatMap fun f => exts.map fun e => folder ++ "/" ++ f ++ e

section Paths

variable {folder folder' f f' e e' : String} {files files' exts exts' : List String}

theorem mem_pathsIn {path : String} :
    path ∈ pathsIn folder exts files ↔
      ∃ f ∈ files, ∃ e ∈ exts, folder ++ "/" ++ f ++ e = path := by
  simp [pathsIn]

theorem toList_path (folder f e : String) :
    (folder ++ "/" ++ f ++ e).toList = folder.toList ++ '/' :: (f.toList ++ e.toList) := by
  simp

/-- **In a folder, a path decides its file and its ending.** -/
theorem path_inj (hf : FileName f) (hf' : FileName f') (hexts : EndingsApart exts)
    (he : e ∈ exts) (he' : e' ∈ exts)
    (h : folder ++ "/" ++ f ++ e = folder ++ "/" ++ f' ++ e') : f = f' ∧ e = e' := by
  have hchars := congrArg String.toList h
  rw [toList_path, toList_path] at hchars
  have hrest := (List.cons.inj (List.append_cancel_left hchars)).2
  obtain ⟨hfile, hext⟩ :=
    Text.append_inj_of_unbroken hf hf' (hexts e he e' he') (hexts e' he' e he) hrest
  exact ⟨String.toList_inj.mp hfile, String.toList_inj.mp hext⟩

/-- **The paths of a folder are distinct exactly if its files are,** if there is an ending
at all. -/
theorem nodup_pathsIn_iff (hfiles : ∀ f ∈ files, FileName f) (hexts : EndingsApart exts)
    (hnodup : exts.Nodup) : (pathsIn folder exts files).Nodup ↔ exts = [] ∨ files.Nodup := by
  have hone : ∀ f ∈ files, (exts.map fun e => folder ++ "/" ++ f ++ e).Nodup := by
    intro f hf
    refine hnodup.map_on fun e he e' he' heq => ?_
    exact (path_inj (hfiles f hf) (hfiles f hf) hexts he he' heq).2
  unfold pathsIn
  rw [List.nodup_flatMap, and_iff_right hone]
  by_cases hempty : exts = []
  · refine iff_of_true ?_ (Or.inl hempty)
    rw [hempty]
    exact List.pairwise_of_forall fun _ _ => List.disjoint_nil_left []
  · obtain ⟨e, he⟩ := List.exists_mem_of_ne_nil exts hempty
    rw [or_iff_right hempty]
    refine List.Pairwise.iff_of_mem fun {f f'} hf hf' => ?_
    constructor
    · rintro hdisjoint rfl
      -- one ending is enough for two files of one name to meet
      exact hdisjoint (List.mem_map_of_mem he) (List.mem_map_of_mem he)
    · intro hne path hpath hpath'
      obtain ⟨d, hd, rfl⟩ := List.mem_map.mp hpath
      obtain ⟨d', hd', heq⟩ := List.mem_map.mp hpath'
      exact hne (path_inj (hfiles f' hf') (hfiles f hf) hexts hd' hd heq).1.symm

/-- **Folders share no path,** unless an ending leads from one into the other. -/
theorem disjoint_pathsIn (hne : folder ≠ folder') (hfiles : ∀ f ∈ files, FileName f)
    (hfiles' : ∀ f ∈ files', FileName f)
    (hexts : ∀ e ∈ exts, '/' ∈ e.toList → ¬Inside folder' folder)
    (hexts' : ∀ e ∈ exts', '/' ∈ e.toList → ¬Inside folder folder') :
    (pathsIn folder exts files).Disjoint (pathsIn folder' exts' files') := by
  intro path hpath hpath'
  obtain ⟨f, hf, e, he, rfl⟩ := mem_pathsIn.mp hpath
  obtain ⟨f', hf', e', he', heq⟩ := mem_pathsIn.mp hpath'
  -- behind the folder, a slash can only stand in the ending
  have hslash : ∀ {f e : String}, FileName f → '/' ∈ f.toList ++ e.toList → '/' ∈ e.toList := by
    intro f e hfile hmem
    rcases List.mem_append.mp hmem with hmem | hmem
    · exact absurd hmem hfile.slash_notMem
    · exact hmem
  have hchars := congrArg String.toList heq.symm
  rw [toList_path, toList_path] at hchars
  rcases Text.append_slash_cases hchars with ⟨hsame, -⟩ | ⟨hinside, hmem⟩ | ⟨hinside, hmem⟩
  · exact hne (String.toList_inj.mp hsame)
  · exact hexts e he (hslash (hfiles f hf) hmem) hinside
  · exact hexts' e' he' (hslash (hfiles' f' hf') hmem) hinside

end Paths

/-! ### The sets of a pass -/

/-- One call on its own makes of a set what normalizing all sets makes of it. -/
theorem Normal.eq_once {package : String} {set set' : OperationSet} (h : Normal package set set') :
    set' = (set.once package).set := by
  obtain ⟨classname, apiFilename, operations, imports, importEntries⟩ := set'
  obtain ⟨hclassname, hfilename, hoperations, himports, hresolved⟩ := h
  unfold OperationSet.once OperationSet.normalize
  rw [hresolved, OperationSet.mk.injEq]
  exact ⟨hclassname, hfilename, hoperations, himports, rfl⟩

namespace Naming

/-- The operation set of a tag: the operations at its routes, normalized. -/
def setOf (naming : Naming) (doc : Document) (tag : String) : OperationSet :=
  let operations := (doc.routesUnder tag).map fun route =>
    (naming.operation doc route).toOption.getD default
  ((OperationSet.ofGroup (tag, naming.groupOf operations)).once naming.modelPackage).set

theorem classname_setOf (naming : Naming) (doc : Document) (tag : String) :
    (naming.setOf doc tag).classname = apiName tag :=
  OperationSet.classname_once _ _

theorem apiFilename_setOf (naming : Naming) (doc : Document) (tag : String) :
    (naming.setOf doc tag).apiFilename = some (apiFilename (apiName tag)) :=
  OperationSet.apiFilename_once _ _

end Naming

section Pass

variable {config : Config} {doc : Document} {pass : Pass}

/-- **The sets of a pass are those of its tags,** in order. -/
theorem operationSets_eq (h : generate config doc = .ok pass) :
    pass.operationSets = doc.usedTags.map (config.naming.setOf doc) := by
  obtain ⟨sets, hsets, hnormal⟩ := generate_sets h
  have hstep : ∀ set set' : OperationSet, Normal config.modelPackage set set' →
      id set' = (set.once config.modelPackage).set := fun _ _ hset => hset.eq_once
  have honce := map_eq_of_forall₂ hstep hnormal
  obtain ⟨build, hbuild, rfl⟩ := Naming.sets_of_operationSets hsets
  -- `build` is some function that is right on the routes; `setOf` asks the naming itself
  rw [← List.map_id pass.operationSets, honce, List.map_map]
  refine List.map_congr_left fun tag _ => ?_
  have hops : (doc.routesUnder tag).map build = (doc.routesUnder tag).map fun route =>
      (config.naming.operation doc route).toOption.getD default := by
    refine List.map_congr_left fun route hroute => ?_
    rw [hbuild route (doc.mem_routes hroute)]
    rfl
  unfold Naming.setOf
  rw [← hops]
  rfl

/-- **Where the files of a pass go:** those of the definitions in order, then those of the
tags. -/
theorem paths_targets (h : generate config doc = .ok pass) :
    pass.targets.map (·.path) =
      pathsIn config.modelFolder config.modelTemplates.values
          (doc.definitions.keys.map config.naming.modelFilename) ++
        pathsIn config.apiFolder config.apiTemplates.values
          (doc.usedTags.map fun tag => Naming.apiFilename (Naming.apiName tag)) := by
  have hfile : ∀ (e : String × Schema) (m : Model), ModelOf config.naming e.1 e.2 m →
      m.classFilename = config.naming.modelFilename e.1 := fun _ _ hof => hof.classFilename_eq
  have hfiles : pass.models.map Model.classFilename =
      doc.definitions.keys.map config.naming.modelFilename := by
    rw [map_eq_of_forall₂ hfile (generate_models h), Dict.keys, List.map_map]
    rfl
  have hmodel : ∀ m : Model, (config.modelTargets m).map (·.path) =
      config.modelTemplates.values.map (config.modelFilePath m.classFilename) := by
    intro m
    rw [Config.modelTargets, Dict.values, List.map_map, List.map_map]
    rfl
  have hset : ∀ tag : String, (config.apiTargets (config.naming.setOf doc tag)).map (·.path) =
      config.apiTemplates.values.map
        (config.apiFilePath (Naming.apiFilename (Naming.apiName tag))) := by
    intro tag
    rw [Config.apiTargets, Naming.apiFilename_setOf, Dict.values, List.map_map, List.map_map]
    rfl
  rw [generate_targets h, operationSets_eq h, Config.targets, List.map_append, List.map_flatMap,
    List.map_flatMap, List.flatMap_map, ← hfiles, pathsIn, pathsIn, List.flatMap_map,
    List.flatMap_map]
  simp only [hmodel, hset]
  rfl

/-- A look-up by type finds the set of the first tag of this type. -/
theorem operationSet?_eq (h : generate config doc = .ok pass) (name : String) :
    pass.operationSet? name =
      (doc.usedTags.find? fun tag => Naming.apiName tag == name).map (config.naming.setOf doc) := by
  have hname : (fun set : OperationSet => set.classname == name) ∘ config.naming.setOf doc =
      fun tag => Naming.apiName tag == name := by
    funext tag
    exact congrArg (· == name) (config.naming.classname_setOf doc tag)
  rw [Pass.operationSet?, operationSets_eq h, List.find?_map, hname]

theorem operationSet?_apiName (h : generate config doc = .ok pass)
    (hnodup : (doc.usedTags.map Naming.apiName).Nodup) {tag : String} (htag : tag ∈ doc.usedTags) :
    pass.operationSet? (Naming.apiName tag) = some (config.naming.setOf doc tag) := by
  rw [operationSet?_eq h]
  cases hfind : doc.usedTags.find? fun t => Naming.apiName t == Naming.apiName tag with
  | none => exact absurd (List.find?_eq_none.mp hfind tag htag) (by simp)
  | some t =>
      have hname : Naming.apiName t = Naming.apiName tag := by
        simpa using List.find?_some hfind
      rw [List.inj_on_of_nodup_map hnodup (List.mem_of_find?_eq_some hfind) htag hname]
      rfl

end Pass

/-! ### Distinct files -/

namespace Config

/-- Templates of a kind have endings of their own, and the kinds have folders of their own. -/
structure Separate (config : Config) : Prop where
  modelEndings : config.modelTemplates.values.Nodup
  apiEndings : config.apiTemplates.values.Nodup
  folders : config.modelFolder ≠ config.apiFolder

/-- No ending can be taken for the end of a name, and none leads from the folder of its kind
into that of the other kind. -/
structure Readable (config : Config) : Prop where
  modelEndings : EndingsApart config.modelTemplates.values
  apiEndings : EndingsApart config.apiTemplates.values
  modelFolder : ∀ e ∈ config.modelTemplates.values, '/' ∈ e.toList →
    ¬Inside config.apiFolder config.modelFolder
  apiFolder : ∀ e ∈ config.apiTemplates.values, '/' ∈ e.toList →
    ¬Inside config.modelFolder config.apiFolder

instance (config : Config) : Decidable config.Separate :=
  decidable_of_iff (_ ∧ _ ∧ _)
    ⟨fun h => ⟨h.1, h.2.1, h.2.2⟩, fun h => ⟨h.modelEndings, h.apiEndings, h.folders⟩⟩

instance (config : Config) : Decidable config.Readable :=
  decidable_of_iff (_ ∧ _ ∧ _ ∧ _)
    ⟨fun h => ⟨h.1, h.2.1, h.2.2.1, h.2.2.2⟩,
      fun h => ⟨h.modelEndings, h.apiEndings, h.modelFolder, h.apiFolder⟩⟩

end Config

/-- When the files of a pass are distinct, and when its types are. -/
structure SeparateFiles (config : Config) (doc : Document) (pass : Pass) : Prop where
  paths_iff : (pass.targets.map (·.path)).Nodup ↔
    (config.modelTemplates.values = [] ∨
      (doc.definitions.keys.map config.naming.modelFilename).Nodup) ∧
    (config.apiTemplates.values = [] ∨
      (doc.usedTags.map fun tag => Naming.apiFilename (Naming.apiName tag)).Nodup)
  sets_eq : pass.operationSets = doc.usedTags.map (config.naming.setOf doc)
  classnames_iff : (pass.operationSets.map (·.classname)).Nodup ↔
    (doc.usedTags.map Naming.apiName).Nodup
  lookup : ∀ name, pass.operationSet? name =
    (doc.usedTags.find? fun tag => Naming.apiName tag == name).map (config.naming.setOf doc)
  found : (doc.usedTags.map Naming.apiName).Nodup → ∀ tag ∈ doc.usedTags,
    pass.operationSet? (Naming.apiName tag) = some (config.naming.setOf doc tag)

/-- **The files of a pass are distinct exactly if their names are.**  The types of its sets
are distinct exactly if the tags have types of their own, and then each set is found by its
type. -/
theorem separateFiles_of_generate (config : Config) (doc : Document) (pass : Pass)
    (h : generate config doc = .ok pass) (hseparate : config.Separate)
    (hreadable : config.Readable) : SeparateFiles config doc pass where
  paths_iff := by
    have hmodelFile : ∀ f ∈ doc.definitions.keys.map config.naming.modelFilename, FileName f := by
      intro f hf
      obtain ⟨name, -, rfl⟩ := List.mem_map.mp hf
      exact fileName_camelCase _
    have hapiFile : ∀ f ∈ doc.usedTags.map fun tag => Naming.apiFilename (Naming.apiName tag),
        FileName f := by
      intro f hf
      obtain ⟨tag, -, rfl⟩ := List.mem_map.mp hf
      exact fileName_camelCase _
    have hdisjoint := disjoint_pathsIn hseparate.folders hmodelFile hapiFile
      hreadable.modelFolder hreadable.apiFolder
    rw [paths_targets h, List.nodup_append',
      nodup_pathsIn_iff hmodelFile hreadable.modelEndings hseparate.modelEndings,
      nodup_pathsIn_iff hapiFile hreadable.apiEndings hseparate.apiEndings]
    exact and_congr_right fun _ => and_iff_left hdisjoint
  sets_eq := operationSets_eq h
  classnames_iff := by
    have hname : OperationSet.classname ∘ config.naming.setOf doc = Naming.apiName :=
      funext (config.naming.classname_setOf doc)
    rw [operationSets_eq h, List.map_map, hname]
  lookup := operationSet?_eq h
  found := fun hnodup _ htag => operationSet?_apiName h hnodup htag

/-- The standard settings with endings for two model templates. -/
def configWithEndings (first second : String) : Config :=
  { Config.standard with
    modelTemplates := ⟨[("model.mustache", first), ("spec.mustache", second)], by simp⟩ }

/-- Two definitions and two tags that no naming confuses. -/
def storeDocument : Document where
  swagger := "2.0"
  info := { title := "Store", version := "1" }
  paths := ⟨[
    ("/pets", { get := some { operationId := some "listPets", tags := ["pet"] } }),
    ("/orders", { get := some { operationId := some "listOrders", tags := ["pet store"] } })],
    by simp⟩
  definitions := ⟨[("pet-status", {}), ("Pet", {})], by simp⟩

theorem separateFiles_store :
    ∃ pass, generate (configWithEndings "Model.ts" "/spec.ts") storeDocument = .ok pass ∧
      pass.targets.map (·.path) = [
        "generated-code/rule/src/model/petStatusModel.ts",
        "generated-code/rule/src/model/petStatus/spec.ts",
        "generated-code/rule/src/model/petModel.ts",
        "generated-code/rule/src/model/pet/spec.ts",
        "generated-code/rule/src/validator/petApi.ts",
        "generated-code/rule/src/validator/petStoreApi.ts"] ∧
      (configWithEndings "Model.ts" "/spec.ts").Separate ∧
      (configWithEndings "Model.ts" "/spec.ts").Readable ∧
      SeparateFiles (configWithEndings "Model.ts" "/spec.ts") storeDocument pass := by
  have hpaths : (generate (configWithEndings "Model.ts" "/spec.ts") storeDocument).toOption.map
      (fun pass => pass.targets.map (·.path)) = some [
        "generated-code/rule/src/model/petStatusModel.ts",
        "generated-code/rule/src/model/petStatus/spec.ts",
        "generated-code/rule/src/model/petModel.ts",
        "generated-code/rule/src/model/pet/spec.ts",
        "generated-code/rule/src/validator/petApi.ts",
        "generated-code/rule/src/validator/petStoreApi.ts"] := by decide +kernel
  obtain ⟨pass, hpass, htargets⟩ := exists_ok_of_map hpaths
  have hseparate : (configWithEndings "Model.ts" "/spec.ts").Separate := by decide +kernel
  have hreadable : (configWithEndings "Model.ts" "/spec.ts").Readable := by decide +kernel
  exact ⟨pass, hpass, htargets, hseparate, hreadable,
    separateFiles_of_generate _ _ pass hpass hseparate hreadable⟩

/-- Two definitions that share a file, and two tags that share a type. -/
def twinsDocument : Document where
  swagger := "2.0"
  info := { title := "Twins", version := "1" }
  paths := ⟨[
    ("/a", { get := some { operationId := some "first", tags := ["Pet"] } }),
    ("/b", { get := some { operationId := some "second", tags := ["pet"] } })], by simp⟩
  definitions := ⟨[("pet-status", {}), ("pet_status", {})], by simp⟩

/-- Two definitions with files of their own, and a tag. -/
def growingDocument : Document where
  swagger := "2.0"
  info := { title := "Growing", version := "1" }
  paths := ⟨[("/x", { get := some { operationId := some "only", tags := ["x"] } })], by simp⟩
  definitions := ⟨[("pet", {}), ("petX", {})], by simp⟩

/-- The standard settings, but model files have an ending that leads into the folder of the
APIs. -/
def configWithNestedFolder : Config :=
  { Config.standard with
    apiPackage := "model.pet"
    modelTemplates := ⟨[("model.mustache", "/xApi.ts")], by simp⟩ }

/-- What is seen of a run decides that files of different names meet. -/
theorem exists_meeting {config : Config} {doc : Document} {files paths : List String}
    (h : (generate config doc).toOption.map (fun pass =>
      (pass.models.map (·.classFilename), pass.targets.map (·.path))) = some (files, paths))
    (hfiles : files.Nodup) (hpaths : ¬paths.Nodup) :
    ∃ pass, generate config doc = .ok pass ∧ (pass.models.map (·.classFilename)).Nodup ∧
      ¬(pass.targets.map (·.path)).Nodup := by
  obtain ⟨pass, hpass, hview⟩ := exists_ok_of_map h
  obtain ⟨hf, hp⟩ := Prod.mk.inj hview
  rw [← hf] at hfiles
  rw [← hp] at hpaths
  exact ⟨pass, hpass, hfiles, hpaths⟩

/-- **Files do meet.**  Names that differ in a separator or a capital only share a file or a
type, and a look-up then finds the set of another tag.  Where an ending is another one with a
letter in front, or leads into the folder of the other kind, files of different names meet
too. -/
theorem files_meet :
    (Config.standard.Separate ∧ ∃ pass, generate .standard twinsDocument = .ok pass ∧
      ¬(pass.targets.map (·.path)).Nodup ∧ ¬(pass.operationSets.map (·.classname)).Nodup ∧
      ∃ tag ∈ twinsDocument.usedTags, pass.operationSet? (Naming.apiName tag) ≠
        some (Config.standard.naming.setOf twinsDocument tag)) ∧
    ((configWithEndings ".ts" "X.ts").Separate ∧
      ∃ pass, generate (configWithEndings ".ts" "X.ts") growingDocument = .ok pass ∧
        (pass.models.map (·.classFilename)).Nodup ∧ ¬(pass.targets.map (·.path)).Nodup) ∧
    (configWithNestedFolder.Separate ∧
      ∃ pass, generate configWithNestedFolder growingDocument = .ok pass ∧
        (pass.models.map (·.classFilename)).Nodup ∧ ¬(pass.targets.map (·.path)).Nodup) := by
  refine ⟨⟨by decide +kernel, ?_⟩, ⟨by decide +kernel, ?_⟩, ⟨by decide +kernel, ?_⟩⟩
  · have hview : (generate .standard twinsDocument).toOption.map (fun pass =>
        (pass.targets.map (·.path), pass.operationSets.map (·.classname),
          pass.operationSet? (Naming.apiName "pet"))) = some (
        ["generated-code/rule/src/model/petStatus.ts",
          "generated-code/rule/src/model/petStatus.ts",
          "generated-code/rule/src/validator/petApi.ts",
          "generated-code/rule/src/validator/petApi.ts"], ["PetApi", "PetApi"],
        some (Config.standard.naming.setOf twinsDocument "Pet")) := by decide +kernel
    obtain ⟨pass, hpass, hview⟩ := exists_ok_of_map hview
    obtain ⟨hpaths, hview⟩ := Prod.mk.inj hview
    obtain ⟨hclassnames, hfound⟩ := Prod.mk.inj hview
    refine ⟨pass, hpass, ?_, ?_, "pet", by decide +kernel, ?_⟩
    · rw [hpaths]
      decide +kernel
    · rw [hclassnames]
      decide +kernel
    · rw [hfound]
      decide +kernel
  · have hview : (generate (configWithEndings ".ts" "X.ts") growingDocument).toOption.map
        (fun pass => (pass.models.map (·.classFilename), pass.targets.map (·.path))) = some (
        ["pet", "petX"],
        ["generated-code/rule/src/model/pet.ts", "generated-code/rule/src/model/petX.ts",
          "generated-code/rule/src/model/petX.ts", "generated-code/rule/src/model/petXX.ts",
          "generated-code/rule/src/validator/xApi.ts"]) := by decide +kernel
    exact exists_meeting hview (by decide +kernel) (by decide +kernel)
  · have hview : (generate configWithNestedFolder growingDocument).toOption.map
        (fun pass => (pass.models.map (·.classFilename), pass.targets.map (·.path))) = some (
        ["pet", "petX"],
        ["generated-code/rule/src/model/pet/xApi.ts", "generated-code/rule/src/model/petX/xApi.ts",
          "generated-code/rule/src/model/pet/xApi.ts"]) := by decide +kernel
    exact exists_meeting hview (by decide +kernel) (by decide +kernel)

end SwaggerClient
