/-
What a model imports.

A model imports the files of the models that it mentions, its parent first and then those in
the types of its fields.  Collecting them has to get two things right, and they are not the
same: what is left out is decided by the type that is mentioned, but what counts as seen already
is decided by the file, and two types may have one file (`AB` and `Ab` both have `ab`).

Collecting goes over the mentions one by one (`collectImport`).  Each step keeps the imports in
the order of first mention (`firstMentions_step`), so at the end they are exactly the files of
the other models that are mentioned, in this order (`importsExact_of_outline`).  A model that
mentions itself only imports nothing.
-/
import SwaggerClient.Proofs.Client.References
import SwaggerClient.Proofs.Reference.Leaves
import SwaggerClient.Proofs.Text.Mentions

namespace SwaggerClient

open Text

/-! ### What is mentioned -/

/-- The models that a model mentions: its parent, and those in the types of its fields. -/
def Model.mentioned (m : Model) : List String :=
  m.parent.toList ++ m.properties.flatMap fun p => p.dataType.models

/-- The paths that a definition refers to: its parent, and the leaves of its properties. -/
def Schema.referencePaths (schema : Schema) : List String :=
  schema.partRefs.head?.toList ++ leavesOfEntries schema.allProperties

theorem Schema.references_eq (schema : Schema) :
    schema.references = schema.referencePaths.flatMap referenceNames := by
  unfold references referencePaths leavesOfEntries
  rw [List.flatMap_append, List.flatMap_assoc]
  rfl

theorem mem_referenceNames_iff {path n : String} :
    n ∈ referenceNames path ↔ definitionName path = .ok n := by
  rw [referenceNames, Option.mem_toList, toOption_eq_some_iff]

/-- A definition whose paths lead back to it refers to itself only. -/
theorem Schema.eq_of_mem_references {schema : Schema} {name : String}
    (hself : ∀ path ∈ schema.referencePaths, path = "#/definitions/" ++ name) {n : String}
    (hn : n ∈ schema.references) : n = name := by
  rw [references_eq] at hn
  obtain ⟨path, hpath, hn⟩ := List.mem_flatMap.mp hn
  obtain ⟨-, heq⟩ := definitionName_eq_ok_iff.mp (mem_referenceNames_iff.mp hn)
  rw [hself path hpath] at heq
  exact ((String.append_right_inj _).mp heq).symm

namespace Naming

variable (naming : Naming) (classname : String)

/-- The import paths of the models in a list, the model of `classname` itself left out. -/
def importsOfOthers (models : List String) : List String :=
  (models.filter (· ≠ classname)).map naming.modelImport

/-! ### Collecting one by one -/

/-- Adds the import of one more model, if it is another one and its file is not there yet. -/
def collectImport (imports : List String) (model : String) : List String :=
  if model = classname then imports
  else if naming.modelImport model ∈ imports then imports
  else imports ++ [naming.modelImport model]

/-- **One more mention keeps the imports in the order of first mention.** -/
theorem firstMentions_step {models imports : List String}
    (h : FirstMentions (naming.importsOfOthers classname models) imports) (model : String) :
    FirstMentions (naming.importsOfOthers classname (models ++ [model]))
      (naming.collectImport classname imports model) := by
  unfold importsOfOthers at h ⊢
  unfold collectImport
  rw [List.filter_append, List.map_append]
  by_cases hself : model = classname
  · rw [if_pos hself, List.filter_cons_of_neg (by simpa using hself), List.filter_nil,
      List.map_nil, List.append_nil]
    exact h
  · rw [if_neg hself, List.filter_cons_of_pos (by simpa using hself), List.filter_nil]
    exact h.concat (naming.modelImport model)

/-- **Collecting gives the imports in the order of first mention.** -/
theorem firstMentions_run (models : List String) :
    FirstMentions (naming.importsOfOthers classname models)
      (models.foldl (naming.collectImport classname) []) := by
  induction models using List.reverseRecOn with
  | nil => exact FirstMentions.nil
  | append_singleton models model ih =>
      rw [List.foldl_append]
      exact naming.firstMentions_step classname ih model

/-- What a model is given is what is collected. -/
theorem modelImports_eq_foldl (models : List String) :
    naming.modelImports classname models = models.foldl (naming.collectImport classname) [] :=
  (firstMentions_iff.mp (naming.firstMentions_run classname models)).symm

theorem importsOfOthers_eq_nil_iff {models : List String} :
    naming.importsOfOthers classname models = [] ↔ ∀ model ∈ models, model = classname := by
  rw [importsOfOthers, List.map_eq_nil_iff, List.filter_eq_nil_iff]
  simp

end Naming

/-! ### Models -/

/-- What a model imports, and when it imports nothing. -/
structure ImportsExact (naming : Naming) (name : String) (schema : Schema) (m : Model) : Prop where
  /-- The imports are the only list of the files of the other models that are mentioned in the
  order of their first mention. -/
  imports_iff : ∀ paths,
    FirstMentions ((m.mentioned.filter (· ≠ m.classname)).map naming.modelImport) paths ↔
      paths = m.imports
  /-- They are what is collected one by one. -/
  collected : m.imports = m.mentioned.foldl (naming.collectImport m.classname) []
  /-- The models that are mentioned are those of the definitions referred to, in order. -/
  mentioned_eq : m.mentioned = schema.references.map naming.modelName
  /-- There are none exactly if no other model is mentioned, -/
  nil_iff : m.imports = [] ↔ ∀ model ∈ m.mentioned, model = m.classname
  /-- and so if the parent and all leaves lead back to the definition itself, in however many
  arrays. -/
  nil_of_self : (∀ path ∈ schema.partRefs.head?.toList ++
      schema.allProperties.flatMap (fun e => e.2.leaves), path = "#/definitions/" ++ name) →
    m.imports = []

/-- **The imports of a model are exact.** -/
theorem importsExact_of_outline (naming : Naming) (definitions : Dict Schema) (name : String)
    (schema : Schema) (m : Model) (h : naming.outline definitions name schema = .ok m) :
    ImportsExact naming name schema m := by
  unfold Naming.outline at h
  rw [mapError_eq_ok_iff] at h
  have hof := Naming.modelOf_outline h
  have hmentioned : m.mentioned = schema.references.map naming.modelName :=
    Naming.mentioned_outline h
  have hcollected : m.imports = m.mentioned.foldl (naming.collectImport m.classname) [] := by
    rw [hof.imports_eq, ← hmentioned, naming.modelImports_eq_foldl]
  have hfirst : FirstMentions (naming.importsOfOthers m.classname m.mentioned) m.imports := by
    rw [hcollected]
    exact naming.firstMentions_run m.classname m.mentioned
  have hnil : m.imports = [] ↔ ∀ model ∈ m.mentioned, model = m.classname :=
    hfirst.eq_nil_iff.trans (naming.importsOfOthers_eq_nil_iff m.classname)
  refine ⟨fun paths => ?_, hcollected, hmentioned, hnil, fun hself => ?_⟩
  · rw [firstMentions_iff.mp hfirst]
    exact firstMentions_iff
  · rw [hnil, hmentioned]
    intro model hmodel
    obtain ⟨n, hn, rfl⟩ := List.mem_map.mp hmodel
    rw [Schema.eq_of_mem_references hself hn, hof.classname_eq]

/-- A definition that refers to itself in several ways, to others more than once, and to two
whose types have one file. -/
def litterSchema : Schema where
  properties := ⟨[("twin", .ref "#/definitions/Dog"), ("owner", .ref "#/definitions/Person"),
    ("litters", .array (.array (.ref "#/definitions/Dog") {}) {}),
    ("vets", .array (.ref "#/definitions/Person") {}), ("chip", .ref "#/definitions/a_b"),
    ("tag", .ref "#/definitions/ab"), ("kin", .ref "#/definitions/Animal")], by simp⟩
  allOf := [.ref "#/definitions/Animal"]

theorem importsExact_litter :
    ∃ m, Config.standard.naming.outline (.ofList [("Animal", {})]) "Dog" litterSchema = .ok m ∧
      m.mentioned = ["Animal", "Dog", "Person", "Dog", "Person", "AB", "Ab", "Animal"] ∧
      m.imports = ["model/animal", "model/person", "model/ab"] ∧
      ImportsExact Config.standard.naming "Dog" litterSchema m := by
  have hview : (Config.standard.naming.outline (.ofList [("Animal", {})]) "Dog"
      litterSchema).toOption.map (fun m => (m.mentioned, m.imports)) =
      some (["Animal", "Dog", "Person", "Dog", "Person", "AB", "Ab", "Animal"],
        ["model/animal", "model/person", "model/ab"]) := by
    decide +kernel
  obtain ⟨m, hm, hview⟩ := exists_ok_of_map hview
  obtain ⟨hmentioned, himports⟩ := Prod.mk.inj hview
  exact ⟨m, hm, hmentioned, himports, importsExact_of_outline _ _ _ _ m hm⟩

end SwaggerClient
