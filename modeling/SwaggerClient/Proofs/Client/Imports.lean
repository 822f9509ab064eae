/-
Imports name the files of their models.

The import of a reference is computed from the type of its target, and the file of the
target from its definition; the two go through different numbers of case conversions.
Still every import of a pass is the path of a file that the pass renders: `importOf` gives
the path of the file of a definition as the pass has it, and the imports of all models and
operation sets are the `importOf` of what they refer to, in order and each once
(`importsFiles_of_generate`).

It takes ASCII names and no reserved word among the types of the models.  A type that is
reserved is renamed when it is named again, and the import then misses the file.
-/
import SwaggerClient.Proofs.Client.Grouping
import SwaggerClient.Proofs.Client.Pass
import SwaggerClient.Proofs.Naming.Types

namespace SwaggerClient

/-- The import path of the file that a pass renders a definition to.  Where there is no such
definition, the path is what the naming makes of it. -/
def Pass.importOf (pass : Pass) (naming : Naming) (name : String) : String :=
  match pass.model? name with
  | some m => naming.modelPackage ++ "/" ++ m.classFilename
  | none => naming.modelImport (naming.modelName name)

/-- The names that the theory applies to: in ASCII, and of a type that is not reserved. -/
structure Naming.Plain (naming : Naming) (name : String) : Prop where
  ascii : Text.Ascii name.toList
  unreserved : naming.isReserved (naming.modelName name) = false

section Imports

variable {config : Config} {doc : Document} {pass : Pass}

/-- The path of the file is the path that references record. -/
theorem importOf_eq (h : generate config doc = .ok pass)
    (hplain : ∀ name ∈ doc.definitions.keys, config.naming.Plain name) (name : String) :
    pass.importOf config.naming name =
      config.naming.modelImport (config.naming.modelName name) := by
  unfold Pass.importOf
  split
  · rename_i m hm
    obtain ⟨schema, hmem, hof⟩ := exists_definition h (List.mem_of_find?_eq_some hm)
    have hname : m.name = name :=
      beq_iff_eq.mp (List.find?_some (p := fun m : Model => m.name == name) hm)
    rw [hname] at hmem hof
    have hp := hplain name (List.mem_map_of_mem hmem)
    rw [hof.classFilename_eq, config.naming.modelImport_modelName hp.ascii hp.unreserved]
  · rfl

/-- What a list of references records is their files. -/
theorem map_importOf (h : generate config doc = .ok pass)
    (hplain : ∀ name ∈ doc.definitions.keys, config.naming.Plain name) (names : List String) :
    names.map (pass.importOf config.naming) =
      (names.map config.naming.modelName).map config.naming.modelImport := by
  rw [List.map_map]
  exact List.map_congr_left fun name _ => importOf_eq h hplain name

/-- The imports of a model are the files of what its definition refers to, itself left out. -/
theorem imports_model (h : generate config doc = .ok pass)
    (hplain : ∀ name ∈ doc.definitions.keys, config.naming.Plain name) {name : String}
    {schema : Schema} {m : Model} (hof : ModelOf config.naming name schema m) :
    m.imports = Text.firstOccurrences
      ((schema.references.filter fun d => config.naming.modelName d ≠ m.classname).map
        (pass.importOf config.naming)) := by
  rw [hof.imports_eq, Naming.modelImports, map_importOf h hplain, List.filter_map]
  rfl

/-- The imports of an operation set are the files of what the routes of its tag refer to. -/
theorem imports_operationSets (h : generate config doc = .ok pass)
    (hplain : ∀ name ∈ doc.definitions.keys, config.naming.Plain name) :
    pass.operationSets.map (fun set => (set.classname, set.imports)) =
      doc.usedTags.map fun tag => (Naming.apiName tag, Text.firstOccurrences
        (((doc.routesUnder tag).flatMap doc.referencesAt).map (pass.importOf config.naming))) := by
  obtain ⟨sets, hsets, hnormal⟩ := generate_sets h
  obtain ⟨build, hbuild, rfl⟩ := Naming.sets_of_operationSets hsets
  rw [map_eq_of_forall₂ (f := fun set => (set.classname, set.imports))
    (fun _ _ hset => Prod.ext hset.classname_eq hset.imports_eq) hnormal, List.map_map]
  refine List.map_congr_left fun tag _ => Prod.ext rfl ?_
  show Text.firstOccurrences (((doc.routesUnder tag).map build).flatMap _) = _
  rw [map_importOf h hplain, List.map_flatMap, List.map_flatMap, List.flatMap_map]
  refine congrArg _ (List.flatMap_congr fun route hroute => ?_)
  rw [Naming.models_operation (hbuild route (doc.mem_routes hroute))]

/-- A set imports the file of what a route of its tag refers to, and nothing else. -/
theorem exists_set_of_tag (h : generate config doc = .ok pass)
    (hplain : ∀ name ∈ doc.definitions.keys, config.naming.Plain name) {tag : String}
    (htag : tag ∈ doc.usedTags) :
    ∃ set ∈ pass.operationSets, set.classname = Naming.apiName tag ∧
      ∀ path, path ∈ set.imports ↔ ∃ route ∈ doc.routesUnder tag, ∃ name,
        doc.RefersTo route name ∧ path = pass.importOf config.naming name := by
  have hrow := List.mem_map_of_mem (f := fun tag => (Naming.apiName tag, Text.firstOccurrences
    (((doc.routesUnder tag).flatMap doc.referencesAt).map (pass.importOf config.naming)))) htag
  rw [← imports_operationSets h hplain] at hrow
  obtain ⟨set, hset, hrow⟩ := List.mem_map.mp hrow
  obtain ⟨hclassname, himports⟩ := Prod.mk.inj hrow
  refine ⟨set, hset, hclassname, fun path => ?_⟩
  rw [himports, Text.mem_firstOccurrences, List.mem_map]
  simp only [List.mem_flatMap, Document.mem_referencesAt_iff]
  constructor
  · rintro ⟨name, ⟨route, hroute, hrefers⟩, rfl⟩
    exact ⟨route, hroute, name, hrefers, rfl⟩
  · rintro ⟨route, hroute, name, hrefers, rfl⟩
    exact ⟨name, ⟨route, hroute, hrefers⟩, rfl⟩

end Imports

/-- What it means that the imports of a pass name files that the pass renders. -/
structure ImportsFiles (config : Config) (doc : Document) (pass : Pass) : Prop where
  /-- Every definition is rendered to the file that its references import. -/
  rendered : ∀ name ∈ doc.definitions.keys, ∃ m, pass.model? name = some m ∧
    pass.importOf config.naming name = config.modelPackage ++ "/" ++ m.classFilename ∧
    config.naming.modelImport (config.naming.modelName name) =
      config.modelPackage ++ "/" ++ m.classFilename
  /-- A model imports the files of what its definition refers to, itself left out. -/
  models : ∀ name schema, (name, schema) ∈ doc.definitions.entries →
    ∃ m, pass.model? name = some m ∧ m.imports = Text.firstOccurrences
      ((schema.references.filter fun d => config.naming.modelName d ≠ m.classname).map
        (pass.importOf config.naming))
  /-- An operation set imports the files of what the routes of its tag refer to. -/
  operationSets : pass.operationSets.map (fun set => (set.classname, set.imports)) =
    doc.usedTags.map fun tag => (Naming.apiName tag, Text.firstOccurrences
      (((doc.routesUnder tag).flatMap doc.referencesAt).map (pass.importOf config.naming)))
  /-- So it imports the file of every definition that describes a parameter of such a route or
  that the route returns, and nothing else. -/
  referred : ∀ tag ∈ doc.usedTags, ∃ set ∈ pass.operationSets,
    set.classname = Naming.apiName tag ∧
      ∀ path, path ∈ set.imports ↔ ∃ route ∈ doc.routesUnder tag, ∃ name,
        doc.RefersTo route name ∧ path = pass.importOf config.naming name

/-- **Every import of a pass names the file that its model is rendered to.** -/
theorem importsFiles_of_generate (config : Config) (doc : Document) (pass : Pass)
    (h : generate config doc = .ok pass)
    (hplain : ∀ name ∈ doc.definitions.keys, config.naming.Plain name) :
    ImportsFiles config doc pass where
  rendered := by
    intro name hname
    obtain ⟨⟨key, schema⟩, hmem, rfl⟩ := List.mem_map.mp hname
    obtain ⟨m, hm, -⟩ := exists_model h hmem
    have himport : pass.importOf config.naming key =
        config.modelPackage ++ "/" ++ m.classFilename := by
      unfold Pass.importOf
      rw [hm]
      rfl
    exact ⟨m, hm, himport, (importOf_eq h hplain key).symm.trans himport⟩
  models := by
    intro name schema hmem
    obtain ⟨m, hm, hof⟩ := exists_model h hmem
    exact ⟨m, hm, imports_model h hplain hof⟩
  operationSets := imports_operationSets h hplain
  referred := fun _ htag => exists_set_of_tag h hplain htag

/-- A definition with a parent and a part, a route that returns a list of it, and one with a
parameter that has a schema and one that is an array in place. -/
def orderDocument : Document where
  swagger := "2.0"
  info := { title := "Orders", version := "1" }
  paths := ⟨[("/orders", {
    get := some { responses := ⟨[("200", .inline {
      schema := some (.array (.ref "#/definitions/HTTP-order") {}) })], by simp⟩ }
    post := some { parameters := [
      .inline { name := "order", location := .body, schema := some (.ref "#/definitions/class") },
      .inline { name := "parts", location := .query, type := some "array"
                items := some (.ref "#/definitions/a_b") }] } })], by simp⟩
  definitions := ⟨[
    ("a_b", {}),
    ("HTTP-order", {
      properties := ⟨[("parts", .array (.ref "#/definitions/a_b") {})], by simp⟩
      allOf := [.ref "#/definitions/class"] }),
    ("class", {})], by simp⟩

theorem importsFiles_orders :
    ∃ pass, generate .standard orderDocument = .ok pass ∧
      pass.models.map (·.imports) = [[], ["model/modelClass", "model/ab"], []] ∧
      pass.operationSets.map (·.imports) = [["model/httpOrder", "model/modelClass", "model/ab"]] ∧
      (∀ name ∈ orderDocument.definitions.keys, Config.standard.naming.Plain name) ∧
      ImportsFiles .standard orderDocument pass := by
  have hplain : ∀ name ∈ orderDocument.definitions.keys, Config.standard.naming.Plain name := by
    have hall : ∀ name ∈ orderDocument.definitions.keys, Text.Ascii name.toList ∧
        Config.standard.naming.isReserved (Config.standard.naming.modelName name) = false := by
      decide +kernel
    exact fun name hname => ⟨(hall name hname).1, (hall name hname).2⟩
  have himports : (generate .standard orderDocument).toOption.map
      (fun pass => (pass.models.map (·.imports), pass.operationSets.map (·.imports))) =
        some ([[], ["model/modelClass", "model/ab"], []],
          [["model/httpOrder", "model/modelClass", "model/ab"]]) := by
    decide +kernel
  cases h : generate .standard orderDocument with
  | error e =>
      rw [h] at himports
      cases himports
  | ok pass =>
      rw [h] at himports
      obtain ⟨hmodels, hsets⟩ := Prod.mk.inj (Option.some.inj himports)
      exact ⟨pass, rfl, hmodels, hsets, hplain,
        importsFiles_of_generate .standard orderDocument pass h hplain⟩

end SwaggerClient
