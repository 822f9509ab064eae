/-
The type behind an import, and whether it is the type of the model.

An import entry carries a type that is read off the import path: what stands behind the
package, in `PascalCase`.  The file of a model is the type in `camelCase`, so this type
went through two case conversions, and what comes back is the `PascalCase` of the type
(`classname_of_mem`).  That is the type itself exactly if its capitals stand apart
(`importType_eq_iff`).  `a_b` is of the type `AB`, which comes back as `Ab`.
-/
import SwaggerClient.Proofs.Client.Pass
import SwaggerClient.Proofs.Naming.Types

namespace SwaggerClient

section Entries

variable {config : Config} {doc : Document} {pass : Pass}

/-- An entry that stands for the file of a model carries the `PascalCase` of its type. -/
theorem classname_of_mem (h : generate config doc = .ok pass) {m : Model}
    (hm : m ∈ pass.models) (hascii : Text.Ascii m.name.toList) {set : OperationSet}
    (hset : set ∈ pass.operationSets) {entry : ImportEntry} (hentry : entry ∈ set.importEntries)
    (hpath : entry.importPath = config.modelPackage ++ "/" ++ m.classFilename) :
    entry.classname = Text.pascalCase m.classname := by
  obtain ⟨schema, -, hof⟩ := exists_definition h hm
  obtain ⟨sets, -, hnormal⟩ := generate_sets h
  obtain ⟨_, _, hresolved⟩ := exists_of_mem_right hnormal hset
  obtain ⟨path, _, hresolve⟩ := exists_of_mem_right (mapM_eq_ok_iff.mp hresolved.resolved) hentry
  obtain ⟨himport, -, hclassname⟩ := ImportEntry.of_resolve hresolve
  rw [← himport, hpath, hof.classFilename_eq,
    Naming.classnameOf_append (config.naming.modelFilename_ne_empty m.name),
    config.naming.pascalCase_modelFilename hascii] at hclassname
  rw [hof.classname_eq]
  exact (Except.ok.inj hclassname).symm

end Entries

/-- **When the type behind an import is the type of the model:** exactly if each capital of
the type has a small letter between itself and the capital before it, or one right behind.
This decides it for names and, in every pass, for the entries of the operation sets and
of the pass itself. -/
theorem importType_eq_iff (config : Config) :
    (∀ name : String, Text.Ascii name.toList →
      (ImportEntry.classnameOf config.modelPackage (config.naming.modelImport name) =
          .ok (config.naming.modelName name) ↔
        Text.capitalsApart .none (config.naming.modelName name).toList = true)) ∧
    ∀ (doc : Document) (pass : Pass), generate config doc = .ok pass →
      ∀ m ∈ pass.models, Text.Ascii m.name.toList →
        ∀ entry ∈ pass.operationSets.flatMap (·.importEntries) ++ pass.refs,
          entry.importPath = config.modelPackage ++ "/" ++ m.classFilename →
            (entry.classname = m.classname ↔
              Text.capitalsApart .none m.classname.toList = true) := by
  constructor
  · intro name hascii
    have hback := config.naming.classnameOf_modelImport hascii
    rw [← config.naming.pascalCase_modelName_iff hascii]
    show ImportEntry.classnameOf config.naming.modelPackage _ = _ ↔ _
    rw [hback, Except.ok.injEq]
  · intro doc pass h m hm hascii entry hentry hpath
    obtain ⟨set, hset, hmem⟩ :
        ∃ set ∈ pass.operationSets, entry ∈ set.importEntries := by
      rcases List.mem_append.mp hentry with hentry | hentry
      · exact List.mem_flatMap.mp hentry
      · exact generate_refs h hentry
    obtain ⟨schema, -, hof⟩ := exists_definition h hm
    rw [classname_of_mem h hm hascii hset hmem hpath, hof.classname_eq]
    exact config.naming.pascalCase_modelName_iff hascii

/-- A definition whose name has two words of one letter each, and a route that returns it. -/
def letterDocument : Document where
  swagger := "2.0"
  info := { title := "Letters", version := "1" }
  paths := ⟨[("/letters", {
    get := some { responses := ⟨[("200", .inline {
      schema := some (.ref "#/definitions/a_b") })], by simp⟩ } })], by simp⟩
  definitions := ⟨[("a_b", {})], by simp⟩

/-- Two words of one letter each come back as one word. -/
theorem importType_oneLetterWords :
    Config.standard.naming.modelName "a_b" = "AB" ∧
      ImportEntry.classnameOf "model" (Config.standard.naming.modelImport "a_b") = .ok "Ab" ∧
      ¬ ImportEntry.classnameOf Config.standard.modelPackage
          (Config.standard.naming.modelImport "a_b") =
        .ok (Config.standard.naming.modelName "a_b") ∧
      (generate .standard letterDocument).toOption.map (fun pass =>
          (pass.models.map fun m => (m.classname, m.classFilename), pass.refs)) =
        some ([("AB", "ab")], [⟨"model/ab", "model/ab", "Ab"⟩]) := by
  refine ⟨by decide +kernel, by decide +kernel, ?_, by decide +kernel⟩
  rw [(importType_eq_iff .standard).1 "a_b" (by decide +kernel)]
  decide +kernel

end SwaggerClient
