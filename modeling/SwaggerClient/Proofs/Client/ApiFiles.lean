/-
Which file an operation set is written to.

Grouping gives a set the type that its tag names, and normalizing gives it a file.  By then
the tag is gone, so the file is named from the type as if that were the tag.  For a tag in
which a letter stands before all digits the detour makes no difference
(`Naming.apiFilename_apiName`).  So the set of such a tag is written to the file that the tag
names, whatever was recorded before and whether or not its imports are well-formed
(`apiFiles_of_tags`).
-/
import SwaggerClient.Proofs.Client.Targets
import SwaggerClient.Proofs.Naming.Apis

namespace SwaggerClient

open Naming (LetterTag apiName apiFilename)

/-- A normalized set that has the type of a tag and, if the tag is a plain one, its file. -/
structure FiledUnder (tag : String) (set : OperationSet) : Prop where
  classname_eq : set.classname = apiName tag
  apiFilename_eq : LetterTag tag → set.apiFilename = some (apiFilename tag)

/-- What is grouped under a tag is filed under it. -/
theorem filedUnder_once (package tag : String) (group : TagGroup) :
    FiledUnder tag ((OperationSet.ofGroup (tag, group)).once package).set where
  classname_eq := OperationSet.classname_once package _
  apiFilename_eq htag := by
    rw [OperationSet.apiFilename_once]
    exact congrArg some (Naming.apiFilename_apiName htag)

/-- How the settings lead from tags to files. -/
structure ApiFiles (config : Config) : Prop where
  /-- The file that is named from the type is the one that is named from the tag. -/
  named : ∀ tag, LetterTag tag → apiFilename (apiName tag) = apiFilename tag
  /-- Tag by tag, so are the sets of a document, with whatever record each is normalized. -/
  normalized : ∀ doc sets, config.naming.operationSets doc = .ok sets →
    List.Forall₂ (fun tag set =>
      ∀ refs, FiledUnder tag (set.normalize config.modelPackage refs).set) doc.usedTags sets
  /-- So are the sets of a pass. -/
  passed : ∀ doc pass, generate config doc = .ok pass →
    List.Forall₂ FiledUnder doc.usedTags pass.operationSets

/-- **The API file of a set is the one its tag names.** -/
theorem apiFiles_of_tags (config : Config) : ApiFiles config where
  named _ htag := Naming.apiFilename_apiName htag
  normalized doc sets hsets := by
    obtain ⟨build, -, rfl⟩ := Naming.sets_of_operationSets hsets
    refine List.forall₂_map_right_iff.mpr (List.forall₂_same.mpr fun tag _ refs => ?_)
    rw [OperationSet.normalize_eq]
    exact filedUnder_once config.modelPackage tag _
  passed doc pass hpass := by
    rw [operationSets_eq hpass]
    exact List.forall₂_map_right_iff.mpr (List.forall₂_same.mpr fun tag _ =>
      filedUnder_once config.modelPackage tag _)

/-- Operations without a tag, with one that is all separators, and with names whose capitals
or small letters are regrouped. -/
def gardenDocument : Document where
  swagger := "2.0"
  info := { title := "Garden", version := "1" }
  paths := ⟨[
    ("/plots", { get := some { operationId := some "listPlots", tags := ["", "--"] } }),
    ("/beds", { get := some { operationId := some "listBeds", tags := ["a_b", "herbApi"] } }),
    ("/rows", { get := some { operationId := some "listRows", tags := ["2"] } })], by simp⟩

theorem apiFiles_garden :
    ∃ pass, generate .standard gardenDocument = .ok pass ∧
      gardenDocument.usedTags = ["", "--", "2", "a_b", "herbApi"] ∧
      pass.operationSets.map (fun set => (set.classname, set.apiFilename)) = [
        ("DefaultApi", some "defaultApi"), ("UnnamedApi", some "unnamedApi"),
        ("2Api", some "2apiApi"), ("ABApi", some "abApi"), ("HerbApi", some "herbApi")] ∧
      LetterTag "" ∧ LetterTag "--" ∧ LetterTag "a_b" ∧ LetterTag "herbApi" ∧
      List.Forall₂ FiledUnder gardenDocument.usedTags pass.operationSets := by
  have hview : (generate .standard gardenDocument).toOption.map (fun pass =>
      pass.operationSets.map fun set => (set.classname, set.apiFilename)) = some [
        ("DefaultApi", some "defaultApi"), ("UnnamedApi", some "unnamedApi"),
        ("2Api", some "2apiApi"), ("ABApi", some "abApi"), ("HerbApi", some "herbApi")] := by
    decide +kernel
  obtain ⟨pass, hpass, hfiles⟩ := exists_ok_of_map hview
  have htags : gardenDocument.usedTags = ["", "--", "2", "a_b", "herbApi"] := by decide +kernel
  exact ⟨pass, hpass, htags, hfiles, ⟨by decide, by decide +kernel⟩,
    ⟨by decide, by decide +kernel⟩, ⟨by decide, by decide +kernel⟩,
    ⟨by decide, by decide +kernel⟩, (apiFiles_of_tags .standard).passed _ pass hpass⟩

end SwaggerClient
