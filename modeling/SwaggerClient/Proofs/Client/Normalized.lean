/-
One normalization, whether it succeeds or fails.

A set is changed in place, and in the middle of that its imports are resolved, which may
fail.  What comes before is done in any case: the set has its file name, and everything that
its operations consume is classified (`Classified`).  What comes after is done if all imports
are paths into the package (`Entered`), and otherwise nothing of it is done (`Refused`): the
set keeps the entries that it had, and the record that sets share is not touched.
-/
import SwaggerClient.Proofs.Client.ContentTypes
import SwaggerClient.Proofs.Client.Recording
import SwaggerClient.Proofs.Naming.Types

namespace SwaggerClient

/-! ### Imports -/

namespace ImportEntry

variable {package path : String}

theorem resolve_append {file : String} (h : file ≠ "") :
    resolve package (package ++ "/" ++ file) =
      .ok ⟨package ++ "/" ++ file, package ++ "/" ++ file, Text.pascalCase file⟩ := by
  rw [resolve, Naming.classnameOf_append h]

theorem resolve_of_not_namesBehind (h : ¬Text.NamesBehind (package ++ "/") path) :
    resolve package path = .error (.malformedImport path package) := by
  unfold resolve classnameOf
  cases hstrip : Text.stripStart? (package ++ "/") path with
  | none => rfl
  | some file =>
      dsimp only
      rw [if_pos (Text.eq_empty_of_not_namesBehind h hstrip)]

/-- **An import is resolved if it is a path into the package.** -/
theorem resolve_eq_ok_iff {entry : ImportEntry} :
    resolve package path = .ok entry ↔ ∃ file, file ≠ "" ∧ path = package ++ "/" ++ file ∧
      entry = ⟨path, path, Text.pascalCase file⟩ := by
  constructor
  · intro h
    by_cases hpath : Text.NamesBehind (package ++ "/") path
    · obtain ⟨file, hfile, rfl⟩ := hpath
      rw [resolve_append hfile] at h
      exact ⟨file, hfile, rfl, (Except.ok.inj h).symm⟩
    · rw [resolve_of_not_namesBehind hpath] at h
      cases h
  · rintro ⟨file, hfile, rfl, rfl⟩
    exact resolve_append hfile

/-- The fault of an import that is no path into the package. -/
def importFault? (package path : String) : Option ResolveError :=
  if Text.NamesBehind (package ++ "/") path then none else some (.malformedImport path package)

theorem fault?_resolve (package path : String) :
    fault? (resolve package path) = importFault? package path := by
  unfold importFault?
  by_cases h : Text.NamesBehind (package ++ "/") path
  · obtain ⟨file, hfile, rfl⟩ := h
    rw [if_pos ⟨file, hfile, rfl⟩, resolve_append hfile, fault?]
  · rw [if_neg h, resolve_of_not_namesBehind h, fault?]

/-- Resolving imports has the fault of the first one that is no path into the package. -/
theorem fault?_resolveAll (package : String) (paths : List String) :
    fault? (resolveAll package paths) = paths.findSome? (importFault? package) := by
  rw [resolveAll, fault?_mapM]
  exact congrArg (paths.findSome? ·) (funext (fault?_resolve package))

theorem importFault?_eq_none_iff :
    importFault? package path = none ↔ Text.NamesBehind (package ++ "/") path := by
  simp [importFault?]

theorem importFault?_eq_some_iff {cause : ResolveError} :
    importFault? package path = some cause ↔
      ¬Text.NamesBehind (package ++ "/") path ∧ cause = .malformedImport path package := by
  simp [importFault?, eq_comm]

end ImportEntry

/-! ### One call -/

/-- What a call makes of an operation: what it consumes is classified, and it consumes JSON
if there was nothing. -/
structure Classified (op op' : ClientOperation) : Prop where
  rest_eq : { op' with consumes := op.consumes } = op
  mediaTypes_eq : op'.consumes.map (·.mediaType) =
    if op.consumes ≠ [] then op.consumes.map (·.mediaType) else ["application/json"]
  bodyKind_eq : ∀ entry ∈ op'.consumes,
    entry.bodyKind = some (if entry.mediaType = "multipart/form-data" then .form else .json)

theorem classified_normalize (op : ClientOperation) : Classified op op.normalize where
  rest_eq := rfl
  mediaTypes_eq := by
    rw [op.mediaTypes_normalize, mediaTypes_consumedOrJson]
    simp only [ne_eq, List.map_eq_nil_iff]
  bodyKind_eq := fun _ => op.bodyKind_normalize

section OneCall

variable (package : String) (set : OperationSet) (refs : ImportRefs) (after : Normalized)

/-- What a call does if it succeeds. -/
structure Entered : Prop where
  importEntries : List.Forall₂
    (fun path entry => ∃ file, file ≠ "" ∧ path = package ++ "/" ++ file ∧
      entry = ⟨path, path, Text.pascalCase file⟩)
    set.imports after.set.importEntries
  /-- The record keeps what it has and gains the first entry of each path that it lacks. -/
  refs_eq : after.refs.entries = refs.entries ++ Text.firstBy ImportEntry.importPath
    (after.set.importEntries.filter fun entry =>
      entry.importPath ∉ refs.entries.map ImportEntry.importPath)

/-- What a call leaves alone if it fails, and what it says. -/
structure Refused (e : GenerateError) : Prop where
  importEntries_eq : after.set.importEntries = set.importEntries
  refs_eq : after.refs = refs
  fault_eq : ∃ before path behind, set.imports = before ++ path :: behind ∧
    (∀ p ∈ before, Text.NamesBehind (package ++ "/") p) ∧
      ¬Text.NamesBehind (package ++ "/") path ∧
        e = .operationSet set.classname (.malformedImport path package)

/-- What a call leaves behind. -/
structure OneCall : Prop where
  succeeds_iff : after.fault = none ↔
    ∀ path ∈ set.imports, ∃ file, file ≠ "" ∧ path = package ++ "/" ++ file
  classname_eq : after.set.classname = set.classname
  imports_eq : after.set.imports = set.imports
  apiFilename_eq : after.set.apiFilename = some (Naming.apiFilename set.classname)
  operations : List.Forall₂ Classified set.operations after.set.operations
  entered : after.fault = none → Entered package set refs after
  refused : ∀ e, after.fault = some e → Refused package set refs after e

end OneCall

section Normalize

variable {package : String} {set : OperationSet} {refs : ImportRefs}

theorem OperationSet.fault_normalize :
    (set.normalize package refs).fault =
      (set.imports.findSome? (ImportEntry.importFault? package)).map
        (.operationSet set.classname) := by
  rw [← ImportEntry.fault?_resolveAll, normalize]
  cases ImportEntry.resolveAll package set.imports with
  | error e => rfl
  | ok entries => rfl

/-- Whatever becomes of the imports, the set is prepared. -/
theorem OperationSet.exists_prepare_normalize (package : String) (set : OperationSet)
    (refs : ImportRefs) :
    ∃ entries, (set.normalize package refs).set = { set.prepare with importEntries := entries } := by
  unfold normalize
  cases ImportEntry.resolveAll package set.imports with
  | error e => exact ⟨set.importEntries, rfl⟩
  | ok entries => exact ⟨entries, rfl⟩

theorem entered_normalize {entries : List ImportEntry}
    (h : ImportEntry.resolveAll package set.imports = .ok entries) :
    Entered package set refs (set.normalize package refs) := by
  rw [OperationSet.normalize, h]
  exact ⟨(ImportEntry.resolveAll_eq_ok_iff.mp h).imp fun _ _ => ImportEntry.resolve_eq_ok_iff.mp,
    refs.entries_extend entries⟩

theorem refused_normalize {e : GenerateError}
    (h : (set.normalize package refs).fault = some e) :
    Refused package set refs (set.normalize package refs) e := by
  have hfault := h
  rw [OperationSet.fault_normalize, Option.map_eq_some_iff] at hfault
  obtain ⟨cause, hcause, rfl⟩ := hfault
  obtain ⟨before, path, behind, hsplit, hpath, hbefore⟩ := List.findSome?_eq_some_iff.mp hcause
  obtain ⟨hmalformed, rfl⟩ := ImportEntry.importFault?_eq_some_iff.mp hpath
  have hfirst := fun p hp => ImportEntry.importFault?_eq_none_iff.mp (hbefore p hp)
  unfold OperationSet.normalize at h ⊢
  cases hres : ImportEntry.resolveAll package set.imports with
  | error e => exact ⟨rfl, rfl, before, path, behind, hsplit, hfirst, hmalformed, rfl⟩
  | ok entries =>
      rw [hres] at h
      cases h

end Normalize

/-- **What one normalization does, and what it does not do if it fails.** -/
theorem oneCall_normalize (naming : Naming) (set : OperationSet) (refs : ImportRefs) :
    OneCall naming.modelPackage set refs (set.normalize naming.modelPackage refs) := by
  obtain ⟨entries, hset⟩ := set.exists_prepare_normalize naming.modelPackage refs
  refine ⟨?_, ?_, ?_, ?_, ?_, fun hnone => ?_, fun _ => refused_normalize⟩
  · rw [OperationSet.fault_normalize, Option.map_eq_none_iff, List.findSome?_eq_none_iff]
    exact forall₂_congr fun _ _ => ImportEntry.importFault?_eq_none_iff
  · rw [hset]
    rfl
  · rw [hset]
    rfl
  · rw [hset]
    rfl
  · rw [hset]
    exact List.forall₂_map_right_iff.mpr
      (List.forall₂_same.mpr fun op _ => classified_normalize op)
  · rw [OperationSet.fault_normalize, ← ImportEntry.fault?_resolveAll,
      Option.map_eq_none_iff] at hnone
    obtain ⟨entries, hentries⟩ := fault?_eq_none_iff.mp hnone
    exact entered_normalize hentries

/-- A set with an operation that declares nothing, and the entry that it had before. -/
def storeSet (imports : List String) : OperationSet where
  classname := "StoreApi"
  operations := [{ (default : ClientOperation) with nickname := "buy" }]
  imports := imports
  importEntries := [⟨"model/old", "model/old", "Old"⟩]

/-- All that a call leaves behind. -/
def Normalized.parts (after : Normalized) : OperationSet × ImportRefs × Option GenerateError :=
  (after.set, after.refs, after.fault)

-- the second import is malformed: the operation consumes JSON, and the first import is lost
example :
    ((storeSet ["model/pet", "model/"]).normalize "model"
      ⟨[⟨"model/toy", "model/toy", "Toy"⟩]⟩).parts = (
        { storeSet ["model/pet", "model/"] with
          apiFilename := some "storeApi"
          operations := [{ (default : ClientOperation) with
            nickname := "buy", consumes := [⟨"application/json", some .json⟩] }] },
        ⟨[⟨"model/toy", "model/toy", "Toy"⟩]⟩,
        some (.operationSet "StoreApi" (.malformedImport "model/" "model"))) := by
  decide +kernel

-- both imports are resolved: the entries are new, and one of them is recorded
example :
    ((storeSet ["model/pet", "model/toy"]).normalize "model"
      ⟨[⟨"model/toy", "model/toy", "Toy"⟩]⟩).parts.2 = (
        ⟨[⟨"model/toy", "model/toy", "Toy"⟩, ⟨"model/pet", "model/pet", "Pet"⟩]⟩, none) := by
  decide +kernel

end SwaggerClient
