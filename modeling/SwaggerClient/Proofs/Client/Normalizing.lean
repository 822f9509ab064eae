/-
Normalizing again changes nothing.

Operation sets are normalized in place, and every call that succeeds records its imports in
one record that all calls share.  A set may be normalized any number of times and in any
turn.  What a call makes of a set does not depend on the record (`normalize_eq`), and a set
that was normalized before, with success or without, is normalized to the same
(`normalize_again`).  So after a run of calls every set is as after one call, and the record
holds the entries of the sets that were called in the order of the calls
(`Settled`, `Settled.call`).

An entry is decided by its path, so the record never keeps one entry in place of another:
runs that call the same sets record the same entries, and differ in their order only
(`settled_of_calls`).
-/
import SwaggerClient.Proofs.Client.Recording
import Mathlib.Logic.Function.Basic

namespace SwaggerClient

/-! ### One set, twice -/

theorem consumedOrJson_ne_nil (entries : List ConsumeEntry) : consumedOrJson entries ≠ [] := by
  unfold consumedOrJson
  cases entries with
  | nil => exact List.cons_ne_nil _ _
  | cons entry entries => exact List.cons_ne_nil _ _

theorem consumedOrJson_of_ne_nil {entries : List ConsumeEntry} (h : entries ≠ []) :
    consumedOrJson entries = entries := by
  unfold consumedOrJson
  rw [if_neg (by simpa using h)]

namespace ClientOperation

theorem normalize_normalize (op : ClientOperation) : op.normalize.normalize = op.normalize := by
  have hne : (consumedOrJson op.consumes).map ConsumeEntry.classify ≠ [] :=
    fun h => consumedOrJson_ne_nil op.consumes (List.map_eq_nil_iff.mp h)
  have hclassify : ConsumeEntry.classify ∘ ConsumeEntry.classify = ConsumeEntry.classify := rfl
  -- JSON was put in the first time, so there is something to consume the second time
  simp only [normalize, consumedOrJson_of_ne_nil hne, List.map_map, hclassify]

end ClientOperation

namespace OperationSet

variable (package : String) (set : OperationSet)

theorem prepare_prepare : set.prepare.prepare = set.prepare := by
  have hop : ClientOperation.normalize ∘ ClientOperation.normalize = .normalize :=
    funext ClientOperation.normalize_normalize
  simp only [prepare, List.map_map, hop]

/-- One call on its own. -/
def once : Normalized := set.normalize package {}

theorem classname_once : (set.once package).set.classname = set.classname := by
  unfold once normalize
  cases ImportEntry.resolveAll package set.imports with
  | error e => rfl
  | ok entries => rfl

theorem apiFilename_once :
    (set.once package).set.apiFilename = some (Naming.apiFilename set.classname) := by
  unfold once normalize
  cases ImportEntry.resolveAll package set.imports with
  | error e => rfl
  | ok entries => rfl

/-- The entries that a call records.  There are none if an import is malformed. -/
def resolvedEntries : List ImportEntry :=
  (ImportEntry.resolveAll package set.imports).toOption.getD []

theorem paths_resolvedEntries :
    (set.resolvedEntries package).map ImportEntry.importPath =
      if (set.once package).fault.isNone then set.imports else [] := by
  unfold once resolvedEntries normalize
  cases hres : ImportEntry.resolveAll package set.imports with
  | error e => rfl
  | ok entries => exact ImportEntry.paths_of_resolveAll hres

theorem resolved_of_mem_resolvedEntries {entry : ImportEntry}
    (h : entry ∈ set.resolvedEntries package) : ImportEntry.Resolved package entry := by
  unfold resolvedEntries at h
  cases hres : ImportEntry.resolveAll package set.imports with
  | error e =>
      rw [hres] at h
      exact absurd h List.not_mem_nil
  | ok entries =>
      rw [hres] at h
      exact ImportEntry.resolved_of_mem hres h

/-- **A call depends on the record only in that it adds to it.** -/
theorem normalize_eq (refs : ImportRefs) :
    set.normalize package refs =
      ⟨(set.once package).set, refs.extend (set.resolvedEntries package),
        (set.once package).fault⟩ := by
  unfold once resolvedEntries normalize
  cases ImportEntry.resolveAll package set.imports with
  | error e => rfl
  | ok entries => rfl

/-- **A set that was normalized before is normalized to the same,** with the same fault and
the same entries. -/
theorem normalize_again (refs : ImportRefs) :
    (set.once package).set.normalize package refs = set.normalize package refs := by
  unfold once normalize
  -- imports are left alone, so the second call fails or succeeds like the first
  cases hres : ImportEntry.resolveAll package set.imports with
  | error e =>
      have himports : ImportEntry.resolveAll package set.prepare.imports = .error e := hres
      simp only [himports, prepare_prepare]
      rfl
  | ok entries =>
      have himports : ImportEntry.resolveAll package set.prepare.imports = .ok entries := hres
      -- preparing does not look at the entries
      have hprepare : ({ set.prepare with importEntries := entries } : OperationSet).prepare =
          { set.prepare.prepare with importEntries := entries } := rfl
      simp only [himports, hprepare, prepare_prepare]

end OperationSet

/-! ### Many sets, many calls -/

/-- Operation sets that are normalized in place, and the record that they share. -/
structure Workspace (ι : Type) where
  sets : ι → OperationSet
  refs : ImportRefs := {}

namespace Workspace

variable {ι : Type} [DecidableEq ι]

/-- What a call leaves behind. -/
def call (package : String) (w : Workspace ι) (i : ι) : Workspace ι where
  sets := Function.update w.sets i ((w.sets i).normalize package w.refs).set
  refs := ((w.sets i).normalize package w.refs).refs

/-- What a call says. -/
def fault (package : String) (w : Workspace ι) (i : ι) : Option GenerateError :=
  ((w.sets i).normalize package w.refs).fault

/-- What a run of calls leaves behind, and what each of them says. -/
def run (package : String) : Workspace ι → List ι → Workspace ι × List (Option GenerateError)
  | w, [] => (w, [])
  | w, i :: calls =>
    let (after, faults) := run package (w.call package i) calls
    (after, w.fault package i :: faults)

end Workspace

section Runs

variable {ι : Type} {package : String} {family : ι → OperationSet}

/-- What calls record in a row. -/
def recordedBy (package : String) (family : ι → OperationSet) (calls : List ι) : ImportRefs :=
  .recorded (calls.flatMap fun i => (family i).resolvedEntries package)

/-- How a workspace stands after calls: every set that was called is as after one call, and
the entries were recorded call by call. -/
structure Settled (package : String) (family : ι → OperationSet) (calls : List ι)
    (w : Workspace ι) : Prop where
  called : ∀ i ∈ calls, w.sets i = ((family i).once package).set
  untouched : ∀ i, i ∉ calls → w.sets i = family i
  refs_eq : w.refs = recordedBy package family calls

namespace Settled

variable {calls : List ι} {w : Workspace ι}

theorem start (package : String) (family : ι → OperationSet) :
    Settled package family [] { sets := family } :=
  ⟨fun _ h => absurd h List.not_mem_nil, fun _ _ => rfl, rfl⟩

variable [DecidableEq ι]

/-- In a settled workspace, a set is normalized as it would be for the first time. -/
theorem normalize_sets (h : Settled package family calls w) (i : ι) (refs : ImportRefs) :
    (w.sets i).normalize package refs = (family i).normalize package refs := by
  by_cases hi : i ∈ calls
  · rw [h.called i hi, OperationSet.normalize_again]
  · rw [h.untouched i hi]

/-- **One more call settles one more set.** -/
theorem call (h : Settled package family calls w) (i : ι) :
    Settled package family (calls ++ [i]) (w.call package i) := by
  have hsame : (w.sets i).normalize package w.refs =
      ⟨((family i).once package).set, w.refs.extend ((family i).resolvedEntries package),
        ((family i).once package).fault⟩ := by
    rw [h.normalize_sets, OperationSet.normalize_eq]
  refine ⟨fun j hj => ?_, fun j hj => ?_, ?_⟩
  · show Function.update w.sets i _ j = _
    by_cases hji : j = i
    · rw [hji, Function.update_self, hsame]
    · rw [Function.update_of_ne hji]
      exact h.called j (by simpa [hji] using hj)
  · have hji : j ≠ i ∧ j ∉ calls := by simpa [and_comm] using hj
    show Function.update w.sets i _ j = _
    rw [Function.update_of_ne hji.1]
    exact h.untouched j hji.2
  · show ((w.sets i).normalize package w.refs).refs = _
    rw [hsame, h.refs_eq, recordedBy, ImportRefs.extend_recorded, recordedBy, List.flatMap_append,
      List.flatMap_singleton]

/-- **A run settles every set that it calls,** and a call says the same each time. -/
theorem run (h : Settled package family calls w) (more : List ι) :
    Settled package family (calls ++ more) (w.run package more).1 ∧
      (w.run package more).2 = more.map fun i => ((family i).once package).fault := by
  induction more generalizing calls w with
  | nil =>
      rw [List.append_nil]
      exact ⟨h, rfl⟩
  | cons i more ih =>
      obtain ⟨hafter, hfaults⟩ := ih (h.call i)
      have hfault : w.fault package i = ((family i).once package).fault := by
        unfold Workspace.fault
        rw [h.normalize_sets, OperationSet.normalize_eq]
      rw [List.append_assoc] at hafter
      refine ⟨hafter, ?_⟩
      show w.fault package i :: ((w.call package i).run package more).2 = _
      rw [hfaults, hfault, List.map_cons]

end Settled

theorem recorded_perm {calls calls' : List ι} (hsame : ∀ i, i ∈ calls ↔ i ∈ calls') :
    (recordedBy package family calls).entries.Perm (recordedBy package family calls').entries := by
  have hresolved : ∀ entry ∈ calls.flatMap fun i => (family i).resolvedEntries package,
      ImportEntry.Resolved package entry := by
    intro entry hentry
    obtain ⟨i, -, hentry⟩ := List.mem_flatMap.mp hentry
    exact (family i).resolved_of_mem_resolvedEntries package hentry
  refine Text.firstBy_perm _ (fun x hx y hy => ?_) fun entry => ?_
  · exact ImportEntry.eq_of_resolved (hresolved x hx) (hresolved y hy)
  · rw [List.mem_flatMap, List.mem_flatMap]
    exact exists_congr fun i => and_congr_left fun _ => hsame i

/-- Recorded paths are the imports of the calls that succeed, in the order of the calls. -/
theorem paths_recorded (calls : List ι) :
    (recordedBy package family calls).entries.map (·.importPath) =
      Text.firstOccurrences
        ((calls.filter fun i => ((family i).once package).fault.isNone).flatMap
          fun i => (family i).imports) := by
  have hcall : ∀ i, ((family i).resolvedEntries package).map ImportEntry.importPath =
      if ((family i).once package).fault.isNone then (family i).imports else [] :=
    fun i => (family i).paths_resolvedEntries package
  unfold recordedBy ImportRefs.recorded
  rw [Text.map_firstBy, List.map_flatMap]
  congr 1
  induction calls with
  | nil => rfl
  | cons i calls ih =>
      rw [List.flatMap_cons, ih, hcall]
      by_cases hi : ((family i).once package).fault.isNone = true
      · rw [if_pos hi, List.filter_cons_of_pos (by exact hi), List.flatMap_cons]
      · rw [if_neg hi, List.filter_cons_of_neg (by exact hi), List.nil_append]

end Runs

/-- **Normalizing is idempotent and its order does not matter.**  After any run of calls
every set is as after one call, and each call on a set says what the first one says.  Paths
are recorded in the order of the first calls that succeed, and for one call in the order of
the imports; which entries there are is decided by which sets were called. -/
theorem settled_of_calls {ι : Type} [DecidableEq ι] (naming : Naming)
    (family : ι → OperationSet) (calls : List ι) :
    let after := Workspace.run naming.modelPackage { sets := family } calls
    Settled naming.modelPackage family calls after.1 ∧
      after.2 = calls.map (fun i => ((family i).once naming.modelPackage).fault) ∧
      after.1.refs.entries.map (·.importPath) = Text.firstOccurrences
        ((calls.filter fun i =>
          ((family i).once naming.modelPackage).fault.isNone).flatMap
            fun i => (family i).imports) ∧
      ∀ calls' : List ι, (∀ i, i ∈ calls' ↔ i ∈ calls) →
        (Workspace.run naming.modelPackage { sets := family } calls').1.refs.entries.Perm
          after.1.refs.entries := by
  obtain ⟨hsettled, hfaults⟩ := (Settled.start naming.modelPackage family).run calls
  refine ⟨hsettled, hfaults, ?_, fun calls' hsame => ?_⟩
  · rw [hsettled.refs_eq]
    exact paths_recorded calls
  · obtain ⟨hsettled', -⟩ := (Settled.start naming.modelPackage family).run calls'
    rw [hsettled'.refs_eq, hsettled.refs_eq]
    exact recorded_perm hsame

/-- Two sets with an import in common, and between them one with a malformed import. -/
def kennelSets : Fin 3 → OperationSet
  | 0 => { classname := "DogApi", operations := [], imports := ["model/dog", "model/owner"] }
  | 1 => { classname := "StrayApi", operations := [default], imports := ["model/stray", "dog"] }
  | 2 => { classname := "OwnerApi", operations := [], imports := ["model/owner", "model/kennel"] }

/-- The sets of a kennel after calls. -/
def kennelAfter (calls : List (Fin 3)) : Workspace (Fin 3) :=
  (Workspace.run Config.standard.naming.modelPackage { sets := kennelSets } calls).1

theorem settled_of_calls_kennel :
    (kennelAfter [2, 1, 0, 1, 2]).refs.entries.map (·.importPath) =
        ["model/owner", "model/kennel", "model/dog"] ∧
      (kennelAfter [0, 1, 2]).refs.entries.map (·.importPath) =
        ["model/dog", "model/owner", "model/kennel"] ∧
      ((kennelAfter [2, 1, 0, 1, 2]).sets 1).operations.map (·.consumes) =
        [[⟨"application/json", some .json⟩]] ∧
      (∀ i : Fin 3, i ∈ [0, 1, 2] ↔ i ∈ [2, 1, 0, 1, 2]) ∧
      (kennelAfter [0, 1, 2]).refs.entries.Perm (kennelAfter [2, 1, 0, 1, 2]).refs.entries :=
  have hsame : ∀ i : Fin 3, i ∈ [0, 1, 2] ↔ i ∈ [2, 1, 0, 1, 2] := by decide
  ⟨by decide +kernel, by decide +kernel, by decide +kernel, hsame,
    (settled_of_calls Config.standard.naming kennelSets [2, 1, 0, 1, 2]).2.2.2 _ hsame⟩

end SwaggerClient
