/-
Recording imports: the first entry of each path, in order.

Entries are recorded one after the other, and an entry whose path has one already is
dropped, so a call adds to a record the first entry of each path that it lacks
(`ImportRefs.entries_extend`).  However the entries were handed over, in one call or in many,
what is recorded are the first entries of all paths in the order in which they came
(`ImportRefs.extend_recorded`, `ImportRefs.foldl_extend`).  So how often a record was written to
and in which portions cannot be seen in it (`recordOf_extends`).

An entry that was resolved is decided by its path, so dropping one never hides another
(`ImportEntry.eq_of_resolved`).
-/
import SwaggerClient.Client.OperationSet
import SwaggerClient.Proofs.Text.Order
import SwaggerClient.Proofs.Outcome

namespace SwaggerClient

/-! ### Entries -/

namespace ImportEntry

variable {package path : String} {entry entry' : ImportEntry}

/-- An entry keeps its path and carries the type behind it. -/
theorem of_resolve (h : resolve package path = .ok entry) :
    entry.importPath = path ∧ entry.filename = path ∧
      classnameOf package path = .ok entry.classname := by
  unfold resolve at h
  split at h
  · rename_i classname hclassname
    rw [← Except.ok.inj h]
    exact ⟨rfl, rfl, hclassname⟩
  · cases h

/-- **Resolving goes through the paths one by one.** -/
theorem resolveAll_eq_ok_iff {paths : List String} {entries : List ImportEntry} :
    resolveAll package paths = .ok entries ↔
      List.Forall₂ (fun path entry => resolve package path = .ok entry) paths entries :=
  mapM_eq_ok_iff

theorem paths_of_resolveAll {paths : List String} {entries : List ImportEntry}
    (h : resolveAll package paths = .ok entries) : entries.map importPath = paths := by
  have hpaths : entries.map importPath = paths.map id :=
    map_of_mapM (fun _ _ hentry => (of_resolve hentry).1) h
  rw [hpaths, List.map_id]

/-- An entry that resolving its own path yields. -/
def Resolved (package : String) (entry : ImportEntry) : Prop :=
  resolve package entry.importPath = .ok entry

theorem resolved_of_mem {paths : List String} {entries : List ImportEntry}
    (h : resolveAll package paths = .ok entries) (hentry : entry ∈ entries) :
    Resolved package entry := by
  obtain ⟨path, -, hresolve⟩ := exists_of_mem_right (resolveAll_eq_ok_iff.mp h) hentry
  unfold Resolved
  rw [(of_resolve hresolve).1]
  exact hresolve

/-- Resolved entries are decided by their paths. -/
theorem eq_of_resolved (h : Resolved package entry) (h' : Resolved package entry')
    (hpath : entry.importPath = entry'.importPath) : entry = entry' := by
  unfold Resolved at h h'
  rw [hpath, h'] at h
  exact (Except.ok.inj h).symm

end ImportEntry

/-! ### The record -/

namespace ImportRefs

/-- What is recorded once entries have come in this order: the first one of each path. -/
def recorded (entries : List ImportEntry) : ImportRefs :=
  ⟨Text.firstBy ImportEntry.importPath entries⟩

theorem contains_iff {refs : ImportRefs} {path : String} :
    refs.contains path = true ↔ path ∈ refs.entries.map ImportEntry.importPath := by
  unfold contains
  simp only [List.any_eq_true, beq_iff_eq, List.mem_map]

/-- **What was recorded stays, and behind it comes the first entry of each new path.** -/
theorem entries_extend (refs : ImportRefs) (more : List ImportEntry) :
    (refs.extend more).entries = refs.entries ++ Text.firstBy ImportEntry.importPath
      (more.filter fun entry => entry.importPath ∉ refs.entries.map ImportEntry.importPath) := by
  induction more generalizing refs with
  | nil => exact (List.append_nil _).symm
  | cons entry more ih =>
      show ((refs.add entry).extend more).entries = _
      rw [ih, add]
      by_cases h : entry.importPath ∈ refs.entries.map ImportEntry.importPath
      · rw [if_pos (contains_iff.mpr h), List.filter_cons_of_neg (by simpa using h)]
      · have hfilter := Text.firstBy_filter ImportEntry.importPath
          (fun path => decide (path ≠ entry.importPath))
          (more.filter fun e => e.importPath ∉ refs.entries.map ImportEntry.importPath)
        rw [if_neg (fun hc => h (contains_iff.mp hc)), List.filter_cons_of_pos (by simpa using h),
          Text.firstBy, ← hfilter, List.filter_filter, List.append_assoc, List.singleton_append]
        congr 3
        refine List.filter_congr fun e _ => ?_
        rw [Bool.eq_iff_iff]
        simp only [Bool.and_eq_true, decide_eq_true_eq, List.map_append, List.mem_append,
          List.map_singleton, List.mem_singleton, not_or, ne_eq, and_comm]

/-- **More entries come last, in their order.** -/
theorem extend_recorded (entries more : List ImportEntry) :
    (recorded entries).extend more = recorded (entries ++ more) := by
  have hpath : ∀ path, path ∈ (recorded entries).entries.map ImportEntry.importPath ↔
      path ∈ entries.map ImportEntry.importPath := by
    intro path
    rw [recorded, Text.map_firstBy, Text.mem_firstOccurrences]
  have hentries := entries_extend (recorded entries) more
  simp only [hpath] at hentries
  exact congrArg ImportRefs.mk (hentries.trans (Text.firstBy_append _ entries more).symm)

/-- **Calls one after the other record what all that they are handed records in a row.** -/
theorem foldl_extend (entries : List ImportEntry) (lists : List (List ImportEntry)) :
    lists.foldl extend (recorded entries) = recorded (entries ++ lists.flatten) := by
  induction lists generalizing entries with
  | nil => exact congrArg recorded (List.append_nil entries).symm
  | cons more lists ih =>
      rw [List.foldl_cons, extend_recorded, ih, List.append_assoc, List.flatten_cons]

/-- What sets record one after the other is what all their entries in a row record. -/
theorem foldl_extend_recorded (entries : List ImportEntry) (sets : List OperationSet) :
    sets.foldl (fun refs set => refs.extend set.importEntries) (recorded entries) =
      recorded (entries ++ sets.flatMap (·.importEntries)) := by
  rw [List.flatMap_def, ← foldl_extend, List.foldl_map]

/-- A call with two lists in a row does what two calls do. -/
theorem extend_append (refs : ImportRefs) (entries more : List ImportEntry) :
    refs.extend (entries ++ more) = (refs.extend entries).extend more :=
  List.foldl_append

/-- **A call changes nothing exactly if it brings no new path.** -/
theorem extend_eq_self_iff {refs : ImportRefs} {more : List ImportEntry} :
    refs.extend more = refs ↔
      ∀ entry ∈ more, entry.importPath ∈ refs.entries.map ImportEntry.importPath := by
  have hsame : refs.extend more = refs ↔ (refs.extend more).entries = refs.entries :=
    ⟨congrArg entries, congrArg ImportRefs.mk⟩
  rw [hsame, entries_extend, List.append_right_eq_self, Text.firstBy_eq_nil_iff,
    List.filter_eq_nil_iff]
  simp only [decide_eq_true_eq, not_not]

end ImportRefs

/-! ### Runs -/

/-- The entries whose path no entry before them has. -/
def ImportEntry.unpreceded (entries : List ImportEntry) : List ImportEntry :=
  (entries.zipIdx.filter fun place =>
    place.1.importPath ∉ (entries.take place.2).map importPath).map Prod.fst

/-- What is recorded after calls that were handed these lists in turn. -/
structure RecordOf (lists : List (List ImportEntry)) (refs : ImportRefs) : Prop where
  entries_eq : refs.entries = ImportEntry.unpreceded lists.flatten
  nodup_paths : (refs.entries.map ImportEntry.importPath).Nodup
  size_eq : refs.size = (lists.flatten.map ImportEntry.importPath).toFinset.card
  isEmpty_iff : refs.isEmpty = true ↔ ∀ entries ∈ lists, entries = []
  /-- One more call changes nothing exactly if all its paths are recorded. -/
  extend_eq_self_iff : ∀ again, refs.extend again = refs ↔
    ∀ entry ∈ again, entry.importPath ∈ lists.flatten.map ImportEntry.importPath

theorem recordOf_recorded (lists : List (List ImportEntry)) :
    RecordOf lists (.recorded lists.flatten) := by
  refine ⟨Text.firstBy_eq_filter_zipIdx _ _, Text.nodup_map_firstBy _ _, Text.length_firstBy _ _,
    ?_, ?_⟩
  · show (Text.firstBy ImportEntry.importPath lists.flatten).isEmpty = true ↔ _
    rw [List.isEmpty_iff, Text.firstBy_eq_nil_iff, List.flatten_eq_nil_iff]
  · intro again
    rw [ImportRefs.extend_eq_self_iff, ImportRefs.recorded, Text.map_firstBy]
    simp only [Text.mem_firstOccurrences]

/-- **Of everything that a run of calls brings, the first entry of each path is recorded,** in
the order in which it came, and it does not matter how the entries were split into calls. -/
theorem recordOf_extends (lists : List (List ImportEntry)) :
    RecordOf lists (lists.foldl ImportRefs.extend {}) ∧
      ∀ entries more : List ImportEntry,
        ((lists.foldl ImportRefs.extend {}).extend entries).extend more =
          (lists.foldl ImportRefs.extend {}).extend (entries ++ more) := by
  have hrun : lists.foldl ImportRefs.extend {} = .recorded lists.flatten :=
    ImportRefs.foldl_extend [] lists
  rw [hrun]
  refine ⟨recordOf_recorded lists, ?_⟩
  intro entries more
  exact (ImportRefs.extend_append _ entries more).symm

-- the second entry of a path is dropped, whether it comes in the same call or in a later one
example :
    ([[⟨"model/toy", "model/toy", "Toy"⟩, ⟨"model/toy", "model/toy", "Doll"⟩], [],
        [⟨"model/pet", "model/pet", "Pet"⟩, ⟨"model/toy", "model/toy", "Ball"⟩]].foldl
      ImportRefs.extend {}).entries =
        [⟨"model/toy", "model/toy", "Toy"⟩, ⟨"model/pet", "model/pet", "Pet"⟩] := by
  decide

end SwaggerClient
