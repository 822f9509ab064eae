/-
Paths to definitions, and a list of them localized one after the other.

A path leads to a definition exactly if it is `#/definitions/` followed by a name.  The
list walk `localPaths` is what localizing a schema amounts to once the schema is
forgotten: it rewrites good paths up to the first bad one.  Where it stops is its
frontier (`localPaths_frontier`), and a walk over two lists in a row goes on with the
second only if it got through the first (`localPaths_append`, `localPaths_append_fault`).
Localized paths are no references any more, so a walk over them does not get past the first
(`localPaths_local`).
-/
import SwaggerClient.Reference
import Mathlib.Data.List.Basic

namespace SwaggerClient

/-! ### One path -/

/-- A path that leads to a definition: the fixed beginning and then a name. -/
def IsReference (path : String) : Prop := ∃ name, name ≠ "" ∧ path = definitionsStart ++ name

theorem definitionName_append {name : String} (h : name ≠ "") :
    definitionName (definitionsStart ++ name) = .ok name := by
  rw [definitionName, Text.stripStart?_eq_some_iff.mpr rfl]
  exact if_neg h

/-- Every other path is malformed, and the fault names it. -/
theorem definitionName_of_not_isReference {path : String} (h : ¬IsReference path) :
    definitionName path = .error (.malformedReference path) := by
  unfold definitionName
  cases hstrip : Text.stripStart? definitionsStart path with
  | none => rfl
  | some name => exact if_pos (Text.eq_empty_of_not_namesBehind h hstrip)

/-- A name is found exactly where a path is the beginning and this name. -/
theorem definitionName_eq_ok_iff {path name : String} :
    definitionName path = .ok name ↔ name ≠ "" ∧ path = definitionsStart ++ name := by
  constructor
  · intro h
    by_cases hpath : IsReference path
    · obtain ⟨n, hn, rfl⟩ := hpath
      rw [definitionName_append hn] at h
      rw [← Except.ok.inj h]
      exact ⟨hn, rfl⟩
    · rw [definitionName_of_not_isReference hpath] at h
      cases h
  · rintro ⟨hname, rfl⟩
    exact definitionName_append hname

theorem localPath_eq_ok_iff {path localized : String} :
    localPath path = .ok localized ↔
      ∃ name, name ≠ "" ∧ path = definitionsStart ++ name ∧ localized = "/" ++ name := by
  unfold localPath
  constructor
  · intro h
    split at h
    · rename_i name hname
      obtain ⟨hne, hpath⟩ := definitionName_eq_ok_iff.mp hname
      exact ⟨name, hne, hpath, (Except.ok.inj h).symm⟩
    · cases h
  · rintro ⟨name, hne, hpath, rfl⟩
    rw [definitionName_eq_ok_iff.mpr ⟨hne, hpath⟩]

theorem localPath_of_name {name : String} (h : name ≠ "") :
    localPath (definitionsStart ++ name) = .ok ("/" ++ name) :=
  localPath_eq_ok_iff.mpr ⟨name, h, rfl, rfl⟩

theorem localPath_of_not_isReference {path : String} (h : ¬IsReference path) :
    localPath path = .error (.malformedReference path) := by
  unfold localPath
  rw [definitionName_of_not_isReference h]

/-- A local path is no reference, whatever the definition is called: it begins with the slash. -/
theorem not_isReference_local (name : String) : ¬IsReference ("/" ++ name) := by
  intro h
  obtain ⟨rest, -, heq⟩ := h
  have hchars := congrArg String.toList heq
  rw [definitionsStart, String.toList_append, String.toList_append] at hchars
  exact absurd (List.cons.inj hchars).1 (by decide)

/-! ### Many paths -/

/-- Localizes paths up to the first fault. -/
def localPaths : List String → List String × Option ResolveError
  | [] => ([], none)
  | path :: rest =>
    match localPath path with
    | .ok q => (q :: (localPaths rest).1, (localPaths rest).2)
    | .error e => (path :: rest, some e)

theorem localPaths_cons_ok {path q : String} (h : localPath path = .ok q) (rest : List String) :
    localPaths (path :: rest) = (q :: (localPaths rest).1, (localPaths rest).2) := by
  rw [localPaths, h]

theorem localPaths_cons_error {path : String} {e : ResolveError} (h : localPath path = .error e)
    (rest : List String) : localPaths (path :: rest) = (path :: rest, some e) := by
  rw [localPaths, h]

/-- A walk that gets through the first list goes on with the second. -/
theorem localPaths_append {l l' : List String} (h : localPaths l = (l', none))
    (m : List String) : localPaths (l ++ m) = (l' ++ (localPaths m).1, (localPaths m).2) := by
  induction l generalizing l' with
  | nil =>
      rw [localPaths, Prod.mk.injEq] at h
      rw [← h.1]
      rfl
  | cons path l ih =>
      cases hp : localPath path with
      | ok q =>
          rw [localPaths_cons_ok hp, Prod.mk.injEq] at h
          rw [List.cons_append, localPaths_cons_ok hp, ih (Prod.ext rfl h.2), ← h.1]
          rfl
      | error e =>
          rw [localPaths_cons_error hp] at h
          cases h

/-- A walk that ends in the first list leaves the second alone. -/
theorem localPaths_append_fault {l l' : List String} {e : ResolveError}
    (h : localPaths l = (l', some e)) (m : List String) :
    localPaths (l ++ m) = (l' ++ m, some e) := by
  induction l generalizing l' with
  | nil => cases h
  | cons path l ih =>
      cases hp : localPath path with
      | ok q =>
          rw [localPaths_cons_ok hp, Prod.mk.injEq] at h
          rw [List.cons_append, localPaths_cons_ok hp, ih (Prod.ext rfl h.2), ← h.1]
          rfl
      | error e =>
          rw [localPaths_cons_error hp, Prod.mk.injEq] at h
          rw [List.cons_append, localPaths_cons_error hp, ← h.1, h.2]
          rfl

/-- **Where a walk stops:** everything before the first path that is no reference is
localized, and this path and all behind it stay as they are. -/
theorem localPaths_frontier (paths : List String) :
    ∃ names rest : List String,
      paths = names.map (definitionsStart ++ ·) ++ rest ∧ (∀ name ∈ names, name ≠ "") ∧
        (∀ path ∈ rest.head?, ¬IsReference path) ∧
        localPaths paths = (names.map ("/" ++ ·) ++ rest, rest.head?.map .malformedReference) := by
  induction paths with
  | nil => exact ⟨[], [], rfl, by simp, by simp, rfl⟩
  | cons path paths ih =>
      by_cases h : IsReference path
      · obtain ⟨name, hname, rfl⟩ := h
        obtain ⟨names, rest, hpaths, hnames, hrest, hwalk⟩ := ih
        refine ⟨name :: names, rest, ?_, ?_, hrest, ?_⟩
        · rw [hpaths]
          rfl
        · exact List.forall_mem_cons.mpr ⟨hname, hnames⟩
        · rw [localPaths_cons_ok (localPath_of_name hname), hwalk]
          rfl
      · refine ⟨[], path :: paths, rfl, by simp, ?_, ?_⟩
        · intro p hp
          rw [← Option.some.inj hp]
          exact h
        · exact localPaths_cons_error (localPath_of_not_isReference h) paths

/-- A walk that gets through everything leaves the names behind. -/
theorem exists_names_of_localPaths {paths localized : List String}
    (h : localPaths paths = (localized, none)) :
    ∃ names : List String, (∀ name ∈ names, name ≠ "") ∧
      paths = names.map (definitionsStart ++ ·) ∧ localized = names.map ("/" ++ ·) := by
  obtain ⟨names, rest, hpaths, hnames, -, hwalk⟩ := localPaths_frontier paths
  rw [h, Prod.mk.injEq] at hwalk
  obtain ⟨hlocal, hfault⟩ := hwalk
  have hrest : rest = [] := List.head?_eq_none_iff.mp (Option.map_eq_none_iff.mp hfault.symm)
  rw [hrest, List.append_nil] at hpaths hlocal
  exact ⟨names, hnames, hpaths, hlocal⟩

/-- **A walk over local paths stops at once.** -/
theorem localPaths_local (names : List String) :
    localPaths (names.map ("/" ++ ·)) =
      (names.map ("/" ++ ·), names.head?.map fun name => .malformedReference ("/" ++ name)) := by
  cases names with
  | nil => rfl
  | cons name names =>
      exact localPaths_cons_error (localPath_of_not_isReference (not_isReference_local name)) _

end SwaggerClient
