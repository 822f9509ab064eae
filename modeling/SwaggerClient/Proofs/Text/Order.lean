/-
Laws of the two orders in which texts are listed once.

Taking first occurrences commutes with appending, if what was seen before is left out
(`firstOccurrences_append`); this is how imports that are collected piece by piece come
to be the first occurrences of everything.  Of elements that are told apart by a key only,
`firstBy` keeps the first of each key.  It grows at the end (`firstBy_append`), and its keys
are the first occurrences of all keys (`map_firstBy`).  A sorted list without repetition is
decided by its members (`eq_of_sorted`), so it does not matter in which order texts were
inserted.
-/
import SwaggerClient.Text.Order
import Mathlib.Data.String.Basic
import Mathlib.Data.List.Nodup
import Mathlib.Data.Finset.Card

namespace SwaggerClient.Text

/-! ### First occurrences -/

section Occurrences

variable {α : Type} [DecidableEq α]

theorem mem_firstOccurrences {x : α} {l : List α} : x ∈ firstOccurrences l ↔ x ∈ l := by
  induction l with
  | nil => exact Iff.rfl
  | cons y l ih =>
      rw [firstOccurrences, List.mem_cons, List.mem_cons, List.mem_filter, ih]
      by_cases hxy : x = y
      · simp [hxy]
      · simp [hxy]

theorem nodup_firstOccurrences (l : List α) : (firstOccurrences l).Nodup := by
  induction l with
  | nil => exact List.nodup_nil
  | cons y l ih =>
      rw [firstOccurrences, List.nodup_cons]
      exact ⟨by simp, ih.filter _⟩

end Occurrences

/-! ### The first of each key -/

section Keys

variable {α β : Type} [DecidableEq β] (key : α → β)

/-- The elements whose key no element before them has. -/
def firstBy (key : α → β) : List α → List α
  | [] => []
  | x :: xs => x :: (firstBy key xs).filter fun y => key y ≠ key x

theorem map_firstBy (l : List α) : (firstBy key l).map key = firstOccurrences (l.map key) := by
  induction l with
  | nil => rfl
  | cons x l ih =>
      rw [firstBy, List.map_cons, List.map_cons, firstOccurrences, ← ih, List.filter_map]
      rfl

theorem nodup_map_firstBy (l : List α) : ((firstBy key l).map key).Nodup := by
  rw [map_firstBy]
  exact nodup_firstOccurrences _

theorem mem_of_mem_firstBy {x : α} {l : List α} (h : x ∈ firstBy key l) : x ∈ l := by
  induction l with
  | nil => exact h
  | cons y l ih =>
      rcases List.mem_cons.mp h with rfl | h
      · exact List.mem_cons_self
      · exact List.mem_cons_of_mem y (ih (List.mem_filter.mp h).1)

/-- Leaving out by the key and taking the first of each key do not disturb each other. -/
theorem firstBy_filter (p : β → Bool) (l : List α) :
    firstBy key (l.filter fun x => p (key x)) = (firstBy key l).filter fun x => p (key x) := by
  induction l with
  | nil => rfl
  | cons x l ih =>
      by_cases hx : p (key x) = true
      · rw [List.filter_cons, if_pos hx, firstBy, ih, firstBy, List.filter_cons, if_pos hx,
          List.filter_filter, List.filter_filter]
        simp only [Bool.and_comm]
      · have hother : ∀ y, p (key y) = true → key y ≠ key x := fun y hy heq => hx (heq ▸ hy)
        rw [List.filter_cons, if_neg hx, ih, firstBy, List.filter_cons, if_neg hx,
          List.filter_filter]
        refine List.filter_congr fun y _ => ?_
        by_cases hy : p (key y) = true
        · simp [hy, hother y hy]
        · simp [hy]

/-- **The first of each key of two lists in a row:** those of the first, then those of the
second whose keys are new. -/
theorem firstBy_append (l m : List α) :
    firstBy key (l ++ m) =
      firstBy key l ++ firstBy key (m.filter fun x => key x ∉ l.map key) := by
  induction l with
  | nil => simp [firstBy]
  | cons x l ih =>
      have hfilter := firstBy_filter key (fun k => decide (k ≠ key x))
        (m.filter fun y => key y ∉ l.map key)
      rw [List.cons_append, firstBy, ih, List.filter_append, firstBy, List.cons_append, ← hfilter,
        List.filter_filter]
      simp [not_or]

/-- One more element at the end stays exactly if its key is new. -/
theorem firstBy_concat (l : List α) (x : α) :
    firstBy key (l ++ [x]) = if key x ∈ l.map key then firstBy key l else firstBy key l ++ [x] := by
  rw [firstBy_append]
  by_cases hx : key x ∈ l.map key
  · rw [if_pos hx, List.filter_cons_of_neg (by simpa using hx), List.filter_nil]
    exact List.append_nil _
  · rw [if_neg hx, List.filter_cons_of_pos (by simpa using hx), List.filter_nil]
    rfl

/-- **The first of each key, place by place:** an element stays if its key is not among those of
the elements before it. -/
theorem firstBy_eq_filter_zipIdx (l : List α) :
    firstBy key l = (l.zipIdx.filter fun x => key x.1 ∉ (l.take x.2).map key).map Prod.fst := by
  induction l using List.reverseRecOn with
  | nil => rfl
  | append_singleton l x ih =>
      -- places in front of the last one see the same elements before them as without it
      have hfront : (l.zipIdx.filter fun y => key y.1 ∉ ((l ++ [x]).take y.2).map key) =
          l.zipIdx.filter fun y => key y.1 ∉ (l.take y.2).map key := by
        refine List.filter_congr fun y hy => ?_
        have hplace : y.2 < l.length := by simpa using (List.mem_zipIdx hy).2.1
        rw [List.take_append_of_le_length hplace.le]
      rw [firstBy_concat, ih, List.zipIdx_append, List.filter_append, List.map_append, hfront,
        List.zipIdx_singleton, Nat.zero_add]
      by_cases hx : key x ∈ l.map key
      · rw [if_pos hx, List.filter_cons_of_neg (by simpa using hx), List.filter_nil, List.map_nil,
          List.append_nil]
      · rw [if_neg hx, List.filter_cons_of_pos (by simpa using hx), List.filter_nil]
        rfl

theorem firstBy_eq_nil_iff {l : List α} : firstBy key l = [] ↔ l = [] := by
  cases l with
  | nil => exact iff_of_true rfl rfl
  | cons x l => exact iff_of_false (List.cons_ne_nil _ _) (List.cons_ne_nil _ _)

/-- As many elements stay as there are keys. -/
theorem length_firstBy (l : List α) : (firstBy key l).length = (l.map key).toFinset.card := by
  rw [← List.length_map key, ← List.toFinset_card_of_nodup (nodup_map_firstBy key l)]
  congr 1
  ext k
  rw [List.mem_toFinset, List.mem_toFinset, map_firstBy, mem_firstOccurrences]

/-- Where the key decides the element, no element is lost. -/
theorem mem_firstBy_iff {l : List α} (hkey : ∀ x ∈ l, ∀ y ∈ l, key x = key y → x = y) {x : α} :
    x ∈ firstBy key l ↔ x ∈ l := by
  refine ⟨mem_of_mem_firstBy key, fun hx => ?_⟩
  have hmem : key x ∈ (firstBy key l).map key := by
    rw [map_firstBy, mem_firstOccurrences]
    exact List.mem_map_of_mem hx
  obtain ⟨y, hy, heq⟩ := List.mem_map.mp hmem
  rw [← hkey y (mem_of_mem_firstBy key hy) x hx heq]
  exact hy

/-- Where the key decides the element, the elements decide which ones stay. -/
theorem firstBy_perm {l m : List α} (hkey : ∀ x ∈ l, ∀ y ∈ l, key x = key y → x = y)
    (h : ∀ x, x ∈ l ↔ x ∈ m) : (firstBy key l).Perm (firstBy key m) := by
  refine (List.perm_ext_iff_of_nodup (List.Nodup.of_map key (nodup_map_firstBy key l))
    (List.Nodup.of_map key (nodup_map_firstBy key m))).mpr fun x => ?_
  rw [mem_firstBy_iff key hkey, h, mem_firstBy_iff key]
  exact fun y hy z hz => hkey y ((h y).mpr hy) z ((h z).mpr hz)

end Keys

/-! ### First occurrences of lists in a row -/

section Rows

variable {α : Type} [DecidableEq α]

/-- First occurrences are told apart by themselves. -/
theorem firstBy_id (l : List α) : firstBy id l = firstOccurrences l := by
  rw [← List.map_id (firstBy id l), map_firstBy, List.map_id]

/-- **First occurrences of two lists in a row:** those of the first, then the new ones of the
second. -/
theorem firstOccurrences_append (l m : List α) :
    firstOccurrences (l ++ m) =
      firstOccurrences l ++
        (firstOccurrences m).filter fun x => !(firstOccurrences l).contains x := by
  have hnew := firstBy_filter id (fun x => decide (x ∉ l.map id)) m
  rw [← firstBy_id, firstBy_append]
  simp only [id_eq, List.map_id] at hnew ⊢
  rw [hnew, firstBy_id, firstBy_id]
  congr 1
  refine List.filter_congr fun x _ => ?_
  rw [List.contains_eq_mem, decide_not, decide_eq_decide.mpr mem_firstOccurrences]

/-- One more element at the end stays exactly if it is new. -/
theorem firstOccurrences_concat (l : List α) (x : α) :
    firstOccurrences (l ++ [x]) =
      if x ∈ firstOccurrences l then firstOccurrences l else firstOccurrences l ++ [x] := by
  have hconcat := firstBy_concat id l x
  rw [firstBy_id, firstBy_id, List.map_id, id_eq] at hconcat
  rw [hconcat, if_congr mem_firstOccurrences rfl rfl]

end Rows

/-! ### Sorted texts -/

theorem mem_insertSorted {s t : String} {l : List String} :
    t ∈ insertSorted s l ↔ t = s ∨ t ∈ l := by
  induction l with
  | nil => simp [insertSorted]
  | cons u l ih =>
      rw [insertSorted]
      split
      · rw [List.mem_cons]
      · split
        · rename_i hsu
          rw [hsu, List.mem_cons, or_self_left]
        · rw [List.mem_cons, List.mem_cons, ih, or_left_comm]

/-- Inserting keeps the texts sorted and without repetition. -/
theorem pairwise_insertSorted (s : String) {l : List String} (h : l.Pairwise (· < ·)) :
    (insertSorted s l).Pairwise (· < ·) := by
  induction l with
  | nil => exact List.pairwise_singleton _ s
  | cons u l ih =>
      obtain ⟨hu, hl⟩ := List.pairwise_cons.mp h
      rw [insertSorted]
      split
      · rename_i hsu
        refine List.pairwise_cons.mpr ⟨fun t ht => ?_, h⟩
        rcases List.mem_cons.mp ht with rfl | ht
        · exact hsu
        · exact lt_trans hsu (hu t ht)
      · split
        · exact h
        · rename_i hnot hne
          refine List.pairwise_cons.mpr ⟨fun t ht => ?_, ih hl⟩
          rcases mem_insertSorted.mp ht with rfl | ht
          · exact lt_of_le_of_ne (not_lt.mp hnot) fun heq => hne heq.symm
          · exact hu t ht

theorem mem_sortedSet {t : String} {l : List String} : t ∈ sortedSet l ↔ t ∈ l := by
  induction l with
  | nil => exact Iff.rfl
  | cons u l ih =>
      show t ∈ insertSorted u (sortedSet l) ↔ t ∈ u :: l
      rw [mem_insertSorted, ih, List.mem_cons]

theorem pairwise_sortedSet (l : List String) : (sortedSet l).Pairwise (· < ·) := by
  induction l with
  | nil => exact .nil
  | cons u l ih => exact pairwise_insertSorted u ih

theorem nodup_of_sorted {l : List String} (h : l.Pairwise (· < ·)) : l.Nodup :=
  h.imp fun hab => ne_of_lt hab

/-- **Sorted texts without repetition are decided by their members.** -/
theorem eq_of_sorted {l m : List String} (hl : l.Pairwise (· < ·)) (hm : m.Pairwise (· < ·))
    (h : ∀ t, t ∈ l ↔ t ∈ m) : l = m := by
  have hperm : l.Perm m :=
    (List.perm_ext_iff_of_nodup (nodup_of_sorted hl) (nodup_of_sorted hm)).mpr h
  exact hperm.eq_of_pairwise (fun a b _ _ hab hba => absurd hba (lt_asymm hab)) hl hm

end SwaggerClient.Text
