/-
What it means to list elements in the order of their first mention.

`FirstMentions` says it without saying how: the elements that are mentioned, none twice, and
one before the other if its first mention is.  This decides the list (`firstMentions_iff`), so
it does not matter how one gets there.  One way is to go over the mentions and add every element
that is new (`FirstMentions.concat`); taking the first occurrences of the whole list is another.
-/
import SwaggerClient.Proofs.Text.Order
import Mathlib.Data.List.Induction

namespace SwaggerClient.Text

variable {α : Type} [DecidableEq α]

/-- The elements of a list, each once, in the order in which they are first mentioned. -/
structure FirstMentions (mentioned l : List α) : Prop where
  nodup : l.Nodup
  mem_iff : ∀ x, x ∈ l ↔ x ∈ mentioned
  ordered : l.Pairwise fun x y => mentioned.idxOf x < mentioned.idxOf y

namespace FirstMentions

variable {mentioned l : List α}

theorem nil : FirstMentions ([] : List α) [] := ⟨List.nodup_nil, fun _ => Iff.rfl, .nil⟩

theorem eq_nil_iff (h : FirstMentions mentioned l) : l = [] ↔ mentioned = [] := by
  rw [List.eq_nil_iff_forall_not_mem, List.eq_nil_iff_forall_not_mem]
  exact forall_congr' fun x => not_congr (h.mem_iff x)

/-- What is mentioned later does not change the order. -/
theorem ordered_append (h : FirstMentions mentioned l) (later : List α) :
    l.Pairwise fun x y => (mentioned ++ later).idxOf x < (mentioned ++ later).idxOf y := by
  refine h.ordered.imp_of_mem fun hx hy hxy => ?_
  rw [List.idxOf_append_of_mem ((h.mem_iff _).mp hx),
    List.idxOf_append_of_mem ((h.mem_iff _).mp hy)]
  exact hxy

/-- **One more mention adds an element exactly if it is new.** -/
theorem concat (h : FirstMentions mentioned l) (x : α) :
    FirstMentions (mentioned ++ [x]) (if x ∈ l then l else l ++ [x]) := by
  have hordered := h.ordered_append [x]
  by_cases hx : x ∈ l
  · rw [if_pos hx]
    refine ⟨h.nodup, fun y => ?_, hordered⟩
    rw [List.mem_append, List.mem_singleton, h.mem_iff]
    exact (or_iff_left_of_imp fun hyx => hyx ▸ (h.mem_iff x).mp hx).symm
  · have hnew : x ∉ mentioned := mt (h.mem_iff x).mpr hx
    rw [if_neg hx]
    refine ⟨List.nodup_append.mpr ⟨h.nodup, List.nodup_singleton x, ?_⟩, fun y => ?_, ?_⟩
    · intro y hy z hz hyz
      rw [hyz, List.mem_singleton.mp hz] at hy
      exact hx hy
    · rw [List.mem_append, List.mem_append, h.mem_iff]
    · refine List.pairwise_append.mpr ⟨hordered, List.pairwise_singleton _ x, ?_⟩
      intro y hy z hz
      have hmem := (h.mem_iff y).mp hy
      -- the new element is first mentioned at the very end
      rw [List.mem_singleton.mp hz, List.idxOf_append_of_mem hmem, List.idxOf_append_of_notMem hnew]
      exact Nat.lt_of_lt_of_le (List.idxOf_lt_length_of_mem hmem) (Nat.le_add_right _ _)

end FirstMentions

theorem firstMentions_firstOccurrences (l : List α) : FirstMentions l (firstOccurrences l) := by
  induction l using List.reverseRecOn with
  | nil => exact FirstMentions.nil
  | append_singleton l x ih =>
      rw [firstOccurrences_concat]
      exact ih.concat x

/-- **There is one way only to list what is mentioned.** -/
theorem firstMentions_iff {mentioned l : List α} :
    FirstMentions mentioned l ↔ l = firstOccurrences mentioned := by
  constructor
  · intro h
    have h' := firstMentions_firstOccurrences mentioned
    have hperm : l.Perm (firstOccurrences mentioned) :=
      (List.perm_ext_iff_of_nodup h.nodup h'.nodup).mpr fun x => by rw [h.mem_iff, h'.mem_iff]
    exact hperm.eq_of_pairwise (fun _ _ _ _ hxy hyx => absurd hyx (Nat.lt_asymm hxy))
      h.ordered h'.ordered
  · rintro rfl
    exact firstMentions_firstOccurrences mentioned

end SwaggerClient.Text
