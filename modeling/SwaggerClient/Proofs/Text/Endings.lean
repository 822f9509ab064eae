/-
A capitalized word at the end of a name.

A capital with a small letter behind it begins a word, wherever a letter of either case
precedes it.  So a name that has a letter is cut like the name without the ending, and the
ending is cut by itself (`wordsFrom_append_capital`).  Where only digits precede it there is
nothing to cut: digits have no case and belong to what they stand in, and the capital stays
inside their word (`wordsFrom_append_of_noLetter`).
-/
import SwaggerClient.Proofs.Text.Casing

namespace SwaggerClient.Text

/-! ### Cutting an ending off -/

theorem wordsFrom_ne_nil {s : List Char} (hs : s ≠ []) (mode : CaseMode) :
    wordsFrom mode s ≠ [] := by
  intro hnil
  have hflat := flatten_wordsFrom mode s
  rw [hnil] at hflat
  exact hs hflat.symm

theorem extendFirst_append {c : Char} {ws : List (List Char)} (h : ws ≠ [])
    (vs : List (List Char)) : extendFirst c (ws ++ vs) = extendFirst c ws ++ vs := by
  cases ws with
  | nil => exact absurd rfl h
  | cons w ws => rfl

/-- A letter of either case sets the mode by itself. -/
theorem endMode_eq_of_cased {c : Char} (ha : isAscii c = true)
    (h : isUppercase c = true ∨ isLowercase c = true) (mode mode' : CaseMode) (s : List Char) :
    endMode mode (c :: s) = endMode mode' (c :: s) := by
  rw [endMode_cons, endMode_cons]
  rcases h with h | h
  · rw [after_of_isUppercase ha h, after_of_isUppercase ha h]
  · rw [after_of_isLowercase h, after_of_isLowercase h]

/-- Without a letter there are only digits. -/
theorem hasLetter_eq {s : List Char} (ha : Ascii s) (hs : ∀ c ∈ s, isAlphanumeric c = true) :
    hasLetter s = !s.all Char.isDigit := by
  induction s with
  | nil => rfl
  | cons c s ih =>
      obtain ⟨hc, hs⟩ := List.forall_mem_cons.mp hs
      rw [hasLetter_cons, List.all_cons, ih ha.tail hs, isDigit_eq (ha c List.mem_cons_self) hc,
        Bool.not_and, Bool.not_not]

/-- Behind a letter there is a mode. -/
theorem endMode_ne_none {s : List Char} (h : hasLetter s = true) (mode : CaseMode) :
    endMode mode s ≠ .none := by
  induction s generalizing mode with
  | nil => exact Bool.noConfusion h
  | cons c s ih =>
      rw [endMode_cons]
      cases hs : hasLetter s with
      | true => exact ih hs (mode.after c)
      | false =>
          -- the letter is the first character, and what follows keeps its mode
          rw [endMode_of_noLetter hs]
          rw [hasLetter_cons, hs, Bool.or_false, Bool.or_eq_true] at h
          unfold CaseMode.after
          cases hl : isLowercase c with
          | true => simp
          | false => simp [h.resolve_right (by simp [hl])]

section Ending

variable {V d : Char} {s t : List Char} {mode : CaseMode}

/-- **Behind a letter, a capital with a small letter behind it is cut off.** -/
theorem wordsFrom_append_capital (hVa : isAscii V = true) (hda : isAscii d = true)
    (hV : isUppercase V = true) (hd : isLowercase d = true) (ha : Ascii s) (hs : s ≠ [])
    (hend : endMode mode s ≠ .none) :
    wordsFrom mode (s ++ V :: d :: t) = wordsFrom mode s ++ wordsFrom .none (V :: d :: t) := by
  have hVl : isLowercase V = false := (caseLaws hVa).isLowercase_of_isUppercase hV
  fun_induction wordsFrom mode s with
  | case1 => exact absurd rfl hs
  | case2 mode c =>
      rw [List.singleton_append, wordsFrom]
      cases hafter : mode.after c with
      | none => exact absurd hafter hend
      | lower => rw [if_pos ⟨rfl, hV⟩, List.singleton_append]
      | upper =>
          rw [if_neg (by simp), if_neg (by simp [hVl]), wordsFrom_upper hda hV hd]
          rfl
  | case3 mode c next rest hcut ih =>
      have hsame := endMode_eq_of_cased (ha.tail next List.mem_cons_self) (Or.inl hcut.2)
        (mode.after c) .none rest
      rw [endMode_cons, hsame] at hend
      rw [List.cons_append, List.cons_append, wordsFrom, if_pos hcut, ← List.cons_append,
        ih ha.tail (by simp) hend]
      rfl
  | case4 mode c next rest hlow hcap ih =>
      have hsame := endMode_eq_of_cased (ha.tail next List.mem_cons_self) (Or.inr hcap.2.2)
        (mode.after c) .none rest
      rw [endMode_cons, hsame] at hend
      rw [List.cons_append, List.cons_append, wordsFrom, if_neg hlow, if_pos hcap,
        ← List.cons_append, ih ha.tail (by simp) hend,
        extendFirst_append (wordsFrom_ne_nil (by simp) _)]
      rfl
  | case5 mode c next rest hlow hcap ih =>
      rw [List.cons_append, List.cons_append, wordsFrom, if_neg hlow, if_neg hcap,
        ← List.cons_append, ih ha.tail (by simp) hend,
        extendFirst_append (wordsFrom_ne_nil (by simp) _)]

/-- **Behind digits alone nothing is cut.** -/
theorem wordsFrom_append_of_noLetter
    (hs : hasLetter s = false) (ht : ∀ c ∈ t, isUppercase c = false) :
    wordsFrom .none (s ++ V :: t) = [s ++ V :: t] := by
  induction s with
  | nil => exact wordsFrom_of_noCapital (Or.inl (by decide)) ht
  | cons c s ih =>
      simp only [hasLetter_cons, Bool.or_eq_false_iff] at hs
      have hafter : CaseMode.after .none c = .none := after_of_caseless hs.1.2 hs.1.1
      obtain ⟨next, rest, hnext⟩ := List.exists_cons_of_ne_nil (l := s ++ V :: t) (by simp)
      rw [hnext] at ih
      rw [List.cons_append, hnext, wordsFrom, hafter, if_neg (by simp), if_neg (by simp),
        ih hs.2]
      rfl

end Ending

end SwaggerClient.Text
