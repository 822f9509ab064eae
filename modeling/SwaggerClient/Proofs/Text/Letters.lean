/-
A name with a letter or digit keeps one in every case.

Putting a character in upper case may give a sequence, and may give something that was not
there before.  For a letter or a digit it always gives at least one letter or digit
(`exists_alphanumeric_upper`): every run of the case tables ends up inside a stretch of the
table of letters, and every sequence has a letter in it.  So the `PascalCase` of a name that
begins with a letter or digit has one too, of whatever script, and its `lowerCamelCase` is
not empty (`camelChars_pascalChars_ne_nil`).
-/
import SwaggerClient.Proofs.Text.Separators

namespace SwaggerClient.Text

/-! ### Ranges on a table -/

/-- Whether all code points from `low` to `high` lie on one stretch without gaps. -/
def covers (low high : Nat) : List Stretch → Bool
  | [] => false
  | s :: rest =>
    s.first.ble low && ((high.ble s.last && s.step.beq 1) || covers low high rest)

theorem onStretch_of_covers {low high n : Nat} {table : List Stretch}
    (h : covers low high table = true) (hlow : low ≤ n) (hhigh : n ≤ high) :
    onStretch n table = true := by
  induction table with
  | nil => cases h
  | cons s rest ih =>
      simp only [covers, Bool.and_eq_true, Bool.or_eq_true, Nat.ble_eq, Nat.beq_eq] at h
      obtain ⟨hfirst, hcase⟩ := h
      have hreached : ¬n < s.first := by omega
      rw [onStretch, if_neg hreached, Bool.or_eq_true]
      rcases hcase with ⟨hlast, hstep⟩ | hrest
      · left
        have hin : s.first ≤ n ∧ n ≤ s.last := by omega
        simp [Stretch.contains, hin, hstep, Nat.mod_one]
      · exact Or.inr (ih hrest)

/-! ### Upper case -/

/-- A run that leads to letters or digits only: it stays outside ASCII, on one side of the
surrogates, and inside a stretch of letters, or it is short and each of its characters
becomes one. -/
def CaseRun.Lettered (r : CaseRun) : Prop :=
  (128 ≤ r.first + r.shift ∧
      (r.last + r.shift < 0xD800 ∨ (0xDFFF < r.first + r.shift ∧ r.last + r.shift < 0x110000)) ∧
      covers (r.first + r.shift).toNat (r.last + r.shift).toNat alphanumericStretches = true) ∨
    (r.last < r.first + 8 ∧ ∀ k < 8, r.contains (r.first + k) = true →
      isAlphanumeric (Char.ofNat (((r.first + k : Nat) : Int) + r.shift).toNat) = true)

instance (r : CaseRun) : Decidable r.Lettered := by
  unfold CaseRun.Lettered
  infer_instance

theorem upperRuns_lettered : ∀ r ∈ upperRuns, r.Lettered := by decide +kernel

theorem upperSequences_lettered :
    ∀ e ∈ upperSequences, e.2.any isAlphanumeric = true := by decide +kernel

theorem isAlphanumeric_ofNat {n : Nat} (h : n < 0xD800 ∨ (0xDFFF < n ∧ n < 0x110000))
    (hn : 128 ≤ n) (hon : onStretch n alphanumericStretches = true) :
    isAlphanumeric (Char.ofNat n) = true := by
  have hascii : ¬isAscii (Char.ofNat n) = true := by
    simp only [isAscii, decide_eq_true_eq, toNat_ofNat h]
    omega
  unfold isAlphanumeric
  rw [if_neg hascii, toNat_ofNat h]
  exact hon

/-- **The upper-case counterpart of a character is a letter or digit.** -/
theorem isAlphanumeric_counterpart {n m : Nat} (h : counterpart? n upperRuns = some m) :
    isAlphanumeric (Char.ofNat m) = true := by
  obtain ⟨r, hr, hon, rfl⟩ := exists_run_of_counterpart h
  obtain ⟨hfirst, hlast⟩ := Stretch.bounds_of_contains hon
  rcases upperRuns_lettered r hr with ⟨hhigh, hvalid, hcovers⟩ | ⟨hshort, hletters⟩
  · have hletter := onStretch_of_covers hcovers (n := (n + r.shift).toNat) (by omega) (by omega)
    exact isAlphanumeric_ofNat (by omega) (by omega) hletter
  · have hn : r.first + (n - r.first) = n := by omega
    have hletter := hletters (n - r.first) (by omega)
    rw [hn] at hletter
    exact hletter hon

/-- **A letter or digit in upper case has a letter or digit.** -/
theorem exists_alphanumeric_upper {c : Char} (h : isAlphanumeric c = true) :
    ∃ d ∈ upper c, isAlphanumeric d = true := by
  unfold upper
  split
  · rename_i hascii
    refine ⟨c.toUpper, List.mem_singleton_self _, ?_⟩
    rw [(caseLaws hascii).isAlphanumeric_toUpper]
    exact h
  · split
    · rename_i n hn
      exact ⟨Char.ofNat n, List.mem_singleton_self _, isAlphanumeric_counterpart hn⟩
    · cases hseq : upperSequences.lookup c.toNat with
      | none => exact ⟨c, List.mem_singleton_self _, h⟩
      | some s =>
          exact List.any_eq_true.mp (upperSequences_lettered _ (mem_of_lookup_eq_some hseq))

/-! ### Names -/

/-- The `PascalCase` of a name that begins with a letter or digit has one. -/
theorem exists_alphanumeric_pascalChars {c : Char} (h : isAlphanumeric c = true)
    (s : List Char) : ∃ d ∈ pascalChars (c :: s), isAlphanumeric d = true := by
  obtain ⟨w, ws, hwords⟩ := words_cons h s
  obtain ⟨d, hd, hletter⟩ := exists_alphanumeric_upper h
  refine ⟨d, ?_, hletter⟩
  unfold pascalChars
  rw [hwords, List.flatMap_cons, capitalize, List.append_assoc]
  exact List.mem_append_left _ hd

theorem lower_ne_nil (c : Char) : lower c ≠ [] := by
  unfold lower
  split
  · exact List.cons_ne_nil _ _
  · split
    · exact List.cons_ne_nil _ _
    · split <;> exact List.cons_ne_nil _ _

theorem lowerWord_ne_nil {w : List Char} (h : w ≠ []) : lowerWord w ≠ [] := by
  fun_cases lowerWord w with
  | case1 => exact absurd rfl h
  | case2 => exact List.cons_ne_nil _ _
  | case3 c hc => exact lower_ne_nil c
  | case4 c rest hrest => exact List.append_ne_nil_of_left_ne_nil (lower_ne_nil c) _

/-- A name with a letter or digit is not lost in `lowerCamelCase`. -/
theorem camelChars_ne_nil {s : List Char} (h : ∃ c ∈ s, isAlphanumeric c = true) :
    camelChars s ≠ [] := by
  obtain ⟨r, more, hruns⟩ := List.exists_cons_of_ne_nil (runs_ne_nil_iff.mpr h)
  have hr : r ∈ runs isAlphanumeric s := by rw [hruns]; exact List.mem_cons_self
  obtain ⟨c, t, rfl⟩ := List.exists_cons_of_ne_nil (isRun_of_mem hr).nonempty
  obtain ⟨w, ws, hw⟩ := wordsFrom_none_cons c t
  have hwords : words s = (c :: w) :: (ws ++ more.flatMap (wordsFrom .none)) := by
    unfold words alphanumericRuns
    rw [hruns, List.flatMap_cons, hw, List.cons_append]
  rw [camelChars_of_words hwords]
  exact List.append_ne_nil_of_left_ne_nil (lowerWord_ne_nil (List.cons_ne_nil c w)) _

/-- **A name that begins with a letter or digit has a file name.** -/
theorem camelChars_pascalChars_ne_nil {c : Char} (h : isAlphanumeric c = true)
    (s : List Char) : camelChars (pascalChars (c :: s)) ≠ [] :=
  camelChars_ne_nil (exists_alphanumeric_pascalChars h s)

end SwaggerClient.Text
