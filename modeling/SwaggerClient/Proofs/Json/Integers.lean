/-
Integers that were written and are read again.

The decimal digits of a natural number have no leading zero and add up to the number again.
As long as it fits into 64 bits, with its sign, all of them are absorbed, so the literal is
exact and denotes the integer (`Json.spelled_int`).
-/
import SwaggerClient.Proofs.Json.Literals
import Mathlib.Data.List.TakeWhile

namespace SwaggerClient.Json

/-- An integer that fits into 64 bits, if not with a sign then without. -/
def Exact (k : Int) : Prop := -((wordMax / 2 + 1 : Nat) : Int) ≤ k ∧ k ≤ wordMax

/-- A number that is read back from the text that is written for it. -/
def Spelled (number : Json) : Prop :=
  ∃ lit, number? (leafText number).toList = some (lit, []) ∧ lit.datum = number.toDatum

/-! ### Absorbing digits -/

theorem le_foldl_digits (n : Nat) (ds : List Nat) :
    n ≤ ds.foldl (fun n d => 10 * n + d) n := by
  induction ds generalizing n with
  | nil => exact Nat.le_refl n
  | cons d ds ih =>
      calc n ≤ 10 * n + d := by omega
        _ ≤ _ := ih (10 * n + d)

/-- Digits that add up to no more than a word are all absorbed. -/
theorem absorb_eq {n : Nat} {ds : List Nat} (h : ds.foldl (fun n d => 10 * n + d) n ≤ wordMax) :
    absorb n ds = (ds.foldl (fun n d => 10 * n + d) n, ds.length) := by
  induction ds generalizing n with
  | nil => rfl
  | cons d ds ih =>
      rw [List.foldl_cons] at h ⊢
      have hfits := (le_foldl_digits (10 * n + d) ds).trans h
      rw [absorb, if_neg (by omega), Nat.mul_comm n 10, ih h]
      rfl

/-! ### Decimal digits -/

/-- The values of the decimal digits of a number. -/
def decimals (n : Nat) : List Nat := (Nat.toDigits 10 n).map fun c => c.toNat - '0'.toNat

theorem foldl_decimals (n : Nat) : (decimals n).foldl (fun n d => 10 * n + d) 0 = n := by
  rw [decimals, List.foldl_map]
  exact Nat.ofDigitChars_ten_toDigits

theorem digits_toDigits (n : Nat) : digits (Nat.toDigits 10 n) = (decimals n, []) := by
  have hdigit : ∀ c ∈ Nat.toDigits 10 n, c.isDigit = true := fun c hc =>
    Nat.isDigit_of_mem_toDigits (by decide) (by decide) hc
  rw [digits, List.takeWhile_eq_self_iff.mpr hdigit, List.dropWhile_eq_nil_iff.mpr hdigit, decimals]

/-- A number other than zero has no leading zero. -/
theorem exists_head_decimals {n : Nat} (hn : n ≠ 0) : ∃ d ds, decimals n = d :: ds ∧ d ≠ 0 := by
  induction n using Nat.strong_induction_on with
  | _ n ih =>
      rw [decimals, Nat.toDigits_eq_if (by decide)]
      by_cases hsmall : n < 10
      · rw [if_pos hsmall]
        exact ⟨n, [], by simp [Nat.toNat_digitChar_sub_48_of_lt_ten hsmall], hn⟩
      · obtain ⟨d, ds, hds, hd⟩ := ih (n / 10) (by omega) (by omega)
        rw [decimals] at hds
        rw [if_neg hsmall, List.map_append, hds]
        exact ⟨d, _, rfl, hd⟩

theorem wholePart?_toDigits (n : Nat) :
    wholePart? (Nat.toDigits 10 n) = some (decimals n, []) := by
  rw [wholePart?, digits_toDigits]
  by_cases hn : n = 0
  · rw [hn]
    rfl
  · obtain ⟨d, ds, hds, hd⟩ := exists_head_decimals hn
    rw [hds]
    obtain ⟨d, rfl⟩ := Nat.exists_eq_succ_of_ne_zero hd
    rfl

theorem unsignedNumber?_toDigits (negative : Bool) (n : Nat) :
    unsignedNumber? negative (Nat.toDigits 10 n) =
      some (⟨negative, decimals n, none, none⟩, []) := by
  rw [unsignedNumber?, wholePart?_toDigits]
  rfl

theorem number?_toDigits (n : Nat) :
    number? (Nat.toDigits 10 n) = some (⟨false, decimals n, none, none⟩, []) := by
  rw [number?]
  · exact unsignedNumber?_toDigits false n
  · intro cs hcs
    have hminus : ('-').isDigit = true :=
      Nat.isDigit_of_mem_toDigits (by decide) (by decide) (hcs ▸ List.mem_cons_self)
    cases hminus

/-! ### Integers -/

theorem absorb_decimals {n : Nat} (h : n ≤ wordMax) :
    absorb 0 (decimals n) = (n, (decimals n).length) := by
  rw [absorb_eq (by rwa [foldl_decimals]), foldl_decimals]

theorem datum_natural {n : Nat} (h : n ≤ wordMax) :
    NumberLiteral.datum ⟨false, decimals n, none, none⟩ = .int n := by
  simp [NumberLiteral.datum, absorb_decimals h]

theorem datum_negative {n : Nat} (hpos : 0 < n) (h : n ≤ wordMax / 2 + 1) :
    NumberLiteral.datum ⟨true, decimals n, none, none⟩ = .int (-n) := by
  have hword : n ≤ wordMax := h.trans (by decide)
  simp [NumberLiteral.datum, absorb_decimals hword, hpos, h]

/-- **An integer that fits into 64 bits is read back from its text.** -/
theorem spelled_int {k : Int} (h : Exact k) : Spelled (int k) := by
  obtain ⟨hlow, hhigh⟩ := h
  by_cases hk : k < 0
  · have htext : (leafText (int k)).toList = '-' :: Nat.toDigits 10 k.natAbs := by
      rw [leafText, intText, if_pos hk, String.toList_append]
      show ['-'] ++ (String.ofList (Nat.toDigits 10 k.natAbs)).toList = _
      rw [String.toList_ofList]
      rfl
    refine ⟨⟨true, decimals k.natAbs, none, none⟩, ?_, ?_⟩
    · rw [htext]
      exact unsignedNumber?_toDigits true k.natAbs
    · have hbound : k.natAbs ≤ wordMax / 2 + 1 := by omega
      rw [datum_negative (by omega) hbound, toDatum]
      congr 1
      omega
  · have htext : (leafText (int k)).toList = Nat.toDigits 10 k.natAbs := by
      rw [leafText, intText, if_neg hk, String.toList_ofList]
    refine ⟨⟨false, decimals k.natAbs, none, none⟩, ?_, ?_⟩
    · rw [htext]
      exact number?_toDigits k.natAbs
    · have hbound : k.natAbs ≤ wordMax := by omega
      rw [datum_natural hbound, toDatum]
      congr 1
      omega

end SwaggerClient.Json
