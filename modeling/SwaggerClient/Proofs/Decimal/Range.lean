/-
How large the double of a quotient can get.

A double lies below `2 ^ k` if its exponent says so (`Double.Below`).  Rounding raises a
quotient by one place at most, and dividing by a double that is no smaller than one does not
raise it any further.  So a number that is rounded from a bounded quotient, or divided by
powers of ten after that, stays finite (`Double.below_ofRatio`, `Double.below_div`).
-/
import SwaggerClient.Decimal.Double
import Mathlib.Algebra.Order.Field.Power
import Mathlib.Algebra.Order.Field.Rat
import Mathlib.Tactic.Positivity
import Mathlib.Tactic.Ring

namespace SwaggerClient.Double

variable {x y : Double} {num den k : Nat}

/-- The number without its sign is less than `2 ^ k`, by its exponent. -/
def Below (k : Nat) (x : Double) : Prop := x.magnitude < (k + 1023) * exponentUnit

theorem Below.mono {l : Nat} (h : Below k x) (hkl : k ≤ l) : Below l x :=
  lt_of_lt_of_le h (Nat.mul_le_mul_right _ (by omega))

theorem Below.isFinite (h : Below k x) (hk : k ≤ 1024) : x.isFinite = true := by
  have hfinite : x.magnitude < infinityMagnitude := h.mono hk
  exact decide_eq_true hfinite

theorem exponentUnit_eq : exponentUnit = 2 ^ 52 := rfl

theorem infinityMagnitude_lt : infinityMagnitude < 2 ^ 63 := by decide

theorem magnitude_ofMagnitude (negative : Bool) {m : Nat} (h : m < 2 ^ 63) :
    (ofMagnitude negative m).magnitude = m := by
  show (m + if negative then signUnit else 0) % 2 ^ 64 % signUnit = m
  have hsign : signUnit = 2 ^ 63 := rfl
  rw [hsign]
  cases negative with
  | false =>
      rw [if_neg Bool.false_ne_true]
      omega
  | true =>
      rw [if_pos rfl]
      omega

/-! ### From bits to values -/

/-- **A number that lies below a power is less than it,** as a quotient. -/
theorem Below.ratio_lt (h : Below k x) : x.ratio.1 < 2 ^ k * x.ratio.2 := by
  rw [Below, exponentUnit_eq] at h
  rw [ratio, significand, exponent, exponentUnit_eq]
  by_cases hsmall : x.magnitude < 2 ^ 52
  · simp only [if_pos hsmall]
    rw [if_pos (by decide), Nat.one_shiftLeft, ← Nat.pow_add]
    exact hsmall.trans_le (Nat.pow_le_pow_right two_pos (by omega))
  · simp only [if_neg hsmall]
    have hexponent : x.magnitude / 2 ^ 52 < k + 1023 :=
      Nat.div_lt_of_lt_mul (by rwa [Nat.mul_comm] at h)
    have hsignificand : x.magnitude % 2 ^ 52 + 2 ^ 52 < 2 ^ 53 := by omega
    generalize x.magnitude / 2 ^ 52 = e at hexponent
    split
    · rw [Nat.one_shiftLeft, ← Nat.pow_add]
      exact hsignificand.trans_le (Nat.pow_le_pow_right two_pos (by omega))
    · rw [Nat.mul_one, Nat.shiftLeft_eq]
      calc (x.magnitude % 2 ^ 52 + 2 ^ 52) * 2 ^ ((e : Int) - 1075).toNat
          < 2 ^ 53 * 2 ^ ((e : Int) - 1075).toNat :=
            Nat.mul_lt_mul_of_pos_right hsignificand (Nat.two_pow_pos _)
        _ = 2 ^ (53 + ((e : Int) - 1075).toNat) := (Nat.pow_add 2 _ _).symm
        _ ≤ 2 ^ k := Nat.pow_le_pow_right two_pos (by omega)

theorem ratio_den_pos (x : Double) : 0 < x.ratio.2 := by
  rw [ratio]
  split
  · rw [Nat.one_shiftLeft]
    exact Nat.two_pow_pos _
  · exact one_pos

/-! ### Rounding -/

theorem roundQuotient_le {n : Nat} (h : num < n * den) : roundQuotient num den ≤ n := by
  have hfloor : num / den < n := Nat.div_lt_of_lt_mul (by rwa [Nat.mul_comm] at h)
  rw [roundQuotient]
  split
  · omega
  · split
    · omega
    · omega

theorem cast_shiftLeft (n : Nat) {e : Int} (h : 0 ≤ e) :
    ((n <<< e.toNat : Nat) : ℚ) = n * 2 ^ e := by
  rw [Nat.shiftLeft_eq, Nat.cast_mul, Nat.cast_pow, Nat.cast_ofNat, ← zpow_natCast,
    Int.toNat_of_nonneg h]

/-- The quotient is less than the power of two behind its exponent. -/
theorem lt_binaryExponent (num : Nat) (hden : den ≠ 0) :
    (num : ℚ) < den * 2 ^ (binaryExponent num den + 1) := by
  have hlarge : (num : ℚ) < den * 2 ^ ((num.log2 : Int) - den.log2 + 1) := by
    have hnum : (num : ℚ) < 2 ^ (num.log2 + 1) := by exact_mod_cast Nat.lt_log2_self
    have hden : (2 : ℚ) ^ den.log2 ≤ den := by exact_mod_cast Nat.log2_self_le hden
    calc (num : ℚ) < 2 ^ (num.log2 + 1) := hnum
      _ = 2 ^ den.log2 * 2 ^ ((num.log2 : Int) - den.log2 + 1) := by
          rw [← zpow_natCast, ← zpow_natCast, ← zpow_add₀ two_ne_zero]
          congr 1
          push_cast
          ring
      _ ≤ den * 2 ^ ((num.log2 : Int) - den.log2 + 1) := by gcongr
  rw [binaryExponent]
  generalize (num.log2 : Int) - den.log2 = guess at hlarge
  split
  · split
    · exact hlarge
    · rename_i hneg hnot
      have hlt : ((num <<< (-guess).toNat : Nat) : ℚ) < den := by exact_mod_cast not_le.mp hnot
      rw [cast_shiftLeft num (by omega), zpow_neg, ← div_eq_mul_inv,
        div_lt_iff₀ (by positivity)] at hlt
      rw [Int.sub_add_cancel]
      exact hlt
  · split
    · exact hlarge
    · rename_i hneg hnot
      rw [Int.sub_add_cancel, ← cast_shiftLeft den (by omega)]
      exact_mod_cast not_le.mp hnot

/-- The exponent of a quotient is small if the quotient is. -/
theorem binaryExponent_le (hnum : num ≠ 0) (h : num < 2 ^ k * den) :
    binaryExponent num den ≤ k := by
  have hpow : 2 ^ num.log2 < 2 ^ (k + (den.log2 + 1)) :=
    calc 2 ^ num.log2 ≤ num := Nat.log2_self_le hnum
      _ < 2 ^ k * den := h
      _ ≤ 2 ^ k * 2 ^ (den.log2 + 1) := Nat.mul_le_mul_left _ Nat.lt_log2_self.le
      _ = 2 ^ (k + (den.log2 + 1)) := (Nat.pow_add 2 _ _).symm
  have hlog := (Nat.pow_lt_pow_iff_right one_lt_two).mp hpow
  have hguess : (num.log2 : Int) - den.log2 ≤ k := by omega
  rw [binaryExponent]
  generalize (num.log2 : Int) - den.log2 = guess at hguess
  split
  · split
    · exact hguess
    · omega
  · split
    · exact hguess
    · omega

/-- A quotient that is rounded at its unit has no more than 53 binary places. -/
theorem rounded_le {unit : Int} (hden : den ≠ 0) (hunit : binaryExponent num den + 1 ≤ unit + 53) :
    (if unit < 0 then roundQuotient (num <<< (-unit).toNat) den
      else roundQuotient num (den <<< unit.toNat)) ≤ 2 ^ 53 := by
  have hlt : (num : ℚ) < den * (2 ^ unit * 2 ^ (53 : Int)) := by
    rw [← zpow_add₀ two_ne_zero]
    exact (lt_binaryExponent num hden).trans_le (mul_le_mul_of_nonneg_left
      (zpow_le_zpow_right₀ one_le_two hunit) (Nat.cast_nonneg den))
  split
  · refine roundQuotient_le ?_
    have hshift := cast_shiftLeft num (e := -unit) (by omega)
    rw [zpow_neg, ← div_eq_mul_inv] at hshift
    have hcast : ((num <<< (-unit).toNat : Nat) : ℚ) < 2 ^ 53 * den := by
      rw [hshift, div_lt_iff₀ (by positivity)]
      calc (num : ℚ) < den * (2 ^ unit * 2 ^ (53 : Int)) := hlt
        _ = 2 ^ 53 * den * 2 ^ unit := by ring
    exact_mod_cast hcast
  · refine roundQuotient_le ?_
    have hshift := cast_shiftLeft den (e := unit) (by omega)
    have hcast : (num : ℚ) < 2 ^ 53 * ((den <<< unit.toNat : Nat) : ℚ) := by
      rw [hshift]
      calc (num : ℚ) < den * (2 ^ unit * 2 ^ (53 : Int)) := hlt
        _ = 2 ^ 53 * (den * 2 ^ unit) := by ring
    exact_mod_cast hcast

/-- **Rounding a quotient that is less than a power** ends no more than two places above it. -/
theorem below_ofRatio (negative : Bool) (hden : den ≠ 0) (h : num < 2 ^ k * den) :
    Below (k + 2) (ofRatio negative num den) := by
  rw [Below, ofRatio]
  split
  · rw [magnitude_ofMagnitude _ (Nat.two_pow_pos 63), exponentUnit_eq]
    omega
  · rename_i hnum
    have hexponent := binaryExponent_le hnum h
    generalize hunit : max (binaryExponent num den - 52) (-1074) = unit
    have hrounded := @rounded_le num den unit hden (by omega)
    have hplace : (unit + 1074).toNat ≤ k + 1022 := by omega
    dsimp only
    generalize (unit + 1074).toNat = place at hplace
    generalize (if unit < 0 then _ else _ : Nat) = rounded at hrounded
    have hbits : place * 2 ^ 52 + rounded < (k + 2 + 1023) * 2 ^ 52 := by omega
    rw [magnitude_ofMagnitude, exponentUnit_eq]
    · exact (min_le_left _ _).trans_lt hbits
    · exact (min_le_right _ _).trans_lt infinityMagnitude_lt

/-! ### Dividing -/

/-- **Dividing by a number that is no smaller than one** ends no more than two places above
the number that is divided. -/
theorem below_div (hx : Below k x) (hy : y.ratio.2 ≤ y.ratio.1) : Below (k + 2) (x.div y) := by
  have hydenPos := y.ratio_den_pos
  refine below_ofRatio _ ?_ ?_
  · exact (Nat.mul_pos x.ratio_den_pos (hydenPos.trans_le hy)).ne'
  · calc x.ratio.1 * y.ratio.2 < 2 ^ k * x.ratio.2 * y.ratio.2 :=
          Nat.mul_lt_mul_of_pos_right hx.ratio_lt hydenPos
      _ ≤ 2 ^ k * x.ratio.2 * y.ratio.1 := Nat.mul_le_mul_left _ hy
      _ = 2 ^ k * (x.ratio.2 * y.ratio.1) := Nat.mul_assoc _ _ _

/-! ### Numbers that are no smaller than one -/

theorem one_le_ratio (h : 1023 * exponentUnit ≤ x.magnitude) : x.ratio.2 ≤ x.ratio.1 := by
  rw [exponentUnit_eq] at h
  have hlarge : ¬x.magnitude < 2 ^ 52 := by omega
  have hexponent : 1023 ≤ x.magnitude / 2 ^ 52 := (Nat.le_div_iff_mul_le (Nat.two_pow_pos 52)).mpr h
  rw [ratio, significand, exponent, exponentUnit_eq]
  simp only [if_neg hlarge]
  generalize x.magnitude / 2 ^ 52 = e at hexponent
  split
  · rw [Nat.one_shiftLeft]
    calc 2 ^ (-((e : Int) - 1075)).toNat ≤ 2 ^ 52 := Nat.pow_le_pow_right two_pos (by omega)
      _ ≤ x.magnitude % 2 ^ 52 + 2 ^ 52 := Nat.le_add_left _ _
  · rw [Nat.shiftLeft_eq]
    exact Nat.mul_pos (by omega) (Nat.two_pow_pos _)

theorem le_roundQuotient (num den : Nat) : num / den ≤ roundQuotient num den := by
  rw [roundQuotient]
  split
  · omega
  · split
    · omega
    · omega

theorem binaryExponent_one (hnum : num ≠ 0) : binaryExponent num 1 = num.log2 := by
  have hreached : 1 <<< num.log2 ≤ num := by
    rw [Nat.one_shiftLeft]
    exact Nat.log2_self_le hnum
  rw [binaryExponent, show Nat.log2 1 = 0 from rfl]
  simp [hreached]

/-- **A natural number other than zero is rounded to no less than one.** -/
theorem one_le_ofNat (negative : Bool) {n : Nat} (hn : n ≠ 0) :
    (ofNat negative n).ratio.2 ≤ (ofNat negative n).ratio.1 := by
  refine one_le_ratio ?_
  rw [ofNat, ofRatio, if_neg hn, binaryExponent_one hn, magnitude_ofMagnitude, exponentUnit_eq]
  · refine le_min ?_ (by decide)
    split
    · rename_i hunit
      have hfloor := le_roundQuotient (n <<< (-max ((n.log2 : Int) - 52) (-1074)).toNat) 1
      have hpow : 2 ^ 52 ≤ n <<< (-max ((n.log2 : Int) - 52) (-1074)).toNat := by
        rw [Nat.shiftLeft_eq]
        calc 2 ^ 52 = 2 ^ n.log2 * 2 ^ (-max ((n.log2 : Int) - 52) (-1074)).toNat := by
              rw [← Nat.pow_add]
              congr 1
              omega
          _ ≤ _ := Nat.mul_le_mul_right _ (Nat.log2_self_le hn)
      rw [Nat.div_one] at hfloor
      omega
    · omega
  · exact (min_le_right _ _).trans_lt infinityMagnitude_lt

theorem one_le_tenPower (n : Nat) : (tenPower n).ratio.2 ≤ (tenPower n).ratio.1 :=
  one_le_ofNat false (Nat.pow_pos (by decide)).ne'

end SwaggerClient.Double
