/-
The letters of ASCII.

The character classes and case forms of the library go through Unicode tables, and
nothing follows about a table without opening it.  On ASCII they are decided without
one, so every law of theirs is a check of 128 characters: `ascii_cases` reduces it to
that check.  `CaseLaws` lists the laws that the theory of names rests on: no character
is a capital and a small letter at once, lowering a letter gives a small one, raising
it gives a capital, and neither form leaves the letters and digits.
-/
import SwaggerClient.Text.Words

namespace SwaggerClient.Text

/-- A text in ASCII. -/
def Ascii (s : List Char) : Prop := ∀ c ∈ s, isAscii c = true

instance (s : List Char) : Decidable (Ascii s) :=
  decidable_of_iff (s.all isAscii = true) List.all_eq_true

/-- What holds of the first 128 characters holds of every ASCII character. -/
theorem ascii_cases {P : Char → Prop} (h : ∀ n : Fin 128, P (Char.ofNat n)) {c : Char}
    (hc : isAscii c = true) : P c := by
  have hn : c.toNat < 128 := by simpa [isAscii] using hc
  have hP := h ⟨c.toNat, hn⟩
  simpa using hP

/-! ### Classes and case forms -/

/-- What is true of the classes of an ASCII character and of its case forms. -/
structure CaseLaws (c : Char) : Prop where
  isAscii_toLower : isAscii c.toLower = true
  isAscii_toUpper : isAscii c.toUpper = true
  isAlphanumeric_toLower : isAlphanumeric c.toLower = isAlphanumeric c
  isAlphanumeric_toUpper : isAlphanumeric c.toUpper = isAlphanumeric c
  isUppercase_toLower : isUppercase c.toLower = false
  /-- Lowering makes a small letter of every letter and of nothing else. -/
  isLowercase_toLower : isLowercase c.toLower = (isUppercase c || isLowercase c)
  /-- Raising makes a capital of everything alphanumeric but the digits. -/
  isUppercase_toUpper : isAlphanumeric c = true → c.isDigit = false → isUppercase c.toUpper = true
  toLower_toUpper : c.toUpper.toLower = c.toLower
  toUpper_toLower : c.toLower.toUpper = c.toUpper
  toLower_of_not_isUppercase : isUppercase c = false → c.toLower = c
  toUpper_of_isUppercase : isUppercase c = true → c.toUpper = c
  isLowercase_of_isUppercase : isUppercase c = true → isLowercase c = false
  /-- A capital is no digit. -/
  not_isDigit_of_isUppercase : isUppercase c = true → c.isDigit = false

variable {c : Char}

/-- **The laws hold in ASCII.**  One check of the 128 characters decides all of them. -/
theorem caseLaws (hc : isAscii c = true) : CaseLaws c := by
  obtain ⟨h₁, h₂, h₃, h₄, h₅, h₆, h₇, h₈, h₉, h₁₀, h₁₁, h₁₂, h₁₃⟩ := ascii_cases
    (P := fun c => isAscii c.toLower = true ∧ isAscii c.toUpper = true ∧
      isAlphanumeric c.toLower = isAlphanumeric c ∧
      isAlphanumeric c.toUpper = isAlphanumeric c ∧
      isUppercase c.toLower = false ∧
      isLowercase c.toLower = (isUppercase c || isLowercase c) ∧
      (isAlphanumeric c = true → c.isDigit = false → isUppercase c.toUpper = true) ∧
      c.toUpper.toLower = c.toLower ∧ c.toLower.toUpper = c.toUpper ∧
      (isUppercase c = false → c.toLower = c) ∧ (isUppercase c = true → c.toUpper = c) ∧
      (isUppercase c = true → isLowercase c = false) ∧
      (isUppercase c = true → c.isDigit = false))
    (by decide +kernel) hc
  exact ⟨h₁, h₂, h₃, h₄, h₅, h₆, h₇, h₈, h₉, h₁₀, h₁₁, h₁₂, h₁₃⟩

theorem isUppercase_of_isLowercase (hc : isAscii c = true) (h : isLowercase c = true) :
    isUppercase c = false := by
  cases hu : isUppercase c with
  | false => rfl
  | true =>
      rw [(caseLaws hc).isLowercase_of_isUppercase hu] at h
      exact Bool.noConfusion h

/-- Raising leaves no small letter. -/
theorem isLowercase_toUpper (hc : isAscii c = true) : isLowercase c.toUpper = false :=
  ascii_cases (P := fun c => isLowercase c.toUpper = false) (by decide +kernel) hc

/-- Only small letters are raised. -/
theorem toUpper_of_not_isLowercase (hc : isAscii c = true) (h : isLowercase c = false) :
    c.toUpper = c :=
  ascii_cases (P := fun c => isLowercase c = false → c.toUpper = c) (by decide +kernel) hc h

/-- What is alphanumeric is a digit or has a case. -/
theorem isDigit_eq (hc : isAscii c = true) (h : isAlphanumeric c = true) :
    c.isDigit = !(isUppercase c || isLowercase c) :=
  ascii_cases (P := fun c => isAlphanumeric c = true →
    c.isDigit = !(isUppercase c || isLowercase c)) (by decide +kernel) hc h

/-- A letter is no digit. -/
theorem not_isDigit_of_isAlpha (hc : isAscii c = true) (h : c.isAlpha = true) :
    c.isDigit = false :=
  ascii_cases (P := fun c => c.isAlpha = true → c.isDigit = false) (by decide +kernel) hc h

theorem toLower_toLower (hc : isAscii c = true) : c.toLower.toLower = c.toLower :=
  (caseLaws (caseLaws hc).isAscii_toLower).toLower_of_not_isUppercase
    (caseLaws hc).isUppercase_toLower

theorem isAlphanumeric_of_isAscii (hc : isAscii c = true) : isAlphanumeric c = c.isAlphanum := by
  unfold isAlphanumeric
  rw [if_pos hc]

/-! ### Words in one case -/

theorem lower_of_isAscii (hc : isAscii c = true) : lower c = [c.toLower] := by
  unfold lower
  rw [if_pos hc]

theorem upper_of_isAscii (hc : isAscii c = true) : upper c = [c.toUpper] := by
  unfold upper
  rw [if_pos hc]

theorem Ascii.tail {t : List Char} (h : Ascii (c :: t)) : Ascii t :=
  fun d hd => h d (List.mem_cons_of_mem c hd)

theorem Ascii.map_toLower {s : List Char} (h : Ascii s) : Ascii (s.map Char.toLower) := by
  intro d hd
  obtain ⟨e, he, rfl⟩ := List.mem_map.mp hd
  exact (caseLaws (h e he)).isAscii_toLower

/-- In ASCII no letter has a form of its own at the end of a word. -/
theorem lowerWord_of_ascii {w : List Char} (h : Ascii w) : lowerWord w = w.map Char.toLower := by
  induction w with
  | nil => rfl
  | cons c t ih =>
      have hc : isAscii c = true := h c List.mem_cons_self
      cases t with
      | nil =>
          have hne : c ≠ 'Σ' := by
            rintro rfl
            exact absurd hc (by decide)
          rw [lowerWord, if_neg hne, lower_of_isAscii hc]
          rfl
      | cons d t =>
          rw [lowerWord, lower_of_isAscii hc, ih h.tail]
          · rfl
          · simp

theorem capitalize_of_ascii {t : List Char} (h : Ascii (c :: t)) :
    capitalize (c :: t) = c.toUpper :: t.map Char.toLower := by
  rw [capitalize, upper_of_isAscii (h c List.mem_cons_self), lowerWord_of_ascii h.tail]
  rfl

theorem Ascii.capitalize {w : List Char} (h : Ascii w) : Ascii (capitalize w) := by
  cases w with
  | nil => exact h
  | cons c t =>
      rw [capitalize_of_ascii h]
      intro d hd
      rcases List.mem_cons.mp hd with rfl | hd
      · exact (caseLaws (h c List.mem_cons_self)).isAscii_toUpper
      · exact h.tail.map_toLower d hd

end SwaggerClient.Text
