/-
What a name is spelled with.

A case conversion drops the separators of a name and changes the case of its letters, and that
is all it does: in ASCII the letters and digits come out in order and one for one
(`map_toLower_pascalChars`, `map_toLower_camelChars`).  So whoever ignores case cannot tell the
two conversions of a name from each other, nor from the name without its separators.

Whether a name can be used as an identifier can be read off its spelling, too, because
lowering a letter makes neither a digit nor a sign (`word_of_spelling`).
-/
import Mathlib.Data.List.Basic
import SwaggerClient.Proofs.Text.Casing

namespace SwaggerClient.Text

/-- The letters and digits of a text in lower case. -/
def spelling (s : List Char) : List Char := (s.filter isAlphanumeric).map Char.toLower

theorem spelling_append (s t : List Char) : spelling (s ++ t) = spelling s ++ spelling t := by
  rw [spelling, List.filter_append, List.map_append]
  rfl

/-! ### Conversions -/

theorem map_toLower_lowerWord {w : List Char} (h : Ascii w) :
    (lowerWord w).map Char.toLower = w.map Char.toLower := by
  rw [lowerWord_of_ascii h, map_toLower_map_toLower h]

theorem map_toLower_capitalize {w : List Char} (h : Ascii w) :
    (capitalize w).map Char.toLower = w.map Char.toLower := by
  rw [← lowerWord_of_ascii h.capitalize, lowerWord_capitalize h, lowerWord_of_ascii h]

theorem map_toLower_flatMap_capitalize {ws : List (List Char)} (h : ∀ w ∈ ws, Ascii w) :
    (ws.flatMap capitalize).map Char.toLower = ws.flatten.map Char.toLower := by
  rw [List.map_flatMap, List.map_flatten, ← List.flatMap_def]
  exact List.flatMap_congr fun w hw => map_toLower_capitalize (h w hw)

/-- **`PascalCase` keeps the spelling of a name.** -/
theorem map_toLower_pascalChars {s : List Char} (h : Ascii s) :
    (pascalChars s).map Char.toLower = spelling s := by
  rw [pascalChars, map_toLower_flatMap_capitalize (ascii_words h), flatten_words, spelling]

/-- **`lowerCamelCase` keeps it, too.** -/
theorem map_toLower_camelChars {s : List Char} (h : Ascii s) :
    (camelChars s).map Char.toLower = spelling s := by
  have hascii := ascii_words h
  rw [spelling, ← flatten_words]
  unfold camelChars
  split
  · rename_i hwords
    rw [hwords]
    rfl
  · rename_i w ws hwords
    rw [hwords] at hascii ⊢
    obtain ⟨hw, hws⟩ := List.forall_mem_cons.mp hascii
    rw [List.map_append, map_toLower_lowerWord hw, map_toLower_flatMap_capitalize hws,
      List.flatten_cons, List.map_append]

/-! ### Lowering a character -/

section Lowering

variable {c : Char}

/-- Outside ASCII nothing is lowered. -/
theorem toLower_of_not_isAscii (h : isAscii c = false) : c.toLower = c := by
  have hn : 128 ≤ c.toNat := by simpa [isAscii] using h
  unfold Char.toLower
  rw [dif_neg]
  rintro ⟨-, hZ⟩
  have hZ' : c.toNat ≤ 90 := hZ
  omega

/-- What holds in ASCII, and of every character that lowering leaves alone, holds always. -/
theorem lowering_cases {P : Char → Char → Prop} (hascii : ∀ n : Fin 128,
    P (Char.ofNat n) (Char.ofNat n).toLower) (hsame : ∀ c, isAscii c = false → P c c) (c : Char) :
    P c c.toLower := by
  cases h : isAscii c with
  | true => exact ascii_cases (P := fun c => P c c.toLower) hascii h
  | false =>
      rw [toLower_of_not_isAscii h]
      exact hsame c h

theorem isAlphanum_toLower (c : Char) : c.toLower.isAlphanum = c.isAlphanum :=
  lowering_cases (P := fun c d => d.isAlphanum = c.isAlphanum) (by decide +kernel)
    (fun _ _ => rfl) c

theorem isDigit_toLower (c : Char) : c.toLower.isDigit = c.isDigit :=
  lowering_cases (P := fun c d => d.isDigit = c.isDigit) (by decide +kernel) (fun _ _ => rfl) c

theorem any_isDigit_map_toLower (o : Option Char) :
    (o.map Char.toLower).any Char.isDigit = o.any Char.isDigit := by
  cases o with
  | none => rfl
  | some c => exact isDigit_toLower c

/-- Only the underscore itself becomes one. -/
theorem eq_underscore_of_toLower (h : c.toLower = '_') : c = '_' :=
  lowering_cases (P := fun c d => d = '_' → c = '_') (by decide +kernel) (fun _ _ h => h) c h

end Lowering

/-! ### Words in the strict sense -/

/-- **What is spelled like a name consists of letters and digits,** and begins with a digit
exactly if the name has a digit before all letters. -/
theorem word_of_spelling {s t : List Char} (h : Ascii s) (ht : t.map Char.toLower = spelling s) :
    (∀ c ∈ t, c.isAlphanum = true) ∧
      t.head?.any Char.isDigit = (s.find? isAlphanumeric).any Char.isDigit := by
  constructor
  · intro c hc
    have hmem : c.toLower ∈ spelling s := ht ▸ List.mem_map_of_mem hc
    obtain ⟨d, hd, hcd⟩ := List.mem_map.mp hmem
    obtain ⟨hds, hletter⟩ := List.mem_filter.mp hd
    rw [isAlphanumeric_of_isAscii (h d hds)] at hletter
    rw [← isAlphanum_toLower, ← hcd, isAlphanum_toLower]
    exact hletter
  · have hhead : t.head?.map Char.toLower = (s.find? isAlphanumeric).map Char.toLower := by
      rw [← List.head?_map, ht, spelling, List.head?_map, List.head?_filter]
    rw [← any_isDigit_map_toLower, hhead, any_isDigit_map_toLower]

end SwaggerClient.Text
