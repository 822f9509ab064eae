/-
Numbers that were written and are read again, inside a text.

What a number is read as does not change when a comma or a line break follows it
(`Json.number?_append`).  So a number that is read back from its own text is read back
wherever that text stands.  Whether it is read back at all is left
open: reading multiplies in two steps, and that may end at a neighbour.
-/
import SwaggerClient.Json.Printer
import SwaggerClient.Json.Reader

namespace SwaggerClient.Json

variable {rest : List Char}

/-- What may follow a value inside a text: nothing, a comma or a line break. -/
def Ends (rest : List Char) : Prop := ∀ c ∈ rest.head?, c = ',' ∨ c = '\n'

theorem ends_nil : Ends [] := nofun

theorem ends_comma (cs : List Char) : Ends (',' :: cs) := fun _ hc =>
  Or.inl (Option.some.inj hc).symm

theorem toList_newLine (level : Nat) :
    (newLine level).toList = '\n' :: List.replicate (2 * level) ' ' := by
  rw [newLine, String.toList_append]
  show ['\n'] ++ (String.ofList (List.replicate (2 * level) ' ')).toList = _
  rw [String.toList_ofList]
  rfl

theorem ends_newLine (level : Nat) (cs : List Char) : Ends ((newLine level).toList ++ cs) := by
  rw [toList_newLine]
  exact fun _ hc => Or.inr (Option.some.inj hc).symm

/-! ### The parts of a number -/

theorem digits_append (h : Ends rest) (cs : List Char) :
    digits (cs ++ rest) = ((digits cs).1, (digits cs).2 ++ rest) := by
  induction cs with
  | nil =>
      cases rest with
      | nil => rfl
      | cons c rest =>
          rcases h c rfl with rfl | rfl
          · rfl
          · rfl
  | cons c cs ih =>
      rw [digits, Prod.mk.injEq] at ih
      rw [List.cons_append, digits, digits, List.takeWhile_cons, List.takeWhile_cons,
        List.dropWhile_cons, List.dropWhile_cons]
      split
      · rw [List.map_cons, List.map_cons, ih.1, ih.2]
        rfl
      · rfl

theorem wholePart?_append (h : Ends rest) (cs : List Char) :
    wholePart? (cs ++ rest) = (wholePart? cs).map fun p => (p.1, p.2 ++ rest) := by
  rw [wholePart?, wholePart?, digits_append h]
  obtain ⟨_ | ⟨_ | d, _ | ⟨e, ds⟩⟩, behind⟩ := digits cs <;> rfl

theorem fractionPart?_ends (h : Ends rest) : fractionPart? rest = some (none, rest) := by
  cases rest with
  | nil => rfl
  | cons c rest =>
      rcases h c rfl with rfl | rfl
      · rfl
      · rfl

theorem fractionPart?_other {c : Char} (hc : c ≠ '.') (cs : List Char) :
    fractionPart? (c :: cs) = some (none, c :: cs) := by
  rw [fractionPart?.eq_def]
  split
  · rename_i heq
    exact absurd (List.cons.inj heq).1 hc
  · rfl

theorem fractionPart?_append (h : Ends rest) (cs : List Char) :
    fractionPart? (cs ++ rest) = (fractionPart? cs).map fun p => (p.1, p.2 ++ rest) := by
  cases cs with
  | nil => exact fractionPart?_ends h
  | cons c cs =>
      by_cases hc : c = '.'
      · rw [hc, List.cons_append, fractionPart?, fractionPart?, digits_append h]
        obtain ⟨_ | ⟨d, ds⟩, behind⟩ := digits cs <;> rfl
      · rw [List.cons_append, fractionPart?_other hc, fractionPart?_other hc]
        rfl

theorem exponentValue?_append (h : Ends rest) (sign : Int) (cs : List Char) :
    exponentValue? sign (cs ++ rest) =
      (exponentValue? sign cs).map fun p => (p.1, p.2 ++ rest) := by
  rw [exponentValue?, exponentValue?, digits_append h]
  obtain ⟨_ | ⟨d, ds⟩, behind⟩ := digits cs <;> rfl

theorem exponentPart?_ends (h : Ends rest) : exponentPart? rest = some (none, rest) := by
  cases rest with
  | nil => rfl
  | cons c rest =>
      rcases h c rfl with rfl | rfl
      · rfl
      · rfl

theorem exponentPart?_other {c : Char} (hlower : c ≠ 'e') (hupper : c ≠ 'E') (cs : List Char) :
    exponentPart? (c :: cs) = some (none, c :: cs) := by
  rw [exponentPart?.eq_def]
  split
  all_goals first
    | rfl
    | rename_i heq
      exact absurd (List.cons.inj heq).1 (by assumption)

theorem exponentPart?_signed {c : Char} (hc : c = 'e' ∨ c = 'E') (cs : List Char) :
    exponentPart? (c :: '-' :: cs) = exponentValue? (-1) cs ∧
      exponentPart? (c :: '+' :: cs) = exponentValue? 1 cs := by
  rcases hc with rfl | rfl
  · exact ⟨rfl, rfl⟩
  · exact ⟨rfl, rfl⟩

theorem exponentPart?_unsigned {c : Char} (hc : c = 'e' ∨ c = 'E') {cs : List Char}
    (hcs : ∀ d ∈ cs.head?, d ≠ '-' ∧ d ≠ '+') :
    exponentPart? (c :: cs) = exponentValue? 1 cs := by
  have hminus : ∀ ds, cs ≠ '-' :: ds := fun ds heq => (hcs '-' (heq ▸ rfl)).1 rfl
  have hplus : ∀ ds, cs ≠ '+' :: ds := fun ds heq => (hcs '+' (heq ▸ rfl)).2 rfl
  rcases hc with rfl | rfl
  · rw [exponentPart?]
    · exact hminus
    · exact hplus
  · rw [exponentPart?]
    · exact hminus
    · exact hplus

theorem exponentPart?_append (h : Ends rest) (cs : List Char) :
    exponentPart? (cs ++ rest) = (exponentPart? cs).map fun p => (p.1, p.2 ++ rest) := by
  cases cs with
  | nil => exact exponentPart?_ends h
  | cons c cs =>
      rw [List.cons_append]
      by_cases hc : c = 'e' ∨ c = 'E'
      · by_cases hsigned : ∃ d ds, cs = d :: ds ∧ (d = '-' ∨ d = '+')
        · obtain ⟨d, ds, rfl, rfl | rfl⟩ := hsigned
          · rw [List.cons_append, (exponentPart?_signed hc _).1, (exponentPart?_signed hc _).1,
              exponentValue?_append h]
          · rw [List.cons_append, (exponentPart?_signed hc _).2, (exponentPart?_signed hc _).2,
              exponentValue?_append h]
        · have hcs : ∀ d ∈ cs.head?, d ≠ '-' ∧ d ≠ '+' := by
            cases cs with
            | nil => exact nofun
            | cons d ds =>
                rintro _ ⟨⟩
                exact ⟨fun heq => hsigned ⟨d, ds, rfl, Or.inl heq⟩,
                  fun heq => hsigned ⟨d, ds, rfl, Or.inr heq⟩⟩
          have hall : ∀ d ∈ (cs ++ rest).head?, d ≠ '-' ∧ d ≠ '+' := by
            cases cs with
            | nil =>
                intro d hd
                rcases h d hd with rfl | rfl
                · decide
                · decide
            | cons d ds => exact hcs
          rw [exponentPart?_unsigned hc hall, exponentPart?_unsigned hc hcs,
            exponentValue?_append h]
      · rw [not_or] at hc
        rw [exponentPart?_other hc.1 hc.2, exponentPart?_other hc.1 hc.2]
        rfl

theorem unsignedNumber?_append {negative : Bool} {cs behind : List Char} {lit : NumberLiteral}
    (h : Ends rest) (hlit : unsignedNumber? negative cs = some (lit, behind)) :
    unsignedNumber? negative (cs ++ rest) = some (lit, behind ++ rest) := by
  simp only [unsignedNumber?, Option.bind_eq_bind, Option.bind_eq_some_iff] at hlit
  obtain ⟨⟨whole, cs₁⟩, hwhole, ⟨fraction, cs₂⟩, hfraction, ⟨exponent, cs₃⟩, hexponent, hlit⟩ :=
    hlit
  simp only [unsignedNumber?, wholePart?_append h, hwhole, fractionPart?_append h, hfraction,
    exponentPart?_append h, hexponent, Option.map_some, Option.bind_eq_bind, Option.bind_some]
  cases hlit
  rfl

theorem isDigit_of_wholePart {cs behind : List Char} {ds : List Nat}
    (h : wholePart? cs = some (ds, behind)) : ∃ c cs', cs = c :: cs' ∧ c.isDigit = true := by
  cases cs with
  | nil => cases h
  | cons c cs =>
      refine ⟨c, cs, rfl, ?_⟩
      cases hc : c.isDigit with
      | true => rfl
      | false =>
          have hnot : ¬c.isDigit = true := by rw [hc]; exact Bool.false_ne_true
          rw [wholePart?, digits, List.takeWhile_cons_of_neg hnot] at h
          cases h

/-- A number begins with a sign or a digit. -/
theorem number?_head {cs behind : List Char} {lit : NumberLiteral}
    (h : number? cs = some (lit, behind)) :
    ∃ c cs', cs = c :: cs' ∧ (c = '-' ∨ c.isDigit = true) := by
  unfold number? at h
  split at h
  · exact ⟨'-', _, rfl, Or.inl rfl⟩
  · obtain ⟨⟨whole, behind'⟩, hwhole, -⟩ := Option.bind_eq_some_iff.mp h
    obtain ⟨c, cs', hcs, hc⟩ := isDigit_of_wholePart hwhole
    exact ⟨c, cs', hcs, Or.inr hc⟩

/-- **A number is read in the same way in front of what may follow it.** -/
theorem number?_append {cs behind : List Char} {lit : NumberLiteral} (h : Ends rest)
    (hlit : number? cs = some (lit, behind)) :
    number? (cs ++ rest) = some (lit, behind ++ rest) := by
  obtain ⟨c, cs', rfl, -⟩ := number?_head hlit
  rw [List.cons_append]
  by_cases hc : c = '-'
  · rw [hc] at hlit ⊢
    exact unsignedNumber?_append h hlit
  · have hunsigned : ∀ ds, number? (c :: ds) = unsignedNumber? false (c :: ds) := fun ds => by
      rw [number?]
      exact fun _ heq => hc (List.cons.inj heq).1
    rw [hunsigned] at hlit ⊢
    exact unsignedNumber?_append h hlit

end SwaggerClient.Json
