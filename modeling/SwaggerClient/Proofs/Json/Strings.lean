/-
Strings that were written and are read again.

Every character is written in one of three ways: as it is, behind a backslash, or by its
number.  Each way is read as one piece that stands for the character again
(`Json.exists_piece`), so the pieces of a quoted string join to the string
(`Json.string?_quote`).
-/
import SwaggerClient.Json.Printer
import SwaggerClient.Json.Reader

namespace SwaggerClient.Json

/-- A piece that stands for a character: itself, or its number if that is small. -/
def Piece.StandsFor (p : Piece) (c : Char) : Prop :=
  p = .char c ∨ p = .unit c.toNat ∧ c.toNat < 0x20

theorem hexNumber?_control :
    ∀ n < 0x20, Text.hexNumber? ['0', '0', hexDigit (n / 16), hexDigit (n % 16)] = some n := by
  decide

/-- A character that is not written in a special way is read as it is. -/
theorem pieces?_plain {c : Char} (hquote : c ≠ '"') (hslash : c ≠ '\\') (hlarge : 0x20 ≤ c.toNat)
    (cs : List Char) : pieces? (c :: cs) = (pieces? cs).map fun p => (.char c :: p.1, p.2) := by
  rw [pieces?.eq_def]
  split
  · rename_i h
    cases h
  · rename_i h
    exact absurd (List.cons.inj h).1 hquote
  · rename_i h
    exact absurd (List.cons.inj h).1 hslash
  · rename_i h
    exact absurd (List.cons.inj h).1 hslash
  · rename_i h
    obtain ⟨rfl, rfl⟩ := List.cons.inj h
    rw [if_neg (not_or.mpr ⟨Nat.not_lt.mpr hlarge, hslash⟩)]

/-- A letter behind a backslash is read as the character that it stands for. -/
theorem pieces?_letter {e c : Char} (he : e ≠ 'u') (h : simpleEscape? e = some c)
    (cs : List Char) :
    pieces? ('\\' :: e :: cs) = (pieces? cs).map fun p => (.char c :: p.1, p.2) := by
  rw [pieces?.eq_def]
  split
  · rename_i h
    cases h
  · rename_i h
    exact absurd (List.cons.inj h).1 (by decide)
  · rename_i h
    exact absurd (List.cons.inj (List.cons.inj h).2).1 he
  · rename_i heq
    obtain ⟨-, heq⟩ := List.cons.inj heq
    obtain ⟨rfl, rfl⟩ := List.cons.inj heq
    rw [h]
    cases pieces? cs with
    | none => rfl
    | some p => rfl
  · rename_i hnot heq
    obtain ⟨rfl, rfl⟩ := List.cons.inj heq
    exact absurd rfl (hnot e cs rfl)

/-- **Every character is written so that a piece is read that stands for it.** -/
theorem exists_piece (c : Char) : ∃ p : Piece, p.StandsFor c ∧
    ∀ cs, pieces? ((escapeChar c).toList ++ cs) = (pieces? cs).map fun r => (p :: r.1, r.2) := by
  unfold escapeChar
  split
  · rename_i h
    exact ⟨.char c, Or.inl rfl, h ▸ pieces?_letter (by decide) rfl⟩
  split
  · rename_i h
    exact ⟨.char c, Or.inl rfl, h ▸ pieces?_letter (by decide) rfl⟩
  split
  · rename_i h
    exact ⟨.char c, Or.inl rfl, h ▸ pieces?_letter (by decide) rfl⟩
  split
  · rename_i h
    exact ⟨.char c, Or.inl rfl, h ▸ pieces?_letter (by decide) rfl⟩
  split
  · rename_i h
    exact ⟨.char c, Or.inl rfl, h ▸ pieces?_letter (by decide) rfl⟩
  split
  · rename_i h
    exact ⟨.char c, Or.inl rfl, h ▸ pieces?_letter (by decide) rfl⟩
  split
  · rename_i h
    exact ⟨.char c, Or.inl rfl, h ▸ pieces?_letter (by decide) rfl⟩
  split
  · rename_i hsmall
    refine ⟨.unit c.toNat, Or.inr ⟨rfl, hsmall⟩, fun cs => ?_⟩
    rw [String.toList_ofList]
    show pieces? ('\\' :: 'u' :: '0' :: '0' :: _ :: _ :: cs) = _
    rw [pieces?, hexNumber?_control c.toNat hsmall]
    cases pieces? cs with
    | none => rfl
    | some p => rfl
  · rename_i hquote hslash _ _ _ _ _ hlarge
    refine ⟨.char c, Or.inl rfl, fun cs => ?_⟩
    show pieces? ((String.singleton c).toList ++ cs) = _
    rw [String.toList_singleton]
    exact pieces?_plain hquote hslash (Nat.not_lt.mp hlarge) cs

theorem joinPieces?_cons {p : Piece} {c : Char} (h : p.StandsFor c) (ps : List Piece) :
    joinPieces? (p :: ps) = (joinPieces? ps).map (c :: ·) := by
  rcases h with rfl | ⟨rfl, hsmall⟩
  · rfl
  · have hlow : ¬(0xD800 ≤ c.toNat ∧ c.toNat < 0xDC00) := by omega
    have hsurrogate : ¬(0xD800 ≤ c.toNat ∧ c.toNat < 0xE000) := by omega
    have hhigh : ¬(0xDC00 ≤ c.toNat ∧ c.toNat < 0xE000) := by omega
    cases ps with
    | nil => simp only [joinPieces?, if_neg hsurrogate, Char.ofNat_toNat]
    | cons q ps =>
        cases q with
        | char d => simp only [joinPieces?, if_neg hsurrogate, Char.ofNat_toNat]
        | unit n => rw [joinPieces?, if_neg hlow, if_neg hhigh, Char.ofNat_toNat]

/-! ### Quoted strings -/

theorem toList_quote (s : String) :
    (quote s).toList = '"' :: (s.toList.flatMap fun c => (escapeChar c).toList) ++ ['"'] := by
  have hfold : ∀ (cs : List Char) (out : String),
      (cs.foldl (fun out c => out ++ escapeChar c) out).toList =
        out.toList ++ cs.flatMap fun c => (escapeChar c).toList := by
    intro cs out
    induction cs generalizing out with
    | nil => exact (List.append_nil _).symm
    | cons c cs ih =>
        rw [List.foldl_cons, ih, String.toList_append, List.flatMap_cons, List.append_assoc]
  rw [quote, String.foldl_eq_foldl_toList, String.toList_append, hfold]
  rfl

theorem exists_pieces (cs rest : List Char) :
    ∃ ps, pieces? ((cs.flatMap fun c => (escapeChar c).toList) ++ '"' :: rest) = some (ps, rest) ∧
      joinPieces? ps = some cs := by
  induction cs with
  | nil => exact ⟨[], rfl, rfl⟩
  | cons c cs ih =>
      obtain ⟨ps, hps, hjoin⟩ := ih
      obtain ⟨p, hp, hread⟩ := exists_piece c
      refine ⟨p :: ps, ?_, ?_⟩
      · rw [List.flatMap_cons, List.append_assoc, hread, hps, Option.map_some]
      · rw [joinPieces?_cons hp, hjoin, Option.map_some]

/-- **A quoted string is read as itself.** -/
theorem string?_quote (s : String) (rest : List Char) :
    ∃ body, (quote s).toList = '"' :: body ∧ string? (body ++ rest) = some (some s, rest) := by
  obtain ⟨ps, hps, hjoin⟩ := exists_pieces s.toList rest
  refine ⟨(s.toList.flatMap fun c => (escapeChar c).toList) ++ ['"'], toList_quote s, ?_⟩
  rw [string?, List.append_assoc, List.singleton_append, hps]
  show some ((joinPieces? ps).map String.ofList, rest) = _
  rw [hjoin, Option.map_some, String.ofList_toList]

end SwaggerClient.Json
