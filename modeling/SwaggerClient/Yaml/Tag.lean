/-
Tags: what they look like and what the well-known ones mean.
-/
import SwaggerClient.Yaml.Glyph
import SwaggerClient.Text.Hexadecimal

namespace SwaggerClient.Yaml

/-! ### Well-known tags -/

/-- What the handle `!!` stands for unless the document says otherwise. -/
def coreTagStart : String := "tag:yaml.org,2002:"

/-- The tag of truth values. -/
def boolTag : String := coreTagStart ++ "bool"

/-- The tag of integers. -/
def intTag : String := coreTagStart ++ "int"

/-- The tag of doubles. -/
def floatTag : String := coreTagStart ++ "float"

/-- The tag of null. -/
def nullTag : String := coreTagStart ++ "null"

/-! ### Written form -/

/-- A tag as written: a handle, which an abbreviation was defined for, and the rest. -/
structure TagName where
  handle : String
  suffix : String
deriving DecidableEq, Repr

/-- The characters of a tag; inside angle brackets also three flow marks. -/
def isTagChar (verbatim : Bool) (c : Char) : Bool :=
  isNameChar c || ";/?:@&=+$.%!~*'()".toList.contains c ||
    (verbatim && (c == ',' || c == '[' || c == ']'))

/-- How many bytes a UTF-8 sequence has, by its first byte. -/
def utf8Width? (byte : Nat) : Option Nat :=
  if byte < 0x80 then some 1
  else if 0xC0 ≤ byte ∧ byte < 0xE0 then some 2
  else if 0xE0 ≤ byte ∧ byte < 0xF0 then some 3
  else if 0xF0 ≤ byte ∧ byte < 0xF8 then some 4
  else none

/-- A percent sign and two hexadecimal digits: a byte. -/
def percentByte? : List Char → Option Nat
  | ['%', a, b] => Text.hexNumber? [a, b]
  | _ => none

/-- The further bytes of a UTF-8 sequence, appended to the bits so far. -/
def percentTail? : Nat → Nat → List Glyph → Option (Nat × List Glyph)
  | 0, n, gs => some (n, gs)
  | count + 1, n, gs => do
    let byte ← percentByte? (chars (gs.take 3))
    if 0x80 ≤ byte ∧ byte < 0xC0 then percentTail? count (n * 64 + (byte - 0x80)) (gs.drop 3)
    else none

/-- A character written as percent signs and hexadecimal digits in UTF-8. -/
def percentChar? (gs : List Glyph) : Option (Char × List Glyph) := do
  let byte ← percentByte? (chars (gs.take 3))
  let width ← utf8Width? byte
  let bits := if width = 1 then byte else byte % (1 <<< (7 - width))
  let (n, rest) ← percentTail? (width - 1) bits (gs.drop 3)
  return (Char.ofNat n, rest)

/-- Reading further bytes takes characters off the text. -/
theorem length_percentTail {count n : Nat} {gs : List Glyph} {read : Nat × List Glyph}
    (h : percentTail? count n gs = some read) : read.2.length ≤ gs.length := by
  induction count generalizing n gs with
  | zero => simp only [percentTail?, Option.some.injEq] at h; subst h; simp
  | succ count ih =>
    simp only [percentTail?, Option.bind_eq_bind, Option.bind_eq_some_iff] at h
    obtain ⟨byte, -, h⟩ := h
    split at h
    · have := ih h
      simp only [List.length_drop] at this
      omega
    · cases h

/-- Reading an escaped character takes at least one character off the text. -/
theorem length_percentChar {g : Glyph} {gs : List Glyph} {read : Char × List Glyph}
    (h : percentChar? (g :: gs) = some read) : read.2.length ≤ gs.length := by
  simp only [percentChar?, Option.bind_eq_bind, Option.bind_eq_some_iff, Option.pure_def,
    Option.some.injEq] at h
  obtain ⟨byte, -, width, -, ⟨n, rest⟩, hr, rfl⟩ := h
  have := length_percentTail hr
  simp only [List.length_drop, List.length_cons] at this
  simp only
  omega

/-- The characters of a tag at the front of the text, escapes resolved. -/
def tagChars? (verbatim : Bool) (gs : List Glyph) : Option (List Char × List Glyph) :=
  match gs with
  | [] => some ([], [])
  | g :: rest =>
    if g.char = '%' then
      match h : percentChar? (g :: rest) with
      | none => none
      | some (c, rest') =>
        have := length_percentChar h
        (tagChars? verbatim rest').map fun (cs, gs) => (c :: cs, gs)
    else if isTagChar verbatim g.char then
      (tagChars? verbatim rest).map fun (cs, gs) => (g.char :: cs, gs)
    else some ([], g :: rest)
termination_by gs.length
decreasing_by all_goals (simp only [List.length_cons] at *; omega)

/-- A handle behind its `!`: name characters and a closing `!`, if there is one. -/
def handleTail (gs : List Glyph) : List Char × Bool × List Glyph :=
  let name := chars (gs.takeWhile fun g => isNameChar g.char)
  match gs.dropWhile fun g => isNameChar g.char with
  | ⟨'!', _, _⟩ :: rest => (name, true, rest)
  | rest => (name, false, rest)

/-- A tag behind its `!`, which has to end at a gap, or in flow at a comma. -/
def tag? (inFlow : Bool) (gs : List Glyph) : Option (TagName × List Glyph) := do
  let (name, rest) ←
    match gs with
    | ⟨'<', _, _⟩ :: gs => do
      match ← tagChars? true gs with
      | (cs, ⟨'>', _, _⟩ :: rest) =>
        if cs.isEmpty then none else some (TagName.mk "" (String.ofList cs), rest)
      | _ => none
    | gs =>
      match handleTail gs with
      | (name, true, rest) => do
        let (cs, rest) ← tagChars? false rest
        if cs.isEmpty then none
        else some (⟨String.ofList ('!' :: name ++ ['!']), String.ofList cs⟩, rest)
      | (name, false, rest) => do
        let (cs, rest) ← tagChars? false rest
        if (name ++ cs).isEmpty then some (⟨"", "!"⟩, rest)
        else some (⟨"!", String.ofList (name ++ cs)⟩, rest)
  let atComma := inFlow && (rest.head?.map Glyph.char) == some ','
  if atComma || atGap rest then some (name, rest) else none

/-! ### Abbreviations -/

/-- The abbreviations that every document starts with. -/
def coreHandles : List (String × String) := [("!", "!"), ("!!", coreTagStart)]

/-- The full text of a tag.  An empty handle abbreviates nothing; an unknown one is a fault. -/
def TagName.expand? (handles : List (String × String)) (tag : TagName) : Option String :=
  if tag.handle = "" then some tag.suffix
  else (handles.lookup tag.handle).map (· ++ tag.suffix)

end SwaggerClient.Yaml
