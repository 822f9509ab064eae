/-
Words inside a name, and the two ways to join them again.

A name falls into runs of letters and digits; every other character only separates.  A run
falls further into words where its letters change case: between a small letter and a capital
(`petStatus`), and before the last capital of a row of capitals that a small letter follows
(`HTTPServer`).  Digits and letters without case belong to whatever they stand in.
-/
import SwaggerClient.Text.Letter

namespace SwaggerClient.Text

/-! ### Runs -/

/-- The maximal runs of characters that satisfy `p`, in order. -/
def runs (p : Char → Bool) : List Char → List (List Char)
  | [] => []
  | [c] => if p c then [[c]] else []
  | c :: d :: rest =>
    if p c then
      if p d then
        match runs p (d :: rest) with
        | [] => [[c]]
        | run :: more => (c :: run) :: more
      else [c] :: runs p (d :: rest)
    else runs p (d :: rest)

/-- The maximal runs of letters and digits. -/
def alphanumericRuns (s : List Char) : List (List Char) := runs isAlphanumeric s

/-! ### Words of one run -/

/-- The case of the latest cased character of the word being read. -/
inductive CaseMode where
  | none
  | lower
  | upper
deriving DecidableEq, Repr

/-- The mode after one more character.  A character without case keeps it. -/
def CaseMode.after (mode : CaseMode) (c : Char) : CaseMode :=
  if isLowercase c then .lower else if isUppercase c then .upper else mode

/-- Puts a character in front of the first word. -/
def extendFirst (c : Char) : List (List Char) → List (List Char)
  | [] => [[c]]
  | word :: more => (c :: word) :: more

/-- Cuts a run into words.  The first element continues the word that `mode` describes, and it
is empty when that word ends at once. -/
def wordsFrom : CaseMode → List Char → List (List Char)
  | _, [] => []
  | _, [c] => [[c]]
  | mode, c :: next :: rest =>
    if mode.after c = .lower ∧ isUppercase next then
      [c] :: wordsFrom .none (next :: rest)
    else if mode = .upper ∧ isUppercase c ∧ isLowercase next then
      [] :: extendFirst c (wordsFrom .none (next :: rest))
    else
      extendFirst c (wordsFrom (mode.after c) (next :: rest))

/-- The words of a name, in order. -/
def words (s : List Char) : List (List Char) :=
  (alphanumericRuns s).flatMap (wordsFrom .none)

/-! ### Joining -/

/-- A word in lower case; a capital sigma at its very end becomes `ς`. -/
def lowerWord : List Char → List Char
  | [] => []
  | [c] => if c = 'Σ' then ['ς'] else lower c
  | c :: rest => lower c ++ lowerWord rest

/-- A word with its first character in upper case and the others in lower case. -/
def capitalize : List Char → List Char
  | [] => []
  | c :: rest => upper c ++ lowerWord rest

/-- The words of a name, capitalized and joined: `pet_status` becomes `PetStatus`. -/
def pascalChars (s : List Char) : List Char := (words s).flatMap capitalize

/-- The words of a name joined, all but the first capitalized: `pet_status` becomes
`petStatus`. -/
def camelChars (s : List Char) : List Char :=
  match words s with
  | [] => []
  | word :: more => lowerWord word ++ more.flatMap capitalize

/-- `PascalCase` of a text. -/
def pascalCase (s : String) : String := String.ofList (pascalChars s.toList)

/-- `lowerCamelCase` of a text. -/
def camelCase (s : String) : String := String.ofList (camelChars s.toList)

end SwaggerClient.Text
