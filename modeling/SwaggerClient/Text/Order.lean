/-
Lists of texts without repetition, in order of first occurrence or sorted.
-/
namespace SwaggerClient.Text

/-- The elements in order of their first occurrence. -/
def firstOccurrences [DecidableEq α] : List α → List α
  | [] => []
  | x :: xs => x :: (firstOccurrences xs).filter (· ≠ x)

/-- Puts a text in its place among sorted ones, unless it is there already. -/
def insertSorted (s : String) : List String → List String
  | [] => [s]
  | t :: rest =>
    if s < t then s :: t :: rest
    else if s = t then t :: rest
    else t :: insertSorted s rest

/-- The texts sorted code point by code point, each once. -/
def sortedSet (texts : List String) : List String := texts.foldr insertSorted []

end SwaggerClient.Text
