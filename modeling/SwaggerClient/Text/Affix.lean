/-
Taking a known beginning or end off a text.
-/
namespace SwaggerClient.Text

/-- What follows `start`, if the characters begin with it. -/
def afterStart? : List Char → List Char → Option (List Char)
  | [], s => some s
  | _ :: _, [] => none
  | p :: ps, c :: s => if p = c then afterStart? ps s else none

/-- Taking a beginning off succeeds exactly on the texts that begin with it. -/
theorem afterStart?_eq_some_iff {start s rest : List Char} :
    afterStart? start s = some rest ↔ s = start ++ rest := by
  induction start generalizing s with
  | nil => simp [afterStart?, eq_comm]
  | cons p ps ih =>
    cases s with
    | nil => simp [afterStart?]
    | cons c s =>
      by_cases h : p = c
      · simp [afterStart?, h, ih]
      · have h' : ¬c = p := fun eq => h eq.symm
        simp [afterStart?, h, h']

/-- What precedes `final`, if the characters end with it. -/
def beforeEnd? (final s : List Char) : Option (List Char) :=
  (afterStart? final.reverse s.reverse).map List.reverse

/-- The text behind `start`, if it begins with it. -/
def stripStart? (start s : String) : Option String :=
  (afterStart? start.toList s.toList).map String.ofList

/-- The same for texts. -/
theorem stripStart?_eq_some_iff {start s rest : String} :
    stripStart? start s = some rest ↔ s = start ++ rest := by
  rw [stripStart?, Option.map_eq_some_iff]
  constructor
  · rintro ⟨tail, htail, rfl⟩
    rw [afterStart?_eq_some_iff] at htail
    rw [← String.toList_inj, htail, String.toList_append, String.toList_ofList]
  · rintro rfl
    exact ⟨rest.toList, afterStart?_eq_some_iff.mpr String.toList_append, String.ofList_toList⟩

/-- A text that begins with `start` and goes on with a name. -/
def NamesBehind (start s : String) : Prop := ∃ name, name ≠ "" ∧ s = start ++ name

instance (start s : String) : Decidable (NamesBehind start s) :=
  decidable_of_iff ((stripStart? start s).any (· ≠ "") = true) (by
    simp [NamesBehind, Option.any_eq_true, stripStart?_eq_some_iff, and_comm])

/-- Behind `start` there is no beginning at all, or else no name. -/
theorem eq_empty_of_not_namesBehind {start s name : String} (h : ¬NamesBehind start s)
    (hname : stripStart? start s = some name) : name = "" :=
  Decidable.byContradiction fun hne => h ⟨name, hne, stripStart?_eq_some_iff.mp hname⟩

end SwaggerClient.Text
