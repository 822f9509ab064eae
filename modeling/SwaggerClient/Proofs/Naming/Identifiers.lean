/-
Which generated names are identifiers.

All generated names are words: letters, digits and underscores, and at least one of them.  To
be an identifier a word must not begin with a digit either.  A case conversion keeps the first
letter or digit of a name in front (`converted_of_spelling`), so a name that leads with a digit
is converted to a word that is no identifier.

For the type of a model that is looked after, and it is an identifier in any case.  A variable
gets its underscore for another reason, and an operation set gets its ending behind.  Both are
identifiers only if the name leads with a letter, or if the variable happens to be reserved
(`generatedIdentifiers_of_ascii`).
-/
import SwaggerClient.Proofs.Naming.Reserved
import SwaggerClient.Proofs.Naming.Apis

namespace SwaggerClient

namespace Naming

open Text

/-! ### Words -/

/-- ASCII letters, digits and underscores. -/
structure IsWord (s : String) : Prop where
  nonempty : s ≠ ""
  chars : ∀ c ∈ s.toList, c.isAlphanum = true ∨ c = '_'

/-- A word that does not begin with a digit. -/
structure IsIdentifier (s : String) : Prop extends IsWord s where
  upright : startsWithDigit s = false

/-- Whether the first letter or digit of a name is a digit. -/
def leadsWithDigit (name : String) : Bool := (name.toList.find? isAlphanumeric).any Char.isDigit

theorem IsWord.isIdentifier_iff {s : String} (h : IsWord s) :
    IsIdentifier s ↔ startsWithDigit s = false :=
  ⟨fun hs => hs.upright, fun hs => ⟨h, hs⟩⟩

theorem isWord_of_all {s : String} (hne : s ≠ "") (h : s.toList.all Char.isAlphanum = true) :
    IsWord s :=
  ⟨hne, fun c hc => Or.inl (List.all_eq_true.mp h c hc)⟩

theorem isWord_underscore : IsWord "_" := ⟨by decide, fun _ hc => Or.inr (List.mem_singleton.mp hc)⟩

theorem isWord_append {s t : String} (hs : IsWord s) (ht : IsWord t) : IsWord (s ++ t) := by
  refine ⟨fun hempty => hs.nonempty (String.append_eq_empty_iff.mp hempty).1, ?_⟩
  rw [String.toList_append]
  exact List.forall_mem_append.mpr ⟨hs.chars, ht.chars⟩

/-- What stands behind a word does not change its beginning. -/
theorem startsWithDigit_append {s : String} (hs : s ≠ "") (t : String) :
    startsWithDigit (s ++ t) = startsWithDigit s := by
  have hne : s.toList ≠ [] := mt String.toList_eq_nil_iff.mp hs
  rw [startsWithDigit, String.toList_append, List.head?_append_of_ne_nil _ hne, startsWithDigit]

/-- A capital with letters and digits behind it is an identifier. -/
theorem isIdentifier_of_typeName {s : String} (h : TypeName s.toList) : IsIdentifier s := by
  obtain ⟨c, t, hct, hc⟩ := h.capital
  have hascii : isAscii c = true := h.ascii c (by rw [hct]; exact List.mem_cons_self)
  refine ⟨⟨?_, fun d hd => ?_⟩, ?_⟩
  · rintro rfl
    exact List.cons_ne_nil c t hct.symm
  · rw [← isAlphanumeric_of_isAscii (h.ascii d hd)]
    exact Or.inl (h.alphanumeric d hd)
  · rw [startsWithDigit, hct]
    exact (caseLaws hascii).not_isDigit_of_isUppercase hc

/-! ### Converted names -/

/-- A word of letters and digits that begins with a digit exactly if the name leads with one. -/
structure Converted (name : String) (s : String) : Prop extends IsWord s where
  startsWithDigit_eq : startsWithDigit s = leadsWithDigit name

theorem find?_identifierChars (s : List Char) :
    ((identifierChars s).find? isAlphanumeric).any Char.isDigit
      = (s.find? isAlphanumeric).any Char.isDigit := by
  obtain ⟨t, ht⟩ := identifierChars_eq_cons_find? s
  rw [ht]
  cases hfind : s.find? isAlphanumeric with
  | none => rfl
  | some c => rw [Option.getD_some, List.find?_cons_of_pos (List.find?_some hfind)]

variable {name : String}

/-- **What is spelled like a name is a word.** -/
theorem converted_of_spelling {s : String} (h : Ascii name.toList)
    (hs : s.toList.map Char.toLower = spelling (identifierChars name.toList)) :
    Converted name s := by
  obtain ⟨hchars, hdigit⟩ := word_of_spelling (ascii_identifierChars h) hs
  refine ⟨⟨?_, fun c hc => Or.inl (hchars c hc)⟩, ?_⟩
  · rintro rfl
    obtain ⟨c, t, hid, hc⟩ := identifierChars_eq_cons name.toList
    rw [hid, spelling, List.filter_cons_of_pos hc] at hs
    exact List.cons_ne_nil _ _ hs.symm
  · rw [startsWithDigit, hdigit, find?_identifierChars, leadsWithDigit]

/-! ### Generated names -/

variable (naming : Naming)

/-- **The type of a model is an identifier.** -/
theorem isIdentifier_modelName (h : Ascii name.toList) : IsIdentifier (naming.modelName name) :=
  isIdentifier_of_typeName (naming.typeName_modelName h)

/-- A variable is a word, and marked or not it shows what it begins with. -/
theorem variableName_cases (h : Ascii name.toList) :
    naming.isReserved (unseparated name) = true ∧ IsIdentifier (naming.variableName name) ∨
      naming.isReserved (unseparated name) = false ∧ Converted name (naming.variableName name) := by
  have hword := converted_of_spelling h (map_toLower_camelCase h)
  unfold variableName escape
  rw [naming.isReserved_of_spelling (map_toLower_camelCase h)]
  cases naming.isReserved (unseparated name) with
  | true =>
      rw [if_pos rfl]
      refine Or.inl ⟨rfl, isWord_append isWord_underscore hword.toIsWord, ?_⟩
      rw [startsWithDigit_append isWord_underscore.nonempty]
      rfl
  | false =>
      rw [if_neg Bool.false_ne_true]
      exact Or.inr ⟨rfl, hword⟩

/-- The type of an operation set begins like its tag. -/
theorem converted_apiName (h : Ascii name.toList) : Converted name (apiName name) := by
  have hending : IsWord "Api" := isWord_of_all (by decide) (by decide)
  unfold apiName
  by_cases hne : name = ""
  · rw [if_pos hne, hne]
    exact ⟨isWord_of_all (by decide) (by decide), by decide⟩
  · have hword := converted_of_spelling h (map_toLower_pascalCase h)
    rw [if_neg hne]
    dsimp only
    split
    · exact hword
    · refine ⟨isWord_append hword.toIsWord hending, ?_⟩
      rw [startsWithDigit_append hword.nonempty, hword.startsWithDigit_eq]

/-- Which names that are generated from a name are identifiers. -/
structure GeneratedIdentifiers (naming : Naming) (name : String) : Prop where
  /-- The type of a model always is. -/
  model : IsIdentifier (naming.modelName name)
  /-- A variable is a word, -/
  variable_word : IsWord (naming.variableName name)
  /-- and an identifier exactly if the name leads with a letter or the variable is marked. -/
  variable_iff : IsIdentifier (naming.variableName name) ↔
    leadsWithDigit name = false ∨ naming.isReserved (unseparated name) = true
  /-- The type of an operation set is a word, -/
  api_word : IsWord (apiName name)
  /-- and an identifier exactly if the tag leads with a letter. -/
  api_iff : IsIdentifier (apiName name) ↔ leadsWithDigit name = false

/-- **Generated names are identifiers,** except for the variables and operation sets of names
that lead with a digit. -/
theorem generatedIdentifiers_of_ascii (name : String) (h : Ascii name.toList) :
    GeneratedIdentifiers naming name := by
  have hapi := converted_apiName h
  have hmodel := naming.isIdentifier_modelName h
  have happ : IsIdentifier (apiName name) ↔ leadsWithDigit name = false := by
    rw [hapi.isIdentifier_iff, hapi.startsWithDigit_eq]
  rcases naming.variableName_cases h with ⟨hres, hvar⟩ | ⟨hres, hvar⟩
  · exact ⟨hmodel, hvar.toIsWord, iff_of_true hvar (Or.inr hres), hapi.toIsWord, happ⟩
  · refine ⟨hmodel, hvar.toIsWord, ?_, hapi.toIsWord, happ⟩
    rw [hvar.isIdentifier_iff, hvar.startsWithDigit_eq, hres]
    simp

/-- The model of `1pet` is marked, its variable and its operation set are not. -/
theorem generatedIdentifiers_digit :
    Ascii "1pet".toList ∧ leadsWithDigit "1pet" = true ∧
      Config.standard.naming.modelName "1pet" = "Model1pet" ∧
      Config.standard.naming.variableName "1pet" = "1pet" ∧ apiName "1pet" = "1petApi" ∧
      GeneratedIdentifiers Config.standard.naming "1pet" := by
  have hascii : Ascii "1pet".toList := by decide
  exact ⟨hascii, by decide +kernel, by decide +kernel, by decide +kernel, by decide +kernel,
    generatedIdentifiers_of_ascii Config.standard.naming "1pet" hascii⟩

end Naming

end SwaggerClient
