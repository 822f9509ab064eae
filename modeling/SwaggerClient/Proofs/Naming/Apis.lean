/-
What an operation set is called, and what becomes of the name when it is used again.

The type of an operation set is the `PascalCase` of its tag and ends in `Api`.  The file of
the set is then named from the type as if that were a tag, so the type goes through
`PascalCase` once more.  What decides the result is how the ending is cut.  Behind a letter,
or alone, `Api` is a word by itself and stays, and what stands in front is put in
`PascalCase` (`apiName_of_letter`).  Behind digits alone it is no word: its capital is lost,
and the name gets a second ending (`apiName_of_digits`).

So a name that is used again need not stay the same.  It does exactly if all its capitals
stand in front of words, and from the second use on it always does (`apiNameAgain_of_ascii`).
The file, which is in `lowerCamelCase`, is less sensitive: a regrouped row of capitals cannot
be told from it, and a tag in which a letter stands before all digits never loses its ending.
The file of such a set is the one that the tag names (`apiFilename_apiName`).
-/
import SwaggerClient.Proofs.Naming.Types
import SwaggerClient.Proofs.Text.Endings

namespace SwaggerClient

namespace Naming

open Text

/-! ### The ending -/

/-- The ending of the types of operation sets. -/
def apiEnding : List Char := "Api".toList

/-- Behind its first letter it has small letters only. -/
theorem noCapital_tail_apiEnding : ∀ c ∈ apiEnding.tail, isUppercase c = false := by
  have hany : apiEnding.tail.any isUppercase = false := by decide
  simpa only [List.any_eq_false, Bool.not_eq_true] using hany

section Ending

variable {s : List Char}

/-- In front of the ending stands nothing, or a letter, or digits alone. -/
theorem front_cases (s : List Char) :
    (s = [] ∨ hasLetter s = true) ∨ s ≠ [] ∧ hasLetter s = false := by
  by_cases hs : s = [] ∨ hasLetter s = true
  · exact Or.inl hs
  · obtain ⟨hne, hletter⟩ := not_or.mp hs
    exact Or.inr ⟨hne, Bool.not_eq_true _ ▸ hletter⟩

theorem ascii_append_apiEnding_iff : Ascii (s ++ apiEnding) ↔ Ascii s := by
  have hending : Ascii apiEnding := by decide
  exact List.forall_mem_append.trans (and_iff_left hending)

theorem isAlphanumeric_append_apiEnding_iff :
    (∀ c ∈ s ++ apiEnding, isAlphanumeric c = true) ↔ ∀ c ∈ s, isAlphanumeric c = true := by
  have hending : ∀ c ∈ apiEnding, isAlphanumeric c = true := List.all_eq_true.mp (by decide)
  exact List.forall_mem_append.trans (and_iff_left hending)

/-- A name with a letter or digit in front is one with the ending, too. -/
theorem pascalName_append_apiEnding (h : PascalName s) : PascalName (s ++ apiEnding) := by
  obtain ⟨c, t, rfl, hc⟩ := h.upright
  exact ⟨ascii_append_apiEnding_iff.mpr h.ascii,
    isAlphanumeric_append_apiEnding_iff.mpr h.alphanumeric, c, t ++ apiEnding, rfl, hc⟩

theorem typeName_append_apiEnding (h : TypeName s) : TypeName (s ++ apiEnding) := by
  obtain ⟨c, t, rfl, hc⟩ := h.capital
  exact ⟨ascii_append_apiEnding_iff.mpr h.ascii,
    isAlphanumeric_append_apiEnding_iff.mpr h.alphanumeric, c, t ++ apiEnding, rfl, hc⟩

/-- Behind a letter, or alone, the ending is a word by itself. -/
theorem words_append_apiEnding (h : PascalName (s ++ apiEnding))
    (hs : s = [] ∨ hasLetter s = true) : words (s ++ apiEnding) = words s ++ [apiEnding] := by
  rcases hs with rfl | hs
  · decide
  · have hne : s ≠ [] := by
      rintro rfl
      exact Bool.noConfusion hs
    have hending : wordsFrom .none apiEnding = [apiEnding] := by decide
    rw [words_of_all h.ne_nil h.alphanumeric,
      words_of_all hne (isAlphanumeric_append_apiEnding_iff.mp h.alphanumeric), ← hending]
    exact wordsFrom_append_capital (by decide) (by decide) (by decide) (by decide)
      (ascii_append_apiEnding_iff.mp h.ascii) hne (endMode_ne_none hs .none)

/-- Behind digits alone it belongs to their word. -/
theorem words_append_apiEnding_of_noLetter (h : PascalName (s ++ apiEnding))
    (hs : hasLetter s = false) : words (s ++ apiEnding) = [s ++ apiEnding] := by
  rw [words_of_all h.ne_nil h.alphanumeric]
  exact wordsFrom_append_of_noLetter hs noCapital_tail_apiEnding

theorem pascalChars_append_apiEnding (h : PascalName (s ++ apiEnding))
    (hs : s = [] ∨ hasLetter s = true) :
    pascalChars (s ++ apiEnding) = pascalChars s ++ apiEnding := by
  have hending : [apiEnding].flatMap capitalize = apiEnding := by decide
  rw [pascalChars, words_append_apiEnding h hs, List.flatMap_append, hending, pascalChars]

theorem map_toLower_of_noLetter (ha : Ascii s) (hs : hasLetter s = false) :
    s.map Char.toLower = s := by
  induction s with
  | nil => rfl
  | cons c s ih =>
      simp only [hasLetter_cons, Bool.or_eq_false_iff] at hs
      rw [List.map_cons, ih ha.tail hs.2,
        (caseLaws (ha c List.mem_cons_self)).toLower_of_not_isUppercase hs.1.1]

theorem pascalChars_append_apiEnding_of_noLetter (h : PascalName (s ++ apiEnding)) (hne : s ≠ [])
    (hs : hasLetter s = false) : pascalChars (s ++ apiEnding) = s ++ "api".toList := by
  have ha := ascii_append_apiEnding_iff.mp h.ascii
  obtain ⟨c, t, rfl⟩ := List.exists_cons_of_ne_nil hne
  have hlow := map_toLower_of_noLetter ha hs
  have hending : apiEnding.map Char.toLower = "api".toList := by decide
  have hword : Ascii (c :: (t ++ apiEnding)) := h.ascii
  simp only [hasLetter_cons, Bool.or_eq_false_iff] at hs
  rw [pascalChars, words_append_apiEnding_of_noLetter h (by simp [hasLetter_cons, hs]),
    List.flatMap_singleton, List.cons_append, capitalize_of_ascii hword,
    toUpper_of_not_isLowercase (ha c List.mem_cons_self) hs.1.2, List.map_append, hending,
    (List.cons.inj hlow).2]
  rfl

end Ending

/-! ### The type of an operation set -/

theorem toList_apiName {name : String} (hne : name ≠ "") :
    (apiName name).toList =
      if apiEnding.isSuffixOf (pascalChars (identifierChars name.toList)) then
        pascalChars (identifierChars name.toList)
      else pascalChars (identifierChars name.toList) ++ apiEnding := by
  have hpascal : (pascalCase (identifier name)).toList =
      pascalChars (identifierChars name.toList) := by
    rw [pascalCase, toList_identifier, String.toList_ofList]
  rw [← hpascal]
  unfold apiName
  rw [if_neg hne]
  by_cases hending : apiEnding.isSuffixOf (pascalCase (identifier name)).toList = true
  · rw [if_pos hending]
    exact congrArg String.toList (if_pos hending)
  · rw [if_neg hending]
    exact (congrArg String.toList (if_neg hending)).trans String.toList_append

/-- **The type of an operation set is a name with the ending.** -/
theorem exists_stem {name : String} (h : Ascii name.toList) :
    ∃ stem, (apiName name).toList = stem ++ apiEnding ∧ PascalName (stem ++ apiEnding) := by
  by_cases hne : name = ""
  · refine ⟨"Default".toList, ?_, by decide, List.all_eq_true.mp (by decide), 'D',
      "efault".toList ++ apiEnding, rfl, by decide⟩
    rw [apiName, if_pos hne]
    rfl
  · obtain ⟨c, t, hid, hc⟩ := identifierChars_eq_cons name.toList
    have hname : PascalName (pascalChars (identifierChars name.toList)) := by
      have hascii := ascii_identifierChars h
      rw [hid] at hascii ⊢
      exact pascalName_pascalChars hascii hc
    rw [toList_apiName hne]
    split
    · rename_i hending
      obtain ⟨stem, hstem⟩ := List.isSuffixOf_iff_suffix.mp hending
      rw [← hstem] at hname ⊢
      exact ⟨stem, rfl, hname⟩
    · exact ⟨_, rfl, pascalName_append_apiEnding hname⟩

section Again

variable {name : String} {stem : List Char}

/-- What becomes of a name that is used as a tag again. -/
theorem toList_apiName_of_pascalName (h : PascalName name.toList) :
    (apiName name).toList =
      if apiEnding.isSuffixOf (pascalChars name.toList) then pascalChars name.toList
      else pascalChars name.toList ++ apiEnding := by
  have hne : name ≠ "" := by
    rintro rfl
    exact h.ne_nil rfl
  rw [toList_apiName hne, identifierChars_of_all h.ne_nil h.alphanumeric]

/-- **An ending that is a word by itself stays,** and what stands in front is put in
`PascalCase`. -/
theorem apiName_of_letter (h : PascalName name.toList) (hstem : name.toList = stem ++ apiEnding)
    (hs : stem = [] ∨ hasLetter stem = true) :
    (apiName name).toList = pascalChars name.toList ∧
      pascalChars name.toList = pascalChars stem ++ apiEnding := by
  have hpascal : pascalChars name.toList = pascalChars stem ++ apiEnding := by
    rw [hstem] at h ⊢
    exact pascalChars_append_apiEnding h hs
  refine ⟨?_, hpascal⟩
  rw [toList_apiName_of_pascalName h, if_pos]
  rw [hpascal]
  exact List.isSuffixOf_iff_suffix.mpr (List.suffix_append _ _)

/-- **Behind digits alone the ending is lost in their word,** and there comes a second one. -/
theorem apiName_of_digits (h : PascalName name.toList) (hstem : name.toList = stem ++ apiEnding)
    (hne : stem ≠ []) (hs : hasLetter stem = false) :
    (apiName name).toList = stem ++ "apiApi".toList := by
  have hpascal : pascalChars name.toList = stem ++ "api".toList := by
    rw [hstem] at h ⊢
    exact pascalChars_append_apiEnding_of_noLetter h hne hs
  rw [toList_apiName_of_pascalName h, hpascal, if_neg, List.append_assoc]
  · rfl
  · intro hsuffix
    obtain ⟨front, hfront⟩ := List.isSuffixOf_iff_suffix.mp hsuffix
    have hsame : apiEnding = "api".toList := List.append_inj_right' hfront rfl
    exact absurd hsame (by decide)

/-- After that, capitals stand in front of words only. -/
theorem capitalsLead_apiName (h : PascalName name.toList)
    (hstem : name.toList = stem ++ apiEnding) : CapitalsLead (apiName name).toList := by
  rcases front_cases stem with hs | ⟨hne, hs⟩
  · rw [(apiName_of_letter h hstem hs).1]
    exact capitalsLead_pascalChars h
  · have hagain := apiName_of_digits h hstem hne hs
    obtain ⟨_, htoList, hname⟩ := exists_stem h.ascii
    rw [← htoList, hagain] at hname
    -- the digits and the lost ending are one word, and the new ending is another
    have hsplit : stem ++ "apiApi".toList = (stem ++ "api".toList) ++ apiEnding := by
      rw [List.append_assoc]
      rfl
    rw [hsplit] at hname hagain
    have hletter : hasLetter (stem ++ "api".toList) = true := by
      rw [hasLetter, List.any_append, Bool.or_eq_true]
      exact Or.inr (by decide)
    have hfront : words (stem ++ "api".toList) = [stem ++ "api".toList] := by
      rw [words_of_all (by simp) (isAlphanumeric_append_apiEnding_iff.mp hname.alphanumeric)]
      exact wordsFrom_append_of_noLetter hs noCapital_tail_apiEnding
    have hlow : ∀ c ∈ stem ++ "api".toList, isUppercase c = false :=
      List.forall_mem_append.mpr ⟨noCapital_of_noLetter hs,
        List.forall_mem_cons.mpr ⟨by decide, noCapital_tail_apiEnding⟩⟩
    intro w hw
    rw [hagain, words_append_apiEnding hname (Or.inr hletter), hfront, List.singleton_append] at hw
    rcases List.mem_cons.mp hw with rfl | hw
    · exact fun c hc => hlow c (List.mem_of_mem_tail hc)
    · rw [List.mem_singleton.mp hw]
      exact noCapital_tail_apiEnding

end Again

/-! ### Using a type as a tag -/

theorem apiName_eq_self_iff {name : String} {stem : List Char} (h : PascalName name.toList)
    (hstem : name.toList = stem ++ apiEnding) :
    apiName name = name ↔ CapitalsLead name.toList := by
  rw [← String.toList_inj]
  rcases front_cases stem with hs | ⟨hne, hs⟩
  · rw [(apiName_of_letter h hstem hs).1]
    exact pascalChars_eq_self_iff_capitalsLead h
  · rw [apiName_of_digits h hstem hne hs, hstem]
    rw [hstem] at h
    refine iff_of_false (fun heq => ?_) fun hlead => ?_
    · exact absurd (List.append_cancel_left heq) (by decide)
    · -- the capital of the ending stands behind the digits
      obtain ⟨c, t, rfl⟩ := List.exists_cons_of_ne_nil hne
      have hword : c :: t ++ apiEnding ∈ words (c :: t ++ apiEnding) := by
        rw [words_append_apiEnding_of_noLetter h hs]
        exact List.mem_singleton_self _
      have hcapital := hlead _ hword 'A' (List.mem_append_right t List.mem_cons_self)
      exact absurd hcapital (by decide)

/-- **What is its own type:** names with the ending whose capitals stand in front of words. -/
theorem apiName_eq_self_iff_of_ascii {name : String} (h : Ascii name.toList) :
    apiName name = name ↔
      PascalName name.toList ∧ apiEnding <:+ name.toList ∧ CapitalsLead name.toList := by
  constructor
  · intro heq
    obtain ⟨stem, hstem, hname⟩ := exists_stem h
    rw [heq] at hstem
    rw [← hstem] at hname
    exact ⟨hname, ⟨stem, hstem.symm⟩, (apiName_eq_self_iff hname hstem).mp heq⟩
  · rintro ⟨hname, ⟨stem, hstem⟩, hlead⟩
    exact (apiName_eq_self_iff hname hstem.symm).mpr hlead

/-- The two cases in one, in terms of what stands in front of the ending. -/
theorem apiName_of_stem {name stem : String} (h : PascalName name.toList)
    (hstem : name.toList = stem.toList ++ apiEnding) :
    apiName name = if stem ≠ "" ∧ stem.toList.all Char.isDigit = true then stem ++ "apiApi"
      else pascalCase stem ++ "Api" := by
  have hempty : stem.toList = [] ↔ stem = "" := by
    rw [← String.toList_inj]
    rfl
  have hletter : hasLetter stem.toList = !stem.toList.all Char.isDigit := by
    rw [hstem] at h
    exact hasLetter_eq (ascii_append_apiEnding_iff.mp h.ascii)
      (isAlphanumeric_append_apiEnding_iff.mp h.alphanumeric)
  rw [← String.toList_inj]
  rcases front_cases stem.toList with hs | ⟨hne, hs⟩
  · have hfront : ¬(stem ≠ "" ∧ stem.toList.all Char.isDigit = true) := by
      rintro ⟨hne, hdigits⟩
      rw [hempty, hletter, hdigits] at hs
      exact hs.elim hne Bool.noConfusion
    obtain ⟨hpascal, hcut⟩ := apiName_of_letter h hstem hs
    rw [if_neg hfront, String.toList_append, pascalCase, String.toList_ofList, hpascal, hcut]
    rfl
  · have hfront : stem ≠ "" ∧ stem.toList.all Char.isDigit = true := by
      rw [hletter, Bool.not_eq_false'] at hs
      exact ⟨mt hempty.mpr hne, hs⟩
    rw [if_pos hfront, String.toList_append]
    exact apiName_of_digits h hstem hne (by rw [hletter, hfront.2]; rfl)

/-- Which names are types of operation sets already, and what becomes of a type that is used as
a tag again. -/
structure ApiNameAgain (name : String) : Prop where
  kept_iff : apiName name = name ↔
    PascalName name.toList ∧ apiEnding <:+ name.toList ∧ CapitalsLead name.toList
  /-- It keeps its one ending, unless digits alone stand in front, and what stands in front is
  put in `PascalCase`. -/
  again : ∃ stem : String, apiName name = stem ++ "Api" ∧ apiName (apiName name) =
    if stem ≠ "" ∧ stem.toList.all Char.isDigit = true then stem ++ "apiApi"
    else pascalCase stem ++ "Api"
  /-- It stays the same exactly if its capitals stand in front of words. -/
  same_iff : apiName (apiName name) = apiName name ↔ CapitalsLead (apiName name).toList
  /-- The second use changes nothing any more. -/
  settled : apiName (apiName (apiName name)) = apiName (apiName name)

/-- **What a second naming does to the type of an operation set.** -/
theorem apiNameAgain_of_ascii (name : String) (h : Ascii name.toList) : ApiNameAgain name := by
  obtain ⟨stem, hstem, hname⟩ := exists_stem h
  rw [← hstem] at hname
  refine ⟨apiName_eq_self_iff_of_ascii h, ⟨String.ofList stem, ?_, ?_⟩,
    apiName_eq_self_iff hname hstem, ?_⟩
  · rw [← String.toList_inj, hstem, String.toList_append, String.toList_ofList]
    rfl
  · exact apiName_of_stem hname (by rw [hstem, String.toList_ofList])
  · obtain ⟨stem', hstem', hname'⟩ := exists_stem hname.ascii
    rw [← hstem'] at hname'
    exact (apiName_eq_self_iff hname' hstem').mpr (capitalsLead_apiName hname hstem)

/-- A digit makes the name lose its ending, a row of capitals makes it lose a capital. -/
theorem apiNameAgain_digit_capitals :
    (Ascii "1".toList ∧ apiName "1" = "1Api" ∧ apiName "1Api" = "1apiApi" ∧ ApiNameAgain "1") ∧
      (Ascii "a_b".toList ∧ apiName "a_b" = "ABApi" ∧ apiName "ABApi" = "AbApi" ∧
        ApiNameAgain "a_b") :=
  ⟨⟨by decide, by decide +kernel, by decide +kernel, apiNameAgain_of_ascii "1" (by decide)⟩,
    ⟨by decide, by decide +kernel, by decide +kernel, apiNameAgain_of_ascii "a_b" (by decide)⟩⟩

/-! ### The file of an operation set -/

/-- A tag of ASCII in which a letter stands before all digits, or that has no letter or digit
at all. -/
structure LetterTag (tag : String) : Prop where
  ascii : Ascii tag.toList
  letter : (tag.toList.find? isAlphanumeric).all Char.isAlpha = true

/-- The type of the operation set of such a tag begins with a capital. -/
theorem typeName_apiName {tag : String} (h : LetterTag tag) : TypeName (apiName tag).toList := by
  by_cases hne : tag = ""
  · subst hne
    exact ⟨by decide, List.all_eq_true.mp (by decide), 'D', "efaultApi".toList, rfl, by decide⟩
  · have htype : TypeName (pascalChars (identifierChars tag.toList)) := by
      have hascii := ascii_identifierChars h.ascii
      have hletter := h.letter
      obtain ⟨t, hid⟩ := identifierChars_eq_cons_find? tag.toList
      rw [hid] at hascii ⊢
      cases hfind : tag.toList.find? isAlphanumeric with
      | none =>
          rw [hfind] at hascii
          exact typeName_pascalChars hascii (by decide) (by decide)
      | some c =>
          rw [hfind] at hascii hletter
          have hdigit := not_isDigit_of_isAlpha (hascii c List.mem_cons_self) hletter
          exact typeName_pascalChars hascii (List.find?_some hfind) hdigit
    rw [toList_apiName hne]
    split
    · exact htype
    · exact typeName_append_apiEnding htype

/-- Behind a capital the ending stands behind a letter. -/
theorem hasLetter_of_typeName {stem : List Char} (h : TypeName (stem ++ apiEnding)) :
    stem = [] ∨ hasLetter stem = true := by
  cases stem with
  | nil => exact Or.inl rfl
  | cons c t =>
      obtain ⟨d, u, hdu, hd⟩ := h.capital
      obtain ⟨rfl, -⟩ := List.cons.inj hdu
      refine Or.inr ?_
      rw [hasLetter_cons, hd]
      rfl

/-- **The file of the type is the file of the tag,** though the type is named once more. -/
theorem apiFilename_apiName {tag : String} (h : LetterTag tag) :
    apiFilename (apiName tag) = apiFilename tag := by
  have htype := typeName_apiName h
  obtain ⟨stem, hstem, -⟩ := exists_stem h.ascii
  have hagain : (apiName (apiName tag)).toList = pascalChars (apiName tag).toList := by
    refine (apiName_of_letter htype.pascalName hstem ?_).1
    rw [hstem] at htype
    exact hasLetter_of_typeName htype
  rw [apiFilename, camelCase, hagain, camelChars_pascalChars htype.pascalName, apiFilename,
    camelCase]

end Naming

end SwaggerClient
