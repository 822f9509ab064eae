/-
Which generated names are reserved words.

Reserved words are compared ignoring case, and a case conversion drops separators and changes
case only.  So the conversions of a name are reserved exactly if the name without its
separators is (`isReserved_of_spelling`), and what matters is when that is asked.  A variable is
converted first and asked afterwards; it is marked where it has to be, and the mark makes it a
word that cannot be reserved.  A model is asked while its separators still stand.  They hide a
reserved word that they fall into: `form_params` is not `formParams`, but its type `FormParams`
is.

So a variable is never reserved, and a model is exactly if it kept its name and without its
separators the name is reserved (`reservedNames_of_ascii`).  A name without a separator between
its letters and digits hides nothing, and its model is not reserved either.
-/
import SwaggerClient.Proofs.Naming.Types
import SwaggerClient.Proofs.Text.Spelling

namespace SwaggerClient

namespace Naming

open Text

/-! ### Without separators -/

/-- The letters and digits of the identifier of a name. -/
def unseparated (name : String) : String :=
  String.ofList ((identifierChars name.toList).filter isAlphanumeric)

theorem map_toLower_unseparated (name : String) :
    (unseparated name).toList.map Char.toLower = spelling (identifierChars name.toList) := by
  rw [unseparated, String.toList_ofList, spelling]

theorem map_toLower_camelCase {name : String} (h : Ascii name.toList) :
    (camelCase (identifier name)).toList.map Char.toLower
      = spelling (identifierChars name.toList) := by
  rw [camelCase, toList_identifier, String.toList_ofList,
    map_toLower_camelChars (ascii_identifierChars h)]

theorem map_toLower_pascalCase {name : String} (h : Ascii name.toList) :
    (pascalCase (identifier name)).toList.map Char.toLower
      = spelling (identifierChars name.toList) := by
  rw [pascalCase, toList_identifier, String.toList_ofList,
    map_toLower_pascalChars (ascii_identifierChars h)]

/-- A name with no separator between its letters and digits is its identifier. -/
theorem unseparated_eq_identifier {name : String}
    (h : (alphanumericRuns name.toList).length ≤ 1) : unseparated name = identifier name := by
  have hletters : ∀ c ∈ identifierChars name.toList, isAlphanumeric c = true := by
    unfold identifierChars
    split
    · exact List.all_eq_true.mp (by decide)
    · rename_i runs hne
      obtain ⟨r, rest, hruns⟩ := List.exists_cons_of_ne_nil hne
      rw [hruns, List.length_cons] at h
      have hrest : rest = [] := List.length_eq_zero_iff.mp (by omega)
      have hr : r ∈ alphanumericRuns name.toList := by
        rw [hruns]
        exact List.mem_cons_self
      rw [hruns, hrest, List.intercalate_singleton]
      exact fun c hc => (mem_runs hr c hc).1
  rw [unseparated, List.filter_eq_self.mpr hletters, identifier]

/-! ### What is asked of a word -/

variable (naming : Naming)

theorem isReserved_iff {s : String} : naming.isReserved s = true ↔
    ∃ w ∈ naming.reservedWords, w.toList.map Char.toLower = s.toList.map Char.toLower := by
  rw [isReserved, List.any_eq_true]
  exact exists_congr fun w => and_congr_right' beq_iff_eq

/-- Names that differ in case only are reserved together. -/
theorem isReserved_congr {s t : String}
    (h : s.toList.map Char.toLower = t.toList.map Char.toLower) :
    naming.isReserved s = naming.isReserved t := by
  rw [Bool.eq_iff_iff, isReserved_iff, isReserved_iff, h]

variable {name : String}

/-- **What is spelled like a name is reserved exactly if the name is without separators.** -/
theorem isReserved_of_spelling {s : String}
    (hs : s.toList.map Char.toLower = spelling (identifierChars name.toList)) :
    naming.isReserved s = naming.isReserved (unseparated name) :=
  naming.isReserved_congr (hs.trans (map_toLower_unseparated name).symm)

/-! ### Marked names -/

/-- No reserved word begins with the mark of a variable or, in whatever case, with the mark of
a model. -/
structure SparesMarks : Prop where
  underscore : ∀ w ∈ naming.reservedWords, w.toList.head? ≠ some '_'
  model : ∀ w ∈ naming.reservedWords, ¬"model".toList <+: w.toList.map Char.toLower

variable {naming}

theorem SparesMarks.isReserved_underscore (h : SparesMarks naming) (s : String) :
    naming.isReserved ("_" ++ s) = false := by
  rw [← Bool.not_eq_true, isReserved_iff]
  rintro ⟨w, hw, hsame⟩
  rw [String.toList_append, List.map_append] at hsame
  obtain ⟨c, t, hct, hc, -⟩ := List.map_eq_cons_iff.mp hsame
  refine h.underscore w hw ?_
  rw [hct, eq_underscore_of_toLower hc, List.head?_cons]

theorem SparesMarks.isReserved_renamed (h : SparesMarks naming) (hname : Ascii name.toList) :
    naming.isReserved (pascalCase ("model_" ++ identifier name)) = false := by
  have hmark : Ascii "model_".toList := by decide
  have hascii : Ascii ("model_".toList ++ identifierChars name.toList) :=
    List.forall_mem_append.mpr ⟨hmark, ascii_identifierChars hname⟩
  rw [← Bool.not_eq_true, isReserved_iff]
  rintro ⟨w, hw, hsame⟩
  have hchars : (pascalCase ("model_" ++ identifier name)).toList
      = pascalChars ("model_".toList ++ identifierChars name.toList) := by
    simp only [pascalCase, identifier, String.toList_append, String.toList_ofList]
  refine h.model w hw ?_
  rw [hsame, hchars, map_toLower_pascalChars hascii, spelling_append]
  exact List.prefix_append _ _

/-! ### Generated names -/

/-- Which names that are generated from a name are reserved. -/
structure ReservedNames (naming : Naming) (name : String) : Prop where
  /-- The variable is not. -/
  variable_free : naming.isReserved (naming.variableName name) = false
  /-- The model is exactly if it was not renamed and without separators its name is reserved. -/
  model_iff : naming.isReserved (naming.modelName name) = true ↔
    naming.needsRenaming name = false ∧ naming.isReserved (unseparated name) = true
  /-- So there has to be a separator between the letters and digits of the name. -/
  model_free : (alphanumericRuns name.toList).length ≤ 1 →
    naming.isReserved (naming.modelName name) = false

theorem isReserved_variableName (hmarks : SparesMarks naming) (name : String) :
    naming.isReserved (naming.variableName name) = false := by
  unfold variableName escape
  cases hres : naming.isReserved (camelCase (identifier name)) with
  | true =>
      rw [if_pos rfl]
      exact hmarks.isReserved_underscore _
  | false =>
      rw [if_neg Bool.false_ne_true]
      exact hres

theorem isReserved_modelName_iff (hmarks : SparesMarks naming) (h : Ascii name.toList) :
    naming.isReserved (naming.modelName name) = true ↔
      naming.needsRenaming name = false ∧ naming.isReserved (unseparated name) = true := by
  unfold modelName
  cases naming.needsRenaming name with
  | true =>
      rw [if_pos rfl, hmarks.isReserved_renamed h]
      simp
  | false =>
      rw [if_neg Bool.false_ne_true, naming.isReserved_of_spelling (map_toLower_pascalCase h)]
      exact (and_iff_right rfl).symm

/-- **Generated names are not reserved,** except for the types of models whose names hide a
reserved word behind separators. -/
theorem reservedNames_of_ascii (naming : Naming) (name : String) (hmarks : SparesMarks naming)
    (h : Ascii name.toList) : ReservedNames naming name := by
  have hiff := isReserved_modelName_iff hmarks h
  refine ⟨isReserved_variableName hmarks name, hiff, fun hruns => ?_⟩
  rw [← Bool.not_eq_true, hiff, unseparated_eq_identifier hruns]
  rintro ⟨hkept, hres⟩
  rw [needsRenaming, hres] at hkept
  exact Bool.noConfusion hkept

/-- By default `form_params` hides the reserved word `formParams`. -/
theorem reservedNames_formParams :
    SparesMarks Config.standard.naming ∧ Config.standard.naming.isReserved "unnamed" = false ∧
      Ascii "form_params".toList ∧
      Config.standard.naming.modelName "form_params" = "FormParams" ∧
      Config.standard.naming.isReserved "FormParams" = true ∧
      ReservedNames Config.standard.naming "form_params" := by
  have hmarks : SparesMarks Config.standard.naming := ⟨by decide +kernel, by decide +kernel⟩
  have hascii : Ascii "form_params".toList := by decide
  exact ⟨hmarks, by decide +kernel, hascii, by decide +kernel, by decide +kernel,
    reservedNames_of_ascii Config.standard.naming "form_params" hmarks hascii⟩

end Naming

end SwaggerClient
