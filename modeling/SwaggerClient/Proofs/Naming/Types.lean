/-
What a model is called, and what becomes of the name when it is used again.

The type of a model with an ASCII name is a type name in the strict sense, whatever the
name looked like and whether or not it had to be renamed (`typeName_modelName`).  That
is what lets the laws of the case conversions apply.

A reference carries the type of its target, and the import that it causes is computed
from that type as if it were a name.  So the target is named twice, while its file is
named from the definition once.  The two agree (`modelImport_modelName`), unless the type
is itself a reserved word, in which case the second naming renames it.  Read backwards,
the import path of a model gives the `PascalCase` of its type
(`classnameOf_modelImport`), which need not be the type.
-/
import SwaggerClient.Proofs.Text.Capitals
import SwaggerClient.Proofs.Text.Letters
import SwaggerClient.Client.Imports

namespace SwaggerClient

namespace Naming

open Text

/-! ### Identifiers -/

theorem toList_identifier (name : String) :
    (identifier name).toList = identifierChars name.toList := by
  rw [identifier, String.toList_ofList]

/-- Letters and digits without a separator are their own identifier. -/
theorem identifierChars_of_all {s : List Char} (hne : s ≠ [])
    (h : ∀ c ∈ s, isAlphanumeric c = true) : identifierChars s = s := by
  have hrun : IsRun isAlphanumeric s := ⟨hne, h⟩
  rw [identifierChars, alphanumericRuns, hrun.runs_eq]
  exact List.append_nil s

/-- An identifier begins with the first letter or digit of the name, if there is one. -/
theorem identifierChars_eq_cons_find? (s : List Char) :
    ∃ t, identifierChars s = (s.find? isAlphanumeric).getD 'u' :: t := by
  rw [← head?_runs isAlphanumeric s]
  unfold identifierChars alphanumericRuns
  cases hruns : runs isAlphanumeric s with
  | nil => exact ⟨"nnamed".toList, rfl⟩
  | cons r more =>
      cases r with
      | nil => exact absurd rfl (isRun_of_mem (hruns ▸ List.mem_cons_self)).nonempty
      | cons c r =>
          cases more with
          | nil => exact ⟨r, List.append_nil _⟩
          | cons r' more => exact ⟨_, rfl⟩

/-- In any case it begins with a letter or digit. -/
theorem identifierChars_eq_cons (s : List Char) :
    ∃ c t, identifierChars s = c :: t ∧ isAlphanumeric c = true := by
  obtain ⟨t, ht⟩ := identifierChars_eq_cons_find? s
  refine ⟨_, t, ht, ?_⟩
  cases hfind : s.find? isAlphanumeric with
  | none => decide
  | some c => exact List.find?_some hfind

theorem ascii_identifierChars {s : List Char} (h : Ascii s) : Ascii (identifierChars s) := by
  unfold identifierChars
  split
  · decide
  · intro c hc
    rcases mem_intercalate hc with rfl | ⟨r, hr, hc⟩
    · decide
    · exact h c (mem_runs hr c hc).2

/-! ### The type of a model -/

variable (naming : Naming)

/-- **The type of a model with an ASCII name is a type name.** -/
theorem typeName_modelName {name : String} (h : Ascii name.toList) :
    TypeName (naming.modelName name).toList := by
  obtain ⟨c, t, hid, hc⟩ := identifierChars_eq_cons name.toList
  have hascii : Ascii (c :: t) := hid ▸ ascii_identifierChars h
  have htoList : (identifier name).toList = c :: t := by
    rw [toList_identifier, hid]
  unfold modelName
  by_cases hrename : naming.needsRenaming name = true
  · rw [if_pos hrename, pascalCase, String.toList_ofList, String.toList_append, htoList]
    refine typeName_pascalChars (c := 'm') (s := "odel_".toList ++ c :: t) ?_ (by decide)
      (by decide)
    have hfront : Ascii "model_".toList := by decide
    exact fun d hd => (List.mem_append.mp hd).elim (hfront d) (hascii d)
  · rw [if_neg hrename, pascalCase, String.toList_ofList, htoList]
    have hdigit : c.isDigit = false := by
      have hstart : startsWithDigit (identifier name) = false := by
        simp only [needsRenaming, Bool.or_eq_true, not_or] at hrename
        simpa using hrename.2
      rw [startsWithDigit, htoList] at hstart
      exact hstart
    exact typeName_pascalChars hascii hc hdigit

/-- A type name that is not reserved is only put in `PascalCase`. -/
theorem modelName_of_typeName {name : String} (h : TypeName name.toList)
    (hres : naming.isReserved name = false) : naming.modelName name = pascalCase name := by
  have hid : identifier name = name := by
    rw [identifier, identifierChars_of_all h.pascalName.ne_nil h.alphanumeric, String.ofList_toList]
  have hdigit : startsWithDigit name = false := by
    obtain ⟨c, t, hct, hc⟩ := h.capital
    have hca : isAscii c = true := h.ascii c (by rw [hct]; exact List.mem_cons_self)
    rw [startsWithDigit, hct]
    exact (caseLaws hca).not_isDigit_of_isUppercase hc
  unfold modelName needsRenaming
  rw [hid, hres, hdigit]
  rfl

/-- **The import of a model, computed from its type, names the file of its definition.** -/
theorem modelImport_modelName {name : String} (h : Ascii name.toList)
    (hres : naming.isReserved (naming.modelName name) = false) :
    naming.modelImport (naming.modelName name)
      = naming.modelPackage ++ "/" ++ naming.modelFilename name := by
  have htype := naming.typeName_modelName h
  have hfile : camelCase (pascalCase (naming.modelName name))
      = camelCase (naming.modelName name) := by
    rw [camelCase, pascalCase, String.toList_ofList, camelChars_pascalChars htype.pascalName,
      camelCase]
  rw [modelImport, modelFilename, modelFilename, naming.modelName_of_typeName htype hres, hfile]

/-! ### From an import path back to a type -/

/-- What stands behind the package is read as the file of a model. -/
theorem classnameOf_append {package file : String} (h : file ≠ "") :
    ImportEntry.classnameOf package (package ++ "/" ++ file) = .ok (pascalCase file) := by
  unfold ImportEntry.classnameOf
  rw [stripStart?_eq_some_iff.mpr rfl]
  exact if_neg h

/-- The type of a model is put together from a name that begins with a letter or digit. -/
theorem exists_modelName (name : String) :
    ∃ c s, isAlphanumeric c = true ∧ (naming.modelName name).toList = pascalChars (c :: s) := by
  obtain ⟨c, s, hid, hc⟩ := identifierChars_eq_cons name.toList
  have htoList : (identifier name).toList = c :: s := by
    rw [toList_identifier, hid]
  unfold modelName
  by_cases hrename : naming.needsRenaming name = true
  · refine ⟨'m', "odel_".toList ++ c :: s, by decide, ?_⟩
    rw [if_pos hrename, pascalCase, String.toList_ofList, String.toList_append, htoList]
    rfl
  · refine ⟨c, s, hc, ?_⟩
    rw [if_neg hrename, pascalCase, String.toList_ofList, htoList]

/-- **Every model has a file name,** also one whose name has no letter or digit. -/
theorem modelFilename_ne_empty (name : String) : naming.modelFilename name ≠ "" := by
  obtain ⟨c, s, hc, hname⟩ := naming.exists_modelName name
  rw [modelFilename, camelCase, hname, Ne, ← String.toList_inj, String.toList_ofList]
  exact camelChars_pascalChars_ne_nil hc s

theorem pascalCase_modelFilename {name : String} (h : Ascii name.toList) :
    pascalCase (naming.modelFilename name) = pascalCase (naming.modelName name) := by
  rw [pascalCase, modelFilename, camelCase, String.toList_ofList,
    pascalChars_camelChars (naming.typeName_modelName h), pascalCase]

/-- **The import path of a model gives the `PascalCase` of its type.** -/
theorem classnameOf_modelImport {name : String} (h : Ascii name.toList) :
    ImportEntry.classnameOf naming.modelPackage (naming.modelImport name)
      = .ok (pascalCase (naming.modelName name)) := by
  rw [modelImport, classnameOf_append (naming.modelFilename_ne_empty name),
    naming.pascalCase_modelFilename h]

/-- `PascalCase` gives the type again exactly if its capitals stand apart. -/
theorem pascalCase_modelName_iff {name : String} (h : Ascii name.toList) :
    pascalCase (naming.modelName name) = naming.modelName name
      ↔ capitalsApart .none (naming.modelName name).toList = true := by
  rw [← pascalChars_eq_self_iff (naming.typeName_modelName h), pascalCase,
    ← String.toList_inj, String.toList_ofList]

end Naming

end SwaggerClient
