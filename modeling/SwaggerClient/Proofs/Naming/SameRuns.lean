/-
Separators carry no information.

Every generated name is made from the identifier of a name, and the identifier is made from the
runs of letters and digits.  So what stands between two runs cannot be told any more, nor what
stands in front of the first or behind the last.  The identifier itself is a normal form: runs
joined by single underscores (`joined_identifierChars`), which are the names that identifying
leaves alone (`identifierChars_eq_self_iff`).

The case conversions cut a text at the same places.  So they do not see whether they are
given a name or its identifier, unless there is no run at all: such a name is converted to
nothing, and its identifier stands for it (`words_identifierChars`).
-/
import SwaggerClient.Proofs.Naming.Types

namespace SwaggerClient

namespace Naming

open Text

/-! ### Joined runs -/

/-- Runs of letters and digits, at least one of them, joined by single underscores. -/
def Joined (s : List Char) : Prop :=
  ∃ rs, rs ≠ [] ∧ (∀ r ∈ rs, IsRun isAlphanumeric r) ∧ s = ['_'].intercalate rs

/-- The underscore is a separator. -/
theorem isAlphanumeric_underscore : isAlphanumeric '_' = false := by decide

/-- What stands for a name without a letter or digit is a run. -/
theorem isRun_unnamed : IsRun isAlphanumeric unnamed :=
  ⟨by decide, List.all_eq_true.mp (by decide)⟩

/-- **An identifier consists of joined runs.** -/
theorem joined_identifierChars (s : List Char) : Joined (identifierChars s) := by
  unfold identifierChars
  split
  · exact ⟨[unnamed], List.cons_ne_nil _ _, List.forall_mem_singleton.mpr isRun_unnamed,
      (List.intercalate_singleton).symm⟩
  · rename_i rs hne
    exact ⟨alphanumericRuns s, hne, fun r hr => isRun_of_mem hr, rfl⟩

/-- The runs of joined runs are these runs. -/
theorem Joined.eq_intercalate {s : List Char} (h : Joined s) :
    alphanumericRuns s ≠ [] ∧ s = ['_'].intercalate (alphanumericRuns s) := by
  obtain ⟨rs, hne, hrs, rfl⟩ := h
  rw [alphanumericRuns, runs_intercalate isAlphanumeric_underscore hrs]
  exact ⟨hne, rfl⟩

theorem identifierChars_of_runs {s : List Char} (h : alphanumericRuns s ≠ []) :
    identifierChars s = ['_'].intercalate (alphanumericRuns s) := by
  unfold identifierChars
  split
  · rename_i hnil
    exact absurd hnil h
  · rfl

/-- **Identifying leaves joined runs alone, and nothing else.** -/
theorem identifierChars_eq_self_iff {s : List Char} : identifierChars s = s ↔ Joined s := by
  constructor
  · intro h
    rw [← h]
    exact joined_identifierChars s
  · intro h
    obtain ⟨hne, hs⟩ := h.eq_intercalate
    rw [identifierChars_of_runs hne, ← hs]

/-- Joined runs begin and end with a letter or digit. -/
theorem Joined.ends {s : List Char} (h : Joined s) :
    (∃ c ∈ s.head?, isAlphanumeric c = true) ∧ ∃ c ∈ s.getLast?, isAlphanumeric c = true := by
  obtain ⟨rs, hne, hrs, rfl⟩ := h
  induction rs with
  | nil => exact absurd rfl hne
  | cons r rest ih =>
      obtain ⟨hr, hrest⟩ := List.forall_mem_cons.mp hrs
      obtain ⟨c, t, rfl⟩ := List.exists_cons_of_ne_nil hr.nonempty
      have hc : isAlphanumeric c = true := hr.all c List.mem_cons_self
      cases rest with
      | nil =>
          rw [List.intercalate_singleton]
          exact ⟨⟨c, rfl, hc⟩, _, List.getLast?_eq_some_getLast hr.nonempty,
            hr.all _ (List.getLast_mem hr.nonempty)⟩
      | cons r' rest =>
          obtain ⟨-, d, hd, hletter⟩ := ih (List.cons_ne_nil r' rest) hrest
          rw [List.intercalate_cons_cons]
          refine ⟨⟨c, rfl, hc⟩, d, ?_, hletter⟩
          rw [List.getLast?_append, hd]
          rfl

/-! ### The words of an identifier -/

/-- **A name with a letter or digit has the runs of its identifier.** -/
theorem alphanumericRuns_identifierChars {s : List Char} (h : ∃ c ∈ s, isAlphanumeric c = true) :
    alphanumericRuns (identifierChars s) = alphanumericRuns s := by
  rw [identifierChars_of_runs (runs_ne_nil_iff.mpr h)]
  exact runs_intercalate isAlphanumeric_underscore fun r hr => isRun_of_mem hr

/-- So a case conversion finds the same words in both. -/
theorem words_identifierChars {s : List Char} (h : ∃ c ∈ s, isAlphanumeric c = true) :
    words (identifierChars s) = words s := by
  rw [words, alphanumericRuns_identifierChars h, words]

/-- **A case conversion cuts a text at every character that is no letter or digit,** since an
empty piece has no words. -/
theorem words_eq_flatMap_splitOnP (s : List Char) :
    words s = (s.splitOnP fun c => !isAlphanumeric c).flatMap (wordsFrom .none) := by
  have hdropped : ∀ pieces : List (List Char),
      (pieces.filter (· ≠ [])).flatMap (wordsFrom .none) = pieces.flatMap (wordsFrom .none) := by
    intro pieces
    induction pieces with
    | nil => rfl
    | cons piece pieces ih =>
        cases piece with
        | nil => exact ih
        | cons c t =>
            rw [List.filter_cons_of_pos (by simp), List.flatMap_cons, ih, List.flatMap_cons]
  rw [words, alphanumericRuns, runs_eq_maximalRuns, maximalRuns, hdropped]

/-! ### Names -/

/-- What a name is reduced to. -/
structure ReducedToRuns (name : String) : Prop where
  identifier_ne_empty : identifier name ≠ ""
  /-- Runs of letters and digits, joined by single underscores, -/
  joined : Joined (identifier name).toList
  /-- with none of them in front, -/
  head : ∃ c ∈ (identifier name).toList.head?, isAlphanumeric c = true
  /-- and none behind. -/
  last : ∃ c ∈ (identifier name).toList.getLast?, isAlphanumeric c = true
  /-- It cannot be reduced further. -/
  identifier_identifier : identifier (identifier name) = identifier name
  /-- The words of a name stand between its separators, -/
  words_eq : words name.toList =
    (name.toList.splitOnP fun c => !isAlphanumeric c).flatMap (wordsFrom .none)
  /-- so no case conversion sees the difference, if there is a letter or digit at all. -/
  pascalCase_eq : (∃ c ∈ name.toList, isAlphanumeric c = true) →
    pascalCase (identifier name) = pascalCase name
  camelCase_eq : (∃ c ∈ name.toList, isAlphanumeric c = true) →
    camelCase (identifier name) = camelCase name

theorem reducedToRuns (name : String) : ReducedToRuns name := by
  have hjoined : Joined (identifier name).toList := by
    rw [toList_identifier]
    exact joined_identifierChars name.toList
  obtain ⟨hhead, hlast⟩ := hjoined.ends
  have hwords : (∃ c ∈ name.toList, isAlphanumeric c = true) →
      words (identifier name).toList = words name.toList := by
    intro h
    rw [toList_identifier, words_identifierChars h]
  refine ⟨?_, hjoined, hhead, hlast, ?_, words_eq_flatMap_splitOnP name.toList, ?_, ?_⟩
  · rintro hempty
    obtain ⟨c, hc, -⟩ := hhead
    rw [hempty] at hc
    cases hc
  · rw [← String.toList_inj, toList_identifier]
    exact identifierChars_eq_self_iff.mpr hjoined
  · intro h
    rw [pascalCase, pascalChars, hwords h, pascalCase, pascalChars]
  · intro h
    rw [camelCase, camelChars, hwords h, camelCase, camelChars]

/-- What two names have in common that differ in separators only. -/
structure SameNames (naming : Naming) (name other : String) : Prop where
  variableName_eq : naming.variableName name = naming.variableName other
  modelName_eq : naming.modelName name = naming.modelName other
  modelImport_eq : naming.modelImport name = naming.modelImport other
  apiName_eq : apiName name = apiName other
  apiImport_eq : naming.apiImport name = naming.apiImport other

theorem sameNames_of_identifier {naming : Naming} {name other : String}
    (hname : name ≠ "") (hother : other ≠ "") (h : identifier name = identifier other) :
    SameNames naming name other := by
  have hmodel : naming.modelName name = naming.modelName other := by
    rw [modelName, needsRenaming, h, modelName, needsRenaming]
  have hapi : apiName name = apiName other := by
    rw [apiName, if_neg hname, h, apiName, if_neg hother]
  refine ⟨?_, hmodel, ?_, hapi, ?_⟩
  · rw [variableName, h, variableName]
  · rw [modelImport, modelFilename, hmodel, modelImport, modelFilename]
  · rw [apiImport, apiFilename, hapi, apiImport, apiFilename]

/-- **Separators carry no information.**  Every name is reduced to its runs of letters and digits,
and names with the same runs get the same variable, model, operation set and imports.  Only the
empty name is told from the others, because it stands for the operations without a tag. -/
theorem separators_ignored :
    (∀ name, ReducedToRuns name) ∧
      ∀ (naming : Naming) (name other : String), name ≠ "" → other ≠ "" →
        maximalRuns isAlphanumeric name.toList = maximalRuns isAlphanumeric other.toList →
        SameNames naming name other := by
  refine ⟨reducedToRuns, ?_⟩
  intro naming name other hname hother hruns
  have hid : identifier name = identifier other := by
    rw [← runs_eq_maximalRuns, ← runs_eq_maximalRuns] at hruns
    rw [identifier, identifierChars, alphanumericRuns, hruns, identifier, identifierChars,
      alphanumericRuns]
  exact sameNames_of_identifier hname hother hid

/-- Two ways to write one tag, and the two names without a letter or digit. -/
theorem separators_ignored_orderItem :
    identifier "  order//item " = "order_item" ∧
      SameNames Config.standard.naming "  order//item " "order-item" ∧
      apiName "  order//item " = "OrderItemApi" ∧
      SameNames Config.standard.naming "--" "…" ∧ apiName "--" = "UnnamedApi" ∧
      apiName "" = "DefaultApi" := by
  obtain ⟨-, hsame⟩ := separators_ignored
  have hitem := hsame Config.standard.naming "  order//item " "order-item" (by decide) (by decide)
    (by decide +kernel)
  have hnone := hsame Config.standard.naming "--" "…" (by decide) (by decide) (by decide +kernel)
  exact ⟨by decide +kernel, hitem, by decide +kernel, hnone, by decide +kernel, by decide +kernel⟩

end Naming

end SwaggerClient
