/-
References into the shared sections of a document.

A parameter or a response either stands in place or is named by a path that leads into a
section of the document.  What an entry stands for (`OrRef.StandsFor`), whether it stands for
anything (`OrRef.LeadsInto`) and if not, why (`OrRef.fault?`), can all be said without
following the path, from the path and the names in the section alone.
-/
import SwaggerClient.Proofs.Dict
import SwaggerClient.Proofs.Outcome
import SwaggerClient.Swagger.Document

namespace SwaggerClient

/-! ### Entries -/

/-- What stands here, or the name of something shared that is there. -/
def OrRef.LeadsInto {α : Type} (shared : Dict α) (start : String) : OrRef α → Prop
  | .inline _ => True
  | .ref path => ∃ name ∈ shared.keys, name ≠ "" ∧ path = start ++ name

namespace OrRef

variable {α : Type} {shared : Dict α} {start : String}

/-- What is meant by something written in place or by a reference into a shared section. -/
inductive StandsFor (shared : Dict α) (start : String) : OrRef α → α → Prop
  | inline (value : α) : StandsFor shared start (.inline value) value
  | shared {name : String} {value : α} (hname : name ≠ "")
      (hvalue : (name, value) ∈ shared.entries) :
      StandsFor shared start (.ref (start ++ name)) value

/-- What is written in place means itself. -/
theorem standsFor_inline_iff {value value' : α} :
    (OrRef.inline value).StandsFor shared start value' ↔ value = value' := by
  constructor
  · rintro ⟨⟩
    rfl
  · rintro rfl
    exact .inline value

/-- Why a reference leads nowhere: it is not in the section, or not a path into it at all. -/
def fault? (shared : Dict α) (start : String) : OrRef α → Option ResolveError
  | .inline _ => none
  | .ref path =>
    if ∃ name ∈ shared.keys, name ≠ "" ∧ path = start ++ name then none
    else if Text.NamesBehind start path then some (.targetNotFound path)
    else some (.malformedReference path)

/-- Nothing is wrong with an entry exactly if it leads somewhere. -/
theorem fault?_eq_none_iff {entry : OrRef α} :
    entry.fault? shared start = none ↔ entry.LeadsInto shared start := by
  cases entry with
  | inline value => exact iff_of_true rfl trivial
  | ref path =>
      show (if _ then none else if _ then _ else _) = none ↔ ∃ name ∈ shared.keys, _
      split
      · rename_i hlead
        exact iff_of_true rfl hlead
      · rename_i hlead
        refine iff_of_false ?_ hlead
        split
        · exact Option.some_ne_none _
        · exact Option.some_ne_none _

end OrRef

/-! ### Following references -/

namespace Document

section Sections

variable {α : Type} {shared : Dict α} {start path : String}

theorem lookupShared_of_mem {name : String} {value : α} (hname : name ≠ "")
    (hvalue : (name, value) ∈ shared.entries) :
    lookupShared shared start (start ++ name) = .ok value := by
  rw [lookupShared, Text.stripStart?_eq_some_iff.mpr rfl]
  dsimp only
  rw [if_neg hname, Dict.find?_eq_some_iff.mpr hvalue]

theorem lookupShared_of_notMem {name : String} (hname : name ≠ "") (hkey : name ∉ shared.keys) :
    lookupShared shared start (start ++ name) = .error (.targetNotFound (start ++ name)) := by
  have hnone : shared.find? name = none := by
    rw [Option.eq_none_iff_forall_ne_some]
    exact fun value hvalue => hkey (List.mem_map_of_mem (Dict.find?_eq_some_iff.mp hvalue))
  rw [lookupShared, Text.stripStart?_eq_some_iff.mpr rfl]
  dsimp only
  rw [if_neg hname, hnone]

theorem lookupShared_of_not_namesBehind (h : ¬Text.NamesBehind start path) :
    lookupShared shared start path = .error (.malformedReference path) := by
  unfold lookupShared
  cases hstrip : Text.stripStart? start path with
  | none => rfl
  | some name => exact if_pos (Text.eq_empty_of_not_namesBehind h hstrip)

/-- **Following a reference finds what it stands for.** -/
theorem lookupShared_eq_ok_iff {value : α} :
    lookupShared shared start path = .ok value ↔ (OrRef.ref path).StandsFor shared start value := by
  constructor
  · intro h
    by_cases hpath : Text.NamesBehind start path
    · obtain ⟨name, hname, rfl⟩ := hpath
      by_cases hkey : name ∈ shared.keys
      · obtain ⟨⟨_, found⟩, hfound, rfl⟩ := List.mem_map.mp hkey
        rw [lookupShared_of_mem hname hfound] at h
        rw [← Except.ok.inj h]
        exact .shared hname hfound
      · rw [lookupShared_of_notMem hname hkey] at h
        cases h
    · rw [lookupShared_of_not_namesBehind hpath] at h
      cases h
  · generalize hentry : OrRef.ref path = entry
    rintro (_ | ⟨hname, hvalue⟩)
    · cases hentry
    · rw [OrRef.ref.inj hentry, lookupShared_of_mem hname hvalue]

/-- **And if it finds nothing, it says why.** -/
theorem fault?_lookupShared :
    fault? (lookupShared shared start path) = (OrRef.ref path).fault? shared start := by
  rw [OrRef.fault?]
  by_cases hpath : Text.NamesBehind start path
  · obtain ⟨name, hname, rfl⟩ := hpath
    by_cases hkey : name ∈ shared.keys
    · obtain ⟨⟨_, value⟩, hvalue, rfl⟩ := List.mem_map.mp hkey
      rw [lookupShared_of_mem hname hvalue, if_pos ⟨_, hkey, hname, rfl⟩, fault?]
    · have hno : ¬∃ n ∈ shared.keys, n ≠ "" ∧ start ++ name = start ++ n := by
        rintro ⟨n, hn, -, heq⟩
        exact hkey ((String.append_right_inj start).mp heq ▸ hn)
      rw [lookupShared_of_notMem hname hkey, if_neg hno, if_pos ⟨name, hname, rfl⟩, fault?]
  · have hno : ¬∃ name ∈ shared.keys, name ≠ "" ∧ path = start ++ name := by
      rintro ⟨name, -, hname, heq⟩
      exact hpath ⟨name, hname, heq⟩
    rw [lookupShared_of_not_namesBehind hpath, if_neg hno, if_neg hpath, fault?]

end Sections

variable {doc : Document}

theorem resolveParameter_eq_ok_iff {entry : OrRef Parameter} {p : Parameter} :
    doc.resolveParameter entry = .ok p ↔ entry.StandsFor doc.parameters "#/parameters/" p := by
  cases entry with
  | ref path => exact lookupShared_eq_ok_iff
  | inline q => rw [OrRef.standsFor_inline_iff, resolveParameter, Except.ok.injEq]

theorem resolveResponse_eq_ok_iff {entry : OrRef Response} {response : Response} :
    doc.resolveResponse entry = .ok response ↔
      entry.StandsFor doc.responses "#/responses/" response := by
  cases entry with
  | ref path => exact lookupShared_eq_ok_iff
  | inline r => rw [OrRef.standsFor_inline_iff, resolveResponse, Except.ok.injEq]

/-- Entries stand for what following them finds. -/
theorem mapM_resolveParameter_eq_ok_iff {entries : List (OrRef Parameter)} {ps : List Parameter} :
    entries.mapM doc.resolveParameter = .ok ps ↔
      List.Forall₂ (OrRef.StandsFor doc.parameters "#/parameters/") entries ps := by
  rw [mapM_eq_ok_iff]
  exact ⟨fun h => h.imp fun _ _ => resolveParameter_eq_ok_iff.mp,
    fun h => h.imp fun _ _ => resolveParameter_eq_ok_iff.mpr⟩

theorem fault?_resolveParameter (doc : Document) (entry : OrRef Parameter) :
    fault? (doc.resolveParameter entry) = entry.fault? doc.parameters "#/parameters/" := by
  cases entry with
  | ref path => exact fault?_lookupShared
  | inline p => rfl

theorem fault?_resolveResponse (doc : Document) (entry : OrRef Response) :
    fault? (doc.resolveResponse entry) = entry.fault? doc.responses "#/responses/" := by
  cases entry with
  | ref path => exact fault?_lookupShared
  | inline r => rfl

end Document

end SwaggerClient
