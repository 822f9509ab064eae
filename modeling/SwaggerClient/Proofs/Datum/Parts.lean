/-
What decoders make of a datum, by what is known of its parts.

A decoder hands parts of its datum to other decoders: the items of a list, the entries of a
table, the fields of a record.  `Datum.Yields` says that a decoder gives every value that it
makes of certain data a property, and the statements here carry this from the parts to the
whole.  What is known of the data is left open, except that it says something of the parts.
-/
import SwaggerClient.Swagger.Schema
import SwaggerClient.Proofs.Datum.Records
import SwaggerClient.Proofs.Json.Integers

namespace SwaggerClient

/-- A value in place, if it is one, has a property. -/
def OrRef.Inline {α : Type} (P : α → Prop) (x : OrRef α) : Prop :=
  ∀ value, x = .inline value → P value

namespace Datum

variable {α : Type} {D D' : Datum → Prop} {decode : Datum → Option α} {P : α → Prop}

/-- What a decoder makes of data of some kind has a property. -/
def Yields (D : Datum → Prop) (decode : Datum → Option α) (P : α → Prop) : Prop :=
  ∀ d x, D d → decode d = some x → P x

/-! ### Lists, dictionaries and references -/

theorem Yields.listOf? (h : Yields D' decode P)
    (hitems : ∀ items, D (.list items) → ∀ d ∈ items, D' d) :
    Yields D (Datum.listOf? decode) fun l => ∀ x ∈ l, P x := by
  intro d l hd hl
  cases d with
  | list items =>
      exact forall_of_mapM hl fun item hitem x hx => h item x (hitems items hd item hitem) hx
  | _ => cases hl

/-- The values of a dictionary are decoded from the entries of a table. -/
theorem forall_of_dictOf? {entries : List (Key × Datum)} {t : Dict α}
    (h : Datum.dictOf? decode (.table entries) = some t)
    (hstep : ∀ e ∈ entries, ∀ x, decode e.2 = some x → P x) : ∀ e ∈ t.entries, P e.2 := by
  rw [Datum.dictOf?, Option.map_eq_some_iff] at h
  obtain ⟨decoded, hmap, rfl⟩ := h
  exact fun e he => forall_of_keyed hmap hstep e (Dict.mem_ofList he)

theorem Yields.dictOf? (h : Yields D' decode P)
    (hentries : ∀ entries, D (.table entries) → ∀ e ∈ entries, D' e.2) :
    Yields D (Datum.dictOf? decode) fun t => ∀ e ∈ t.entries, P e.2 := by
  intro d t hd ht
  cases d with
  | table entries =>
      exact forall_of_dictOf? ht fun e he x hx => h e.2 x (hentries entries hd e he) hx
  | _ => cases ht

theorem Yields.orRef (h : Yields D decode P) :
    Yields D (OrRef.ofDatum? decode) (OrRef.Inline P) := by
  intro d x hd hx value hvalue
  unfold OrRef.ofDatum? at hx
  split at hx
  · rw [← Option.some.inj hx] at hvalue
    cases hvalue
  · rw [Option.map_eq_some_iff] at hx
    obtain ⟨y, hy, rfl⟩ := hx
    exact OrRef.inline.inj hvalue ▸ h d y hd hy

/-! ### Fields -/

/-- A field is the value of an entry whose key stands for it. -/
theorem mem_of_mem_knownEntries {names : List String} {entries : List (Key × Datum)}
    {fields : List (String × Datum)} (h : knownEntries? names entries = some fields)
    {f : String × Datum} (hf : f ∈ fields) :
    ∃ e ∈ entries, fieldOf? names e.1 = some (some f.1) ∧ e.2 = f.2 := by
  induction entries generalizing fields with
  | nil =>
      rw [knownEntries?, Option.some.injEq] at h
      rw [← h] at hf
      exact absurd hf List.not_mem_nil
  | cons e entries ih =>
      simp only [knownEntries?, Option.bind_eq_bind, Option.bind_eq_some_iff] at h
      obtain ⟨tail, htail, field, hfield, h⟩ := h
      have hlater : f ∈ tail →
          ∃ e' ∈ e :: entries, fieldOf? names e'.1 = some (some f.1) ∧ e'.2 = f.2 := by
        intro hf
        obtain ⟨e', he', heq⟩ := ih htail hf
        exact ⟨e', List.mem_cons_of_mem e he', heq⟩
      cases field with
      | none => exact hlater (Option.some.inj h ▸ hf)
      | some name =>
          simp only at h
          split at h
          · cases h
          · rw [← Option.some.inj h] at hf
            rcases List.mem_cons.mp hf with rfl | hf
            · exact ⟨e, List.mem_cons_self, hfield, rfl⟩
            · exact hlater hf

/-- The fields of a record are parts of its datum. -/
theorem forall_fields {d : Datum} {form : RecordForm} {fields : List (String × Datum)}
    (hitems : ∀ items, D (.list items) → ∀ d ∈ items, D' d)
    (hentries : ∀ entries, D (.table entries) → ∀ e ∈ entries, D' e.2)
    (hd : D d) (h : d.fields? form = some fields) : ∀ f ∈ fields, D' f.2 := by
  intro f hf
  cases d with
  | table entries =>
      obtain ⟨e, he, -, heq⟩ := mem_of_mem_knownEntries h hf
      exact heq ▸ hentries entries hd e he
  | list items =>
      rw [fields?] at h
      split at h
      · rw [← Option.some.inj h] at hf
        exact hitems items hd f.2 (List.of_mem_zip hf).2
      · cases h
  | _ => cases h

section Fields

variable {fields : List (String × Datum)} {name : String}

theorem Yields.required (h : Yields D decode P) (hfields : ∀ f ∈ fields, D f.2) {x : α}
    (hx : required? fields name decode = some x) : P x := by
  unfold required? at hx
  split at hx
  · cases hx
  · rename_i d hd
    exact h d x (hfields _ (mem_of_lookup hd)) hx

theorem Yields.defaulted (h : Yields D decode P) (hfields : ∀ f ∈ fields, D f.2) {absent x : α}
    (habsent : P absent) (hx : defaulted? fields name absent decode = some x) : P x := by
  unfold defaulted? at hx
  split at hx
  · exact Option.some.inj hx ▸ habsent
  · rename_i d hd
    exact h d x (hfields _ (mem_of_lookup hd)) hx

/-- What stands in a field that may be left out was read from a datum that is not null. -/
theorem Yields.optional (h : Yields (fun d => D d ∧ d ≠ .null) decode P)
    (hfields : ∀ f ∈ fields, D f.2) {o : Option α}
    (ho : optional? fields name decode = some o) : ∀ x ∈ o, P x := by
  intro x hx
  unfold optional? at ho
  split at ho
  · rw [← Option.some.inj ho] at hx
    cases hx
  · rw [← Option.some.inj ho] at hx
    cases hx
  · rename_i d hnull hd
    rw [Option.map_eq_some_iff] at ho
    obtain ⟨y, hy, rfl⟩ := ho
    exact Option.some.inj hx ▸ h d y ⟨hfields _ (mem_of_lookup hd), hnull⟩ hy

theorem Yields.mono (h : Yields D decode P) (hD : ∀ d, D' d → D d) : Yields D' decode P :=
  fun d x hd hx => h d x (hD d hd) hx

end Fields

/-! ### Data of a JSON text -/

/-- Every double in the datum is finite, every integer fits into 64 bits, and every key is a
name. -/
inductive Plain : Datum → Prop
  | null : Plain .null
  | bool (b : Bool) : Plain (.bool b)
  | int {k : Int} (h : Json.Exact k) : Plain (.int k)
  | float {x : Double} (h : x.isFinite = true) : Plain (.float x)
  | text (s : String) : Plain (.text s)
  | list {items : List Datum} (h : ∀ d ∈ items, Plain d) : Plain (.list items)
  | table {entries : List (Key × Datum)} (names : ∀ e ∈ entries, ∃ name, e.1 = .name name)
      (h : ∀ e ∈ entries, Plain e.2) : Plain (.table entries)
  | unreadable : Plain .unreadable

theorem Plain.items {items : List Datum} (h : (Datum.list items).Plain) : ∀ d ∈ items, d.Plain := by
  cases h with
  | list h => exact h

theorem Plain.entries {entries : List (Key × Datum)} (h : (Datum.table entries).Plain) :
    ∀ e ∈ entries, e.2.Plain := by
  cases h with
  | table names h => exact h

theorem Plain.names {entries : List (Key × Datum)} (h : (Datum.table entries).Plain) :
    ∀ e ∈ entries, ∃ name, e.1 = .name name := by
  cases h with
  | table names h => exact names

theorem Plain.fields {d : Datum} (h : d.Plain) {form : RecordForm}
    {fields : List (String × Datum)} (hfields : d.fields? form = some fields) :
    ∀ f ∈ fields, f.2.Plain :=
  forall_fields (fun _ => Plain.items) (fun _ => Plain.entries) h hfields

section Fields

variable {fields : List (String × Datum)} {name : String}

theorem Yields.optionalField (h : Yields Plain decode P) (hfields : ∀ f ∈ fields, f.2.Plain)
    {o : Option α} (ho : optional? fields name decode = some o) : ∀ x ∈ o, P x :=
  (h.mono fun (d : Datum) (hd : d.Plain ∧ d ≠ .null) => hd.1).optional hfields ho

theorem Yields.listField (h : Yields Plain decode P) (hfields : ∀ f ∈ fields, f.2.Plain)
    {l : List α} (hl : defaulted? fields name [] (Datum.listOf? decode) = some l) :
    ∀ x ∈ l, P x :=
  (h.listOf? fun _ => Plain.items).defaulted hfields (fun _ hx => absurd hx List.not_mem_nil) hl

theorem Yields.tableField (h : Yields Plain decode P) (hfields : ∀ f ∈ fields, f.2.Plain)
    {t : Dict α} (ht : defaulted? fields name Dict.empty (Datum.dictOf? decode) = some t) :
    ∀ e ∈ t.entries, P e.2 :=
  (h.dictOf? fun _ => Plain.entries).defaulted hfields (fun _ he => absurd he List.not_mem_nil) ht

end Fields

end Datum

end SwaggerClient
