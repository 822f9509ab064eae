/-
Records, lists and dictionaries that were written and are read again.

A record is written as a row of slots: each field in its place, with its value or left out.
Since a name stands in one slot only, looking up a field finds what its slot holds
(`Datum.Writes.exists_fields`).  With that, each way to read a field undoes the way in which
it is written: one that has to be there, one that may be left out, a list or a dictionary
that is left out when it is empty.

What a decoder does to the whole of a datum is shown by induction on its parts
(`Datum.induction`).
-/
import SwaggerClient.Datum
import SwaggerClient.Proofs.Dict
import Mathlib.Data.List.Nodup

namespace SwaggerClient

variable {α : Type}

/-! ### Data and their parts -/

namespace Datum

/-- The datum of an entry is smaller than its table. -/
theorem sizeOf_entry {entries : List (Key × Datum)} {e : Key × Datum} (h : e ∈ entries) :
    sizeOf e.2 < sizeOf (table entries) := by
  have hentry := List.sizeOf_lt_of_mem h
  obtain ⟨key, d⟩ := e
  simp only [Prod.mk.sizeOf_spec] at hentry
  simp only [table.sizeOf_spec]
  omega

/-- Data by induction on their parts. -/
theorem induction {motive : Datum → Prop} (null : motive .null) (bool : ∀ b, motive (.bool b))
    (int : ∀ k, motive (.int k)) (float : ∀ x, motive (.float x)) (text : ∀ s, motive (.text s))
    (list : ∀ items, (∀ d ∈ items, motive d) → motive (.list items))
    (table : ∀ entries, (∀ e ∈ entries, motive e.2) → motive (.table entries))
    (unreadable : motive .unreadable) (d : Datum) : motive d := by
  induction hsize : sizeOf d using Nat.strongRecOn generalizing d with
  | ind n ih =>
      cases d with
      | null => exact null
      | bool b => exact bool b
      | int k => exact int k
      | float x => exact float x
      | text s => exact text s
      | list items => exact list items fun d hd => ih _ (hsize ▸ sizeOf_item hd) d rfl
      | table entries => exact table entries fun e he => ih _ (hsize ▸ sizeOf_entry he) e.2 rfl
      | unreadable => exact unreadable

variable {decode : Datum → Option α} {P : α → Prop}

theorem forall_of_mapM {β : Type} {f : β → Option α} {l : List β} {r : List α}
    (h : l.mapM f = some r) (hstep : ∀ b ∈ l, ∀ a, f b = some a → P a) : ∀ a ∈ r, P a := by
  induction l generalizing r with
  | nil =>
      rw [List.mapM_nil] at h
      rw [← Option.some.inj h]
      exact fun _ ha => absurd ha List.not_mem_nil
  | cons b l ih =>
      rw [List.mapM_cons] at h
      simp only [Option.bind_eq_bind, Option.bind_eq_some_iff] at h
      obtain ⟨a, ha, rest, hrest, h⟩ := h
      obtain ⟨hb, hl⟩ := List.forall_mem_cons.mp hstep
      rw [← Option.some.inj h]
      exact List.forall_mem_cons.mpr ⟨hb a ha, ih hrest hl⟩

/-- What is decoded from the entries of a table. -/
theorem forall_of_keyed {entries : List (Key × Datum)} {members : List (String × α)}
    (h : entries.mapM (keyed? decode) = some members)
    (hstep : ∀ e ∈ entries, ∀ x, decode e.2 = some x → P x) : ∀ m ∈ members, P m.2 := by
  refine forall_of_mapM h fun entry hentry m hm => ?_
  obtain ⟨key, datum⟩ := entry
  cases key with
  | name key =>
      rw [keyed?, Option.map_eq_some_iff] at hm
      obtain ⟨x, hx, rfl⟩ := hm
      exact hstep _ hentry x hx
  | position n => cases hm
  | other => cases hm

end Datum

/-! ### Values as data -/

namespace Json

theorem itemsToData_eq (values : List Json) : itemsToData values = values.map toDatum := by
  induction values with
  | nil => rfl
  | cons v values ih => rw [itemsToData, ih, List.map_cons]

theorem membersToData_eq (members : List (String × Json)) :
    membersToData members = members.map fun m => (Key.name m.1, m.2.toDatum) := by
  induction members with
  | nil => rfl
  | cons m members ih => rw [membersToData, ih, List.map_cons]

/-- Only null is written as null. -/
theorem toDatum_ne_null {value : Json} (h : value ≠ null) : value.toDatum ≠ .null := by
  cases value with
  | null => exact absurd rfl h
  | bool b => exact nofun
  | int n => exact nofun
  | float x => exact nofun
  | string s => exact nofun
  | array items => exact nofun
  | object members => exact nofun

end Json

/-- A run over a list of written values gives back what was written. -/
theorem mapM_map_eq_some {β : Type} {f : β → Option α} {g : α → β} {l : List α}
    (h : ∀ x ∈ l, f (g x) = some x) : (l.map g).mapM f = some l := by
  induction l with
  | nil => rfl
  | cons x l ih =>
      obtain ⟨hx, hl⟩ := List.forall_mem_cons.mp h
      rw [List.map_cons, List.mapM_cons, hx, ih hl]
      rfl

namespace Datum

variable {decode : Datum → Option α} {encode : α → Json}

theorem listOf?_array {l : List α} (h : ∀ x ∈ l, decode (encode x).toDatum = some x) :
    (Json.array (l.map encode)).toDatum.listOf? decode = some l := by
  rw [Json.toDatum, listOf?, Json.itemsToData_eq, List.map_map]
  exact mapM_map_eq_some h

theorem dictOf?_object {d : Dict α} (h : ∀ e ∈ d.entries, decode (encode e.2).toDatum = some e.2) :
    (Json.object (d.entries.map fun e => (e.1, encode e.2))).toDatum.dictOf? decode = some d := by
  rw [Json.toDatum, dictOf?, Json.membersToData_eq, List.map_map]
  have hentries : (d.entries.map ((fun m : String × Json => (Key.name m.1, m.2.toDatum)) ∘
      fun e => (e.1, encode e.2))).mapM (keyed? decode) = some d.entries := by
    refine mapM_map_eq_some fun e he => ?_
    show (decode (encode e.2).toDatum).map _ = _
    rw [h e he]
    rfl
  rw [hentries, Option.map_some, Dict.ofList_entries]

/-! ### Slots -/

/-- The member of a slot, if it is not left out. -/
def slot (name : String) (value : Option Json) : List (String × Json) :=
  value.toList.map fun v => (name, v)

/-- The members of a row of slots. -/
def written (slots : List (String × Option Json)) : List (String × Json) :=
  slots.flatMap fun s => slot s.1 s.2

/-- A list as a slot holds it: left out when it is empty. -/
def listSlot (encode : α → Json) (l : List α) : Option Json :=
  if l.isEmpty then none else some (.array (l.map encode))

/-- Entries as a slot holds them: left out when there are none. -/
def tableSlot (encode : α → Json) (entries : List (String × α)) : Option Json :=
  if entries.isEmpty then none else some (.object (entries.map fun e => (e.1, encode e.2)))

theorem member_eq_slot (name : String) (value : Json) :
    Json.member name value = slot name (some value) := rfl

theorem optionalMember_eq_slot (name : String) (x : Option α) :
    Json.optionalMember name encode x = slot name (x.map encode) := by
  cases x with
  | none => rfl
  | some x => rfl

theorem listMember_eq_slot (name : String) (l : List α) :
    Json.listMember name encode l = slot name (listSlot encode l) := by
  cases l with
  | nil => rfl
  | cons x l => rfl

theorem tableMember_eq_slot (name : String) (entries : List (String × α)) :
    Json.tableMember name encode entries = slot name (tableSlot encode entries) := by
  cases entries with
  | nil => rfl
  | cons e entries => rfl

section Slots

variable {slots : List (String × Option Json)} {name : String} {value : Option Json}

theorem names_written (slots : List (String × Option Json)) :
    List.Sublist ((written slots).map Prod.fst) (slots.map Prod.fst) := by
  induction slots with
  | nil => exact List.Sublist.slnil
  | cons s slots ih =>
      rw [written, List.flatMap_cons, List.map_append]
      cases hs : s.2 with
      | none => exact ih.cons s.1
      | some v => exact ih.cons_cons s.1

theorem lookup_written_of_notMem (h : name ∉ slots.map Prod.fst) :
    (written slots).lookup name = none := by
  rw [List.lookup_eq_none_iff]
  intro m hm
  have hmem := (names_written slots).subset (List.mem_map_of_mem hm)
  exact bne_iff_ne.mpr fun heq => h (heq ▸ hmem)

/-- A name leads to what its slot holds. -/
theorem lookup_written (hnodup : (slots.map Prod.fst).Nodup) (h : (name, value) ∈ slots) :
    (written slots).lookup name = value := by
  induction slots with
  | nil => exact absurd h List.not_mem_nil
  | cons s slots ih =>
      obtain ⟨hnew, hnodup⟩ := List.nodup_cons.mp hnodup
      rw [written, List.flatMap_cons, List.lookup_append]
      rcases List.mem_cons.mp h with rfl | h
      · have hrest := lookup_written_of_notMem hnew
        cases value with
        | none => exact hrest
        | some v => simp [slot]
      · have hne : name ≠ s.1 := fun heq => hnew (heq ▸ List.mem_map_of_mem h)
        have hfirst : (slot s.1 s.2).lookup name = none := by
          cases hs : s.2 with
          | none => rfl
          | some v => simp [slot, hne]
        rw [hfirst, Option.none_or]
        exact ih hnodup h

end Slots

/-! ### Records -/

/-- The fields that a record finds among members: the ones whose names it knows. -/
def known (names : List String) (members : List (String × Json)) : List (String × Datum) :=
  (members.filter fun m => m.1 ∈ names).map fun m => (m.1, m.2.toDatum)

theorem known_cons_of_mem {names : List String} {m : String × Json} (h : m.1 ∈ names)
    (members : List (String × Json)) :
    known names (m :: members) = (m.1, m.2.toDatum) :: known names members := by
  rw [known, known, List.filter_cons_of_pos (by simpa using h), List.map_cons]

theorem known_cons_of_notMem {names : List String} {m : String × Json} (h : m.1 ∉ names)
    (members : List (String × Json)) : known names (m :: members) = known names members := by
  rw [known, known, List.filter_cons_of_neg (by simpa using h)]

theorem names_known (names : List String) (members : List (String × Json)) :
    (known names members).map Prod.fst = (members.map Prod.fst).filter (· ∈ names) := by
  rw [known, List.map_map, List.filter_map]
  rfl

/-- No name that the record knows is repeated; others may be. -/
def KnownOnce (names : List String) (members : List (String × Json)) : Prop :=
  ((known names members).map Prod.fst).Nodup

instance (names : List String) (members : List (String × Json)) :
    Decidable (KnownOnce names members) :=
  inferInstanceAs (Decidable (List.Nodup _))

theorem knownOnce_iff {names : List String} {members : List (String × Json)} :
    KnownOnce names members ↔ ∀ name ∈ names, (members.map Prod.fst).count name ≤ 1 := by
  rw [KnownOnce, names_known, List.nodup_iff_count_le_one]
  constructor
  · intro h name hname
    rw [← List.count_filter (p := (· ∈ names)) (by simpa using hname)]
    exact h name
  · intro h name
    by_cases hname : name ∈ names
    · rw [List.count_filter (by simpa using hname)]
      exact h name hname
    · rw [List.count_eq_zero_of_not_mem]
      · exact Nat.zero_le 1
      · simp [hname]

/-- **A record finds its fields among members, unless one of them is repeated.** -/
theorem knownEntries?_eq (names : List String) (members : List (String × Json)) :
    knownEntries? names (Json.membersToData members) =
      if KnownOnce names members then some (known names members) else none := by
  induction members with
  | nil => rfl
  | cons m members ih =>
      simp only [Json.membersToData, knownEntries?, ih, fieldOf?, Option.bind_eq_bind]
      by_cases hm : m.1 ∈ names
      · have honce : KnownOnce names (m :: members) ↔
            m.1 ∉ (known names members).map Prod.fst ∧ KnownOnce names members := by
          rw [KnownOnce, known_cons_of_mem hm, List.map_cons, List.nodup_cons, KnownOnce]
        rw [known_cons_of_mem hm]
        by_cases hrest : KnownOnce names members
        · by_cases hfresh : m.1 ∈ (known names members).map Prod.fst
          · rw [if_pos hrest, if_neg fun h => (honce.mp h).1 hfresh]
            simp only [Option.bind_some, if_pos hm, if_pos hfresh]
          · rw [if_pos hrest, if_pos (honce.mpr ⟨hfresh, hrest⟩)]
            simp only [Option.bind_some, if_pos hm, if_neg hfresh]
        · rw [if_neg hrest, if_neg fun h => hrest (honce.mp h).2, Option.bind_none]
      · have honce : KnownOnce names (m :: members) ↔ KnownOnce names members := by
          rw [KnownOnce, known_cons_of_notMem hm, KnownOnce]
        rw [known_cons_of_notMem hm]
        by_cases hrest : KnownOnce names members
        · rw [if_pos hrest, if_pos (honce.mpr hrest)]
          simp only [Option.bind_some, if_neg hm]
        · rw [if_neg hrest, if_neg fun h => hrest (honce.mp h), Option.bind_none]

theorem fields?_object (form : RecordForm) (members : List (String × Json)) :
    (Json.object members).toDatum.fields? form =
      if KnownOnce form.names members then some (known form.names members) else none := by
  rw [Json.toDatum, fields?, knownEntries?_eq]

theorem knownEntries?_members {names : List String} {members : List (String × Json)}
    (h : (members.map Prod.fst).Nodup) :
    knownEntries? names (Json.membersToData members) = some (known names members) := by
  have honce : KnownOnce names members := by
    rw [KnownOnce, names_known]
    exact h.filter _
  rw [knownEntries?_eq, if_pos honce]

theorem lookup_known {names : List String} {members : List (String × Json)} {name : String}
    (h : name ∈ names) :
    (known names members).lookup name = (members.lookup name).map Json.toDatum := by
  induction members with
  | nil => rfl
  | cons m members ih =>
      by_cases hm : m.1 ∈ names
      · rw [known_cons_of_mem hm, List.lookup_cons, List.lookup_cons, ih]
        cases name == m.1 with
        | true => rfl
        | false => rfl
      · have hne : (name == m.1) = false := beq_eq_false_iff_ne.mpr fun heq => hm (heq ▸ h)
        rw [known_cons_of_notMem hm, List.lookup_cons, hne, ih]

/-- Fields that hold what the slots hold. -/
def Carries (slots : List (String × Option Json)) (fields : List (String × Datum)) : Prop :=
  ∀ name value, (name, value) ∈ slots → fields.lookup name = value.map Json.toDatum

/-- A value that is written as a record: one slot for each field, in declared order. -/
structure Writes (form : RecordForm) (slots : List (String × Option Json)) (value : Json) :
    Prop where
  value_eq : value = .object (written slots)
  names_eq : slots.map Prod.fst = form.names
  nodup : form.names.Nodup

section Records

variable {form : RecordForm} {slots : List (String × Option Json)} {value : Json}

theorem Writes.nodup_names (h : Writes form slots value) : (slots.map Prod.fst).Nodup :=
  h.names_eq ▸ h.nodup

theorem Writes.knownEntries? (h : Writes form slots value) (names : List String) :
    ∃ entries, value.toDatum = .table entries ∧
      Datum.knownEntries? names entries = some (known names (written slots)) := by
  refine ⟨Json.membersToData (written slots), ?_, ?_⟩
  · rw [h.value_eq, Json.toDatum]
  · exact knownEntries?_members (h.nodup_names.sublist (names_written slots))

/-- **A record that was written has its fields.** -/
theorem Writes.exists_fields (h : Writes form slots value) :
    ∃ fields, value.toDatum.fields? form = some fields ∧ Carries slots fields := by
  obtain ⟨entries, hvalue, hknown⟩ := h.knownEntries? form.names
  refine ⟨known form.names (written slots), ?_, fun name v hv => ?_⟩
  · rw [hvalue, fields?, hknown]
  · have hname : name ∈ form.names := h.names_eq ▸ List.mem_map_of_mem hv
    rw [lookup_known hname, lookup_written h.nodup_names hv]

/-- Another record finds no field that was not written. -/
theorem Writes.lookup_foreign (h : Writes form slots value) (other : RecordForm) :
    ∃ fields, value.toDatum.fields? other = some fields ∧
      ∀ name ∈ other.names, name ∉ form.names → fields.lookup name = none := by
  obtain ⟨entries, hvalue, hknown⟩ := h.knownEntries? other.names
  refine ⟨known other.names (written slots), ?_, fun name hname hnew => ?_⟩
  · rw [hvalue, fields?, hknown]
  · rw [lookup_known hname, lookup_written_of_notMem (h.names_eq ▸ hnew), Option.map_none]

end Records

/-! ### Fields -/

section Fields

variable {slots : List (String × Option Json)} {fields : List (String × Datum)} {name : String}
  {decode : Datum → Option α}

theorem Carries.required {x : α} (h : Carries slots fields) (value : Json)
    (hslot : (name, some value) ∈ slots) (hdecode : decode value.toDatum = some x) :
    required? fields name decode = some x := by
  rw [required?, h name _ hslot]
  exact hdecode

theorem Carries.written {absent x : α} (h : Carries slots fields) (value : Json)
    (hslot : (name, some value) ∈ slots) (hdecode : decode value.toDatum = some x) :
    defaulted? fields name absent decode = some x := by
  rw [defaulted?, h name _ hslot]
  exact hdecode

theorem optional?_of_ne_null {d : Datum} (h : fields.lookup name = some d) (hnull : d ≠ .null) :
    optional? fields name decode = (decode d).map some := by
  rw [optional?, h]
  cases d with
  | null => exact absurd rfl hnull
  | _ => rfl

/-- A field that is left out when there is no value, for values that are not written as null. -/
theorem Carries.optional {x : Option α} (h : Carries slots fields) (encode : α → Json)
    (hslot : (name, x.map encode) ∈ slots)
    (hdecode : ∀ v ∈ x, decode (encode v).toDatum = some v ∧ encode v ≠ .null) :
    optional? fields name decode = some x := by
  have hfield := h name _ hslot
  cases x with
  | none =>
      rw [optional?, hfield]
      rfl
  | some v =>
      obtain ⟨hv, hne⟩ := hdecode v rfl
      rw [optional?_of_ne_null hfield (Json.toDatum_ne_null hne), hv]
      rfl

theorem Carries.text {x : Option String} (h : Carries slots fields)
    (hslot : (name, x.map .string) ∈ slots) : optional? fields name text? = some x :=
  h.optional .string hslot fun _ _ => ⟨rfl, nofun⟩

theorem Carries.flag {x : Option Bool} (h : Carries slots fields)
    (hslot : (name, x.map .bool) ∈ slots) : optional? fields name flag? = some x :=
  h.optional .bool hslot fun _ _ => ⟨rfl, nofun⟩

theorem Carries.list {l : List α} (h : Carries slots fields) (encode : α → Json)
    (hslot : (name, listSlot encode l) ∈ slots)
    (hdecode : ∀ x ∈ l, decode (encode x).toDatum = some x) :
    defaulted? fields name [] (listOf? decode) = some l := by
  rw [defaulted?, h name _ hslot]
  cases l with
  | nil => rfl
  | cons x l => exact listOf?_array hdecode

theorem Carries.table {d : Dict α} (h : Carries slots fields) (encode : α → Json)
    (hslot : (name, tableSlot encode d.entries) ∈ slots)
    (hdecode : ∀ e ∈ d.entries, decode (encode e.2).toDatum = some e.2) :
    defaulted? fields name Dict.empty (dictOf? decode) = some d := by
  rw [defaulted?, h name _ hslot, tableSlot]
  by_cases hempty : d.entries = []
  · rw [if_pos (List.isEmpty_iff.mpr hempty)]
    exact congrArg some (Dict.ext hempty.symm)
  · rw [if_neg fun hnil => hempty (List.isEmpty_iff.mp hnil)]
    exact dictOf?_object hdecode

end Fields

end Datum

end SwaggerClient
