/-
How deep the value of a record is nested, by the datum that the record was read from.

A reader admits a datum if the parts that it needs are not nested too deep.  A record needs
the fields that it knows, each with its own shape (`Datum.exists_admitted`), and writes what
it makes of them one level down.  So a value is nested no deeper than the datum was, if that
holds for its fields: the statements here give it for each way to read and write a field.
-/
import SwaggerClient.Proofs.Datum.Parts
import SwaggerClient.Proofs.Json.FreeValues
import SwaggerClient.Proofs.Json.Texts

namespace SwaggerClient

variable {α : Type} {P : Json → Prop} {n m : Nat} {d : Datum}

/-! ### Values -/

namespace Json

/-- A value that is nested at most so many levels deep, with integers of 64 bits. -/
def Nested (n : Nat) (v : Json) : Prop := v.Within (fun number => ∀ k, number = int k → Exact k) n

/-- A value whose doubles are all read back from their texts. -/
def Legible (v : Json) : Prop :=
  ∃ n, v.Within (fun number => ∀ x, number = float x → Spelled number) n

theorem Within.mono {v : Json} (h : v.Within P n) (hnm : n ≤ m) : v.Within P m := by
  induction h generalizing m with
  | null => exact .null
  | bool b => exact .bool b
  | int h => exact .int h
  | float h => exact .float h
  | string s => exact .string s
  | array h ih =>
      obtain ⟨m, rfl⟩ : ∃ k, m = k + 1 := ⟨m - 1, by omega⟩
      exact .array fun x hx => ih x hx (by omega)
  | object h ih =>
      obtain ⟨m, rfl⟩ : ∃ k, m = k + 1 := ⟨m - 1, by omega⟩
      exact .object fun x hx => ih x hx (by omega)

/-- Whether a value is nested at most so many levels deep, with numbers of some kind. -/
def checks (p : Json → Bool) : Nat → Json → Bool
  | _, null | _, bool _ | _, string _ => true
  | _, int k => p (int k)
  | _, float x => p (float x)
  | 0, array _ | 0, object _ => false
  | n + 1, array items => items.all (checks p n)
  | n + 1, object members => members.all fun m => checks p n m.2

theorem within_of_checks {p : Json → Bool} (hp : ∀ number, p number = true → P number) {n : Nat}
    {v : Json} (h : checks p n v = true) : v.Within P n := by
  induction n generalizing v with
  | zero =>
      cases v with
      | null => exact .null
      | bool b => exact .bool b
      | int k => exact .int (hp _ h)
      | float x => exact .float (hp _ h)
      | string s => exact .string s
      | array items => cases h
      | object members => cases h
  | succ n ih =>
      cases v with
      | null => exact .null
      | bool b => exact .bool b
      | int k => exact .int (hp _ h)
      | float x => exact .float (hp _ h)
      | string s => exact .string s
      | array items => exact .array fun x hx => ih (List.all_eq_true.mp h x hx)
      | object members => exact .object fun m hm => ih (List.all_eq_true.mp h m hm)

/-- Whether a datum is a certain double. -/
def isDouble (x : Double) : Datum → Bool
  | .float y => x = y
  | _ => false

/-- Whether a number, if it is a double, is read back from its text. -/
def spellsDouble : Json → Bool
  | float x =>
      (number? (leafText (float x)).toList).any fun p => p.2.isEmpty && isDouble x p.1.datum
  | _ => true

theorem spelled_of_spellsDouble {x : Double} (h : spellsDouble (float x) = true) :
    Spelled (float x) := by
  rw [spellsDouble, Option.any_eq_true] at h
  obtain ⟨⟨lit, behind⟩, hlit, hdouble⟩ := h
  obtain ⟨hbehind, hdouble⟩ := Bool.and_eq_true_iff.mp hdouble
  refine ⟨lit, ?_, ?_⟩
  · have hnil : behind = [] := List.isEmpty_iff.mp hbehind
    rw [hlit, hnil]
  · dsimp only at hdouble
    generalize lit.datum = d at hdouble
    cases d with
    | float y => rw [of_decide_eq_true hdouble, toDatum]
    | _ => cases hdouble

/-- **Whether a value is legible can be computed,** up to some depth. -/
theorem legible_of_checks {n : Nat} {v : Json} (h : checks spellsDouble n v = true) : v.Legible :=
  ⟨n, within_of_checks (fun _ hnumber _ hx => by
    subst hx
    exact spelled_of_spellsDouble hnumber) h⟩

/-- The integers of a value are read back anyway, so the doubles decide. -/
theorem Nested.spelled {v : Json} (h : v.Nested n) (hv : v.Legible) : v.Within Spelled n := by
  obtain ⟨k, hv⟩ := hv
  induction h generalizing k with
  | null => exact .null
  | bool b => exact .bool b
  | int h => exact .int (spelled_int (h _ rfl))
  | float h =>
      cases hv with
      | float h => exact .float (h _ rfl)
  | string s => exact .string s
  | array h ih =>
      cases hv with
      | array hitems => exact .array fun x hx => ih x hx _ (hitems x hx)
  | object h ih =>
      cases hv with
      | object hmembers => exact .object fun x hx => ih x hx _ (hmembers x hx)

/-- The data of a value are nested no deeper than the value. -/
theorem Within.fits {v : Json} (h : v.Within P n) : v.toDatum.fits n = true := by
  induction h with
  | @null n => cases n <;> rfl
  | @bool n b => cases n <;> rfl
  | @int n k h => cases n <;> rfl
  | @float n x h => cases n <;> rfl
  | @string n s => cases n <;> rfl
  | array h ih =>
      rw [toDatum, itemsToData_eq, Datum.fits, List.all_eq_true]
      exact List.forall_mem_map.mpr ih
  | object h ih =>
      rw [toDatum, membersToData_eq, Datum.fits, List.all_eq_true]
      exact List.forall_mem_map.mpr ih

theorem within_array_iff {items : List Json} :
    (array items).Within P n ↔ ∃ m, n = m + 1 ∧ ∀ x ∈ items, x.Within P m := by
  constructor
  · rintro (_ | _ | _ | _ | _ | h | _)
    exact ⟨_, rfl, h⟩
  · rintro ⟨m, rfl, h⟩
    exact .array h

theorem within_object_iff {members : List (String × Json)} :
    (object members).Within P n ↔ ∃ m, n = m + 1 ∧ ∀ x ∈ members, x.2.Within P m := by
  constructor
  · rintro (_ | _ | _ | _ | _ | _ | h)
    exact ⟨_, rfl, h⟩
  · rintro ⟨m, rfl, h⟩
    exact .object h

end Json

namespace Datum

theorem exists_of_fits_list {items : List Datum} (h : (list items).fits n = true) :
    ∃ m, n = m + 1 ∧ ∀ d ∈ items, d.fits m = true := by
  cases n with
  | zero => cases h
  | succ m => exact ⟨m, rfl, List.all_eq_true.mp h⟩

theorem exists_of_fits_table {entries : List (Key × Datum)} (h : (table entries).fits n = true) :
    ∃ m, n = m + 1 ∧ ∀ e ∈ entries, e.2.fits m = true := by
  cases n with
  | zero => cases h
  | succ m => exact ⟨m, rfl, List.all_eq_true.mp h⟩

end Datum

/-! ### Free values -/

namespace Json

/-- A value is nested no deeper than the datum it was taken from. -/
theorem nested_of_ofDatum {v : Json} (hplain : d.Plain) (hfits : d.fits n = true)
    (h : ofDatum? d = some v) : v.Nested n := by
  induction d using Datum.induction generalizing n v with
  | null =>
      rw [ofDatum?, Option.some.injEq] at h
      exact h ▸ .null
  | bool b =>
      rw [ofDatum?, Option.some.injEq] at h
      exact h ▸ .bool b
  | int k =>
      rw [ofDatum?, Option.some.injEq] at h
      cases hplain with
      | int hk =>
          refine h ▸ .int ?_
          rintro _ ⟨⟩
          exact hk
  | float x =>
      rw [ofDatum?, Option.some.injEq] at h
      split at h
      · refine h ▸ .float ?_
        rintro _ ⟨⟩
      · exact h ▸ .null
  | text s =>
      rw [ofDatum?, Option.some.injEq] at h
      exact h ▸ .string s
  | list items ih =>
      rw [ofDatum?, Option.map_eq_some_iff] at h
      obtain ⟨values, hvalues, rfl⟩ := h
      rw [ofItems?_eq] at hvalues
      obtain ⟨m, rfl, hitems⟩ := Datum.exists_of_fits_list hfits
      exact .array (Datum.forall_of_mapM hvalues fun d hd v hv =>
        ih d hd (hplain.items d hd) (hitems d hd) hv)
  | table entries ih =>
      rw [ofDatum?, Option.map_eq_some_iff] at h
      obtain ⟨members, hmembers, rfl⟩ := h
      rw [ofEntries?_eq] at hmembers
      obtain ⟨m, rfl, hentries⟩ := Datum.exists_of_fits_table hfits
      have hall := Datum.forall_of_keyed hmembers fun e he v hv =>
        ih e he (hplain.entries e he) (hentries e he) hv
      exact .object fun x hx => hall x ((sorted_sortMembers members).2 x hx)
  | unreadable => cases h

end Json

/-! ### Shapes -/

namespace Shape

/-- What is nested no deeper than allowed anywhere is admitted in every shape. -/
theorem admits_of_fits {shape : Shape} (h : d.fits n = true) : shape.admits n d = true := by
  induction n generalizing shape d with
  | zero =>
      cases d with
      | list items => cases h
      | table entries => cases h
      | _ => rfl
  | succ n ih =>
      unfold admits
      split
      · exact h
      · exact h
      · exact List.all_eq_true.mpr fun x hx => ih (List.all_eq_true.mp h x hx)
      · exact List.all_eq_true.mpr fun e he => ih (List.all_eq_true.mp h e he)
      · refine List.all_eq_true.mpr fun e he => ?_
        split
        · rfl
        · exact ih (List.all_eq_true.mp h e he)
      · refine List.all_eq_true.mpr fun p hp => ?_
        exact ih (List.all_eq_true.mp h p.2 (List.of_mem_zip hp).2)
      · rfl

/-- Where all of a datum is needed, all of it is admitted. -/
theorem fits_of_whole {shape : Shape} (hshape : shape = value ∨ shape = buffered)
    (h : shape.admits n d = true) (hd : d ≠ .unreadable) : d.fits n = true := by
  cases n with
  | zero =>
      cases d with
      | list items => cases h
      | table entries => cases h
      | unreadable => exact absurd rfl hd
      | _ => rfl
  | succ n =>
      rcases hshape with rfl | rfl
      · exact h
      · exact h

/-- A datum that was decoded is not unreadable, so all of it is admitted. -/
theorem fits_of_decoded {shape : Shape} {decode : Datum → Option α} {x : α}
    (hshape : shape = value ∨ shape = buffered) (hnone : decode .unreadable = none)
    (hadmits : shape.admits n d = true) (h : decode d = some x) : d.fits n = true := by
  refine fits_of_whole hshape hadmits ?_
  rintro rfl
  rw [hnone] at h
  cases h

theorem admits_optional {inner : Shape} (hinner : inner.core = inner) :
    (optional inner).admits n d = inner.admits n d := by
  cases n with
  | zero =>
      cases d <;> rfl
  | succ n =>
      unfold admits
      rw [hinner]
      rfl

end Shape

namespace Datum

variable {shapes : List (String × Shape)} {fields : List (String × Datum)} {form : RecordForm}
  {name : String} {decode : Datum → Option α} {encode : α → Json}

/-! ### Records -/

/-- Fields that are plain and admitted in the shapes that a record has for them. -/
def Admitted (shapes : List (String × Shape)) (m : Nat) (fields : List (String × Datum)) : Prop :=
  ∀ name shape, (name, shape) ∈ shapes → ∀ d, fields.lookup name = some d →
    d.Plain ∧ shape.admits m d = true

/-- **The fields of a record are admitted one level down,** each in its own shape. -/
theorem exists_admitted (hform : form.names = shapes.map Prod.fst) (hnodup : form.names.Nodup)
    (hd : d.Plain) (hadmits : (Shape.record shapes).admits n d = true)
    (hfields : d.fields? form = some fields) : ∃ m, n = m + 1 ∧ Admitted shapes m fields := by
  have hplain := hd.fields hfields
  rw [hform] at hnodup
  cases d with
  | table entries =>
      cases n with
      | zero => cases hadmits
      | succ m =>
          refine ⟨m, rfl, fun name shape hshape x hx => ⟨hplain _ (mem_of_lookup hx), ?_⟩⟩
          obtain ⟨e, he, hfield, heq⟩ := mem_of_mem_knownEntries hfields (mem_of_lookup hx)
          obtain ⟨key, hkey⟩ := hd.names e he
          -- the key of the entry is the name of the field
          rw [hkey, fieldOf?, Option.some.injEq] at hfield
          split at hfield
          · rw [Option.some.inj hfield] at hkey
            have hentry := List.all_eq_true.mp hadmits e he
            rw [hkey, Shape.fieldShape?, (lookup_eq_some_iff hnodup).mpr hshape] at hentry
            rwa [heq] at hentry
          · cases hfield
  | list items =>
      cases n with
      | zero => cases hadmits
      | succ m =>
          refine ⟨m, rfl, fun name shape hshape x hx => ⟨hplain _ (mem_of_lookup hx), ?_⟩⟩
          rw [fields?] at hfields
          split at hfields
          · rw [← Option.some.inj hfields, hform, List.zip_map_left] at hx
            obtain ⟨⟨⟨name', shape'⟩, x'⟩, hzip, heq⟩ := List.mem_map.mp (mem_of_lookup hx)
            obtain ⟨rfl, rfl⟩ := Prod.mk.inj heq
            have hshape' := (lookup_eq_some_iff hnodup).mpr (List.of_mem_zip hzip).1
            rw [(lookup_eq_some_iff hnodup).mpr hshape, Option.some.injEq] at hshape'
            exact hshape' ▸ List.all_eq_true.mp hadmits _ hzip
          · cases hfields
  | _ => cases hfields

/-- A record is nested one level deeper than what its slots hold. -/
theorem Writes.within_iff {slots : List (String × Option Json)} {value : Json}
    (h : Writes form slots value) :
    value.Within P n ↔ ∃ m, n = m + 1 ∧ ∀ s ∈ slots, ∀ v ∈ s.2, v.Within P m := by
  have hslots : ∀ m, (∀ x ∈ written slots, x.2.Within P m) ↔
      ∀ s ∈ slots, ∀ v ∈ s.2, v.Within P m := by
    intro m
    simp only [written, slot, List.forall_mem_flatMap, List.forall_mem_map, Option.mem_toList,
      Option.mem_def]
  rw [h.value_eq, Json.within_object_iff]
  exact exists_congr fun m => and_congr_right fun _ => hslots m

/-! ### Lists and dictionaries in slots -/

theorem within_listSlot_iff {l : List α} : (∀ v ∈ listSlot encode l, v.Within P m) ↔
    l = [] ∨ ∃ k, m = k + 1 ∧ ∀ x ∈ l, (encode x).Within P k := by
  cases l with
  | nil => exact iff_of_true nofun (Or.inl rfl)
  | cons x l =>
      rw [or_iff_right (List.cons_ne_nil x l)]
      simp only [listSlot, List.isEmpty_cons, Bool.false_eq_true, if_false, Option.mem_some_iff,
        forall_eq', Json.within_array_iff, List.forall_mem_map]

theorem within_tableSlot_iff {entries : List (String × α)} :
    (∀ v ∈ tableSlot encode entries, v.Within P m) ↔
      entries = [] ∨ ∃ k, m = k + 1 ∧ ∀ e ∈ entries, (encode e.2).Within P k := by
  cases entries with
  | nil => exact iff_of_true nofun (Or.inl rfl)
  | cons e entries =>
      rw [or_iff_right (List.cons_ne_nil e entries)]
      simp only [tableSlot, List.isEmpty_cons, Bool.false_eq_true, if_false, Option.mem_some_iff,
        forall_eq', Json.within_object_iff, List.forall_mem_map]

theorem nested_listSlot {l : List α} (h : ∀ x ∈ l, (encode x).Nested m) :
    ∀ v ∈ listSlot encode l, v.Nested (m + 1) :=
  within_listSlot_iff.mpr (Or.inr ⟨m, rfl, h⟩)

theorem nested_tableSlot {entries : List (String × α)} (h : ∀ e ∈ entries, (encode e.2).Nested m) :
    ∀ v ∈ tableSlot encode entries, v.Nested (m + 1) :=
  within_tableSlot_iff.mpr (Or.inr ⟨m, rfl, h⟩)

/-! ### Fields -/

theorem nested_text {o : Option String} : ∀ v ∈ o.map Json.string, v.Nested m := by
  intro v hv
  obtain ⟨s, -, rfl⟩ := Option.map_eq_some_iff.mp hv
  exact .string s

theorem nested_flag {o : Option Bool} : ∀ v ∈ o.map Json.bool, v.Nested m := by
  intro v hv
  obtain ⟨b, -, rfl⟩ := Option.map_eq_some_iff.mp hv
  exact .bool b

/-- What a decoder makes of data that are admitted in a shape is written no deeper. -/
def Keeps (shape : Shape) (decode : Datum → Option α) (encode : α → Json) : Prop :=
  ∀ n, Yields (fun d => d.Plain ∧ shape.admits n d = true) decode fun x => (encode x).Nested n

/-- A decoder that needs all of a datum. -/
theorem keeps_of_fits {shape : Shape} (hshape : shape = .value ∨ shape = .buffered)
    (hnone : decode .unreadable = none)
    (h : ∀ n, Yields (fun d => d.Plain ∧ d.fits n = true) decode fun x => (encode x).Nested n) :
    Keeps shape decode encode := fun n d x hd hx =>
  h n d x ⟨hd.1, Shape.fits_of_decoded hshape hnone hd.2 hx⟩ hx

theorem keeps_free : Keeps .value Json.ofDatum? id :=
  keeps_of_fits (Or.inl rfl) rfl fun _ _ _ hd h => Json.nested_of_ofDatum hd.1 hd.2 h

theorem keeps_natural : Keeps .value natural? fun k : Nat => .int k := by
  rintro n d k ⟨hplain, -⟩ h
  cases hplain with
  | int hk =>
      rw [natural?] at h
      split at h
      · cases h
      · refine .int ?_
        rintro _ ⟨⟩
        rw [← Option.some.inj h, Int.toNat_of_nonneg (by omega)]
        exact hk
  | _ => cases h

theorem keeps_text : Keeps .text text? .string := fun _ _ s _ _ => .string s

theorem Keeps.optional {inner : Shape} (h : Keeps inner decode encode)
    (hinner : inner.core = inner) (hfields : Admitted shapes m fields)
    (hshape : (name, .optional inner) ∈ shapes) {o : Option α}
    (ho : optional? fields name decode = some o) : ∀ v ∈ o.map encode, v.Nested m := by
  intro v hv
  obtain ⟨x, hx, rfl⟩ := Option.map_eq_some_iff.mp hv
  unfold optional? at ho
  split at ho
  · rw [← Option.some.inj ho] at hx
    cases hx
  · rw [← Option.some.inj ho] at hx
    cases hx
  · rename_i d hnull hd
    obtain ⟨y, hy, rfl⟩ := Option.map_eq_some_iff.mp ho
    obtain ⟨hplain, hadmits⟩ := hfields name _ hshape d hd
    rw [Shape.admits_optional hinner] at hadmits
    exact Option.some.inj hx ▸ h m d y ⟨hplain, hadmits⟩ hy

theorem Keeps.required {shape : Shape} (h : Keeps shape decode encode)
    (hfields : Admitted shapes m fields) (hshape : (name, shape) ∈ shapes) {x : α}
    (hx : required? fields name decode = some x) : ∀ v ∈ some (encode x), v.Nested m := by
  rintro _ ⟨⟩
  unfold required? at hx
  split at hx
  · cases hx
  · rename_i d hd
    exact h m d x (hfields name _ hshape d hd) hx

/-! ### Lists and dictionaries in fields -/

/-- The items of a field are admitted one level further down. -/
theorem Admitted.exists_items {item : Shape} {items : List Datum} (h : Admitted shapes m fields)
    (hshape : (name, .list item) ∈ shapes) (hd : fields.lookup name = some (.list items)) :
    ∃ k, m = k + 1 ∧ ∀ x ∈ items, x.Plain ∧ item.admits k x = true := by
  obtain ⟨hplain, hadmits⟩ := h name _ hshape _ hd
  cases m with
  | zero => cases hadmits
  | succ k =>
      exact ⟨k, rfl, fun x hx => ⟨hplain.items x hx, List.all_eq_true.mp hadmits x hx⟩⟩

/-- The entries of a field are admitted one level further down. -/
theorem Admitted.exists_entries {item : Shape} {entries : List (Key × Datum)}
    (h : Admitted shapes m fields) (hshape : (name, .dict item) ∈ shapes)
    (hd : fields.lookup name = some (.table entries)) :
    ∃ k, m = k + 1 ∧ ∀ e ∈ entries, e.2.Plain ∧ item.admits k e.2 = true := by
  obtain ⟨hplain, hadmits⟩ := h name _ hshape _ hd
  cases m with
  | zero => cases hadmits
  | succ k =>
      exact ⟨k, rfl, fun e he => ⟨hplain.entries e he, List.all_eq_true.mp hadmits e he⟩⟩

/-- The list of a field is nested no deeper than the field. -/
theorem Keeps.list {item : Shape} (h : Keeps item decode encode)
    (hfields : Admitted shapes m fields) (hshape : (name, .list item) ∈ shapes) {l : List α}
    (hl : defaulted? fields name [] (listOf? decode) = some l) :
    ∀ v ∈ listSlot encode l, v.Nested m := by
  unfold defaulted? at hl
  split at hl
  · rw [← Option.some.inj hl]
    exact nofun
  · rename_i d hd
    cases d with
    | list items =>
        obtain ⟨k, rfl, hitems⟩ := hfields.exists_items hshape hd
        exact nested_listSlot (forall_of_mapM hl fun x hx y hy => h k x y (hitems x hx) hy)
    | _ => cases hl

/-- The dictionary of a field is nested no deeper than the field. -/
theorem Keeps.dict {item : Shape} (h : Keeps item decode encode)
    (hfields : Admitted shapes m fields) (hshape : (name, .dict item) ∈ shapes) {t : Dict α}
    (ht : defaulted? fields name Dict.empty (dictOf? decode) = some t) :
    ∀ v ∈ tableSlot encode t.entries, v.Nested m := by
  unfold defaulted? at ht
  split at ht
  · rw [← Option.some.inj ht]
    exact nofun
  · rename_i d hd
    cases d with
    | table entries =>
        obtain ⟨k, rfl, hentries⟩ := hfields.exists_entries hshape hd
        exact nested_tableSlot (forall_of_dictOf? ht fun e he y hy =>
          h k e.2 y (hentries e he) hy)
    | _ => cases ht

end Datum

end SwaggerClient
