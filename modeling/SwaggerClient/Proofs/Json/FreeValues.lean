/-
Values that a document carries without looking into them.

Taking a datum as a value sorts the names of its objects and lets the last of equal names
win, so the value may be written differently from the datum.  Taking what was written
changes nothing any more: a value is settled once it has been taken
(`Json.settled_of_ofDatum`).
-/
import SwaggerClient.Proofs.Datum.Records
import SwaggerClient.Proofs.Text.Order

namespace SwaggerClient.Json

/-! ### Sorted members -/

/-- Members as they come from sorting: names ascend, and none is repeated. -/
def Sorted (members : List (String × Json)) : Prop := (members.map Prod.fst).Pairwise (· < ·)

theorem names_putSorted (name : String) (value : Json) (members : List (String × Json)) :
    (putSorted name value members).map Prod.fst =
      Text.insertSorted name (members.map Prod.fst) := by
  induction members with
  | nil => rfl
  | cons m members ih =>
      rw [putSorted, List.map_cons, Text.insertSorted]
      split
      · rfl
      · split
        · rename_i heq
          rw [List.map_cons, heq]
        · rw [List.map_cons, ih]

theorem mem_putSorted {name : String} {value : Json} {members : List (String × Json)}
    {m : String × Json} (h : m ∈ putSorted name value members) :
    m = (name, value) ∨ m ∈ members := by
  induction members with
  | nil => exact Or.inl (List.mem_singleton.mp h)
  | cons first members ih =>
      rw [putSorted] at h
      split at h
      · exact List.mem_cons.mp h
      · split at h
        · rcases List.mem_cons.mp h with rfl | h
          · exact Or.inl rfl
          · exact Or.inr (List.mem_cons_of_mem first h)
        · rcases List.mem_cons.mp h with rfl | h
          · exact Or.inr List.mem_cons_self
          · rcases ih h with heq | hmem
            · exact Or.inl heq
            · exact Or.inr (List.mem_cons_of_mem first hmem)

/-- A name behind all others goes to the end. -/
theorem putSorted_of_lt {name : String} {value : Json} {members : List (String × Json)}
    (h : ∀ m ∈ members, m.1 < name) :
    putSorted name value members = members ++ [(name, value)] := by
  induction members with
  | nil => rfl
  | cons m members ih =>
      have hlt : m.1 < name := h m List.mem_cons_self
      rw [putSorted, if_neg (lt_asymm hlt), if_neg (ne_of_gt hlt),
        ih fun m' hm' => h m' (List.mem_cons_of_mem m hm')]
      rfl

/-- **Sorting yields sorted members,** each of them one of the given ones. -/
theorem sorted_sortMembers (members : List (String × Json)) :
    Sorted (sortMembers members) ∧ ∀ m ∈ sortMembers members, m ∈ members := by
  have hfold : ∀ sorted : List (String × Json), Sorted sorted →
      Sorted (members.foldl (fun sorted m => putSorted m.1 m.2 sorted) sorted) ∧
        ∀ m ∈ members.foldl (fun sorted m => putSorted m.1 m.2 sorted) sorted,
          m ∈ sorted ∨ m ∈ members := by
    induction members with
    | nil => exact fun sorted h => ⟨h, fun m hm => Or.inl hm⟩
    | cons first members ih =>
        intro sorted h
        have hput : Sorted (putSorted first.1 first.2 sorted) := by
          rw [Sorted, names_putSorted]
          exact Text.pairwise_insertSorted _ h
        obtain ⟨hsorted, hmem⟩ := ih _ hput
        refine ⟨hsorted, fun m hm => ?_⟩
        rcases hmem m hm with hm | hm
        · rcases mem_putSorted hm with rfl | hm
          · exact Or.inr List.mem_cons_self
          · exact Or.inl hm
        · exact Or.inr (List.mem_cons_of_mem first hm)
  obtain ⟨hsorted, hmem⟩ := hfold [] .nil
  refine ⟨hsorted, fun m hm => ?_⟩
  rcases hmem m hm with hnil | hm
  · cases hnil
  · exact hm

/-- Sorted members stay as they are. -/
theorem sortMembers_of_sorted {members : List (String × Json)} (h : Sorted members) :
    sortMembers members = members := by
  have hfold : ∀ front behind : List (String × Json), Sorted (front ++ behind) →
      behind.foldl (fun sorted m => putSorted m.1 m.2 sorted) front = front ++ behind := by
    intro front behind h
    induction behind generalizing front with
    | nil => exact (List.append_nil front).symm
    | cons m behind ih =>
        have hbefore : ∀ m' ∈ front, m'.1 < m.1 := by
          intro m' hm'
          rw [Sorted, List.map_append, List.pairwise_append] at h
          exact h.2.2 m'.1 (List.mem_map_of_mem hm') m.1 List.mem_cons_self
        rw [List.foldl_cons, putSorted_of_lt hbefore, ih, List.append_assoc]
        · rfl
        · rw [List.append_assoc]
          exact h
  exact hfold [] members h

/-! ### Values taken from data -/

theorem ofItems?_eq (items : List Datum) : ofItems? items = items.mapM ofDatum? := by
  induction items with
  | nil => rfl
  | cons d items ih => rw [ofItems?, List.mapM_cons, ih]

theorem ofEntries?_eq (entries : List (Key × Datum)) :
    ofEntries? entries = entries.mapM (Datum.keyed? ofDatum?) := by
  induction entries with
  | nil => rfl
  | cons e entries ih =>
      obtain ⟨key, d⟩ := e
      rw [List.mapM_cons]
      cases key with
      | name key =>
          rw [ofEntries?, ih, Datum.keyed?]
          cases ofDatum? d with
          | none => rfl
          | some v => rfl
      | position n => rfl
      | other => rfl

/-! ### Written values -/

mutual

/-- Every written value can be taken as a value again. -/
theorem exists_ofDatum?_toDatum : ∀ value : Json, ∃ taken, ofDatum? value.toDatum = some taken
  | null => ⟨_, rfl⟩
  | bool _ => ⟨_, rfl⟩
  | int _ => ⟨_, rfl⟩
  | float _ => ⟨_, rfl⟩
  | string _ => ⟨_, rfl⟩
  | array items => by
      obtain ⟨values, hvalues⟩ := exists_ofItems? items
      exact ⟨.array values, by rw [toDatum, ofDatum?, hvalues, Option.map_some]⟩
  | object members => by
      obtain ⟨entries, hentries⟩ := exists_ofEntries? members
      exact ⟨.object (sortMembers entries), by rw [toDatum, ofDatum?, hentries, Option.map_some]⟩

theorem exists_ofItems? : ∀ items : List Json, ∃ values, ofItems? (itemsToData items) = some values
  | [] => ⟨[], rfl⟩
  | item :: items => by
      obtain ⟨value, hvalue⟩ := exists_ofDatum?_toDatum item
      obtain ⟨values, hvalues⟩ := exists_ofItems? items
      refine ⟨value :: values, ?_⟩
      rw [itemsToData, ofItems?, hvalue, hvalues]
      rfl

theorem exists_ofEntries? :
    ∀ members : List (String × Json), ∃ entries, ofEntries? (membersToData members) = some entries
  | [] => ⟨[], rfl⟩
  | (name, value) :: members => by
      obtain ⟨taken, htaken⟩ := exists_ofDatum?_toDatum value
      obtain ⟨entries, hentries⟩ := exists_ofEntries? members
      refine ⟨(name, taken) :: entries, ?_⟩
      rw [membersToData, ofEntries?, htaken, hentries]
      rfl

end

/-! ### Settled values -/

/-- A value that is taken as it is written. -/
def Settled (value : Json) : Prop := ofDatum? value.toDatum = some value

theorem settled_array {values : List Json} (h : ∀ v ∈ values, v.Settled) :
    (array values).Settled := by
  rw [Settled, toDatum, ofDatum?, ofItems?_eq, itemsToData_eq, mapM_map_eq_some h]
  rfl

theorem settled_object {members : List (String × Json)} (hsorted : Sorted members)
    (h : ∀ m ∈ members, m.2.Settled) : (object members).Settled := by
  have hmembers : (membersToData members).mapM (Datum.keyed? ofDatum?) = some members := by
    rw [membersToData_eq]
    refine mapM_map_eq_some fun m hm => ?_
    rw [Datum.keyed?, h m hm]
    rfl
  rw [Settled, toDatum, ofDatum?, ofEntries?_eq, hmembers, Option.map_some,
    sortMembers_of_sorted hsorted]

/-- **A value that was taken is settled.** -/
theorem settled_of_ofDatum {d : Datum} {v : Json} (h : ofDatum? d = some v) : v.Settled := by
  induction d using Datum.induction generalizing v with
  | null | bool b | int k | text s =>
      rw [ofDatum?, Option.some.injEq] at h
      rw [← h]
      rfl
  | float x =>
      rw [ofDatum?, Option.some.injEq] at h
      rw [← h]
      by_cases hx : x.isFinite = true
      · rw [if_pos hx, Settled, toDatum, ofDatum?, if_pos hx]
      · rw [if_neg hx]
        rfl
  | list items ih =>
      rw [ofDatum?, Option.map_eq_some_iff] at h
      obtain ⟨values, hvalues, rfl⟩ := h
      rw [ofItems?_eq] at hvalues
      exact settled_array (Datum.forall_of_mapM hvalues fun d hd v hv => ih d hd hv)
  | table entries ih =>
      rw [ofDatum?, Option.map_eq_some_iff] at h
      obtain ⟨members, hmembers, rfl⟩ := h
      rw [ofEntries?_eq] at hmembers
      obtain ⟨hsorted, hmem⟩ := sorted_sortMembers members
      have hall := Datum.forall_of_keyed hmembers fun e he v hv => ih e he hv
      exact settled_object hsorted fun m hm => hall m (hmem m hm)
  | unreadable => cases h

end SwaggerClient.Json
