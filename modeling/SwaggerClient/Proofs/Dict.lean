/-
Writing into dictionaries.

A dictionary keeps its keys in the order in which they first came.  Writing a key changes
what is found under that key and under no other (`Dict.find?_insert`), and it leaves the keys
as they are or puts the new one last (`Dict.keys_insert`).  Writing all entries of a
dictionary in turn gives the dictionary (`Dict.ofList_entries`).

What is found under a key is the entry of that key (`Dict.find?_eq_some_iff`), because no key
occurs twice.
-/
import SwaggerClient.Dict

namespace SwaggerClient

variable {α : Type}

/-! ### Looking up -/

/-- Where no key is repeated, a look-up finds exactly the entries. -/
theorem lookup_eq_some_iff {entries : List (String × α)} {key : String} {value : α}
    (hnodup : (entries.map Prod.fst).Nodup) :
    entries.lookup key = some value ↔ (key, value) ∈ entries := by
  induction entries with
  | nil => simp
  | cons e entries ih =>
      obtain ⟨hnew, hnodup⟩ := List.nodup_cons.mp hnodup
      rw [List.lookup_cons, List.mem_cons]
      by_cases hkey : key = e.1
      · rw [beq_iff_eq.mpr hkey]
        constructor
        · intro h
          exact Or.inl (Prod.ext hkey (Option.some.inj h).symm)
        · rintro (rfl | hmem)
          · rfl
          · exact absurd (List.mem_map_of_mem hmem) (hkey ▸ hnew)
      · rw [beq_eq_false_iff_ne.mpr hkey, ih hnodup]
        exact (or_iff_right fun h => hkey (congrArg Prod.fst h)).symm

theorem Dict.find?_eq_some_iff {d : Dict α} {key : String} {value : α} :
    d.find? key = some value ↔ (key, value) ∈ d.entries :=
  lookup_eq_some_iff d.nodup_keys

theorem Dict.find?_eq_none_iff {d : Dict α} {key : String} :
    d.find? key = none ↔ key ∉ d.keys := by
  rw [find?, List.lookup_eq_none_iff, keys, List.mem_map]
  constructor
  · intro h hkey
    obtain ⟨e, he, heq⟩ := hkey
    exact bne_iff_ne.mp (h e he) heq.symm
  · intro h e he
    exact bne_iff_ne.mpr fun heq => h ⟨e, he, heq.symm⟩

theorem Dict.contains_iff {d : Dict α} {key : String} : d.contains key = true ↔ key ∈ d.keys :=
  List.contains_iff_mem

/-! ### One entry -/

/-- **Writing a key decides what is found under it,** and nothing else. -/
theorem lookup_putEntry (entries : List (String × α)) (key name : String) (value : α) :
    (putEntry entries key value).lookup name =
      if name = key then some value else entries.lookup name := by
  induction entries with
  | nil =>
      rw [putEntry, List.lookup_cons, List.lookup_nil]
      by_cases hname : name = key
      · rw [if_pos hname, beq_iff_eq.mpr hname]
      · rw [if_neg hname, beq_eq_false_iff_ne.mpr hname]
  | cons e entries ih =>
      rw [putEntry]
      by_cases hkey : e.1 = key
      · rw [if_pos hkey, List.lookup_cons, List.lookup_cons, hkey]
        by_cases hname : name = key
        · rw [if_pos hname, beq_iff_eq.mpr hname]
        · rw [if_neg hname, beq_eq_false_iff_ne.mpr hname]
      · rw [if_neg hkey, List.lookup_cons, List.lookup_cons, ih]
        by_cases hname : name = e.1
        · have hne : name ≠ key := fun heq => hkey (hname.symm.trans heq)
          rw [if_neg hne, if_neg hne, beq_iff_eq.mpr hname]
        · rw [beq_eq_false_iff_ne.mpr hname]

theorem Dict.find?_insert (d : Dict α) (key name : String) (value : α) :
    (d.insert key value).find? name = if name = key then some value else d.find? name :=
  lookup_putEntry d.entries key name value

/-- A new key comes last. -/
theorem Dict.keys_insert (d : Dict α) (key : String) (value : α) :
    (d.insert key value).keys = d.keys ++ if key ∈ d.keys then [] else [key] := by
  have hkeys := keys_putEntry d.entries key value
  unfold keys insert
  rw [hkeys]
  split
  · rw [List.append_nil]
  · rfl

theorem putEntry_of_notMem {entries : List (String × α)} {key : String} {value : α}
    (h : key ∉ entries.map Prod.fst) : putEntry entries key value = entries ++ [(key, value)] := by
  induction entries with
  | nil => rfl
  | cons e entries ih =>
      rw [List.map_cons, List.mem_cons, not_or] at h
      rw [putEntry, if_neg (Ne.symm h.1), ih h.2]
      rfl

theorem mem_putEntry {entries : List (String × α)} {key : String} {value : α} {e : String × α}
    (h : e ∈ putEntry entries key value) : e = (key, value) ∨ e ∈ entries := by
  induction entries with
  | nil => exact Or.inl (List.mem_singleton.mp h)
  | cons first entries ih =>
      rw [putEntry] at h
      split at h
      · rcases List.mem_cons.mp h with rfl | h
        · exact Or.inl rfl
        · exact Or.inr (List.mem_cons_of_mem first h)
      · rcases List.mem_cons.mp h with rfl | h
        · exact Or.inr List.mem_cons_self
        · rcases ih h with heq | hmem
          · exact Or.inl heq
          · exact Or.inr (List.mem_cons_of_mem first hmem)

/-! ### Many entries -/

theorem Dict.mem_foldl_insert {entries : List (String × α)} {d : Dict α} {e : String × α}
    (h : e ∈ (entries.foldl (fun d e => d.insert e.1 e.2) d).entries) :
    e ∈ d.entries ∨ e ∈ entries := by
  induction entries generalizing d with
  | nil => exact Or.inl h
  | cons first entries ih =>
      rcases ih h with hput | hrest
      · rcases mem_putEntry hput with rfl | hd
        · exact Or.inr List.mem_cons_self
        · exact Or.inl hd
      · exact Or.inr (List.mem_cons_of_mem first hrest)

/-- A dictionary has no entries besides those that were written. -/
theorem Dict.mem_ofList {entries : List (String × α)} {e : String × α}
    (h : e ∈ (Dict.ofList entries).entries) : e ∈ entries := by
  rcases mem_foldl_insert h with hnil | hmem
  · cases hnil
  · exact hmem

/-- **Writing the entries of a dictionary one by one gives the dictionary,** in its order. -/
theorem Dict.ofList_entries (d : Dict α) : Dict.ofList d.entries = d := by
  have hfold : ∀ (front : Dict α) (behind : List (String × α)),
      ((front.entries ++ behind).map Prod.fst).Nodup →
      (behind.foldl (fun d e => d.insert e.1 e.2) front).entries = front.entries ++ behind := by
    intro front behind h
    induction behind generalizing front with
    | nil => exact (List.append_nil _).symm
    | cons e behind ih =>
        have hnew : e.1 ∉ front.entries.map Prod.fst := by
          intro hmem
          rw [List.map_append, List.nodup_append] at h
          exact h.2.2 e.1 hmem e.1 List.mem_cons_self rfl
        have hput : (front.insert e.1 e.2).entries = front.entries ++ [e] :=
          putEntry_of_notMem hnew
        have happend : (front.insert e.1 e.2).entries ++ behind = front.entries ++ e :: behind := by
          rw [hput, List.append_assoc, List.singleton_append]
        rw [List.foldl_cons, ih, happend]
        rw [happend]
        exact h
  exact Dict.ext (hfold Dict.empty d.entries d.nodup_keys)

end SwaggerClient
