/-
Ordered dictionaries: entries in the order in which their keys first appeared.

That no key occurs twice is part of the type, so every consumer may rely on it.  Writing an
existing key replaces its value and keeps its place.
-/
namespace SwaggerClient

/-- Replaces the value of `key` where it stands, or appends the entry. -/
def putEntry (entries : List (String × α)) (key : String) (value : α) : List (String × α) :=
  match entries with
  | [] => [(key, value)]
  | e :: rest => if e.1 = key then (key, value) :: rest else e :: putEntry rest key value

/-- The keys after a write: the new key comes last if it was not there. -/
theorem keys_putEntry (entries : List (String × α)) (key : String) (value : α) :
    (putEntry entries key value).map Prod.fst =
      if key ∈ entries.map Prod.fst then entries.map Prod.fst
      else entries.map Prod.fst ++ [key] := by
  induction entries with
  | nil => simp [putEntry]
  | cons e rest ih =>
    by_cases h : e.1 = key
    · simp [putEntry, h]
    · have h' : ¬key = e.1 := fun eq => h eq.symm
      by_cases hm : key ∈ rest.map Prod.fst
      · rw [if_pos hm] at ih
        rw [putEntry, if_neg h, List.map_cons, ih, List.map_cons, if_pos (by simp [hm])]
      · rw [if_neg hm] at ih
        rw [putEntry, if_neg h, List.map_cons, ih, List.map_cons,
          if_neg (by simp only [List.mem_cons, not_or]; exact ⟨h', hm⟩), List.cons_append]

/-- A list of entries without a repeated key. -/
@[ext]
structure Dict (α : Type) where
  entries : List (String × α)
  nodup_keys : (entries.map Prod.fst).Nodup

namespace Dict

/-- The dictionary without entries. -/
def empty : Dict α := ⟨[], List.nodup_nil⟩

instance : Inhabited (Dict α) := ⟨empty⟩

/-- The keys in order. -/
def keys (d : Dict α) : List String := d.entries.map Prod.fst

/-- The values in order. -/
def values (d : Dict α) : List α := d.entries.map Prod.snd

/-- The number of entries. -/
def size (d : Dict α) : Nat := d.entries.length

/-- Whether the key has an entry. -/
def contains (d : Dict α) (key : String) : Bool := d.keys.contains key

/-- The value of a key. -/
def find? (d : Dict α) (key : String) : Option α := d.entries.lookup key

/-- Writes an entry. -/
def insert (d : Dict α) (key : String) (value : α) : Dict α where
  entries := putEntry d.entries key value
  nodup_keys := by
    rw [keys_putEntry]
    split
    · exact d.nodup_keys
    · next h =>
      rw [List.nodup_append]
      refine ⟨d.nodup_keys, by simp, ?_⟩
      intro a ha b hb
      rw [List.mem_singleton] at hb
      exact fun eq => h (hb ▸ eq ▸ ha)

/-- Writes the entries one after the other: a repeated key keeps its first place and its last
value. -/
def ofList (entries : List (String × α)) : Dict α :=
  entries.foldl (fun d e => d.insert e.1 e.2) empty

/-- The same keys with other values. -/
def mapValues (f : α → β) (d : Dict α) : Dict β where
  entries := d.entries.map fun e => (e.1, f e.2)
  nodup_keys := by
    have : (d.entries.map fun e => (e.1, f e.2)).map Prod.fst = d.entries.map Prod.fst := by
      simp [List.map_map, Function.comp_def]
    rw [this]
    exact d.nodup_keys

end Dict

end SwaggerClient
