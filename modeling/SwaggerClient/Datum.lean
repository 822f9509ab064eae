/-
Plain data: what a JSON or YAML text says before anybody asks what it means.

Both formats arrive here, so that every typed decoder is written once.  A table keeps its
entries in order and may repeat a key; what a repetition means is up to the decoder.  A
literal that is well formed but denotes no value, such as a number beyond the range of
doubles, is `unreadable`: harmless as long as nobody needs it.
-/
import SwaggerClient.Json
import SwaggerClient.Dict

namespace SwaggerClient

/-- What stands before the colon of a table entry. -/
inductive Key where
  /-- The usual case: a text. -/
  | name (text : String)
  /-- A natural number, which can stand for the field at that position. -/
  | position (n : Nat)
  /-- Anything else; no decoder accepts it. -/
  | other
deriving Repr, DecidableEq

/-- A value of either format. -/
inductive Datum where
  | null
  | bool (value : Bool)
  | int (value : Int)
  | float (value : Double)
  | text (value : String)
  | list (items : List Datum)
  | table (entries : List (Key × Datum))
  | unreadable
deriving Repr, Inhabited

namespace Datum

/-! ### Simple decoders -/

/-- A text. -/
def text? : Datum → Option String
  | text s => some s
  | _ => none

/-- True or false. -/
def flag? : Datum → Option Bool
  | bool b => some b
  | _ => none

/-- A natural number.  A double never counts as one, however round. -/
def natural? : Datum → Option Nat
  | int n => if n < 0 then none else some n.toNat
  | _ => none

/-- One of the fixed words `names`: written plainly, or as the only key of a table whose
value is null. -/
def choice? (names : List String) : Datum → Option String
  | text s => if s ∈ names then some s else none
  | table [(.name s, null)] => if s ∈ names then some s else none
  | table [(.position n, null)] => names[n]?
  | _ => none

/-- A list, decoded item by item. -/
def listOf? (decode : Datum → Option α) : Datum → Option (List α)
  | list xs => xs.mapM decode
  | _ => none

/-- An entry whose key is a text. -/
def keyed? (decode : Datum → Option α) : Key × Datum → Option (String × α)
  | (.name key, d) => (decode d).map fun x => (key, x)
  | _ => none

/-- A dictionary: a repeated key keeps its first place and its last value. -/
def dictOf? (decode : Datum → Option α) : Datum → Option (Dict α)
  | table entries => (entries.mapM (keyed? decode)).map Dict.ofList
  | _ => none

/-! ### Records

A record is a table whose keys are known in advance, or a list that gives the fields in their
declared order.
-/

/-- The fields of a record in declared order, and how many of them a list must give at
least. -/
structure RecordForm where
  names : List String
  atLeast : Nat := names.length

/-- Which field a key stands for.  Unknown names are skipped; keys that are neither names nor
positions are refused. -/
def fieldOf? (names : List String) : Key → Option (Option String)
  | .name s => some (if s ∈ names then some s else none)
  | .position n => some names[n]?
  | .other => none

/-- The known entries of a table, none of them repeated. -/
def knownEntries? (names : List String) : List (Key × Datum) → Option (List (String × Datum))
  | [] => some []
  | (key, d) :: rest => do
    let tail ← knownEntries? names rest
    match ← fieldOf? names key with
    | none => some tail
    | some name => if name ∈ tail.map Prod.fst then none else some ((name, d) :: tail)

/-- The fields that a datum gives to a record. -/
def fields? (form : RecordForm) : Datum → Option (List (String × Datum))
  | table entries => knownEntries? form.names entries
  | list items =>
    if form.atLeast ≤ items.length ∧ items.length ≤ form.names.length then
      some (form.names.zip items)
    else none
  | _ => none

/-- A field that has to be there. -/
def required? (fields : List (String × Datum)) (name : String) (decode : Datum → Option α) :
    Option α :=
  match fields.lookup name with
  | none => none
  | some d => decode d

/-- A field that may be missing or null. -/
def optional? (fields : List (String × Datum)) (name : String) (decode : Datum → Option α) :
    Option (Option α) :=
  match fields.lookup name with
  | none => some none
  | some null => some none
  | some d => (decode d).map some

/-- A field that has a value of its own when it is missing. -/
def defaulted? (fields : List (String × Datum)) (name : String) (absent : α)
    (decode : Datum → Option α) : Option α :=
  match fields.lookup name with
  | none => some absent
  | some d => decode d

/-! ### Sizes, for decoders that call themselves on a field -/

/-- An item is smaller than the list around it. -/
theorem sizeOf_item {items : List Datum} {d : Datum} (h : d ∈ items) :
    sizeOf d < sizeOf (list items) := by
  have := List.sizeOf_lt_of_mem h
  simp only [list.sizeOf_spec]
  omega

/-- A known entry is smaller than the entries that it was picked from. -/
theorem sizeOf_knownEntries {names : List String} {entries : List (Key × Datum)}
    {fields : List (String × Datum)} (h : knownEntries? names entries = some fields)
    {f : String × Datum} (hf : f ∈ fields) : sizeOf f.2 < sizeOf entries := by
  induction entries generalizing fields f with
  | nil => simp only [knownEntries?, Option.some.injEq] at h; subst h; cases hf
  | cons e rest ih =>
    obtain ⟨key, d⟩ := e
    simp only [knownEntries?, Option.bind_eq_bind, Option.bind_eq_some_iff] at h
    obtain ⟨tail, ht, known, -, h⟩ := h
    have step : ∀ {g : String × Datum}, g ∈ tail → sizeOf g.2 < sizeOf ((key, d) :: rest) := by
      intro g hg
      have := ih ht hg
      simp only [List.cons.sizeOf_spec, Prod.mk.sizeOf_spec]
      omega
    cases known with
    | none => simp only [Option.some.injEq] at h; subst h; exact step hf
    | some name =>
      simp only at h
      split at h
      · cases h
      · simp only [Option.some.injEq] at h
        subst h
        rcases List.mem_cons.mp hf with rfl | hf
        · simp only [List.cons.sizeOf_spec, Prod.mk.sizeOf_spec]
          omega
        · exact step hf

/-- A field is smaller than the datum it was taken from. -/
theorem sizeOf_fields {form : RecordForm} {d : Datum} {fields : List (String × Datum)}
    (h : fields? form d = some fields) {f : String × Datum} (hf : f ∈ fields) :
    sizeOf f.2 < sizeOf d := by
  cases d with
  | table entries =>
    have := sizeOf_knownEntries h hf
    simp only [table.sizeOf_spec]
    omega
  | list items =>
    simp only [fields?] at h
    split at h
    · simp only [Option.some.injEq] at h
      subst h
      have := List.sizeOf_lt_of_mem (List.of_mem_zip hf).2
      simp only [list.sizeOf_spec]
      omega
    · cases h
  | _ => simp [fields?] at h

/-- What a look-up finds is an entry. -/
theorem mem_of_lookup {fields : List (String × α)} {name : String} {x : α}
    (h : fields.lookup name = some x) : (name, x) ∈ fields := by
  induction fields with
  | nil => cases h
  | cons f rest ih =>
    obtain ⟨key, y⟩ := f
    rw [List.lookup_cons] at h
    split at h
    · next eq =>
      simp only [beq_iff_eq] at eq
      simp only [Option.some.injEq] at h
      subst h eq
      exact List.mem_cons_self
    · exact List.mem_cons_of_mem _ (ih h)

/-- A field that was looked up is smaller than the datum it was taken from. -/
theorem sizeOf_lookup {form : RecordForm} {d : Datum} {fields : List (String × Datum)}
    (h : fields? form d = some fields) {name : String} {x : Datum}
    (hx : fields.lookup name = some x) : sizeOf x < sizeOf d :=
  sizeOf_fields h (f := (name, x)) (mem_of_lookup hx)

end Datum

/-! ### Free values -/

namespace Json

/-- Writes a member into members that are sorted by name; an equal name is replaced. -/
def putSorted (name : String) (value : Json) : List (String × Json) → List (String × Json)
  | [] => [(name, value)]
  | m :: rest =>
    if name < m.1 then (name, value) :: m :: rest
    else if name = m.1 then (name, value) :: rest
    else m :: putSorted name value rest

/-- Members sorted by name, code point by code point; of equal names the last one stays. -/
def sortMembers (members : List (String × Json)) : List (String × Json) :=
  members.foldl (fun sorted m => putSorted m.1 m.2 sorted) []

mutual

/-- A datum taken as a value of its own.  Names are sorted, and a double that is not finite
becomes null. -/
def ofDatum? : Datum → Option Json
  | .null => some null
  | .bool b => some (bool b)
  | .int n => some (int n)
  | .float x => some (if x.isFinite then float x else null)
  | .text s => some (string s)
  | .list items => (ofItems? items).map array
  | .table entries => (ofEntries? entries).map fun members => object (sortMembers members)
  | .unreadable => none

/-- The items of a list. -/
def ofItems? : List Datum → Option (List Json)
  | [] => some []
  | d :: rest => do
    let value ← ofDatum? d
    let values ← ofItems? rest
    return value :: values

/-- The entries of a table, whose keys have to be texts. -/
def ofEntries? : List (Key × Datum) → Option (List (String × Json))
  | [] => some []
  | (.name key, d) :: rest => do
    let value ← ofDatum? d
    let members ← ofEntries? rest
    return (key, value) :: members
  | _ :: _ => none

end

mutual

/-- A value as plain data. -/
def toDatum : Json → Datum
  | null => .null
  | bool b => .bool b
  | int n => .int n
  | float x => .float x
  | string s => .text s
  | array items => .list (itemsToData items)
  | object members => .table (membersToData members)

/-- The items of an array as plain data. -/
def itemsToData : List Json → List Datum
  | [] => []
  | x :: xs => x.toDatum :: itemsToData xs

/-- The members of an object as plain data. -/
def membersToData : List (String × Json) → List (Key × Datum)
  | [] => []
  | (key, x) :: rest => (.name key, x.toDatum) :: membersToData rest

end

end Json

end SwaggerClient
