/-
Values that were written as a text and are read again.

The text of a value is read from left to right, and what is behind it is left alone.  A list
goes on behind each item with a comma and the next item, or with its bracket, and a table
goes on in the same way, so reading is an induction on the items with the reading of each of
them given (`Json.items?_pretty`, `Json.members?_pretty`).  The fuel that is needed is no
more than twice the length of the text.

In sum the text of a value is read as the value, if the numbers in it are
(`Json.parse?_pretty`).
-/
import SwaggerClient.Proofs.Json.Integers
import SwaggerClient.Proofs.Json.Strings

namespace SwaggerClient.Json

variable {P : Json → Prop} {fuel level : Nat} {cs ds rest : List Char} {c : Char}

/-! ### Values with numbers of some kind -/

/-- A value that is nested at most so many levels deep, with numbers of some kind. -/
inductive Within (P : Json → Prop) : Nat → Json → Prop
  | null {n : Nat} : Within P n null
  | bool {n : Nat} (b : Bool) : Within P n (bool b)
  | int {n : Nat} {k : Int} (h : P (int k)) : Within P n (int k)
  | float {n : Nat} {x : Double} (h : P (float x)) : Within P n (float x)
  | string {n : Nat} (s : String) : Within P n (string s)
  | array {n : Nat} {items : List Json} (h : ∀ x ∈ items, Within P n x) :
      Within P (n + 1) (array items)
  | object {n : Nat} {members : List (String × Json)} (h : ∀ m ∈ members, Within P n m.2) :
      Within P (n + 1) (object members)

/-! ### Blanks -/

theorem skipBlanks_append (h : ∀ c ∈ cs, isBlank c = true) :
    skipBlanks (cs ++ rest) = skipBlanks rest :=
  List.dropWhile_append_of_pos h

theorem skipBlanks_cons (hc : isBlank c = false) : skipBlanks (c :: cs) = c :: cs :=
  List.dropWhile_cons_of_neg (by rw [hc]; exact Bool.false_ne_true)

theorem isBlank_of_newLine : ∀ c ∈ (newLine level).toList, isBlank c = true := by
  intro c hc
  rw [toList_newLine] at hc
  rcases List.mem_cons.mp hc with rfl | hc
  · rfl
  · rw [List.eq_of_mem_replicate hc]
    rfl

theorem value?_blanks (h : ∀ c ∈ cs, isBlank c = true) :
    value? fuel (cs ++ rest) = value? fuel rest := by
  cases fuel with
  | zero => rfl
  | succ fuel => rw [value?, value?, skipBlanks_append h]

/-! ### One step of the reader -/

/-- A number begins with none of the characters that other values begin with. -/
theorem ne_of_number_head (hc : c = '-' ∨ c.isDigit = true) {d : Char} (hminus : d ≠ '-')
    (hdigit : d.isDigit = false) : c ≠ d := by
  rintro rfl
  rcases hc with rfl | hc
  · exact hminus rfl
  · rw [hdigit] at hc
    cases hc

theorem isBlank_of_number_head (hc : c = '-' ∨ c.isDigit = true) : isBlank c = false := by
  simp [isBlank, ne_of_number_head hc]

theorem value?_number {lit : NumberLiteral} (h : number? cs = some (lit, rest)) :
    value? (fuel + 1) cs = some (lit.datum, rest) := by
  obtain ⟨c, cs', rfl, hc⟩ := number?_head h
  rw [value?, skipBlanks_cons (isBlank_of_number_head hc)]
  split
  all_goals first
    | rename_i heq
      exact absurd (List.cons.inj heq).1 (ne_of_number_head hc (by decide) (by decide))
    | skip
  rw [h]
  rfl

theorem value?_string {s : String} (h : string? cs = some (some s, rest)) :
    value? (fuel + 1) ('"' :: cs) = some (.text s, rest) := by
  rw [value?, skipBlanks_cons rfl]
  simp only [h]
  rfl

theorem value?_array (h : skipBlanks cs = c :: ds) (hc : c ≠ ']') :
    value? (fuel + 1) ('[' :: cs) = (items? fuel (c :: ds)).map fun p => (.list p.1, p.2) := by
  rw [value?, skipBlanks_cons rfl]
  simp only [h]
  split
  · rename_i heq
    exact absurd (List.cons.inj heq).1 hc
  · cases items? fuel (c :: ds) with
    | none => rfl
    | some p => rfl

theorem value?_object (h : skipBlanks cs = '"' :: ds) :
    value? (fuel + 1) ('\x7b' :: cs) =
      (members? fuel ('"' :: ds)).map fun p => (tableOf p.1, p.2) := by
  rw [value?, skipBlanks_cons rfl]
  simp only [h]
  split
  · rename_i heq
    exact absurd (List.cons.inj heq).1 (by decide)
  · cases members? fuel ('"' :: ds) with
    | none => rfl
    | some p => rfl

variable {d : Datum} {behind : List Char}

theorem items?_last (h : value? fuel cs = some (d, behind))
    (hbehind : skipBlanks behind = ']' :: rest) : items? (fuel + 1) cs = some ([d], rest) := by
  rw [items?, h]
  simp only [Option.bind_eq_bind, Option.bind_some, hbehind]
  rfl

theorem items?_more (h : value? fuel cs = some (d, ',' :: behind)) :
    items? (fuel + 1) cs = (items? fuel behind).map fun p => (d :: p.1, p.2) := by
  have hcomma : skipBlanks (',' :: behind) = ',' :: behind := skipBlanks_cons rfl
  rw [items?, h]
  simp only [Option.bind_eq_bind, Option.bind_some, hcomma]
  cases items? fuel behind with
  | none => rfl
  | some p => rfl

/-- A name, its colon and a blank, as they stand in front of a value. -/
def label (name : String) : List Char := (quote name).toList ++ [':', ' ']

theorem exists_label_head (name : String) : ∃ ds, label name = '"' :: ds := by
  rw [label, toList_quote]
  exact ⟨_, rfl⟩

theorem exists_label (name : String) (h : ∀ c ∈ cs, isBlank c = true) (ds : List Char) :
    ∃ body, skipBlanks (cs ++ (label name ++ ds)) = '"' :: body ∧
      string? body = some (some name, ':' :: ' ' :: ds) := by
  obtain ⟨body, hbody, hstring⟩ := string?_quote name (':' :: ' ' :: ds)
  refine ⟨body ++ ':' :: ' ' :: ds, ?_, hstring⟩
  rw [skipBlanks_append h, label, hbody, List.append_assoc, List.cons_append, skipBlanks_cons rfl]
  rfl

theorem value?_blank (cs : List Char) : value? fuel (' ' :: cs) = value? fuel cs :=
  value?_blanks (fun c hc => by rw [List.mem_singleton.mp hc]; rfl : ∀ c ∈ [' '], isBlank c = true)

theorem members?_last {name : String} (hcs : ∀ c ∈ cs, isBlank c = true)
    (h : value? fuel ds = some (d, behind)) (hbehind : skipBlanks behind = '\x7d' :: rest) :
    members? (fuel + 1) (cs ++ (label name ++ ds)) = some ([(some name, d)], rest) := by
  obtain ⟨body, hbody, hstring⟩ := exists_label name hcs ds
  have hcolon : skipBlanks (':' :: ' ' :: ds) = ':' :: ' ' :: ds := skipBlanks_cons rfl
  rw [members?, hbody]
  simp only [hstring, Option.bind_eq_bind, Option.bind_some, hcolon, value?_blank, h, hbehind]
  rfl

theorem members?_more {name : String} (hcs : ∀ c ∈ cs, isBlank c = true)
    (h : value? fuel ds = some (d, ',' :: behind)) :
    members? (fuel + 1) (cs ++ (label name ++ ds)) =
      (members? fuel behind).map fun p => ((some name, d) :: p.1, p.2) := by
  obtain ⟨body, hbody, hstring⟩ := exists_label name hcs ds
  have hcolon : skipBlanks (':' :: ' ' :: ds) = ':' :: ' ' :: ds := skipBlanks_cons rfl
  have hcomma : skipBlanks (',' :: behind) = ',' :: behind := skipBlanks_cons rfl
  rw [members?, hbody]
  simp only [hstring, Option.bind_eq_bind, Option.bind_some, hcolon, value?_blank, h, hcomma]
  cases members? fuel behind with
  | none => rfl
  | some p => rfl

/-! ### Values -/

/-- At this level the text of a value is read as the value, whatever may follow it. -/
def Reads (level : Nat) (v : Json) : Prop :=
  ∀ fuel rest, 2 * (prettyAt level v).toList.length ≤ fuel → Ends rest →
    value? fuel ((prettyAt level v).toList ++ rest) = some (v.toDatum, rest)

theorem toList_prettyItems_cons (x : Json) (xs : List Json) :
    (prettyItems level (x :: xs)).toList =
      ',' :: ((newLine level).toList ++ ((prettyAt level x).toList ++
        (prettyItems level xs).toList)) := by
  simp [prettyItems]

/-- **A list is read item by item,** if each of them is. -/
theorem items?_pretty (fuel outer : Nat) (rest : List Char) {x : Json} {xs : List Json}
    (hx : Reads level x) (hxs : ∀ y ∈ xs, Reads level y) (hcs : ∀ c ∈ cs, isBlank c = true)
    (hfuel : 2 * ((prettyAt level x).toList.length + (prettyItems level xs).toList.length) <
      fuel) :
    items? fuel (cs ++ ((prettyAt level x).toList ++ ((prettyItems level xs).toList ++
      ((newLine outer).toList ++ ']' :: rest)))) = some (x.toDatum :: itemsToData xs, rest) := by
  obtain ⟨fuel, rfl⟩ : ∃ n, fuel = n + 1 := ⟨fuel - 1, by omega⟩
  induction xs generalizing x cs fuel with
  | nil =>
      have hlast := hx fuel _ (by omega) (ends_newLine outer (']' :: rest))
      refine items?_last ((value?_blanks hcs).trans hlast) ?_
      exact (skipBlanks_append isBlank_of_newLine).trans (skipBlanks_cons rfl)
  | cons y ys ih =>
      obtain ⟨hy, hys⟩ := List.forall_mem_cons.mp hxs
      rw [toList_prettyItems_cons] at hfuel ⊢
      simp only [List.length_cons, List.length_append] at hfuel
      simp only [List.cons_append, List.append_assoc]
      rw [items?_more ((value?_blanks hcs).trans (hx fuel _ (by omega) (ends_comma _)))]
      obtain ⟨fuel, rfl⟩ : ∃ n, fuel = n + 1 := ⟨fuel - 1, by omega⟩
      rw [ih hy hys isBlank_of_newLine fuel (by omega)]
      rfl

theorem toList_prettyMembers_cons (m : String × Json) (ms : List (String × Json)) :
    (prettyMembers level (m :: ms)).toList =
      ',' :: ((newLine level).toList ++ (label m.1 ++ ((prettyAt level m.2).toList ++
        (prettyMembers level ms).toList))) := by
  simp [prettyMembers, label]

/-- **A table is read member by member,** if the value of each of them is. -/
theorem members?_pretty (fuel outer : Nat) (rest : List Char) {m : String × Json}
    {ms : List (String × Json)} (hm : Reads level m.2) (hms : ∀ m' ∈ ms, Reads level m'.2)
    (hcs : ∀ c ∈ cs, isBlank c = true)
    (hfuel : 2 * ((prettyAt level m.2).toList.length + (prettyMembers level ms).toList.length) <
      fuel) :
    members? fuel (cs ++ (label m.1 ++ ((prettyAt level m.2).toList ++
      ((prettyMembers level ms).toList ++ ((newLine outer).toList ++ '\x7d' :: rest))))) =
        some ((m :: ms).map fun m => (some m.1, m.2.toDatum), rest) := by
  obtain ⟨fuel, rfl⟩ : ∃ n, fuel = n + 1 := ⟨fuel - 1, by omega⟩
  induction ms generalizing m cs fuel with
  | nil =>
      refine members?_last hcs (hm fuel _ (by omega) (ends_newLine outer _)) ?_
      exact (skipBlanks_append isBlank_of_newLine).trans (skipBlanks_cons rfl)
  | cons m' ms ih =>
      obtain ⟨hm', hms⟩ := List.forall_mem_cons.mp hms
      rw [toList_prettyMembers_cons] at hfuel ⊢
      simp only [List.length_cons, List.length_append] at hfuel
      simp only [List.cons_append, List.append_assoc]
      rw [members?_more hcs (hm fuel _ (by omega) (ends_comma _))]
      obtain ⟨fuel, rfl⟩ : ∃ n, fuel = n + 1 := ⟨fuel - 1, by omega⟩
      rw [ih hm' hms isBlank_of_newLine fuel (by omega)]
      rfl

theorem tableOf_members (members : List (String × Json)) :
    tableOf (members.map fun m => (some m.1, m.2.toDatum)) = .table (membersToData members) := by
  have hmapM : (members.map fun m => (some m.1, m.2.toDatum)).mapM
      (fun m : Option String × Datum => m.1.map fun s => (Key.name s, m.2)) =
        some (membersToData members) := by
    induction members with
    | nil => rfl
    | cons m members ih =>
        rw [List.map_cons, List.mapM_cons, ih]
        rfl
  unfold tableOf
  rw [hmapM]

theorem toList_prettyArray (x : Json) (xs : List Json) :
    (prettyAt level (.array (x :: xs))).toList =
      '[' :: ((newLine (level + 1)).toList ++ ((prettyAt (level + 1) x).toList ++
        ((prettyItems (level + 1) xs).toList ++ ((newLine level).toList ++ [']'])))) := by
  simp [prettyAt]

theorem toList_prettyObject (m : String × Json) (ms : List (String × Json)) :
    (prettyAt level (.object (m :: ms))).toList =
      '\x7b' :: ((newLine (level + 1)).toList ++ (label m.1 ++
        ((prettyAt (level + 1) m.2).toList ++ ((prettyMembers (level + 1) ms).toList ++
          ((newLine level).toList ++ ['\x7d']))))) := by
  simp [prettyAt, label]

/-- The text of a value begins with a character that is neither a blank nor a bracket that
closes. -/
theorem exists_head {n : Nat} {v : Json} (h : v.Within Spelled n) (level : Nat) :
    ∃ c cs, (prettyAt level v).toList = c :: cs ∧ isBlank c = false ∧ c ≠ ']' := by
  have hnumber : ∀ {v : Json}, v.Spelled →
      ∃ c cs, (leafText v).toList = c :: cs ∧ isBlank c = false ∧ c ≠ ']' := by
    rintro v ⟨lit, hlit, -⟩
    obtain ⟨c, cs, hcs, hc⟩ := number?_head hlit
    exact ⟨c, cs, hcs, isBlank_of_number_head hc, ne_of_number_head hc (by decide) (by decide)⟩
  cases h with
  | null => exact ⟨'n', _, String.toList_ofList, rfl, by decide⟩
  | bool b =>
      cases b with
      | false => exact ⟨'f', _, String.toList_ofList, rfl, by decide⟩
      | true => exact ⟨'t', _, String.toList_ofList, rfl, by decide⟩
  | int h => exact hnumber h
  | float h => exact hnumber h
  | string s => exact ⟨'"', _, toList_quote s, rfl, by decide⟩
  | @array n items h =>
      cases items with
      | nil => exact ⟨'[', _, String.toList_ofList, rfl, by decide⟩
      | cons x xs => exact ⟨'[', _, toList_prettyArray x xs, rfl, by decide⟩
  | @object n members h =>
      cases members with
      | nil => exact ⟨'\x7b', _, String.toList_ofList, rfl, by decide⟩
      | cons m ms => exact ⟨'\x7b', _, toList_prettyObject m ms, rfl, by decide⟩

theorem exists_fuel {n : Nat} {v : Json} (h : v.Within Spelled n)
    (hfuel : 2 * (prettyAt level v).toList.length ≤ fuel) : ∃ k, fuel = k + 1 := by
  obtain ⟨c, cs, hcs, -⟩ := exists_head h level
  rw [hcs, List.length_cons] at hfuel
  exact ⟨fuel - 1, by omega⟩

theorem value?_spelled {v : Json} (hv : v.Spelled) (hrest : Ends rest) :
    value? (fuel + 1) ((leafText v).toList ++ rest) = some (v.toDatum, rest) := by
  obtain ⟨lit, hlit, hdatum⟩ := hv
  rw [value?_number (number?_append hrest hlit), hdatum]
  rfl

theorem value?_quote (s : String) (rest : List Char) :
    value? (fuel + 1) ((quote s).toList ++ rest) = some (.text s, rest) := by
  obtain ⟨body, hbody, hstring⟩ := string?_quote s rest
  rw [hbody, List.cons_append, value?_string hstring]

/-- The text of a list is read as the list if its items are read. -/
theorem value?_prettyArray {n : Nat} {x : Json} {xs : List Json} (rest : List Char)
    (hx : x.Within Spelled n) (hreads : ∀ y ∈ x :: xs, Reads (level + 1) y)
    (hfuel : 2 * (prettyAt level (.array (x :: xs))).toList.length ≤ fuel + 1) :
    value? (fuel + 1) ((prettyAt level (.array (x :: xs))).toList ++ rest) =
      some ((array (x :: xs)).toDatum, rest) := by
  obtain ⟨hfirst, hmore⟩ := List.forall_mem_cons.mp hreads
  obtain ⟨c, ds, hhead, hblank, hbracket⟩ := exists_head hx (level + 1)
  rw [toList_prettyArray] at hfuel ⊢
  simp only [List.length_cons, List.length_append] at hfuel
  have hlist := items?_pretty fuel level rest hfirst hmore (nofun : ∀ c ∈ [], isBlank c = true)
    (by omega)
  simp only [List.cons_append, List.append_assoc, List.nil_append, hhead] at hlist ⊢
  rw [value?_array (c := c) _ hbracket, hlist]
  · rfl
  · rw [skipBlanks_append isBlank_of_newLine, skipBlanks_cons hblank]

/-- The text of a table is read as the table if its values are read. -/
theorem value?_prettyObject {m : String × Json} {ms : List (String × Json)} (rest : List Char)
    (hreads : ∀ m' ∈ m :: ms, Reads (level + 1) m'.2)
    (hfuel : 2 * (prettyAt level (.object (m :: ms))).toList.length ≤ fuel + 1) :
    value? (fuel + 1) ((prettyAt level (.object (m :: ms))).toList ++ rest) =
      some ((object (m :: ms)).toDatum, rest) := by
  obtain ⟨hfirst, hmore⟩ := List.forall_mem_cons.mp hreads
  obtain ⟨ds, hhead⟩ := exists_label_head m.1
  rw [toList_prettyObject] at hfuel ⊢
  simp only [List.length_cons, List.length_append] at hfuel
  have htable := members?_pretty fuel level rest hfirst hmore
    (nofun : ∀ c ∈ [], isBlank c = true) (by omega)
  simp only [List.cons_append, List.append_assoc, List.nil_append, hhead] at htable ⊢
  rw [value?_object, htable, Option.map_some, tableOf_members]
  · rfl
  · rw [skipBlanks_append isBlank_of_newLine, skipBlanks_cons rfl]

/-- **The text of a value is read as the value,** if its numbers are read back. -/
theorem reads_of_within {n : Nat} {v : Json} (h : v.Within Spelled n) (level : Nat) :
    Reads level v := by
  intro fuel rest hfuel hrest
  obtain ⟨fuel, rfl⟩ := exists_fuel h hfuel
  induction h generalizing level fuel rest with
  | null =>
      have htext : (prettyAt level null).toList = ['n', 'u', 'l', 'l'] := String.toList_ofList
      rw [htext, value?]
      rfl
  | bool b =>
      cases b with
      | false =>
          have htext : (prettyAt level (bool false)).toList = ['f', 'a', 'l', 's', 'e'] :=
            String.toList_ofList
          rw [htext, value?]
          rfl
      | true =>
          have htext : (prettyAt level (bool true)).toList = ['t', 'r', 'u', 'e'] :=
            String.toList_ofList
          rw [htext, value?]
          rfl
  | int h => exact value?_spelled h hrest
  | float h => exact value?_spelled h hrest
  | string s => exact value?_quote s rest
  | @array n items hitems ih =>
      cases items with
      | nil =>
          have htext : (prettyAt level (array [])).toList = ['[', ']'] := String.toList_ofList
          rw [htext, value?]
          rfl
      | cons x xs =>
          refine value?_prettyArray rest (hitems x List.mem_cons_self) (fun y hy => ?_) hfuel
          intro fuel rest hfuel hrest
          obtain ⟨fuel, rfl⟩ := exists_fuel (hitems y hy) hfuel
          exact ih y hy (level + 1) rest hrest fuel hfuel
  | @object n members hmembers ih =>
      cases members with
      | nil =>
          have htext : (prettyAt level (object [])).toList = ['\x7b', '\x7d'] :=
            String.toList_ofList
          rw [htext, value?]
          rfl
      | cons m ms =>
          refine value?_prettyObject rest (fun m' hm' => ?_) hfuel
          intro fuel rest hfuel hrest
          obtain ⟨fuel, rfl⟩ := exists_fuel (hmembers m' hm') hfuel
          exact ih m' hm' (level + 1) rest hrest fuel hfuel

/-- **The text of a value denotes the value,** if its numbers are read back. -/
theorem parse?_pretty {n : Nat} {v : Json} (h : v.Within Spelled n) :
    parse? v.pretty = some v.toDatum := by
  have hread := reads_of_within h 0 (2 * v.pretty.toList.length + 2) [] (Nat.le_add_right _ _)
    ends_nil
  rw [List.append_nil] at hread
  have htext : prettyAt 0 v = v.pretty := rfl
  rw [htext] at hread
  unfold parse?
  dsimp only
  rw [hread]
  rfl

end SwaggerClient.Json
