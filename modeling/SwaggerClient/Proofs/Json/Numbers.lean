/-
What the data of a JSON text are like.

A literal is a double of at most 64 bits, multiplied with a power of ten or divided by one or
two.  A product that is out of range is refused, and a quotient is no larger than what is
divided (`Json.isFinite_scale`).  The reader makes numbers of literals and keys of strings,
and nothing else, so every double in the data of a text is finite, every integer fits into
64 bits and every key is a name (`Json.plain_of_parse`).
-/
import SwaggerClient.Json.Reader
import SwaggerClient.Proofs.Datum.Parts
import SwaggerClient.Proofs.Decimal.Range

namespace SwaggerClient.Json

/-! ### Literals -/

/-- Digits are absorbed as long as they fit into a word. -/
theorem absorb_le {n : Nat} (h : n ≤ wordMax) (digits : List Nat) :
    (absorb n digits).1 ≤ wordMax := by
  induction digits generalizing n with
  | nil => exact h
  | cons d rest ih =>
      rw [absorb]
      split
      · exact h
      · rename_i hfits
        exact ih (not_lt.mp hfits)

/-- **A literal in range denotes a finite number.** -/
theorem isFinite_scale {negative : Bool} {digits : Nat} {exponent : Int} {x : Double}
    (hdigits : digits ≤ wordMax) (h : scale? negative digits exponent = some x) :
    x.isFinite = true := by
  have hbase : Double.Below 66 (Double.ofNat negative digits) :=
    Double.below_ofRatio negative one_ne_zero (by rw [Nat.mul_one]; exact Nat.lt_succ_of_le hdigits)
  unfold scale? at h
  dsimp only at h
  split at h
  · split at h
    · exact Option.some.inj h ▸ hbase.isFinite (by decide)
    · cases h
  · split at h
    · split at h
      · rename_i hfinite
        exact Option.some.inj h ▸ hfinite
      · cases h
    · split at h
      · have honce := Double.below_div hbase (Double.one_le_tenPower (-exponent).toNat)
        exact Option.some.inj h ▸ honce.isFinite (by decide)
      · split at h
        · have honce := Double.below_div hbase (Double.one_le_tenPower 308)
          have htwice := Double.below_div honce (Double.one_le_tenPower (-exponent - 308).toNat)
          exact Option.some.inj h ▸ htwice.isFinite (by decide)
        · have hzero : Double.Below 2 (Double.ofNat negative 0) :=
            Double.below_ofRatio (k := 0) negative one_ne_zero (by decide)
          exact Option.some.inj h ▸ hzero.isFinite (by decide)

theorem plain_literal (lit : NumberLiteral) : lit.datum.Plain := by
  have hwhole := absorb_le (Nat.zero_le wordMax) lit.whole
  have hdigits := absorb_le hwhole (lit.fraction.getD [])
  unfold NumberLiteral.datum
  dsimp only
  split
  · exact .int ⟨by omega, by omega⟩
  · split
    · exact .int ⟨by omega, by omega⟩
    · split
      · rename_i x hx
        exact .float (isFinite_scale hdigits hx)
      · exact .unreadable

/-! ### The reader -/

theorem plain_tableOf {members : List (Option String × Datum)} (h : ∀ m ∈ members, m.2.Plain) :
    (tableOf members).Plain := by
  unfold tableOf
  split
  · rename_i entries hentries
    refine .table (Datum.forall_of_mapM hentries fun m hm e he => ?_)
      (Datum.forall_of_mapM hentries fun m hm e he => ?_)
    · obtain ⟨s, -, rfl⟩ := Option.map_eq_some_iff.mp he
      exact ⟨s, rfl⟩
    · obtain ⟨s, -, rfl⟩ := Option.map_eq_some_iff.mp he
      exact h m hm
  · exact .unreadable

section Steps

variable {fuel : Nat} {cs rest : List Char}

theorem plain_of_value {d : Datum}
    (hitems : ∀ {cs items rest}, items? fuel cs = some (items, rest) → ∀ d ∈ items, d.Plain)
    (hmembers : ∀ {cs members rest}, members? fuel cs = some (members, rest) →
      ∀ m ∈ members, m.2.Plain)
    (h : value? (fuel + 1) cs = some (d, rest)) : d.Plain := by
  rw [value?] at h
  split at h
  · cases h
    exact .null
  · cases h
    exact .bool true
  · cases h
    exact .bool false
  · obtain ⟨⟨s, rest'⟩, -, h⟩ := Option.bind_eq_some_iff.mp h
    cases h
    cases s with
    | none => exact .unreadable
    | some s => exact .text s
  · split at h
    · cases h
      exact .list nofun
    · obtain ⟨⟨items, rest'⟩, hlist, h⟩ := Option.bind_eq_some_iff.mp h
      cases h
      exact .list (hitems hlist)
  · split at h
    · cases h
      exact .table nofun nofun
    · obtain ⟨⟨members, rest'⟩, htable, h⟩ := Option.bind_eq_some_iff.mp h
      cases h
      exact plain_tableOf (hmembers htable)
  · obtain ⟨⟨lit, rest'⟩, -, h⟩ := Option.bind_eq_some_iff.mp h
    cases h
    exact plain_literal lit

theorem plain_of_items {items : List Datum}
    (hvalue : ∀ {cs d rest}, value? fuel cs = some (d, rest) → d.Plain)
    (hitems : ∀ {cs items rest}, items? fuel cs = some (items, rest) → ∀ d ∈ items, d.Plain)
    (h : items? (fuel + 1) cs = some (items, rest)) : ∀ d ∈ items, d.Plain := by
  rw [items?] at h
  obtain ⟨⟨item, behind⟩, hitem, h⟩ := Option.bind_eq_some_iff.mp h
  have hfirst := hvalue hitem
  dsimp only at h
  split at h
  · cases h
    exact List.forall_mem_singleton.mpr hfirst
  · obtain ⟨⟨more, rest'⟩, hmore, h⟩ := Option.bind_eq_some_iff.mp h
    cases h
    exact List.forall_mem_cons.mpr ⟨hfirst, hitems hmore⟩
  · cases h

theorem plain_of_members {members : List (Option String × Datum)}
    (hvalue : ∀ {cs d rest}, value? fuel cs = some (d, rest) → d.Plain)
    (hmembers : ∀ {cs members rest}, members? fuel cs = some (members, rest) →
      ∀ m ∈ members, m.2.Plain)
    (h : members? (fuel + 1) cs = some (members, rest)) : ∀ m ∈ members, m.2.Plain := by
  rw [members?] at h
  split at h
  · obtain ⟨⟨key, behind⟩, -, h⟩ := Option.bind_eq_some_iff.mp h
    dsimp only at h
    split at h
    · obtain ⟨⟨d, behind'⟩, hd, h⟩ := Option.bind_eq_some_iff.mp h
      have hfirst := hvalue hd
      dsimp only at h
      split at h
      · cases h
        exact List.forall_mem_singleton.mpr hfirst
      · obtain ⟨⟨more, rest'⟩, hmore, h⟩ := Option.bind_eq_some_iff.mp h
        cases h
        exact List.forall_mem_cons.mpr ⟨hfirst, hmembers hmore⟩
      · cases h
    · cases h
  · cases h

end Steps

/-- With any fuel, what is read is plain. -/
structure ReadsPlain (fuel : Nat) : Prop where
  value : ∀ {cs d rest}, value? fuel cs = some (d, rest) → d.Plain
  items : ∀ {cs items rest}, items? fuel cs = some (items, rest) → ∀ d ∈ items, d.Plain
  members : ∀ {cs members rest}, members? fuel cs = some (members, rest) →
    ∀ m ∈ members, m.2.Plain

theorem readsPlain (fuel : Nat) : ReadsPlain fuel := by
  induction fuel with
  | zero => exact ⟨nofun, nofun, nofun⟩
  | succ fuel ih =>
      exact ⟨plain_of_value ih.items ih.members, plain_of_items ih.value ih.items,
        plain_of_members ih.value ih.members⟩

/-- **The data of a text are plain,** with numbers in range and names for keys. -/
theorem plain_of_parse {text : String} {d : Datum} (h : parse? text = some d) : d.Plain := by
  unfold parse? at h
  simp only [Option.bind_eq_bind, Option.bind_eq_some_iff] at h
  obtain ⟨⟨value, rest⟩, hvalue, h⟩ := h
  split at h
  · exact Option.some.inj h ▸ (readsPlain _).value hvalue
  · cases h

end SwaggerClient.Json
