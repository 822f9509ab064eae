/-
Arrays whose items are lost.

A descriptor is read by trial, and the last trial asks for little: a primitive may have any
type, and every field that it does not know is passed over, items among them.  So whatever
keeps an array with items from being read as an array makes it a primitive without items,
unless it keeps it from being read as a primitive as well.

A record asks that nothing it knows is named twice, and that what is named is of its kind
(`GivesItems.arrayOf?_isSome_iff`, `Primitive.ofDatum?_isSome_iff`).  Besides the items an array
alone knows the bounds and the uniqueness.  So the items are lost when one of these is of
another kind or named twice, the items themselves included.  A type that is named twice, or a
description that is no text, is of no use to a primitive either, and the descriptor is
refused (`itemsDecided`).
-/
import SwaggerClient.Client.TypeExpr
import SwaggerClient.Proofs.Swagger.Properties

namespace SwaggerClient

/-! ### Kinds of values -/

namespace Json

/-- Texts, flags, natural numbers and lists among the values. -/
def IsText (value : Json) : Prop := ∃ s, value = .string s

def IsFlag (value : Json) : Prop := ∃ b, value = .bool b

def IsNatural (value : Json) : Prop := ∃ n : Nat, value = .int n

def IsList (value : Json) : Prop := ∃ items, value = .array items

end Json

/-! ### Fields among members -/

namespace Datum

variable {α β : Type} {decode : Datum → Option α} {Kind : Json → Prop}
  {names : List String} {members : List (String × Json)} {name : String}

/-- A decoder takes the values of a kind and no others. -/
def Takes (decode : Datum → Option α) (Kind : Json → Prop) : Prop :=
  ∀ value : Json, (decode value.toDatum).isSome ↔ Kind value

theorem takes_text : Takes text? Json.IsText := by
  intro value
  cases value with
  | string s => exact iff_of_true rfl ⟨s, rfl⟩
  | _ => simp [Json.toDatum, text?, Json.IsText]

theorem takes_flag : Takes flag? Json.IsFlag := by
  intro value
  cases value with
  | bool b => exact iff_of_true rfl ⟨b, rfl⟩
  | _ => simp [Json.toDatum, flag?, Json.IsFlag]

theorem takes_natural : Takes natural? Json.IsNatural := by
  intro value
  cases value with
  | int k =>
      rw [Json.toDatum, natural?]
      by_cases hk : k < 0
      · rw [if_pos hk]
        refine iff_of_false Bool.false_ne_true ?_
        rintro ⟨n, hn⟩
        have heq : k = n := Json.int.inj hn
        omega
      · rw [if_neg hk]
        refine iff_of_true rfl ⟨k.toNat, ?_⟩
        rw [Int.toNat_of_nonneg (by omega)]
  | _ => simp [Json.toDatum, natural?, Json.IsNatural]

theorem takes_value : Takes Json.ofDatum? fun _ => True := by
  intro value
  rw [Option.isSome_iff_exists]
  exact iff_true_intro value.exists_ofDatum?_toDatum

theorem takes_list : Takes (listOf? Json.ofDatum?) Json.IsList := by
  intro value
  cases value with
  | array items =>
      refine iff_of_true ?_ ⟨items, rfl⟩
      rw [Json.toDatum, listOf?, ← Json.ofItems?_eq, Option.isSome_iff_exists]
      exact Json.exists_ofItems? items
  | _ => simp [Json.toDatum, listOf?, Json.IsList]

/-- A member that may be left out, and has a value of a kind otherwise. -/
def MayBe (members : List (String × Json)) (name : String) (Kind : Json → Prop) : Prop :=
  ∀ value, members.lookup name = some value → Kind value

/-- A member that may be null as well. -/
def MayBeNull (members : List (String × Json)) (name : String) (Kind : Json → Prop) : Prop :=
  MayBe members name fun value => value = .null ∨ Kind value

theorem mayBe_of_none (h : members.lookup name = none) : MayBe members name Kind := by
  intro value hvalue
  rw [h] at hvalue
  cases hvalue

theorem mayBe_some_iff {value : Json} (h : members.lookup name = some value) :
    MayBe members name Kind ↔ Kind value := by
  constructor
  · intro hmay
    exact hmay value h
  · intro hkind v hv
    rw [h] at hv
    exact Option.some.inj hv ▸ hkind

theorem defaulted?_isSome_iff {absent : α} (htakes : Takes decode Kind) (hname : name ∈ names) :
    (defaulted? (known names members) name absent decode).isSome ↔ MayBe members name Kind := by
  rw [defaulted?, lookup_known hname]
  cases hlookup : members.lookup name with
  | none => exact iff_of_true rfl (mayBe_of_none hlookup)
  | some value => exact (htakes value).trans (mayBe_some_iff hlookup).symm

theorem optional?_isSome_iff (htakes : Takes decode Kind) (hname : name ∈ names) :
    (optional? (known names members) name decode).isSome ↔ MayBeNull members name Kind := by
  have hfield : (known names members).lookup name = (members.lookup name).map Json.toDatum :=
    lookup_known hname
  cases hlookup : members.lookup name with
  | none =>
      rw [hlookup, Option.map_none] at hfield
      rw [optional?, hfield]
      exact iff_of_true rfl (mayBe_of_none hlookup)
  | some value =>
      rw [hlookup, Option.map_some] at hfield
      rw [MayBeNull, mayBe_some_iff hlookup]
      by_cases hnull : value = .null
      · rw [hnull] at hfield
        rw [optional?, hfield]
        exact iff_of_true rfl (Or.inl hnull)
      · rw [optional?_of_ne_null hfield (Json.toDatum_ne_null hnull), Option.isSome_map,
          or_iff_right hnull]
        exact htakes value

/-- Steps that do not depend on each other succeed together if each of them does. -/
theorem isSome_bind_iff {x : Option α} {f : α → Option β} {P : Prop}
    (h : ∀ a, (f a).isSome ↔ P) : (x.bind f).isSome ↔ x.isSome ∧ P := by
  cases x with
  | none => exact iff_of_false Bool.false_ne_true fun hand => Bool.false_ne_true hand.1
  | some a => exact (h a).trans (and_iff_right rfl).symm

end Datum

/-! ### Primitives and arrays -/

open Datum

/-- What a primitive asks of its members. -/
structure PrimitiveMembers (members : List (String × Json)) : Prop where
  once : KnownOnce Primitive.form.names members
  type : MayBeNull members "type" Json.IsText
  format : MayBeNull members "format" Json.IsText
  description : MayBeNull members "description" Json.IsText
  enumeration : MayBe members "enum" Json.IsList
  readOnly : MayBeNull members "readOnly" Json.IsFlag

/-- What an array asks of its members, besides its type and items. -/
structure ArrayMembers (members : List (String × Json)) : Prop where
  once : KnownOnce ArrayFacets.form.names members
  description : MayBeNull members "description" Json.IsText
  minItems : MayBeNull members "minItems" Json.IsNatural
  maxItems : MayBeNull members "maxItems" Json.IsNatural
  uniqueItems : MayBeNull members "uniqueItems" Json.IsFlag

/-- What only an array asks of its members. -/
structure OnlyArrayMembers (members : List (String × Json)) : Prop where
  once : KnownOnce ["items", "minItems", "maxItems", "uniqueItems"] members
  minItems : MayBeNull members "minItems" Json.IsNatural
  maxItems : MayBeNull members "maxItems" Json.IsNatural
  uniqueItems : MayBeNull members "uniqueItems" Json.IsFlag

section Forms

variable {members : List (String × Json)}

theorem Primitive.ofDatum?_isSome_iff :
    (Primitive.ofDatum? (Json.object members).toDatum).isSome ↔ PrimitiveMembers members := by
  unfold Primitive.ofDatum?
  rw [fields?_object]
  by_cases honce : KnownOnce form.names members
  · rw [if_pos honce, Option.bind_eq_bind, Option.bind_some]
    refine (isSome_bind_iff fun _ => isSome_bind_iff fun _ => isSome_bind_iff fun _ =>
      isSome_bind_iff fun _ => isSome_bind_iff fun _ => isSome_bind_iff fun _ =>
      isSome_bind_iff fun _ => iff_true_intro rfl).trans ?_
    rw [optional?_isSome_iff takes_text (by decide), optional?_isSome_iff takes_text (by decide),
      optional?_isSome_iff takes_text (by decide), defaulted?_isSome_iff takes_list (by decide),
      optional?_isSome_iff takes_value (by decide), optional?_isSome_iff takes_flag (by decide),
      optional?_isSome_iff takes_value (by decide)]
    constructor
    · rintro ⟨htype, hformat, hdescription, henumeration, -, hreadOnly, -⟩
      exact ⟨honce, htype, hformat, hdescription, henumeration, hreadOnly⟩
    · intro h
      have hany : ∀ name, MayBeNull members name fun _ => True := fun _ _ _ => Or.inr trivial
      exact ⟨h.type, h.format, h.description, h.enumeration, hany _, h.readOnly, hany _, trivial⟩
  · rw [if_neg honce]
    exact iff_of_false Bool.false_ne_true fun h => honce h.once

theorem Primitive.type_of_ofDatum? {p : Primitive} {type : String}
    (h : Primitive.ofDatum? (Json.object members).toDatum = some p)
    (htype : members.lookup "type" = some (.string type)) : p.type = some type := by
  unfold Primitive.ofDatum? at h
  simp only [Option.bind_eq_bind, Option.bind_eq_some_iff] at h
  obtain ⟨fields, hfields, read, hread, _, -, _, -, _, -, _, -, _, -, _, -, h⟩ := h
  rw [fields?_object] at hfields
  split at hfields
  · rw [← Option.some.inj hfields, optional?, lookup_known (by decide), htype] at hread
    rw [← Option.some.inj h]
    exact (Option.some.inj hread).symm
  · cases hfields

theorem ArrayFacets.ofFields?_isSome_iff (htype : members.lookup "type" = some (.string "array")) :
    (ArrayFacets.ofFields? (known form.names members)).isSome ↔
      MayBeNull members "description" Json.IsText ∧ MayBeNull members "minItems" Json.IsNatural ∧
        MayBeNull members "maxItems" Json.IsNatural ∧
        MayBeNull members "uniqueItems" Json.IsFlag := by
  have hrequired : required? (known form.names members) "type" (choice? ["array"]) =
      some "array" := by
    rw [required?, lookup_known (by decide), htype]
    rfl
  unfold ArrayFacets.ofFields?
  rw [hrequired, Option.bind_eq_bind, Option.bind_some]
  refine (isSome_bind_iff fun _ => isSome_bind_iff fun _ => isSome_bind_iff fun _ =>
    isSome_bind_iff fun _ => iff_true_intro rfl).trans ?_
  rw [optional?_isSome_iff takes_text (by decide), optional?_isSome_iff takes_natural (by decide),
    optional?_isSome_iff takes_natural (by decide), optional?_isSome_iff takes_flag (by decide),
    and_true]

/-- The type and the description are asked for by both. -/
theorem PrimitiveMembers.arrayMembers_iff (h : PrimitiveMembers members) :
    ArrayMembers members ↔ OnlyArrayMembers members := by
  constructor
  · intro harray
    have hnames : ∀ name ∈ ["items", "minItems", "maxItems", "uniqueItems"],
        name ∈ ArrayFacets.form.names := by
      decide
    refine ⟨?_, harray.minItems, harray.maxItems, harray.uniqueItems⟩
    rw [knownOnce_iff]
    intro name hname
    exact knownOnce_iff.mp harray.once name (hnames name hname)
  · intro honly
    have hnames : ∀ name ∈ ArrayFacets.form.names, name ∈ Primitive.form.names ∨
        name ∈ ["items", "minItems", "maxItems", "uniqueItems"] := by
      decide
    refine ⟨?_, h.description, honly.minItems, honly.maxItems, honly.uniqueItems⟩
    rw [knownOnce_iff]
    intro name hname
    rcases hnames name hname with hboth | hown
    · exact knownOnce_iff.mp h.once name hboth
    · exact knownOnce_iff.mp honly.once name hown

end Forms

/-! ### Arrays with items -/

/-- Members that say array, and give items that can be read; no reference is among them. -/
structure GivesItems (members : List (String × Json)) (items : Property) : Prop where
  no_ref : ∀ path, ("$ref", Json.string path) ∉ members
  type_eq : members.lookup "type" = some (.string "array")
  items_eq : ∃ value, members.lookup "items" = some value ∧
    Property.ofDatum? value.toDatum = some items

namespace GivesItems

variable {members : List (String × Json)} {items : Property}

theorem refPath?_eq_none (h : GivesItems members items) :
    (Json.object members).toDatum.refPath? = none := by
  rw [Json.toDatum, refPath?, knownEntries?_eq]
  by_cases honce : KnownOnce ["$ref"] members
  · rw [if_pos honce, Option.bind_eq_bind, Option.bind_some, required?,
      lookup_known List.mem_cons_self]
    cases hlookup : members.lookup "$ref" with
    | none => rfl
    | some value =>
        cases value with
        | string path => exact absurd (mem_of_lookup hlookup) (h.no_ref path)
        | _ => rfl
  · rw [if_neg honce]
    rfl

theorem arrayOf?_eq (h : GivesItems members items) :
    Property.arrayOf? (Json.object members).toDatum =
      if KnownOnce ArrayFacets.form.names members then
        (ArrayFacets.ofFields? (known ArrayFacets.form.names members)).map (.array items)
      else none := by
  obtain ⟨value, hlookup, hitems⟩ := h.items_eq
  rw [Property.arrayOf?, fields?_object]
  by_cases honce : KnownOnce ArrayFacets.form.names members
  · rw [if_pos honce, if_pos honce, Option.bind_some, required?, lookup_known (by decide), hlookup]
    show (Property.ofDatum? value.toDatum).bind _ = _
    rw [hitems, Option.bind_some]
  · rw [if_neg honce, if_neg honce, Option.bind_none]

theorem arrayOf?_isSome_iff (h : GivesItems members items) :
    (Property.arrayOf? (Json.object members).toDatum).isSome ↔ ArrayMembers members := by
  rw [h.arrayOf?_eq]
  by_cases honce : KnownOnce ArrayFacets.form.names members
  · rw [if_pos honce, Option.isSome_map, ArrayFacets.ofFields?_isSome_iff h.type_eq]
    constructor
    · rintro ⟨hdescription, hmin, hmax, hunique⟩
      exact ⟨honce, hdescription, hmin, hmax, hunique⟩
    · intro hmembers
      exact ⟨hmembers.description, hmembers.minItems, hmembers.maxItems, hmembers.uniqueItems⟩
  · rw [if_neg honce]
    exact iff_of_false Bool.false_ne_true fun hmembers => honce hmembers.once

theorem ofDatum?_eq (h : GivesItems members items) :
    Property.ofDatum? (Json.object members).toDatum =
      (Property.arrayOf? (Json.object members).toDatum).or
        ((Primitive.ofDatum? (Json.object members).toDatum).map .primitive) := by
  rw [Property.ofDatum?_eq, h.refPath?_eq_none]

theorem ofDatum?_of_members (h : GivesItems members items) (hmembers : ArrayMembers members) :
    ∃ facets, Property.ofDatum? (Json.object members).toDatum = some (.array items facets) := by
  obtain ⟨p, hp⟩ := Option.isSome_iff_exists.mp (h.arrayOf?_isSome_iff.mpr hmembers)
  have harray := h.arrayOf?_eq
  rw [if_pos hmembers.once, hp] at harray
  obtain ⟨facets, -, rfl⟩ := Option.map_eq_some_iff.mp harray.symm
  exact ⟨facets, by rw [h.ofDatum?_eq, hp, Option.some_or]⟩

theorem ofDatum?_of_not_members (h : GivesItems members items)
    (hmembers : ¬ ArrayMembers members) :
    Property.ofDatum? (Json.object members).toDatum =
      (Primitive.ofDatum? (Json.object members).toDatum).map .primitive := by
  have harray : Property.arrayOf? (Json.object members).toDatum = none := by
    rw [← Option.not_isSome_iff_eq_none, h.arrayOf?_isSome_iff]
    exact hmembers
  rw [h.ofDatum?_eq, harray, Option.none_or]

/-- All that is left of the items is that there was an array. -/
theorem type_of_primitive (h : GivesItems members items) {p : Primitive}
    (hp : Property.ofDatum? (Json.object members).toDatum = some (.primitive p)) :
    p.type = some "array" := by
  by_cases harray : ArrayMembers members
  · obtain ⟨facets, hdecoded⟩ := h.ofDatum?_of_members harray
    rw [hdecoded] at hp
    cases hp
  · rw [h.ofDatum?_of_not_members harray, Option.map_eq_some_iff] at hp
    obtain ⟨q, hq, heq⟩ := hp
    rw [← Property.primitive.inj heq]
    exact Primitive.type_of_ofDatum? hq h.type_eq

end GivesItems

/-- What becomes of an array with items. -/
structure ItemsDecided (members : List (String × Json)) (items : Property) : Prop where
  /-- It is read as an array with these items if it is well formed as an array. -/
  kept_iff : (∃ facets, Property.ofDatum? (Json.object members).toDatum =
    some (.array items facets)) ↔ ArrayMembers members
  /-- It is read as a primitive if it is well formed as one, and not in what an array asks for
  besides. -/
  lost_iff : (∃ p, Property.ofDatum? (Json.object members).toDatum = some (.primitive p)) ↔
    PrimitiveMembers members ∧ ¬ OnlyArrayMembers members
  /-- It is refused if it is neither. -/
  refused_iff : Property.ofDatum? (Json.object members).toDatum = none ↔
    ¬ ArrayMembers members ∧ ¬ PrimitiveMembers members
  /-- Whatever the items were, the primitive has the type of an array of anything. -/
  lost : ∀ p, Property.ofDatum? (Json.object members).toDatum = some (.primitive p) →
    p.type = some "array" ∧ ∀ naming : Naming, naming.typeOf (.primitive p) = .ok (.array .any)

/-- **When an array loses its items.** -/
theorem itemsDecided (members : List (String × Json)) (items : Property)
    (h : GivesItems members items) : ItemsDecided members items := by
  have hlost : ∀ p, Property.ofDatum? (Json.object members).toDatum = some (.primitive p) →
      p.type = some "array" ∧ ∀ naming : Naming, naming.typeOf (.primitive p) = .ok (.array .any) := by
    intro p hp
    have htype := h.type_of_primitive hp
    refine ⟨htype, fun naming => ?_⟩
    simp only [Naming.typeOf, TypeExpr.ofPrimitive, htype]
  by_cases harray : ArrayMembers members
  · obtain ⟨facets, hdecoded⟩ := h.ofDatum?_of_members harray
    refine ⟨iff_of_true ⟨facets, hdecoded⟩ harray, ?_, ?_, hlost⟩
    · rw [hdecoded]
      exact iff_of_false (by simp) fun hboth => hboth.2 (hboth.1.arrayMembers_iff.mp harray)
    · rw [hdecoded]
      exact iff_of_false (Option.some_ne_none _) fun hrefused => hrefused.1 harray
  · have hdecoded := h.ofDatum?_of_not_members harray
    have hprimitive : (Primitive.ofDatum? (Json.object members).toDatum).isSome ↔
        PrimitiveMembers members :=
      Primitive.ofDatum?_isSome_iff
    refine ⟨?_, ?_, ?_, hlost⟩
    · rw [hdecoded]
      simp [harray]
    · rw [hdecoded]
      constructor
      · rintro ⟨p, hp⟩
        obtain ⟨q, hq, -⟩ := Option.map_eq_some_iff.mp hp
        have hmembers := hprimitive.mp (Option.isSome_iff_exists.mpr ⟨q, hq⟩)
        exact ⟨hmembers, fun honly => harray (hmembers.arrayMembers_iff.mpr honly)⟩
      · rintro ⟨hmembers, -⟩
        obtain ⟨p, hp⟩ := Option.isSome_iff_exists.mp (hprimitive.mpr hmembers)
        exact ⟨p, by rw [hp, Option.map_some]⟩
    · rw [hdecoded, Option.map_eq_none_iff, ← Option.not_isSome_iff_eq_none, hprimitive,
        and_iff_right harray]

/-- An array of tags that is to have at least minus one of them. -/
def negativeBound : List (String × Json) := [
  ("type", .string "array"),
  ("items", .object [("$ref", .string "#/definitions/Tag")]),
  ("minItems", .int (-1))]

theorem itemsDecided_negativeBound :
    GivesItems negativeBound (.ref "#/definitions/Tag") ∧
      ItemsDecided negativeBound (.ref "#/definitions/Tag") ∧
      ∃ p, Property.ofDatum? (Json.object negativeBound).toDatum = some (.primitive p) := by
  have hgives : GivesItems negativeBound (.ref "#/definitions/Tag") := by
    refine ⟨?_, rfl, _, rfl, ?_⟩
    · intro path hmem
      simp [negativeBound] at hmem
    · rw [Property.ofDatum?_eq]
      rfl
  have hdecided := itemsDecided negativeBound (.ref "#/definitions/Tag") hgives
  refine ⟨hgives, hdecided, hdecided.lost_iff.mpr ⟨?_, ?_⟩⟩
  · have htype : MayBeNull negativeBound "type" Json.IsText :=
      (mayBe_some_iff rfl).mpr (Or.inr ⟨"array", rfl⟩)
    exact ⟨by decide, htype, mayBe_of_none rfl, mayBe_of_none rfl, mayBe_of_none rfl,
      mayBe_of_none rfl⟩
  · intro honly
    rcases honly.minItems (.int (-1)) rfl with hnull | ⟨n, hn⟩
    · cases hnull
    · have heq := Json.int.inj hn
      omega

end SwaggerClient
