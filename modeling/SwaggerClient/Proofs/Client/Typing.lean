/-
Typing and localizing agree on every descriptor.

A type is computed from the full path at the leaf, and localizing cuts that path down.  The two go
over the descriptor separately, one to build a type and one to change the descriptor in place, but
they ask the same of the same path.  So one fails exactly if the other does and with the same
fault (`Naming.fault?_typeOf`, `Property.fault?_localize`), and a descriptor that has a type
can be localized.

Cutting can be undone: with the beginning put back every descriptor is what it was
(`Property.restored_of_localize`).  Since the type depends on the leaf and on the number of
arrays around it only (`Naming.exists_leafType`), and cutting changes nothing about the arrays, the
type can be read off the localized descriptor as well.  It mentions the model that the local
path leads to and no other (`Naming.typedAsLocalized`).
-/
import SwaggerClient.Proofs.Client.References
import SwaggerClient.Proofs.Reference.Faults

namespace SwaggerClient

/-! ### Descriptors -/

namespace Property

/-- **With the beginning put back, a localized descriptor is what it was.** -/
theorem restored_of_localize {p q : Property} (h : p.localize = .ok q) :
    q.mapLeaves ("#/definitions" ++ ·) = p ∧
      ∀ path ∈ q.leaves, ∃ n, n ≠ "" ∧ path = "/" ++ n := by
  induction p generalizing q with
  | ref path =>
      rw [localize] at h
      split at h
      · rename_i localized hlocalized
        obtain ⟨n, hn, rfl, rfl⟩ := localPath_eq_ok_iff.mp hlocalized
        rw [← Except.ok.inj h]
        refine ⟨congrArg ref (Schema.restored_path n), fun path hpath => ⟨n, hn, ?_⟩⟩
        exact List.mem_singleton.mp hpath
      · cases h
  | array items facets ih =>
      rw [localize] at h
      split at h
      · rename_i hitems
        obtain ⟨hrestored, hleaves⟩ := ih hitems
        rw [← Except.ok.inj h]
        exact ⟨congrArg (array · facets) hrestored, hleaves⟩
      · cases h
  | primitive facets =>
      rw [localize] at h
      rw [← Except.ok.inj h]
      exact ⟨rfl, fun path hpath => absurd hpath List.not_mem_nil⟩

/-- A leaf is a reference or a primitive. -/
theorem leaf_cases (p : Property) :
    (∃ path, p.leaf = .ref path ∧ p.leaves = [path]) ∨
      ∃ facets, p.leaf = .primitive facets ∧ p.leaves = [] := by
  induction p with
  | ref path => exact Or.inl ⟨path, rfl, rfl⟩
  | array items facets ih => exact ih
  | primitive facets => exact Or.inr ⟨facets, rfl, rfl⟩

end Property

/-! ### Types -/

/-- A type with a number of arrays around it. -/
def TypeExpr.inArrays (t : TypeExpr) : Nat → TypeExpr
  | 0 => t
  | n + 1 => .array (t.inArrays n)

/-- Arrays mention what is in them. -/
theorem TypeExpr.models_inArrays (t : TypeExpr) (n : Nat) : (t.inArrays n).models = t.models := by
  induction n with
  | zero => rfl
  | succ n ih => exact ih

namespace Naming

variable {naming : Naming}

/-- **The type of a descriptor is the type of its leaf in as many arrays.** -/
theorem exists_leafType {p : Property} {t : TypeExpr} (h : naming.typeOf p = .ok t) :
    ∃ leafType, naming.typeOf p.leaf = .ok leafType ∧ t = leafType.inArrays p.arrayDepth := by
  induction p generalizing t with
  | ref path => exact ⟨t, h, rfl⟩
  | array items facets ih =>
      rw [typeOf] at h
      split at h
      · rename_i item hitem
        obtain ⟨leafType, hleaf, hdepth⟩ := ih hitem
        exact ⟨leafType, hleaf, (Except.ok.inj h).symm.trans (congrArg TypeExpr.array hdepth)⟩
      · cases h
  | primitive facets => exact ⟨t, h, rfl⟩

/-- The type of a reference names the model that the path leads to. -/
theorem eq_of_typeOf_ref {n : String} {t : TypeExpr}
    (h : naming.typeOf (.ref (definitionsStart ++ n)) = .ok t) :
    t = .ref (naming.modelName n) := by
  rw [typeOf] at h
  split at h
  · rename_i name hname
    obtain ⟨-, hpath⟩ := definitionName_eq_ok_iff.mp hname
    rw [(String.append_right_inj _).mp hpath]
    exact (Except.ok.inj h).symm
  · cases h

variable (naming)

/-- **Typing has the fault of the leaf,** as localizing has. -/
theorem fault?_typeOf (p : Property) :
    fault? (naming.typeOf p) = p.leaves.findSome? malformed? := by
  induction p with
  | ref path =>
      show _ = [path].findSome? malformed?
      rw [typeOf, List.findSome?_cons, ← fault?_definitionName]
      cases definitionName path with
      | error e => rfl
      | ok name => rfl
  | array items facets ih =>
      show _ = items.leaves.findSome? malformed?
      rw [typeOf, ← ih]
      cases naming.typeOf items with
      | error e => rfl
      | ok item => rfl
  | primitive facets => rfl

/-! ### Both -/

/-- How the type of a descriptor goes together with what localizing leaves of it. -/
structure TypedAsLocalized (p : Property) : Prop where
  /-- Typing fails exactly if localizing does, and both tell the same, -/
  error_iff : ∀ e, naming.typeOf p = .error e ↔ p.localizeInPlace.2 = some e
  /-- which is the path at the leaf. -/
  error_eq : ∀ e, naming.typeOf p = .error e →
    ∃ path, p.leaf = .ref path ∧ ¬IsReference path ∧ e = .malformedReference path
  /-- In this case localizing has changed nothing. -/
  unchanged : ∀ e, naming.typeOf p = .error e → p.localizeInPlace.1 = p
  /-- Otherwise a local path is at the leaf, or a primitive, -/
  leaf_cases : ∀ t, naming.typeOf p = .ok t →
    (∃ n, n ≠ "" ∧ p.localizeInPlace.1.leaf = .ref ("/" ++ n)) ∨
      ∃ facets, p.localizeInPlace.1.leaf = .primitive facets
  /-- and the type mentions the model that the local path leads to, -/
  models_ref : ∀ t n, naming.typeOf p = .ok t →
    p.localizeInPlace.1.leaf = .ref ("/" ++ n) → t.models = [naming.modelName n]
  /-- or none. -/
  models_primitive : ∀ t facets, naming.typeOf p = .ok t →
    p.localizeInPlace.1.leaf = .primitive facets → t.models = []
  /-- With the beginning put back the descriptor is what it was. -/
  restored : ∀ t, naming.typeOf p = .ok t →
    p.localizeInPlace.1.mapLeaves ("#/definitions" ++ ·) = p

/-- **Typing and localizing fail together.** -/
theorem fault?_localize_eq (p : Property) : fault? p.localize = fault? (naming.typeOf p) :=
  p.fault?_localize.trans (naming.fault?_typeOf p).symm

variable {naming}

theorem localizeInPlace_of_error {p : Property} {e : ResolveError}
    (h : naming.typeOf p = .error e) : p.localizeInPlace = (p, some e) := by
  have hfault : p.localize = .error e := by
    rw [← fault?_eq_some_iff, naming.fault?_localize_eq, h, fault?]
  rw [p.localizeInPlace_eq, hfault]

theorem localizeInPlace_of_ok {p : Property} {t : TypeExpr} (h : naming.typeOf p = .ok t) :
    ∃ q, p.localize = .ok q ∧ p.localizeInPlace = (q, none) := by
  obtain ⟨q, hq⟩ : ∃ q, p.localize = .ok q := by
    rw [← fault?_eq_none_iff, naming.fault?_localize_eq, h, fault?]
  refine ⟨q, hq, ?_⟩
  rw [p.localizeInPlace_eq, hq]

/-- The fault of typing names the path at the leaf. -/
theorem malformed_of_typeOf {p : Property} {e : ResolveError} (h : naming.typeOf p = .error e) :
    ∃ path, p.leaf = .ref path ∧ ¬IsReference path ∧ e = .malformedReference path := by
  have hfault : p.leaves.findSome? malformed? = some e := by
    rw [← naming.fault?_typeOf, h, fault?]
  rcases p.leaf_cases with ⟨path, hleaf, hleaves⟩ | ⟨facets, -, hleaves⟩
  · rw [hleaves, List.findSome?_singleton, malformed?] at hfault
    split at hfault
    · cases hfault
    · rename_i hpath
      exact ⟨path, hleaf, hpath, (Option.some.inj hfault).symm⟩
  · rw [hleaves] at hfault
    cases hfault

/-- What a type mentions, told by the localized descriptor. -/
theorem models_of_localize {p q : Property} {t : TypeExpr} (ht : naming.typeOf p = .ok t)
    (hq : p.localize = .ok q) :
    (∀ n, q.leaf = .ref ("/" ++ n) → t.models = [naming.modelName n]) ∧
      ∀ facets, q.leaf = .primitive facets → t.models = [] := by
  obtain ⟨hrestored, -⟩ := Property.restored_of_localize hq
  obtain ⟨leafType, hleaf, rfl⟩ := exists_leafType ht
  rw [← hrestored, Property.leaf_mapLeaves] at hleaf
  rw [TypeExpr.models_inArrays]
  constructor
  · intro n hn
    rw [hn, Property.mapLeaves, Schema.restored_path] at hleaf
    rw [eq_of_typeOf_ref hleaf]
    rfl
  · intro facets hfacets
    rw [hfacets, Property.mapLeaves, typeOf] at hleaf
    rw [← Except.ok.inj hleaf, TypeExpr.models_ofPrimitive]

/-- **Typing and localizing agree on every descriptor,** however deep its arrays are. -/
theorem typedAsLocalized (naming : Naming) (p : Property) : naming.TypedAsLocalized p where
  error_iff e := by
    constructor
    · intro h
      rw [localizeInPlace_of_error h]
    · intro h
      cases ht : naming.typeOf p with
      | error e' =>
          rw [localizeInPlace_of_error ht] at h
          rw [Option.some.inj h]
      | ok t =>
          obtain ⟨q, -, hplace⟩ := localizeInPlace_of_ok ht
          rw [hplace] at h
          cases h
  error_eq _ h := malformed_of_typeOf h
  unchanged _ h := by rw [localizeInPlace_of_error h]
  leaf_cases t ht := by
    obtain ⟨q, hq, hplace⟩ := localizeInPlace_of_ok ht
    obtain ⟨-, hlocal⟩ := Property.restored_of_localize hq
    rw [hplace]
    rcases q.leaf_cases with ⟨path, hleaf, hleaves⟩ | ⟨facets, hleaf, -⟩
    · obtain ⟨n, hn, rfl⟩ := hlocal path (by rw [hleaves]; exact List.mem_cons_self)
      exact Or.inl ⟨n, hn, hleaf⟩
    · exact Or.inr ⟨facets, hleaf⟩
  models_ref t n ht hleaf := by
    obtain ⟨q, hq, hplace⟩ := localizeInPlace_of_ok ht
    rw [hplace] at hleaf
    exact (models_of_localize ht hq).1 n hleaf
  models_primitive t facets ht hleaf := by
    obtain ⟨q, hq, hplace⟩ := localizeInPlace_of_ok ht
    rw [hplace] at hleaf
    exact (models_of_localize ht hq).2 facets hleaf
  restored t ht := by
    obtain ⟨q, hq, hplace⟩ := localizeInPlace_of_ok ht
    rw [hplace]
    exact (Property.restored_of_localize hq).1

/-- A reference in two arrays, and a path without a name at the same place. -/
theorem typedAsLocalized_grid :
    (∃ t, Config.standard.naming.typeOf
        (.array (.array (.ref "#/definitions/pet_tag") {}) {}) = .ok t ∧ t.models = ["PetTag"]) ∧
      (Property.array (.array (.ref "#/definitions/") {}) {}).localizeInPlace =
        (.array (.array (.ref "#/definitions/") {}) {},
          some (.malformedReference "#/definitions/")) := by
  have htag : Config.standard.naming.modelName "pet_tag" = "PetTag" := by decide +kernel
  have hgood := typedAsLocalized Config.standard.naming
    (.array (.array (.ref "#/definitions/pet_tag") {}) {})
  have hbad := typedAsLocalized Config.standard.naming
    (.array (.array (.ref "#/definitions/") {}) {})
  have hpath : Config.standard.naming.typeOf (.array (.array (.ref "#/definitions/") {}) {}) =
      .error (.malformedReference "#/definitions/") := by
    decide +kernel
  have htype : Config.standard.naming.typeOf
      (.array (.array (.ref "#/definitions/pet_tag") {}) {}) =
      .ok (.array (.array (.ref "PetTag"))) := by
    decide +kernel
  have hlocal : localPath "#/definitions/pet_tag" = .ok ("/" ++ "pet_tag") := by decide +kernel
  refine ⟨⟨_, htype, ?_⟩, Prod.ext (hbad.unchanged _ hpath) ((hbad.error_iff _).mp hpath)⟩
  rw [hgood.models_ref _ "pet_tag" htype ?_, htag]
  rw [Property.localizeInPlace, Property.localizeInPlace, Property.localizeInPlace, hlocal]
  rfl

end Naming

end SwaggerClient
