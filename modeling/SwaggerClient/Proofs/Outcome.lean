/-
Steps that may fail.

A pass is a chain of steps in `Except`, and most steps run over a list.  The
statements here take such a chain apart: a step after a step succeeds exactly if both
do, and a run over a list succeeds exactly if it does on every element, with the results
in order.  Where it fails, its fault is the first one that an element has
(`fault?_mapM`).  Two runs can be compared without being taken apart, if their steps have one
outcome each (`sameOutcome_mapM`).
-/
import Mathlib.Data.List.Forall2

namespace SwaggerClient

variable {ε α β : Type}

/-- Two steps in a row succeed exactly if both do. -/
theorem bind_eq_ok_iff {first : Except ε α} {next : α → Except ε β} {b : β} :
    first >>= next = .ok b ↔ ∃ a, first = .ok a ∧ next a = .ok b := by
  cases first with
  | error e =>
      constructor
      · intro h
        cases h
      · rintro ⟨a, ha, -⟩
        cases ha
  | ok a =>
      constructor
      · intro h
        exact ⟨a, rfl, h⟩
      · rintro ⟨a', ha, h⟩
        rw [Except.ok.inj ha]
        exact h

/-- **A run over a list succeeds exactly if every element does.** -/
theorem mapM_eq_ok_iff {f : α → Except ε β} {l : List α} {r : List β} :
    l.mapM f = .ok r ↔ List.Forall₂ (fun a b => f a = .ok b) l r := by
  induction l generalizing r with
  | nil =>
      rw [List.mapM_nil, List.forall₂_nil_left_iff]
      exact ⟨fun h => (Except.ok.inj h).symm, fun h => h ▸ rfl⟩
  | cons a l ih =>
      rw [List.mapM_cons, List.forall₂_cons_left_iff, bind_eq_ok_iff]
      constructor
      · rintro ⟨b, hb, h⟩
        obtain ⟨bs, hbs, h⟩ := bind_eq_ok_iff.mp h
        exact ⟨b, bs, hb, ih.mp hbs, (Except.ok.inj h).symm⟩
      · rintro ⟨b, bs, hb, hbs, rfl⟩
        exact ⟨b, hb, bind_eq_ok_iff.mpr ⟨bs, ih.mpr hbs, rfl⟩⟩

/-- Steps that do no less yield the same on a list that the others get through. -/
theorem mapM_mono {f g : α → Except ε β} (hstep : ∀ a b, f a = .ok b → g a = .ok b) {l : List α}
    {r : List β} (h : l.mapM f = .ok r) : l.mapM g = .ok r :=
  mapM_eq_ok_iff.mpr ((mapM_eq_ok_iff.mp h).imp hstep)

/-- What a run lists is what its elements list, if every step says so. -/
theorem flatMap_of_mapM {γ : Type} {f : α → Except ε β} {out : β → List γ} {src : α → List γ}
    (hstep : ∀ a b, f a = .ok b → out b = src a) {l : List α} {r : List β}
    (h : l.mapM f = .ok r) : r.flatMap out = l.flatMap src := by
  rw [mapM_eq_ok_iff] at h
  induction h with
  | nil => rfl
  | cons hab _ ih => rw [List.flatMap_cons, List.flatMap_cons, hstep _ _ hab, ih]

/-- Results agree with their elements on what every step keeps. -/
theorem map_of_mapM {γ : Type} {f : α → Except ε β} {out : β → γ} {src : α → γ}
    (hstep : ∀ a b, f a = .ok b → out b = src a) {l : List α} {r : List β}
    (h : l.mapM f = .ok r) : r.map out = l.map src := by
  rw [mapM_eq_ok_iff] at h
  induction h with
  | nil => rfl
  | cons hab _ ih => rw [List.map_cons, List.map_cons, hstep _ _ hab, ih]

/-- A run that succeeds skips nothing. -/
theorem filterMap_of_mapM {f : α → Except ε β} {l : List α} {r : List β}
    (h : l.mapM f = .ok r) : l.filterMap (fun a => (f a).toOption) = r := by
  rw [mapM_eq_ok_iff] at h
  induction h with
  | nil => rfl
  | cons hab _ ih =>
      rw [List.filterMap_cons, hab, ih]
      rfl

/-- In lists that run in step, what is on the right has its partner on the left. -/
theorem exists_of_mem_right {R : α → β → Prop} {l : List α} {r : List β}
    (h : List.Forall₂ R l r) {b : β} (hb : b ∈ r) : ∃ a ∈ l, R a b := by
  induction h with
  | nil => exact absurd hb List.not_mem_nil
  | cons hab _ ih =>
      rcases List.mem_cons.mp hb with rfl | hb
      · exact ⟨_, List.mem_cons_self, hab⟩
      · obtain ⟨a, ha, hR⟩ := ih hb
        exact ⟨a, List.mem_cons_of_mem _ ha, hR⟩

/-- In lists that run in step, what is on the left has its partner on the right. -/
theorem exists_of_mem_left {R : α → β → Prop} {l : List α} {r : List β}
    (h : List.Forall₂ R l r) {a : α} (ha : a ∈ l) : ∃ b ∈ r, R a b :=
  exists_of_mem_right h.flip ha

/-- Lists that run in step agree on what every two partners agree on. -/
theorem map_eq_of_forall₂ {γ : Type} {R : α → β → Prop} {f : α → γ} {g : β → γ}
    (hR : ∀ a b, R a b → g b = f a) {l : List α} {r : List β} (h : List.Forall₂ R l r) :
    r.map g = l.map f := by
  induction h with
  | nil => rfl
  | cons hab _ ih => rw [List.map_cons, List.map_cons, hR _ _ hab, ih]

/-- Two runs in a row over a list run in step from end to end. -/
theorem forall₂_trans {γ : Type} {R : α → β → Prop} {S : β → γ → Prop} {T : α → γ → Prop}
    (hT : ∀ a b c, R a b → S b c → T a c) {l : List α} {r : List β} {s : List γ}
    (h : List.Forall₂ R l r) (h' : List.Forall₂ S r s) : List.Forall₂ T l s := by
  induction h generalizing s with
  | nil =>
      cases h'
      exact List.Forall₂.nil
  | cons hab _ ih =>
      cases h' with
      | cons hbc h' => exact List.Forall₂.cons (hT _ _ _ hab hbc) (ih h')

/-- Naming the place of a fault changes nothing about success. -/
theorem mapError_eq_ok_iff {ε' : Type} {f : ε → ε'} {x : Except ε α} {a : α} :
    x.mapError f = .ok a ↔ x = .ok a := by
  cases x with
  | error e =>
      constructor
      · intro h
        cases h
      · intro h
        cases h
  | ok b => rw [Except.mapError, Except.ok.injEq, Except.ok.injEq]

/-- What is left of an outcome without its fault is a success. -/
theorem toOption_eq_some_iff {x : Except ε α} {a : α} : x.toOption = some a ↔ x = .ok a := by
  cases x with
  | error e => simp [Except.toOption]
  | ok b => simp [Except.toOption]

/-- What is seen of a result is seen of a success. -/
theorem exists_ok_of_map {x : Except ε α} {view : α → β} {b : β}
    (h : x.toOption.map view = some b) : ∃ a, x = .ok a ∧ view a = b := by
  obtain ⟨a, ha, hview⟩ := Option.map_eq_some_iff.mp h
  exact ⟨a, toOption_eq_some_iff.mp ha, hview⟩

/-! ### Faults -/

/-- Why a step failed. -/
def fault? : Except ε α → Option ε
  | .error e => some e
  | .ok _ => none

theorem fault?_eq_some_iff {x : Except ε α} {e : ε} : fault? x = some e ↔ x = .error e := by
  cases x with
  | error e' => simp [fault?]
  | ok a => simp [fault?]

theorem fault?_eq_none_iff {x : Except ε α} : fault? x = none ↔ ∃ a, x = .ok a := by
  cases x with
  | error e => simp [fault?]
  | ok a => simp [fault?]

/-- **A run over a list has the first fault of an element.** -/
theorem fault?_mapM (f : α → Except ε β) (l : List α) :
    fault? (l.mapM f) = l.findSome? fun a => fault? (f a) := by
  induction l with
  | nil => rfl
  | cons a l ih =>
      rw [List.mapM_cons, List.findSome?_cons, ← ih]
      cases f a with
      | error e => rfl
      | ok b =>
          cases l.mapM f with
          | error e => rfl
          | ok bs => rfl

/-- A run over a list succeeds if every element does. -/
theorem exists_mapM_iff {f : α → Except ε β} {l : List α} :
    (∃ r, l.mapM f = .ok r) ↔ ∀ a ∈ l, ∃ b, f a = .ok b := by
  simp only [← fault?_eq_none_iff, fault?_mapM, List.findSome?_eq_none_iff]

/-- The first of something that lists have in a row. -/
theorem findSome?_flatMap {γ : Type} (f : α → List β) (g : β → Option γ) (l : List α) :
    (l.flatMap f).findSome? g = l.findSome? fun a => (f a).findSome? g := by
  induction l with
  | nil => rfl
  | cons a l ih =>
      rw [List.flatMap_cons, List.findSome?_append, List.findSome?_cons, ih]
      cases (f a).findSome? g with
      | none => rfl
      | some c => rfl

/-- The place of a fault is told with it. -/
theorem fault?_mapError {ε' : Type} (f : ε → ε') (x : Except ε α) :
    fault? (x.mapError f) = (fault? x).map f := by
  cases x with
  | error e => rfl
  | ok a => rfl

/-! ### Two runs -/

/-- Steps with one outcome: the same fault, or results that are related. -/
inductive SameOutcome (R : α → β → Prop) : Except ε α → Except ε β → Prop
  | error (e : ε) : SameOutcome R (.error e) (.error e)
  | ok {a : α} {b : β} (h : R a b) : SameOutcome R (.ok a) (.ok b)

/-- **Runs over two lists have one outcome if they do in step.** -/
theorem sameOutcome_mapM {γ δ : Type} {R : γ → δ → Prop} {f : α → Except ε γ}
    {g : β → Except ε δ} {l : List α} {r : List β}
    (h : List.Forall₂ (fun a b => SameOutcome R (f a) (g b)) l r) :
    SameOutcome (List.Forall₂ R) (l.mapM f) (r.mapM g) := by
  induction h with
  | nil => exact .ok .nil
  | @cons a b l r hab _ ih =>
      rw [List.mapM_cons, List.mapM_cons]
      generalize f a = first, g b = first' at hab
      generalize l.mapM f = rest, r.mapM g = rest' at ih
      cases hab with
      | error e => exact .error e
      | ok hR =>
          cases ih with
          | error e => exact .error e
          | ok hrest => exact .ok (.cons hR hrest)

/-- Runs that do the same in step do the same. -/
theorem mapM_eq_of_forall₂ {γ : Type} {f : α → Except ε γ} {g : β → Except ε γ} {l : List α}
    {r : List β} (h : List.Forall₂ (fun a b => g b = f a) l r) : r.mapM g = l.mapM f := by
  induction h with
  | nil => rfl
  | cons hab _ ih => rw [List.mapM_cons, List.mapM_cons, hab, ih]

end SwaggerClient
