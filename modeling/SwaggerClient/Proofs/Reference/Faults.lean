/-
Which paths are faulty, and which of them is told.

Whatever goes through paths in order and stops at the first fault tells the first path that
is no reference.  So the fault of a walk is known from the list of the leaves alone: for one
descriptor (`Property.fault?_localize`) and for a whole schema (`Schema.fault_localize`).
-/
import SwaggerClient.Proofs.Reference.Localizing
import SwaggerClient.Proofs.Outcome

namespace SwaggerClient

/-! ### Paths -/

theorem isReference_iff {path : String} :
    IsReference path ↔ ∃ name, definitionName path = .ok name :=
  exists_congr fun _ => definitionName_eq_ok_iff.symm

instance (path : String) : Decidable (IsReference path) :=
  decidable_of_iff (fault? (definitionName path) = none)
    (fault?_eq_none_iff.trans isReference_iff.symm)

/-- The fault of a path that is no reference. -/
def malformed? (path : String) : Option ResolveError :=
  if IsReference path then none else some (.malformedReference path)

theorem malformed?_eq_none_iff {path : String} : malformed? path = none ↔ IsReference path := by
  unfold malformed?
  by_cases h : IsReference path
  · simp [h]
  · simp [h]

theorem fault?_definitionName (path : String) : fault? (definitionName path) = malformed? path := by
  unfold malformed?
  by_cases h : IsReference path
  · rw [if_pos h]
    exact fault?_eq_none_iff.mpr (isReference_iff.mp h)
  · rw [if_neg h, definitionName_of_not_isReference h]
    rfl

theorem fault?_localPath (path : String) : fault? (localPath path) = malformed? path := by
  rw [← fault?_definitionName, localPath]
  cases definitionName path with
  | error e => rfl
  | ok name => rfl

/-- **A walk over paths tells the first one that is no reference.** -/
theorem fault_localPaths (paths : List String) :
    (localPaths paths).2 = paths.findSome? malformed? := by
  induction paths with
  | nil => rfl
  | cons path paths ih =>
      rw [localPaths, List.findSome?_cons, ← ih, ← fault?_localPath]
      cases localPath path with
      | error e => rfl
      | ok q => rfl

/-! ### Descriptors and schemas -/

theorem Property.fault?_localize (p : Property) :
    fault? p.localize = p.leaves.findSome? malformed? := by
  rw [← fault_localPaths]
  cases h : p.localize with
  | error e => rw [leaves_localize_error h, fault?]
  | ok q => rw [leaves_localize_ok h, fault?]

theorem Schema.fault_localize (s : Schema) :
    s.localize.2 = s.leaves.findSome? malformed? := by
  rw [← fault_localPaths, s.leaves_localize]

end SwaggerClient
