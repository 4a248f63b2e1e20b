import Mathlib.Logic.Function.Basic

/-!
# A copy that is kept by recorded changes

A set is changed in one place, and each change that is accepted there is recorded in a copy later
on.  Changes of one member can be recorded in another order than they were accepted in.  The copy
is right in the end when at every moment each member on which the two differ has a change still to
be recorded that says what the set says.
-/

section

variable {κ : Type*}

/-- Every member on which the copy differs from the set has a change to be recorded that says what
the set says. -/
def Mirrors (copy set : κ → Bool) (unrecorded : κ → Bool → Prop) : Prop :=
  ∀ key, copy key = set key ∨ unrecorded key (set key)

namespace Mirrors

variable {copy set set' : κ → Bool} {unrecorded unrecorded' : κ → Bool → Prop} {key : κ}
  {member : Bool}

theorem refl (copy : κ → Bool) (unrecorded : κ → Bool → Prop) : Mirrors copy copy unrecorded :=
  fun _ => .inl rfl

theorem mono (mirrors : Mirrors copy set unrecorded)
    (kept : ∀ key member, unrecorded key member → unrecorded' key member) :
    Mirrors copy set unrecorded' :=
  fun key => (mirrors key).imp_right (kept key (set key))

theorem accept (mirrors : Mirrors copy set unrecorded)
    (changed : ∀ other, set' other = set other ∨ (other = key ∧ set' other = member))
    (kept : ∀ other member, unrecorded other member → unrecorded' other member)
    (entered : unrecorded' key member) : Mirrors copy set' unrecorded' := by
  intro other
  rcases changed other with same | ⟨rfl, taken⟩
  · rw [same]
    exact (mirrors other).imp_right (kept other _)
  · rw [taken]
    exact .inr entered

/-- A change is recorded that says what the set says, or that another change corrects. -/
theorem record [DecidableEq κ] (mirrors : Mirrors copy set unrecorded)
    (agrees : set key = member ∨ unrecorded' key (set key))
    (kept : ∀ other value, unrecorded other value →
      unrecorded' other value ∨ (other = key ∧ value = member)) :
    Mirrors (Function.update copy key member) set unrecorded' := by
  intro other
  by_cases same : other = key
  · subst same
    rw [Function.update_self]
    exact agrees.imp_left Eq.symm
  · rw [Function.update_of_ne same]
    refine (mirrors other).imp_right fun pending => ?_
    exact (kept other _ pending).resolve_right fun clash => same clash.1

theorem settled (mirrors : Mirrors copy set unrecorded)
    (recorded : ∀ key member, ¬unrecorded key member) : copy = set :=
  funext fun key => (mirrors key).resolve_right (recorded key _)

end Mirrors

end
