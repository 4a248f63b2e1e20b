import SecurityGuard.Define
import SecurityGuard.Foundation.SortedMap

/-!
# One death of the service

While the service dies only once, a client notices at most one death and starts at most one
recovery.
-/

namespace SecurityGuard

/-- The service has not died more than once: at most one notice or one recovery is about, and none
before the first death. -/
structure SingleDeath (service : Option Address) (started notices : SortedSet Address)
    (recoveries : Nat) : Prop where
  live : ∀ object, service = some object → started.contains object = true
  one : notices.size + recoveries ≤ 1
  first : started.size = 0 ∨ (service.isSome = true ∧ started.size ≤ 1) →
    notices.size + recoveries = 0

namespace SingleDeath

variable {service : Option Address} {started notices : SortedSet Address} {recoveries : Nat}
  {object : Address}

theorem starts (single : SingleDeath service started notices recoveries)
    (fresh : started.contains object = false) :
    SingleDeath (some object) (started.insert object ()) notices recoveries where
  live := by
    intro other same
    obtain rfl := Option.some.inj same
    simp
  one := single.one
  first := by
    have size := SortedMap.size_insert_of_fresh () fresh
    intro early
    exact single.first (.inl (by omega))

/-- The first instance dies, which is noticed or not. -/
theorem dies (single : SingleDeath service started notices recoveries)
    (alive : service = some object) (once : started.size ≤ 1) {noticed : SortedSet Address}
    (within : noticed = notices ∨ noticed = notices.insert object ()) :
    SingleDeath none started noticed recoveries where
  live := fun _ found => absurd found (by simp)
  one := by
    have none := single.first (.inr ⟨by simp [alive], once⟩)
    rcases within with rfl | rfl
    · omega
    · have size := SortedMap.size_insert_le notices object ()
      omega
  first := by
    have some := SortedMap.size_erase (single.live object alive)
    rintro (unstarted | ⟨alive, _⟩)
    · omega
    · exact absurd alive (by simp)

variable {Task : Type} {tasks : SortedMap Nat Task} {id : Nat}

/-- The notice of a death starts the only recovery, and no notice is left. -/
theorem begins (single : SingleDeath service started notices tasks.size)
    (found : notices.contains object = true) (id : Nat) (task : Task) :
    SingleDeath service started (notices.erase object) (tasks.insert id task).size ∧
      (notices.erase object).size = 0 ∧
        ∀ other task', (tasks.insert id task).get? other = some task' → task' = task := by
  have notice := SortedMap.size_erase found
  have one := single.one
  have none : tasks.size = 0 := by omega
  have fresh := SortedMap.contains_eq_false_of_size none id
  have begun := SortedMap.size_insert_of_fresh task fresh
  refine ⟨⟨single.live, by omega, fun early => ?_⟩, by omega, fun other task' present => ?_⟩
  · have first := single.first early
    omega
  · rcases SortedMap.get?_insert_eq_some.mp present with ⟨_, same⟩ | ⟨_, before⟩
    · exact same.symm
    · exact absurd before (by simp [SortedMap.get?_eq_none_of_size none])

/-- A recovery goes on as the only one, and no notice is about. -/
theorem goesOn (single : SingleDeath service started notices tasks.size) {current : Task}
    (found : tasks.get? id = some current) (next : Task) :
    SingleDeath service started notices (tasks.insert id next).size ∧ notices.size = 0 ∧
      ∀ other task, (tasks.insert id next).get? other = some task → task = next := by
  have bound := SortedMap.contains_iff.mpr ⟨current, found⟩
  have some := SortedMap.size_erase bound
  have one := single.one
  refine ⟨?_, by omega, fun other task present => ?_⟩
  · rw [SortedMap.size_insert_of_bound bound]
    exact single
  · rcases SortedMap.get?_insert_eq_some.mp present with ⟨_, same⟩ | ⟨different, before⟩
    · exact same.symm
    · have same := SortedMap.eq_of_size_le_one (by omega) bound
        (SortedMap.contains_iff.mpr ⟨task, before⟩)
      exact absurd same different

end SingleDeath

end SecurityGuard
