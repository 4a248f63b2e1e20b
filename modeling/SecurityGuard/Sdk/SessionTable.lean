import SecurityGuard.Define
import SecurityGuard.Foundation.SortedMap

/-!
# The sessions of one client

A service creates a session for a client and keeps it until the client destroys it.  A session
ends with the instance of the service that created it, and an instance refuses a second session
for a callback that has one.
-/

namespace SecurityGuard

/-- The sessions that the instances of the service have created for a client. -/
structure SessionTable where
  /-- The object of the instance that created a session. -/
  creator : SortedMap Address Address := .empty
  /-- The sessions that have received `Destroy`. -/
  destroyed : SortedSet Address := .empty

namespace SessionTable

variable (table : SessionTable) (service : Option Address)

/-- The current instance has created the session and not been asked to destroy it. -/
def isOpen (session : Address) : Bool :=
  service.isSome && decide (table.creator.get? session = service) &&
    !table.destroyed.contains session

/-- Create a session at a fresh address, on an instance that is alive and has none. -/
def create? (object session : Address) : Option SessionTable :=
  if service = some object ∧ table.creator.get? session = none ∧
      table.creator.keys.all (fun other => !table.isOpen service other) then
    some { table with creator := table.creator.insert session object }
  else none

/-- `Destroy`, which reaches a session only while its instance is alive. -/
def destroy (session : Address) : SessionTable :=
  if table.isOpen service session then
    { table with destroyed := table.destroyed.insert session () }
  else table

/-- Every session of the current instance has received `Destroy`. -/
def AllDestroyed : Prop :=
  ∀ session object, service = some object → table.creator.get? session = some object →
    table.destroyed.contains session = true

/-- Every session was created by an instance that has been started. -/
def Within (started : SortedSet Address) : Prop :=
  ∀ session object, table.creator.get? session = some object → started.contains object = true

variable {table service} {session other object : Address}

theorem isOpen_iff :
    table.isOpen service session = true ↔
      ∃ object, service = some object ∧ table.creator.get? session = some object ∧
        table.destroyed.contains session = false := by
  cases service <;> simp [isOpen]

theorem AllDestroyed.of_closed (closed : ∀ session, ¬table.isOpen service session = true) :
    table.AllDestroyed service := by
  intro session object alive created
  by_contra undestroyed
  exact closed session (isOpen_iff.mpr ⟨object, alive, created, by simpa using undestroyed⟩)

theorem isOpen_none : table.isOpen none session = false := rfl

theorem Within.isOpen_fresh {started : SortedSet Address} (within : table.Within started)
    (fresh : started.contains object = false) : table.isOpen (some object) session = false := by
  by_contra found
  obtain ⟨object', same, created, _⟩ := isOpen_iff.mp (by simpa using found)
  obtain rfl := Option.some.inj same
  exact absurd (within session object created) (by simp [fresh])

variable {created : SessionTable}

theorem create?_eq_some :
    table.create? service object session = some created ↔
      service = some object ∧ table.creator.get? session = none ∧
        (∀ other, table.isOpen service other = false) ∧
          { table with creator := table.creator.insert session object } = created := by
  have vacant : table.creator.keys.all (fun other => !table.isOpen service other) = true ↔
      ∀ other, table.isOpen service other = false := by
    simp only [List.all_eq_true, Bool.not_eq_true']
    constructor
    · intro each other
      by_contra found
      obtain ⟨object, _, bound, _⟩ := isOpen_iff.mp (by simpa using found)
      exact found (each other (SortedMap.mem_keys_iff.mpr (SortedMap.contains_iff.mpr ⟨_, bound⟩)))
    · exact fun none other _ => none other
  rw [create?]
  split_ifs with possible
  · obtain ⟨alive, fresh, none⟩ := possible
    constructor
    · exact fun made => ⟨alive, fresh, vacant.mp none, Option.some.inj made⟩
    · rintro ⟨_, _, _, rfl⟩
      rfl
  · simp only [false_iff]
    rintro ⟨alive, fresh, none, _⟩
    exact possible ⟨alive, fresh, vacant.mpr none⟩

theorem isOpen_of_create? (made : table.create? service object session = some created)
    (found : created.isOpen service other = true) : other = session := by
  obtain ⟨alive, _, none, rfl⟩ := create?_eq_some.mp made
  obtain ⟨object', here, bound, kept⟩ := isOpen_iff.mp found
  by_contra different
  rw [SortedMap.get?_insert, if_neg different] at bound
  have before := isOpen_iff.mpr ⟨object', here, bound, kept⟩
  exact absurd before (by simp [none other])

theorem Within.create? {started : SortedSet Address} (within : table.Within started)
    (here : started.contains object = true)
    (made : table.create? service object session = some created) : created.Within started := by
  obtain ⟨_, _, _, rfl⟩ := create?_eq_some.mp made
  intro other object' bound
  rcases SortedMap.get?_insert_eq_some.mp bound with ⟨_, rfl⟩ | ⟨_, bound⟩
  · exact here
  · exact within other object' bound

@[simp]
theorem creator_destroy (table : SessionTable) (service : Option Address) (session : Address) :
    (table.destroy service session).creator = table.creator := by
  rw [destroy]
  split_ifs <;> rfl

theorem Within.destroy {started : SortedSet Address} (within : table.Within started)
    (service : Option Address) (session : Address) :
    (table.destroy service session).Within started := by
  rw [Within, creator_destroy]
  exact within

theorem isOpen_destroy :
    (table.destroy service session).isOpen service other = true ↔
      other ≠ session ∧ table.isOpen service other = true := by
  rw [destroy]
  split_ifs with here
  · rw [isOpen_iff, isOpen_iff]
    dsimp only
    by_cases same : other = session <;> simp [same]
  · constructor
    · intro found
      refine ⟨?_, found⟩
      rintro rfl
      exact here found
    · exact fun found => found.2

end SessionTable

end SecurityGuard
