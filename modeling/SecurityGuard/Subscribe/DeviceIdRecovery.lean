import SecurityGuard.Subscribe.DeviceId

/-!
# What the cache of the device id says when nothing is in progress

A valid cache is to hold an id of a registered device manager, and an invalid one is to have a
loop that fetches the id again.  Both fail in narrow windows: `InitDeviceId` marks the cache valid
in a step of its own, after an `InvalidateDeviceId` may have emptied it, and a loop that has seen a
valid cache still holds `deviceIdRefreshInFlight_` when the next recovery asks for a loop.  Outside
of these windows no order of steps loses the id.
-/

namespace SecurityGuard

namespace DeviceIdRecovery

namespace Stage

/-- The next step marks the cache invalid. -/
def invalidates : Stage → Bool
  | .invalidateDeviceId .invalidate _ => true
  | _ => false

/-- The next step empties the cache. -/
def clears : Stage → Bool
  | .invalidateDeviceId .clear _ => true
  | _ => false

/-- The call has still to see to it that a loop runs. -/
def starts : Stage → Bool
  | .invalidateDeviceId _ .startDeviceIdRecovery | .startDeviceIdRecovery _ => true
  | _ => false

end Stage

/-- A call has its next step of some kind. -/
def Pending (kind : Stage → Bool) (calls : SortedMap CallId Stage) : Prop :=
  calls.Has fun stage => kind stage = true

instance (kind : Stage → Bool) (calls : SortedMap CallId Stage) : Decidable (Pending kind calls) :=
  inferInstanceAs (Decidable (calls.Has _))

namespace Members

/-- The cache holds an id, of a device manager that is registered. -/
def Holds (members : Members) : Prop :=
  members.isDeviceManagerInit = true ∧ members.deviceId ≠ ""

instance (members : Members) : Decidable members.Holds := inferInstanceAs (Decidable (_ ∧ _))

/-- A loop will test the cache again. -/
def retrying (members : Members) : Bool :=
  !members.isStopDeviceIdRecovery &&
    members.deviceIdRecoveryThread.any fun loop => decide (loop.stage ≠ .clearInFlight)

/-- The cache holds an id that no call is about to remove, or a call is about to mark it
invalid. -/
def Sound (members : Members) (calls : SortedMap CallId Stage) : Prop :=
  Pending Stage.invalidates calls ∨ (members.Holds ∧ ¬Pending Stage.clears calls)

instance (members : Members) (calls : SortedMap CallId Stage) : Decidable (members.Sound calls) :=
  inferInstanceAs (Decidable (_ ∨ _))

/-- A loop runs, or a call is to start one. -/
def Covered (members : Members) (calls : SortedMap CallId Stage) : Prop :=
  Pending Stage.starts calls ∨ members.retrying = true

instance (members : Members) (calls : SortedMap CallId Stage) :
    Decidable (members.Covered calls) :=
  inferInstanceAs (Decidable (_ ∨ _))

/-! ## The windows -/

/-- `InitDeviceId` marks the cache valid only while it holds an id and is not about to be emptied,
and unregisters the device manager only while the cache is invalid; or the cache is about to be
marked invalid. -/
def Timely (members : Members) (calls : SortedMap CallId Stage) : InitStage → Prop
  | .unregister => members.deviceIdValid = false ∨ Pending Stage.invalidates calls
  | .validate => members.Sound calls
  | _ => True

instance (members : Members) (calls : SortedMap CallId Stage) :
    ∀ stage, Decidable (members.Timely calls stage)
  | .unregister => inferInstanceAs (Decidable (_ ∨ _))
  | .validate => inferInstanceAs (Decidable (members.Sound calls))
  | .register | .initDeviceManager | .getLocalDeviceInfo | .store _ =>
      inferInstanceAs (Decidable True)

/-- While a recovery is due the cache is invalidated, and the start of a loop given up, only where
a loop is seen to by others. -/
def Orderly (members : Members) (others : SortedMap CallId Stage) (recoveryDue : Bool) :
    Stage → Prop
  | .initDeviceId stage => members.Timely others stage
  | .invalidateDeviceId .invalidate after =>
      after = .startDeviceIdRecovery ∨ recoveryDue = false ∨ members.Covered others
  | .startDeviceIdRecovery .exchangeInFlight =>
      members.deviceIdRefreshInFlight = false ∨ recoveryDue = false ∨
        members.deviceIdValid = true ∨ members.Covered others
  | _ => True

instance (members : Members) (others : SortedMap CallId Stage) (recoveryDue : Bool) :
    ∀ stage, Decidable (members.Orderly others recoveryDue stage)
  | .initDeviceId stage => inferInstanceAs (Decidable (members.Timely others stage))
  | .invalidateDeviceId .invalidate _ | .startDeviceIdRecovery .exchangeInFlight =>
      inferInstanceAs (Decidable (_ ∨ _))
  | .invalidateDeviceId .unregister _ | .invalidateDeviceId .clear _
  | .startDeviceIdRecovery .testValid | .startDeviceIdRecovery .spawn
  | .stopDeviceIdRecovery _ | .unInitDeviceManager => inferInstanceAs (Decidable True)

end Members

/-- The next step of the `InitDeviceId` in which a loop is. -/
def Loop.initStage? (loop : Loop) : Option InitStage :=
  match loop.stage with
  | .initDeviceId stage => some stage
  | _ => none

namespace System

/-- The step stays out of the windows. -/
def Permits (system : System) : Action → Prop
  | .proceed id _ =>
      ∀ stage, system.calls.get? id = some stage →
        system.members.Orderly (system.calls.erase id) system.recoveryDue stage
  | .loop _ =>
      ∀ stage, system.members.deviceIdRecoveryThread.bind Loop.initStage? = some stage →
        system.members.Timely system.calls stage
  | _ => True

instance (system : System) : ∀ action, Decidable (system.Permits action)
  | .proceed id _ =>
      inferInstanceAs (Decidable (∀ stage ∈ system.calls.get? id,
        system.members.Orderly (system.calls.erase id) system.recoveryDue stage))
  | .loop _ =>
      inferInstanceAs (Decidable
        (∀ stage ∈ system.members.deviceIdRecoveryThread.bind Loop.initStage?,
          system.members.Timely system.calls stage))
  | .initDeviceId _ | .invalidateDeviceId _ | .recoverDeviceId _ | .refreshDeviceIdAsync _
  | .deInitDeviceId _ => inferInstanceAs (Decidable True)

/-- No call and no loop is between two steps. -/
def Idle (system : System) : Prop :=
  system.calls = .empty ∧
    ∀ loop, system.members.deviceIdRecoveryThread = some loop →
      loop.stage = .testStop ∨ ∃ slept, loop.stage = .sleep slept

/-- Nothing is lost: when nothing is in progress a valid cache holds an id, and an invalid one has
a loop when a recovery is due. -/
def Recovers (system : System) : Prop :=
  system.Idle →
    (system.members.deviceIdValid = true → system.members.Holds) ∧
      (system.recoveryDue = true → system.members.deviceIdValid = false →
        system.members.deviceIdRecoveryThread.isSome = true)

/-- What holds at all times, while calls are in progress. -/
structure Consistent (system : System) : Prop where
  valid : system.members.deviceIdValid = true → system.members.Sound system.calls
  due : system.recoveryDue = true → system.members.deviceIdValid = false →
    system.members.Covered system.calls

variable {system after : System}

theorem consistent_initial : Consistent {} where
  valid := fun valid => absurd valid (by simp)
  due := fun due => absurd due (by simp)

end System

theorem pending_of_get? {calls : SortedMap CallId Stage} {id : CallId} {stage : Stage}
    (found : calls.get? id = some stage) (kind : Stage → Bool) :
    Pending kind calls ↔ kind stage = true ∨ Pending kind (calls.erase id) :=
  SortedMap.has_of_get? found _

theorem pending_replace (calls : SortedMap CallId Stage) (id : CallId) (next : Option Stage)
    (kind : Stage → Bool) :
    Pending kind (calls.replace id next) ↔
      next.any kind = true ∨ Pending kind (calls.erase id) := by
  rw [Pending, SortedMap.has_replace, Option.any_eq_true]
  rfl

namespace Members

variable {members : Members} {calls : SortedMap CallId Stage}

theorem initDeviceId_frame (members : Members) (answer : Answer) (stage : InitStage) :
    (members.initDeviceId answer stage).1.isStopDeviceIdRecovery =
        members.isStopDeviceIdRecovery ∧
      (members.initDeviceId answer stage).1.deviceIdRecoveryThread =
          members.deviceIdRecoveryThread ∧
        (members.deviceIdValid = true →
          (members.initDeviceId answer stage).1.deviceIdValid = true) := by
  cases stage with
  | register =>
      rw [initDeviceId]
      split_ifs <;> exact ⟨rfl, rfl, fun valid => valid⟩
  | validate => exact ⟨rfl, rfl, fun _ => rfl⟩
  | _ => exact ⟨rfl, rfl, fun valid => valid⟩

/-- A timely step of `InitDeviceId` leaves a valid cache sound. -/
theorem Timely.sound {stage : InitStage} (timely : members.Timely calls stage)
    (sound : members.deviceIdValid = true → members.Sound calls) (answer : Answer)
    (valid : (members.initDeviceId answer stage).1.deviceIdValid = true) :
    (members.initDeviceId answer stage).1.Sound calls := by
  cases stage with
  | register =>
      rw [initDeviceId] at valid ⊢
      split_ifs at valid ⊢
      · exact sound valid
      · rcases sound valid with pending | ⟨⟨_, stored⟩, unclear⟩
        · exact .inl pending
        · exact .inr ⟨⟨rfl, stored⟩, unclear⟩
  | initDeviceManager => exact sound valid
  | unregister =>
      rcases timely with invalid | pending
      · exact absurd (valid.symm.trans invalid) (by simp)
      · exact .inl pending
  | getLocalDeviceInfo => exact sound valid
  | store deviceId =>
      rcases sound valid with pending | ⟨⟨registered, _⟩, unclear⟩
      · exact .inl pending
      · exact .inr ⟨⟨registered, deviceId.property⟩, unclear⟩
  | validate => exact timely

/-- What the cache says is the same. -/
structure SameCache (before after : Members) : Prop where
  isDeviceManagerInit : after.isDeviceManagerInit = before.isDeviceManagerInit
  deviceIdValid : after.deviceIdValid = before.deviceIdValid
  deviceId : after.deviceId = before.deviceId

theorem SameCache.holds {before after : Members} (same : SameCache before after) :
    after.Holds ↔ before.Holds := by
  rw [Holds, Holds, same.isDeviceManagerInit, same.deviceId]

theorem startDeviceIdRecovery_same {stage : StartStage} {step : Members × Option StartStage}
    (taken : members.startDeviceIdRecovery stage = some step) : SameCache members step.1 := by
  cases stage with
  | testValid =>
      obtain rfl := Option.some.inj taken
      exact ⟨rfl, rfl, rfl⟩
  | exchangeInFlight =>
      rw [startDeviceIdRecovery] at taken
      split_ifs at taken <;> obtain rfl := Option.some.inj taken <;> exact ⟨rfl, rfl, rfl⟩
  | spawn =>
      rw [startDeviceIdRecovery] at taken
      split_ifs at taken
      obtain rfl := Option.some.inj taken
      exact ⟨rfl, rfl, rfl⟩

theorem stopDeviceIdRecovery_same {stage : StopStage} {step : Members × Option StopStage}
    (taken : members.stopDeviceIdRecovery stage = some step) : SameCache members step.1 := by
  cases stage <;>
    · rw [stopDeviceIdRecovery] at taken
      split_ifs at taken
      obtain rfl := Option.some.inj taken
      exact ⟨rfl, rfl, rfl⟩

/-- A step of `StartDeviceIdRecovery` has seen a valid cache, or a loop is still seen to, unless the
exchange finds a loop on record. -/
theorem startDeviceIdRecovery_covers {stage : StartStage} {step : Members × Option StartStage}
    (taken : members.startDeviceIdRecovery stage = some step) :
    step.2.isSome = true ∨ step.1.retrying = true ∨ members.deviceIdValid = true ∨
      (stage = .exchangeInFlight ∧ members.deviceIdRefreshInFlight = true ∧
        step.1 = members) := by
  cases stage with
  | testValid =>
      obtain rfl := Option.some.inj taken
      cases valid : members.deviceIdValid with
      | true => exact .inr (.inr (.inl rfl))
      | false => exact .inl rfl
  | exchangeInFlight =>
      rw [startDeviceIdRecovery] at taken
      split_ifs at taken with inFlight <;> obtain rfl := Option.some.inj taken
      · exact .inr (.inr (.inr ⟨rfl, inFlight, rfl⟩))
      · exact .inl rfl
  | spawn =>
      rw [startDeviceIdRecovery] at taken
      split_ifs at taken
      obtain rfl := Option.some.inj taken
      exact .inr (.inl rfl)

theorem Sound.of_same {before after : Members} {id : CallId} {next : Option Stage}
    (sound : before.Sound (calls.erase id)) (same : SameCache before after)
    (unclear : next.any Stage.clears = false) : after.Sound (calls.replace id next) := by
  rw [Sound, pending_replace, pending_replace, unclear, same.holds]
  rcases sound with pending | ⟨holds, untouched⟩
  · exact .inl (.inr pending)
  · exact .inr ⟨holds, by simpa using untouched⟩

theorem Sound.of_quiet {id : CallId} {stage : Stage} (found : calls.get? id = some stage)
    (sound : members.Sound calls) (quiet : stage.invalidates = false) :
    members.Sound (calls.erase id) := by
  rw [Sound, pending_of_get? found, pending_of_get? found, quiet] at sound
  rcases sound with (never | pending) | ⟨holds, untouched⟩
  · exact absurd never (by simp)
  · exact .inl pending
  · exact .inr ⟨holds, fun pending => untouched (.inr pending)⟩

theorem Covered.of_step {before after : Members} {id : CallId} {stage : Stage}
    {next : Option Stage} (found : calls.get? id = some stage) (covered : before.Covered calls)
    (starts : stage.starts = true → next.any Stage.starts = true)
    (retrying : after.retrying = before.retrying) : after.Covered (calls.replace id next) := by
  rw [Covered, pending_of_get? found] at covered
  rw [Covered, pending_replace, retrying]
  rcases covered with (own | pending) | loops
  · exact .inl (.inl (starts own))
  · exact .inl (.inr pending)
  · exact .inr loops

end Members

namespace System

variable {system after : System} {id : CallId} {stage : Stage} {answer : Answer}
  {step : Members × Option Stage}

/-- A step of a call leaves a valid cache sound. -/
theorem Consistent.sound_step (consistent : system.Consistent)
    (found : system.calls.get? id = some stage)
    (orderly : system.members.Orderly (system.calls.erase id) system.recoveryDue stage)
    (taken : system.members.step answer stage = some step)
    (valid : step.1.deviceIdValid = true) : step.1.Sound (system.calls.replace id step.2) := by
  have quiet (invalidates : stage.invalidates = false)
      (was : system.members.deviceIdValid = true) :
      system.members.Sound (system.calls.erase id) :=
    .of_quiet found (consistent.valid was) invalidates
  have kept (same : Members.SameCache system.members step.1)
      (invalidates : stage.invalidates = false) (unclear : step.2.any Stage.clears = false) :
      step.1.Sound (system.calls.replace id step.2) :=
    (quiet invalidates (same.deviceIdValid ▸ valid)).of_same same unclear
  cases stage with
  | initDeviceId stage =>
      obtain rfl := Option.some.inj taken
      have sound := Members.Timely.sound orderly (quiet rfl) answer valid
      refine sound.of_same ⟨rfl, rfl, rfl⟩ ?_
      cases (system.members.initDeviceId answer stage).2 <;> rfl
  | invalidateDeviceId stage caller =>
      obtain rfl := Option.some.inj taken
      cases stage with
      | unregister => exact .inl ((pending_replace ..).mpr (.inl rfl))
      | invalidate => exact absurd valid (by simp [Members.invalidateDeviceId])
      | clear =>
          -- a cache that is still valid here is about to be marked invalid by another call
          rcases consistent.valid valid with pending | ⟨_, untouched⟩
          · rcases (pending_of_get? found _).mp pending with never | other
            · exact absurd never (by simp [Stage.invalidates])
            · exact .inl ((pending_replace ..).mpr (.inr other))
          · exact absurd ((pending_of_get? found _).mpr (.inl rfl)) untouched
  | startDeviceIdRecovery stage =>
      obtain ⟨taken', started, rfl⟩ := Option.map_eq_some_iff.mp taken
      refine kept (Members.startDeviceIdRecovery_same started) rfl ?_
      cases taken'.2 <;> rfl
  | stopDeviceIdRecovery stage =>
      obtain ⟨taken', stopped, rfl⟩ := Option.map_eq_some_iff.mp taken
      refine kept (Members.stopDeviceIdRecovery_same stopped) rfl ?_
      cases taken'.2 <;> rfl
  | unInitDeviceManager =>
      obtain rfl := Option.some.inj taken
      exact kept ⟨rfl, rfl, rfl⟩ rfl rfl

/-- While a recovery is due, a step of a call that leaves the cache invalid leaves a loop seen
to. -/
theorem Consistent.covered_step (consistent : system.Consistent)
    (found : system.calls.get? id = some stage)
    (orderly : system.members.Orderly (system.calls.erase id) system.recoveryDue stage)
    (taken : system.members.step answer stage = some step) (due : system.recoveryDue = true)
    (unstopped : stage ≠ .stopDeviceIdRecovery .requestStop)
    (invalid : step.1.deviceIdValid = false) :
    step.1.Covered (system.calls.replace id step.2) := by
  have others (covered : system.members.Covered (system.calls.erase id))
      (retrying : step.1.retrying = system.members.retrying) :
      step.1.Covered (system.calls.replace id step.2) := by
    rw [Members.Covered, pending_replace, retrying]
    rcases covered with pending | loops
    · exact .inl (.inr pending)
    · exact .inr loops
  cases stage with
  | initDeviceId stage =>
      obtain rfl := Option.some.inj taken
      obtain ⟨stop, thread, kept⟩ := Members.initDeviceId_frame system.members answer stage
      have was : system.members.deviceIdValid = false := by
        by_contra valid
        exact absurd ((kept (by simpa using valid)).symm.trans invalid) (by simp)
      refine (consistent.due due was).of_step found (by simp [Stage.starts]) ?_
      rw [Members.retrying, Members.retrying, stop, thread]
  | invalidateDeviceId stage caller =>
      obtain rfl := Option.some.inj taken
      cases stage with
      | unregister =>
          refine (consistent.due due invalid).of_step found ?_ rfl
          cases caller <;> exact fun starts => starts
      | invalidate =>
          rcases orderly with rfl | none | covered
          · exact .inl ((pending_replace ..).mpr (.inl rfl))
          · exact absurd (due.symm.trans none) (by simp)
          · exact others covered rfl
      | clear =>
          refine (consistent.due due invalid).of_step found ?_ rfl
          cases caller <;> simp [Stage.starts, Members.invalidateDeviceId]
  | startDeviceIdRecovery stage =>
      obtain ⟨⟨members, next⟩, started, rfl⟩ := Option.map_eq_some_iff.mp taken
      have same := Members.startDeviceIdRecovery_same started
      have was : system.members.deviceIdValid = false := same.deviceIdValid ▸ invalid
      rcases Members.startDeviceIdRecovery_covers started with
        goesOn | loops | valid | ⟨rfl, inFlight, rfl⟩
      · obtain ⟨later, rfl⟩ := Option.isSome_iff_exists.mp goesOn
        exact .inl ((pending_replace ..).mpr (.inl rfl))
      · exact .inr loops
      · exact absurd (valid.symm.trans was) (by simp)
      · rcases orderly with free | none | valid | covered
        · exact absurd (inFlight.symm.trans free) (by simp)
        · exact absurd (due.symm.trans none) (by simp)
        · exact absurd (valid.symm.trans was) (by simp)
        · exact others covered rfl
  | stopDeviceIdRecovery stage =>
      cases stage with
      | requestStop => exact absurd rfl unstopped
      | join =>
          obtain ⟨stopped, joined, rfl⟩ := Option.map_eq_some_iff.mp taken
          rw [Members.stopDeviceIdRecovery] at joined
          split_ifs at joined
          obtain rfl := Option.some.inj joined
          exact (consistent.due due invalid).of_step found (by simp [Stage.starts]) rfl
  | unInitDeviceManager =>
      obtain rfl := Option.some.inj taken
      exact (consistent.due due invalid).of_step found (by simp [Stage.starts]) rfl

end System

namespace Members

variable {members : Members} {calls : SortedMap CallId Stage} {loop : Loop}

theorem retrying_of_loop (running : members.deviceIdRecoveryThread = some loop) :
    members.retrying = true ↔
      members.isStopDeviceIdRecovery = false ∧ loop.stage ≠ .clearInFlight := by
  simp [retrying, running]

/-- A timely step of the loop leaves a valid cache sound. -/
theorem deviceIdRecoveryLoop_sound (answer : Answer)
    (timely : ∀ stage, loop.stage = .initDeviceId stage → members.Timely calls stage)
    (sound : members.deviceIdValid = true → members.Sound calls)
    (valid : (members.deviceIdRecoveryLoop answer loop).deviceIdValid = true) :
    (members.deviceIdRecoveryLoop answer loop).Sound calls := by
  obtain ⟨stage, backoffSec⟩ := loop
  cases stage with
  | initDeviceId stage => exact (timely stage rfl).sound sound answer valid
  | sleep slept =>
      simp only [deviceIdRecoveryLoop] at valid ⊢
      split_ifs at valid ⊢ <;> exact sound valid
  | _ => exact sound valid

theorem deviceIdRecoveryLoop_valid (loop : Loop) (answer : Answer)
    (valid : members.deviceIdValid = true) :
    (members.deviceIdRecoveryLoop answer loop).deviceIdValid = true := by
  obtain ⟨stage, backoffSec⟩ := loop
  cases stage with
  | initDeviceId stage => exact (initDeviceId_frame members answer stage).2.2 valid
  | sleep slept =>
      simp only [deviceIdRecoveryLoop]
      split_ifs <;> exact valid
  | _ => exact valid

/-- A loop that retries and finds the cache invalid retries on. -/
theorem deviceIdRecoveryLoop_retrying (answer : Answer)
    (running : members.deviceIdRecoveryThread = some loop) (retries : members.retrying = true)
    (invalid : (members.deviceIdRecoveryLoop answer loop).deviceIdValid = false) :
    (members.deviceIdRecoveryLoop answer loop).retrying = true := by
  obtain ⟨unstopped, kept⟩ := (retrying_of_loop running).mp retries
  obtain ⟨stage, backoffSec⟩ := loop
  cases stage with
  | testStop => simp [deviceIdRecoveryLoop, retrying, unstopped]
  | testValid =>
      have unset : members.deviceIdValid = false := invalid
      simp [deviceIdRecoveryLoop, retrying, unstopped, unset]
  | initDeviceId stage =>
      obtain ⟨stop, _, _⟩ := initDeviceId_frame members answer stage
      cases onward : (members.initDeviceId answer stage).2 <;>
        simp [deviceIdRecoveryLoop, retrying, onward, stop, unstopped]
  | retestValid =>
      have unset : members.deviceIdValid = false := invalid
      simp [deviceIdRecoveryLoop, retrying, unstopped, unset]
  | sleep slept =>
      simp only [deviceIdRecoveryLoop]
      split_ifs <;> simp [retrying, unstopped]
  | clearInFlight => exact absurd rfl kept

end Members

namespace System

variable {system after : System}

theorem enter_eq_some {id : CallId} {stage : Stage} :
    system.enter id stage = some after ↔
      system.calls.get? id = none ∧
        { system with calls := system.calls.insert id stage } = after := by
  rw [enter]
  cases found : system.calls.get? id <;> simp [SortedMap.contains, found]

/-- A call that is not about to mark the cache invalid or to empty it begins. -/
theorem Consistent.enter (consistent : system.Consistent) {id : CallId} {stage : Stage}
    (quiet : stage.invalidates = false ∧ stage.clears = false)
    (taken : system.enter id stage = some after) : after.Consistent := by
  obtain ⟨fresh, rfl⟩ := enter_eq_some.mp taken
  have entered (kind : Stage → Bool) :
      Pending kind (system.calls.insert id stage) ↔
        kind stage = true ∨ Pending kind system.calls :=
    SortedMap.has_insert_of_fresh fresh stage _
  constructor
  · intro valid
    rw [Members.Sound, entered, entered, quiet.1, quiet.2]
    simpa [Members.Sound] using consistent.valid valid
  · intro due invalid
    rw [Members.Covered, entered]
    rcases consistent.due due invalid with pending | loops
    · exact .inl (.inr pending)
    · exact .inr loops

/-- A step of the loop that stays out of the windows. -/
theorem Consistent.loop (consistent : system.Consistent) {loop : Loop} {answer : Answer}
    (running : system.members.deviceIdRecoveryThread = some loop)
    (timely : ∀ stage, loop.stage = .initDeviceId stage →
      system.members.Timely system.calls stage) :
    System.Consistent
      { system with members := system.members.deviceIdRecoveryLoop answer loop } := by
  constructor
  · exact Members.deviceIdRecoveryLoop_sound answer timely consistent.valid
  · intro due invalid
    have was : system.members.deviceIdValid = false := by
      by_contra valid
      have still := Members.deviceIdRecoveryLoop_valid loop answer (by simpa using valid)
      exact absurd (still.symm.trans invalid) (by simp)
    rcases consistent.due due was with pending | retries
    · exact .inl pending
    · exact .inr (Members.deviceIdRecoveryLoop_retrying answer running retries invalid)

/-- A step that stays out of the windows. -/
theorem Consistent.next (consistent : system.Consistent) {action : Action}
    (permitted : system.Permits action) (taken : System.next system action = some after) :
    after.Consistent := by
  cases action with
  | initDeviceId id => exact consistent.enter ⟨rfl, rfl⟩ taken
  | invalidateDeviceId id => exact consistent.enter ⟨rfl, rfl⟩ taken
  | recoverDeviceId id =>
      obtain ⟨begun, begins, rfl⟩ := Option.map_eq_some_iff.mp taken
      refine ⟨(consistent.enter ⟨rfl, rfl⟩ begins).valid, fun _ _ => .inl ?_⟩
      obtain ⟨_, rfl⟩ := enter_eq_some.mp begins
      exact (SortedMap.has_insert ..).mpr (.inl rfl)
  | refreshDeviceIdAsync id => exact consistent.enter ⟨rfl, rfl⟩ taken
  | deInitDeviceId id => exact consistent.enter ⟨rfl, rfl⟩ taken
  | proceed id answer =>
      obtain ⟨stage, found, moved⟩ := Option.bind_eq_some_iff.mp taken
      obtain ⟨step, stepped, rfl⟩ := Option.map_eq_some_iff.mp moved
      have orderly := permitted stage found
      refine ⟨consistent.sound_step found orderly stepped, fun due => ?_⟩
      rw [Bool.and_eq_true, decide_eq_true_iff] at due
      exact consistent.covered_step found orderly stepped due.1 due.2
  | loop answer =>
      obtain ⟨loop, running, rfl⟩ := Option.map_eq_some_iff.mp taken
      refine consistent.loop running fun stage within => permitted stage ?_
      simp [running, Loop.initStage?, within]

theorem Consistent.recovers (consistent : system.Consistent) : system.Recovers := by
  rintro ⟨empty, _⟩
  constructor
  · intro valid
    rcases consistent.valid valid with pending | ⟨holds, _⟩
    · rw [empty] at pending
      exact absurd pending (SortedMap.not_has_empty _)
    · exact holds
  · intro due invalid
    rcases consistent.due due invalid with pending | retrying
    · rw [empty] at pending
      exact absurd pending (SortedMap.not_has_empty _)
    · rw [Members.retrying, Bool.and_eq_true] at retrying
      exact Option.isSome_of_any retrying.2

/-- Nothing is lost in a run whose steps all stay out of the windows. -/
theorem recovers_of_permits {actions : List Action} {final : System}
    (permitted : Transition.Along next Permits {} actions)
    (reach : Transition.run next {} actions = some final) : final.Recovers :=
  (Transition.run_invariant (fun consistent permits taken => consistent.next permits taken)
    consistent_initial permitted reach).recovers

def localId : LocalId := ⟨"local", by decide⟩

/-- A subscription starts a loop, which comes as far as `store` with the id of the device. -/
def fetches : List Action :=
  [.refreshDeviceIdAsync 1, .proceed 1 {}, .proceed 1 {}, .proceed 1 {}, .loop {}, .loop {},
    .loop {}, .loop {}, .loop { localDevice := some localId }, .loop {}]

/-- The device manager has died, and `RecoverDeviceId` runs from its first step to its last. -/
def recovery : List Action :=
  [.recoverDeviceId 2, .proceed 2 {}, .proceed 2 {}, .proceed 2 {}, .proceed 2 {}, .proceed 2 {}]

/-- After the loop has ended a recovery starts another, which fails to reach the device manager
and sleeps. -/
theorem recovers_after_fetch :
    let actions := fetches ++ [.loop {}, .loop {}, .loop {}] ++ recovery ++
      [.proceed 2 {}, .loop {}, .loop {}, .loop {}, .loop { initialized := false }, .loop {},
        .loop {}]
    let final := (Transition.run next {} actions).getD {}
    final.calls = .empty ∧ final.recoveryDue = true ∧ final.members.deviceIdValid = false ∧
      final.Recovers := by
  refine ⟨by decide +kernel, by decide +kernel, by decide +kernel, ?_⟩
  exact recovers_of_permits (by decide +kernel) (Transition.run_eq_getD (by decide +kernel))

/-- A recovery that comes after the loop has stored the id leaves an empty cache that the loop marks
valid; one that comes before the loop gives `deviceIdRefreshInFlight_` back starts no loop. -/
theorem recovery_lost :
    ∃ stale lost,
      Transition.run next {} (fetches ++ recovery ++ [.loop {}, .loop {}, .loop {}]) =
          some stale ∧
        stale.members.deviceIdValid = true ∧ stale.members.deviceId = "" ∧
          stale.members.isDeviceManagerInit = false ∧ ¬stale.Recovers ∧
      Transition.run next {} (fetches ++ [.loop {}, .loop {}] ++ recovery ++ [.loop {}]) =
          some lost ∧
        lost.members.deviceIdValid = false ∧ lost.recoveryDue = true ∧
          lost.members.deviceIdRecoveryThread = none ∧ ¬lost.Recovers := by
  let stale := (Transition.run next {}
    (fetches ++ recovery ++ [.loop {}, .loop {}, .loop {}])).getD {}
  let lost := (Transition.run next {}
    (fetches ++ [.loop {}, .loop {}] ++ recovery ++ [.loop {}])).getD {}
  have idle (system : System) (quiet : system.calls = .empty)
      (ended : system.members.deviceIdRecoveryThread = none) : system.Idle :=
    ⟨quiet, fun loop running => absurd (ended.symm.trans running) (by simp)⟩
  have marked : stale.members.deviceIdValid = true := by decide +kernel
  have emptied : stale.members.deviceId = "" := by decide +kernel
  have invalid : lost.members.deviceIdValid = false := by decide +kernel
  have due : lost.recoveryDue = true := by decide +kernel
  have ended : lost.members.deviceIdRecoveryThread = none := by decide +kernel
  refine ⟨stale, lost, Transition.run_eq_getD (by decide +kernel), marked, emptied,
    by decide +kernel, fun recovers => ?_, Transition.run_eq_getD (by decide +kernel), invalid,
    due, ended, fun recovers => ?_⟩
  · have kept := recovers (idle stale (by decide +kernel) (by decide +kernel))
    exact (kept.1 marked).2 emptied
  · have kept := recovers (idle lost (by decide +kernel) ended)
    exact absurd (kept.2 due invalid) (by simp [ended])

end System

end DeviceIdRecovery

end SecurityGuard
