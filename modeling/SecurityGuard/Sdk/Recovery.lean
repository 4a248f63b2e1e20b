import SecurityGuard.Sdk.AuthProviderClient

/-!
# A provider recovers once

The death recipient is registered on the object that the client was created with, and nowhere
else afterwards: the helper that a recovery calls registers a recipient only when it makes one,
and the client keeps the one that it has.  So the recovery of a client that is not deleted leaves
the new object of the service unwatched.
-/

namespace SecurityGuard

/-- The object of the service that a recovery works with. -/
def RecoveryStage.object? : RecoveryStage → Option Address
  | .copyCallback object | .createAuthProvider object | .switch object _
  | .setDeathRecipient object => some object
  | .wake | .search | .finished _ => none

namespace Recovery

@[simp]
theorem object?_attempt (delays : List Nat) : (attempt delays).stage.object? = none := by
  cases delays <;> rfl

@[simp]
theorem object?_retry (recovery : Recovery) : recovery.retry.stage.object? = none :=
  object?_attempt recovery.delays

@[simp]
theorem stage_moveTo (recovery : Recovery) (stage : RecoveryStage) :
    (recovery.moveTo stage).stage = stage := rfl

end Recovery

namespace ProviderSystem

variable {system after : ProviderSystem}

/-- The object on which a step completes the recovery of a client that is not deleted. -/
def recovered? (system : ProviderSystem) : ProviderAction → Option Address
  | .proceed id _ =>
      (system.recoveries.get? id).bind fun recovery =>
        match recovery.stage with
        | .setDeathRecipient object => if system.client.deleted then none else some object
        | _ => none
  | _ => none

/-- A step that completes a recovery leaves the recipient registered on the new object. -/
def Rearms (system : ProviderSystem) (action : ProviderAction) : Prop :=
  ∀ object after, system.recovered? action = some object → next system action = some after →
    after.client.deathRecipient.registered.contains object = true

/-- The recipient of a client that is not deleted is registered on one object.  Once that object
has died the client works with others. -/
structure WatchesOne (system : ProviderSystem) : Prop where
  releasing : system.releasing = true → system.client.deleted = true
  live : ∀ object, system.service = some object → system.started.contains object = true
  registered : ∀ object, system.client.deathRecipient.registered.contains object = true →
    system.started.contains object = true
  unmade : system.client.deleted = false → system.client.deathRecipient.recipient = false →
    ∀ object, system.client.deathRecipient.registered.contains object = false
  one : system.client.deleted = false → ∀ object other,
    system.client.deathRecipient.registered.contains object = true →
    system.client.deathRecipient.registered.contains other = true → object = other
  noticed : system.client.deleted = false → ∀ object, system.notices.contains object = true →
    system.client.deathRecipient.registered.contains object = true ∧
      system.service ≠ some object
  spent : system.client.deleted = false → ∀ id recovery,
    system.recoveries.get? id = some recovery →
    system.client.deathRecipient.recipient = true ∧
      ∀ object, system.client.deathRecipient.registered.contains object = true →
        system.service ≠ some object ∧ recovery.stage.object? ≠ some object

theorem watchesOne_initial : WatchesOne {} where
  releasing := fun started => absurd started (by simp)
  live := fun object found => absurd found (by simp)
  registered := fun object found => absurd found (by simp)
  unmade := fun _ _ object => rfl
  one := fun _ object other found => absurd found (by simp)
  noticed := fun _ object found => absurd found (by simp)
  spent := fun _ id recovery found => absurd found (by simp)

namespace WatchesOne

/-- A step that touches neither the service nor the recipient, nor the tasks. -/
theorem of_same (watches : system.WatchesOne) (service : after.service = system.service)
    (started : after.started = system.started) (notices : after.notices = system.notices)
    (recoveries : after.recoveries = system.recoveries)
    (watch : after.client.deathRecipient = system.client.deathRecipient)
    (deleted : after.client.deleted = false → system.client.deleted = false)
    (releasing : after.releasing = true → after.client.deleted = true) :
    after.WatchesOne where
  releasing := releasing
  live := by
    rw [service, started]
    exact watches.live
  registered := by
    rw [watch, started]
    exact watches.registered
  unmade := by
    rw [watch]
    exact fun kept => watches.unmade (deleted kept)
  one := by
    rw [watch]
    exact fun kept => watches.one (deleted kept)
  noticed := by
    rw [watch, notices, service]
    exact fun kept => watches.noticed (deleted kept)
  spent := by
    rw [watch, recoveries, service]
    exact fun kept => watches.spent (deleted kept)

theorem serviceStarts (watches : system.WatchesOne) {object : Address}
    (fresh : system.started.contains object = false) :
    ({ system with
        service := some object
        started := system.started.insert object () } : ProviderSystem).WatchesOne := by
  have unwatched {other : Address}
      (found : system.client.deathRecipient.registered.contains other = true) :
      some object ≠ some other := by
    rintro same
    obtain rfl := Option.some.inj same
    exact absurd (watches.registered object found) (by simp [fresh])
  constructor
  · exact watches.releasing
  · intro other found
    obtain rfl := Option.some.inj found
    simp
  · intro other found
    rw [SortedMap.contains_insert, watches.registered other found, Bool.or_true]
  · exact watches.unmade
  · exact watches.one
  · intro kept other noticed
    have found := (watches.noticed kept other noticed).1
    exact ⟨found, unwatched found⟩
  · intro kept id recovery present
    obtain ⟨made, others⟩ := watches.spent kept id recovery present
    exact ⟨made, fun other found => ⟨unwatched found, (others other found).2⟩⟩

theorem serviceDies (watches : system.WatchesOne) {object : Address}
    (alive : system.service = some object) : (system.serviceDies object).WatchesOne := by
  constructor
  · exact watches.releasing
  · intro other found
    exact absurd found (by simp [ProviderSystem.serviceDies])
  · exact watches.registered
  · exact watches.unmade
  · exact watches.one
  · intro kept other noticed
    refine ⟨?_, by simp [ProviderSystem.serviceDies]⟩
    rw [ProviderSystem.serviceDies] at noticed
    split_ifs at noticed with watched
    · rw [SortedMap.contains_insert, Bool.or_eq_true] at noticed
      rcases noticed with same | before
      · obtain rfl := of_decide_eq_true same
        exact watched
      · exact (watches.noticed kept other before).1
    · exact (watches.noticed kept other noticed).1
  · intro kept id recovery present
    obtain ⟨made, others⟩ := watches.spent kept id recovery present
    exact ⟨made, fun other found =>
      ⟨by simp [ProviderSystem.serviceDies], (others other found).2⟩⟩

/-- The notice of the one object starts the first recovery. -/
theorem remoteDied (watches : system.WatchesOne) {object : Address} {id : RecoveryId}
    (promoted : Bool) (noticed : system.notices.contains object = true) :
    (system.remoteDied object id promoted).WatchesOne := by
  have earlier {other : Address}
      (found : (system.remoteDied object id promoted).client.deathRecipient.registered.contains
        other = true) :
      system.client.deathRecipient.registered.contains other = true := by
    rw [ProviderSystem.remoteDied] at found
    dsimp only at found
    split_ifs at found
    · rw [DeathWatch.remove, SortedMap.contains_erase, Bool.and_eq_true] at found
      exact found.2
    · exact found
  have recipient : (system.remoteDied object id promoted).client.deathRecipient.recipient =
      system.client.deathRecipient.recipient := by
    rw [ProviderSystem.remoteDied]
    dsimp only
    split_ifs <;> rfl
  constructor
  · exact watches.releasing
  · exact watches.live
  · exact fun other found => watches.registered other (earlier found)
  · intro kept unmade other
    rw [recipient] at unmade
    rw [← Bool.not_eq_true]
    intro found
    exact absurd (earlier found) (by simp [watches.unmade kept unmade other])
  · exact fun kept other other' found found' =>
      watches.one kept other other' (earlier found) (earlier found')
  · intro kept other noticed'
    obtain ⟨different, before⟩ : other ≠ object ∧ system.notices.contains other = true := by
      rw [ProviderSystem.remoteDied, SortedMap.contains_erase, Bool.and_eq_true] at noticed'
      simpa using noticed'
    have same := watches.one kept other object (watches.noticed kept other before).1
      (watches.noticed kept object noticed).1
    exact absurd same different
  · intro kept other recovery present
    obtain ⟨watched, dead⟩ := watches.noticed kept object noticed
    rw [recipient]
    rcases SortedMap.get?_insert_eq_some.mp present with ⟨_, rfl⟩ | ⟨_, present⟩
    · refine ⟨?_, fun other found => ?_⟩
      · rw [← Bool.not_eq_false]
        intro unmade
        exact absurd watched (by simp [watches.unmade kept unmade object])
      · obtain rfl := watches.one kept other object (earlier found) watched
        exact ⟨dead, by simp⟩
    · obtain ⟨made, others⟩ := watches.spent kept other recovery present
      exact ⟨made, fun other found => others other (earlier found)⟩

/-- While the client is not deleted a recipient is made only where none is registered. -/
theorem setDeathRecipient (watches : system.WatchesOne) (object : Address) (allocated : Bool) :
    (system.setDeathRecipient object allocated).2.WatchesOne := by
  rw [ProviderSystem.setDeathRecipient, DeathWatch.setDeathRecipient]
  split_ifs with made
  · exact watches.of_same rfl rfl rfl rfl rfl (fun kept => kept) watches.releasing
  · have unmade : system.client.deathRecipient.recipient = false := by simpa using made
    have entered {other : Address}
        (found : (({ system.client.deathRecipient with recipient := true } : DeathWatch).add object
          (system.service = some object)).registered.contains other = true) :
        (other = object ∧ system.service = some object) ∨
          system.client.deathRecipient.registered.contains other = true := by
      rw [DeathWatch.add] at found
      split_ifs at found with alive
      · rw [SortedMap.contains_insert, Bool.or_eq_true] at found
        rcases found with same | before
        · exact .inl ⟨of_decide_eq_true same, of_decide_eq_true alive⟩
        · exact .inr before
      · exact .inr found
    have unwatched (kept : system.client.deleted = false) (other : Address) :
        ¬system.client.deathRecipient.registered.contains other = true := by
      rw [watches.unmade kept unmade other]
      simp
    have recipient : (({ system.client.deathRecipient with recipient := true } : DeathWatch).add
        object (system.service = some object)).recipient = true := by
      rw [DeathWatch.add]
      split_ifs <;> rfl
    constructor
    · exact watches.releasing
    · exact watches.live
    · intro other found
      rcases entered found with ⟨rfl, alive⟩ | before
      · exact watches.live other alive
      · exact watches.registered other before
    · exact fun _ absent => absurd (recipient.symm.trans absent) (by simp)
    · intro kept other other' found found'
      rcases entered found with ⟨rfl, _⟩ | before
      · rcases entered found' with ⟨rfl, _⟩ | before
        · rfl
        · exact absurd before (unwatched kept other')
      · exact absurd before (unwatched kept other)
    · intro kept other noticed
      exact absurd (watches.noticed kept other noticed).1 (unwatched kept other)
    · intro kept id recovery present
      exact absurd (watches.spent kept id recovery present).1 made
  · exact watches.of_same rfl rfl rfl rfl rfl (fun kept => kept) watches.releasing

/-- A recovery goes on, with an object on which the recipient is not registered. -/
theorem moved (watches : system.WatchesOne) {id : RecoveryId} {recovery recovery' : Recovery}
    (present : system.recoveries.get? id = some recovery)
    (apart : system.client.deleted = false → ∀ object,
      system.client.deathRecipient.registered.contains object = true →
        recovery'.stage.object? ≠ some object) :
    ({ system with
        recoveries := system.recoveries.insert id recovery' } : ProviderSystem).WatchesOne where
  releasing := watches.releasing
  live := watches.live
  registered := watches.registered
  unmade := watches.unmade
  one := watches.one
  noticed := watches.noticed
  spent := by
    intro kept other recovery'' found
    rcases SortedMap.get?_insert_eq_some.mp found with ⟨_, rfl⟩ | ⟨_, found⟩
    · obtain ⟨made, others⟩ := watches.spent kept id recovery present
      exact ⟨made, fun object watched => ⟨(others object watched).1, apart kept object watched⟩⟩
    · exact watches.spent kept other recovery'' found

/-- A section of a recovery leaves the other recoveries and finds no object on which the recipient
is registered. -/
theorem recover? (watches : system.WatchesOne) {id : RecoveryId} {recovery : Recovery}
    {answer : ProviderAnswer} {result : Recovery × ProviderSystem}
    (present : system.recoveries.get? id = some recovery)
    (taken : system.recover? recovery answer = some result) :
    result.2.recoveries = system.recoveries ∧ result.2.WatchesOne ∧
      (result.2.client.deleted = false → ∀ object,
        result.2.client.deathRecipient.registered.contains object = true →
          result.1.stage.object? ≠ some object) := by
  have onward (next : Recovery) (object? : next.stage.object? = none ∨
      next.stage.object? = recovery.stage.object?) :
      system.recoveries = system.recoveries ∧ system.WatchesOne ∧
        (system.client.deleted = false → ∀ object,
          system.client.deathRecipient.registered.contains object = true →
            next.stage.object? ≠ some object) := by
    refine ⟨rfl, watches, fun kept object watched => ?_⟩
    rcases object? with none | same
    · rw [none]
      simp
    · rw [same]
      exact ((watches.spent kept id recovery present).2 object watched).2
  rw [ProviderSystem.recover?] at taken
  cases stage : recovery.stage with
  | wake =>
      rw [stage] at taken
      dsimp only at taken
      split_ifs at taken <;> obtain rfl := Option.some.inj taken <;> exact onward _ (.inl rfl)
  | search =>
      rw [stage] at taken
      dsimp only at taken
      split at taken
      · obtain rfl := Option.some.inj taken
        exact onward _ (.inl recovery.object?_retry)
      · obtain rfl := Option.some.inj taken
        exact onward _ (.inl recovery.object?_retry)
      · split_ifs at taken with alive
        obtain rfl := Option.some.inj taken
        refine ⟨rfl, watches, fun kept object watched => ?_⟩
        have different := ((watches.spent kept id recovery present).2 object watched).1
        rw [alive] at different
        exact different
  | copyCallback object =>
      rw [stage] at taken onward
      dsimp only at taken
      split_ifs at taken <;> obtain rfl := Option.some.inj taken
      · exact onward _ (.inl recovery.object?_retry)
      · exact onward _ (.inr rfl)
  | createAuthProvider object =>
      rw [stage] at taken onward
      dsimp only at taken
      split_ifs at taken
      · split at taken <;> obtain rfl := Option.some.inj taken
        · exact onward _ (.inl recovery.object?_retry)
        · exact onward _ (.inr rfl)
      · obtain rfl := Option.some.inj taken
        exact onward _ (.inl recovery.object?_retry)
  | switch object newRemote =>
      rw [stage] at taken onward
      dsimp only at taken
      split_ifs at taken <;> obtain rfl := Option.some.inj taken
      · exact onward _ (.inl recovery.object?_retry)
      · obtain ⟨_, _, apart⟩ := onward (recovery.moveTo (.setDeathRecipient object)) (.inr rfl)
        exact ⟨rfl, watches.of_same rfl rfl rfl rfl rfl (fun kept => kept) watches.releasing,
          apart⟩
  | setDeathRecipient object =>
      rw [stage] at taken
      obtain rfl := Option.some.inj taken
      refine ⟨rfl, watches.setDeathRecipient object answer.allocated, fun _ other _ => ?_⟩
      simp [RecoveryStage.object?]
  | finished recovered =>
      rw [stage] at taken
      exact absurd taken (by simp)

theorem proceedCreation (watches : system.WatchesOne) {answer : ProviderAnswer}
    (taken : system.proceedCreation answer = some after) : after.WatchesOne := by
  rw [ProviderSystem.proceedCreation] at taken
  split at taken
  · split_ifs at taken
    · split at taken <;> obtain rfl := Option.some.inj taken <;>
        exact watches.of_same rfl rfl rfl rfl rfl (fun kept => kept) watches.releasing
    · obtain rfl := Option.some.inj taken
      exact watches.of_same rfl rfl rfl rfl rfl (fun kept => kept) watches.releasing
  · next object _ =>
      obtain rfl := Option.some.inj taken
      exact (watches.setDeathRecipient object answer.allocated).of_same rfl rfl rfl rfl rfl
        (fun kept => kept) watches.releasing
  · exact absurd taken (by simp)
  · exact absurd taken (by simp)

theorem of_deleted (deleted : after.client.deleted = true)
    (live : ∀ object, after.service = some object → after.started.contains object = true)
    (registered : ∀ object, after.client.deathRecipient.registered.contains object = true →
      after.started.contains object = true) : after.WatchesOne where
  releasing := fun _ => deleted
  live := live
  registered := registered
  unmade := fun kept => absurd (deleted.symm.trans kept) (by simp)
  one := fun kept => absurd (deleted.symm.trans kept) (by simp)
  noticed := fun kept => absurd (deleted.symm.trans kept) (by simp)
  spent := fun kept => absurd (deleted.symm.trans kept) (by simp)

theorem next (watches : system.WatchesOne) {action : ProviderAction}
    (taken : ProviderSystem.next system action = some after) : after.WatchesOne := by
  cases action with
  | serviceStarts object =>
      simp only [ProviderSystem.next] at taken
      split_ifs at taken with used
      obtain rfl := Option.some.inj taken
      exact watches.serviceStarts (by simp_all)
  | serviceDies =>
      obtain ⟨object, alive, rfl⟩ := Option.map_eq_some_iff.mp taken
      exact watches.serviceDies alive
  | remoteDied object id promoted =>
      simp only [ProviderSystem.next] at taken
      split_ifs at taken with noticed
      obtain rfl := Option.some.inj taken
      exact watches.remoteDied promoted ((Bool.and_eq_true _ _).mp noticed).1
  | createProvider callback search allocated =>
      simp only [ProviderSystem.next] at taken
      split_ifs at taken
      obtain ⟨creation, _, rfl⟩ := Option.map_eq_some_iff.mp taken
      exact watches.of_same rfl rfl rfl rfl rfl (fun kept => kept) watches.releasing
  | proceedCreation answer => exact watches.proceedCreation taken
  | proceed id answer =>
      obtain ⟨recovery, present, moved⟩ := Option.bind_eq_some_iff.mp taken
      obtain ⟨result, sectioned, rfl⟩ := Option.map_eq_some_iff.mp moved
      obtain ⟨recoveries, kept, apart⟩ := watches.recover? present sectioned
      exact kept.moved (recoveries ▸ present) apart
  | deleteProvider =>
      simp only [ProviderSystem.next] at taken
      split at taken
      · split_ifs at taken
        · obtain rfl := Option.some.inj taken
          exact watches
        · obtain rfl := Option.some.inj taken
          exact of_deleted rfl watches.live watches.registered
      · exact absurd taken (by simp)
  | clear =>
      simp only [ProviderSystem.next] at taken
      split_ifs at taken with releasing
      obtain rfl := Option.some.inj taken
      exact of_deleted (watches.releasing releasing) watches.live watches.registered

end WatchesOne

/-- A recovery that is completed leaves the recipient off the new object. -/
theorem WatchesOne.not_rearms (watches : system.WatchesOne) {action : ProviderAction}
    {object : Address} (recovers : system.recovered? action = some object)
    (taken : ProviderSystem.next system action = some after) :
    ¬after.client.deathRecipient.registered.contains object = true := by
  cases action with
  | proceed id answer =>
      obtain ⟨recovery, present, atLast⟩ := Option.bind_eq_some_iff.mp recovers
      obtain ⟨found, present', moved⟩ := Option.bind_eq_some_iff.mp taken
      obtain rfl := Option.some.inj (present.symm.trans present')
      obtain ⟨result, sectioned, rfl⟩ := Option.map_eq_some_iff.mp moved
      cases stage : recovery.stage with
      | setDeathRecipient new =>
          rw [stage] at atLast
          dsimp only at atLast
          split_ifs at atLast with deleted
          obtain rfl := Option.some.inj atLast
          have kept : system.client.deleted = false := by simpa using deleted
          obtain ⟨made, others⟩ := watches.spent kept id recovery present
          rw [ProviderSystem.recover?, stage] at sectioned
          obtain rfl := Option.some.inj sectioned
          dsimp only
          rw [ProviderSystem.setDeathRecipient, DeathWatch.setDeathRecipient_of_recipient made]
          intro watched
          exact (others new watched).2 (by rw [stage]; rfl)
      | _ =>
          rw [stage] at atLast
          exact absurd atLast (by simp)
  | _ => exact absurd recovers (by simp [recovered?])

/-- The last section of a recovery is not refused. -/
theorem next_of_recovered? {action : ProviderAction} {object : Address}
    (recovers : system.recovered? action = some object) :
    ∃ after, next system action = some after := by
  cases action with
  | proceed id answer =>
      obtain ⟨recovery, present, atLast⟩ := Option.bind_eq_some_iff.mp recovers
      cases stage : recovery.stage with
      | setDeathRecipient new =>
          simp only [next, present, Option.bind_some, ProviderSystem.recover?, stage,
            Option.map_some]
          exact ⟨_, rfl⟩
      | _ =>
          rw [stage] at atLast
          exact absurd atLast (by simp)
  | _ => exact absurd recovers (by simp [recovered?])

/-- In a run every recovery of a client that is not deleted leaves its recipient registered on
the new object of the service exactly when there is no such recovery. -/
theorem rearms_iff_no_recovery (actions : List ProviderAction) :
    Transition.Along next Rearms {} actions ↔
      Transition.Along next (fun system action => system.recovered? action = none) {} actions := by
  constructor
  · intro rearmed
    refine Transition.Along.of_invariant (fun watches _ taken => watches.next taken) ?_
      watchesOne_initial rearmed
    intro system action watches rearms
    cases recovers : system.recovered? action with
    | none => rfl
    | some object =>
        obtain ⟨after, taken⟩ := next_of_recovered? recovers
        exact absurd (rearms object after recovers taken) (watches.not_rearms recovers taken)
  · intro unrecovered
    refine Transition.Along.of_invariant (fun watches _ taken => watches.next taken) ?_
      watchesOne_initial unrecovered
    intro system action _ none object after recovers
    exact absurd (none.symm.trans recovers) (by simp)

/-- The service starts, a provider is created, the service dies and starts again, and the
recovery creates the provider anew. -/
def diesOnce : List ProviderAction :=
  [.serviceStarts 1, .createProvider true (.proxy 1) true,
    .proceedCreation { newRemote := some 50 }, .proceedCreation {}, .serviceDies,
    .remoteDied 1 1 true, .serviceStarts 2, .proceed 1 {}, .proceed 1 { search := .proxy 2 },
    .proceed 1 {}, .proceed 1 { newRemote := some 51 }, .proceed 1 {}]

/-- The last section of the recovery in `diesOnce` does not register the recipient on the second
object, and when that dies too nothing is recovered. -/
theorem second_death_is_not_noticed :
    ∃ before after final, Transition.run next {} diesOnce = some before ∧
      before.recovered? (.proceed 1 {}) = some 2 ∧
        Transition.run next before [.proceed 1 {}] = some after ∧
          after.client.deathRecipient.registered.contains 2 = false ∧
            Transition.run next after [.serviceDies, .serviceStarts 3] = some final ∧
              final.client.deleted = false ∧ final.notices.size = 0 ∧
                final.recoveries.entries =
                  [(1, ⟨[5, 15, 30, 60, 60, 60, 60, 60], .finished true⟩)] := by
  let before := (Transition.run next {} diesOnce).getD {}
  let after := (Transition.run next before [.proceed 1 {}]).getD {}
  let final := (Transition.run next after [.serviceDies, .serviceStarts 3]).getD {}
  refine ⟨before, after, final, ?_, ?_, ?_, ?_, ?_, ?_⟩
  · exact Transition.run_eq_getD (by decide +kernel)
  · decide +kernel
  · exact Transition.run_eq_getD (by decide +kernel)
  · decide +kernel
  · exact Transition.run_eq_getD (by decide +kernel)
  · decide +kernel

end ProviderSystem

end SecurityGuard
