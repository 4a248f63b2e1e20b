import SecurityGuard.Sdk.DataCollectManager

/-!
# The service is subscribed for the events of the subscribers

A `Subscribe` that has found another subscriber, or has called the service, relies on the service
until its own subscriber is entered.  The service stays subscribed for the right events as long as
no `Unsubscribe` calls it for an event that a subscriber or such a call relies on.
-/

namespace SecurityGuard

/-- What a call has returned. -/
def CollectStage.code? : CollectStage → Option Code
  | .finished code => some code
  | _ => none

namespace CollectSystem

variable {eventId : Address → Int} {system after : CollectSystem}

/-- No call is in flight. -/
def Quiescent (system : CollectSystem) : Prop :=
  ∀ id call, system.calls.get? id = some call → ∃ code, call.stage = .finished code

theorem quiescent_of_entries
    (finished : ∀ entry ∈ system.calls.entries, entry.2.stage.code?.isSome = true) :
    system.Quiescent := by
  intro id call found
  have returned := finished (id, call) (SortedMap.mem_entries_iff.mpr found)
  cases stage : call.stage with
  | finished code => exact ⟨code, rfl⟩
  | _ =>
      rw [stage] at returned
      exact absurd returned (by simp [CollectStage.code?])

/-- The service is subscribed for an event exactly when some subscriber is for it. -/
def Agrees (eventId : Address → Int) (system : CollectSystem) : Prop :=
  ∀ event, system.server.contains event = true ↔
    ∃ subscriber, system.manager.subscribers.contains subscriber = true ∧
      eventId subscriber = event

/-- Whether some subscriber is for an event. -/
def hasSubscriber (eventId : Address → Int) (system : CollectSystem) (event : Int) : Bool :=
  system.manager.subscribers.keys.any fun subscriber => eventId subscriber = event

/-- Whether some call is about to enter a subscriber for an event. -/
def isInserting (eventId : Address → Int) (system : CollectSystem) (event : Int) : Bool :=
  system.calls.entries.any fun entry =>
    entry.2.stage = .insert && eventId entry.2.subscriber = event

/-- The condition on a step: the service is not called to unsubscribe an event that a subscriber
is for or is about to be entered for. -/
def unsubscribesUnneeded (eventId : Address → Int) (system : CollectSystem) :
    CollectAction → Bool
  | .proceed id _ =>
      (system.calls.get? id).all fun call =>
        !(call.stage = .serverUnsubscribe &&
          (system.hasSubscriber eventId (eventId call.subscriber) ||
            system.isInserting eventId (eventId call.subscriber)))
  | _ => true

/-- Whether the service does what it is called for in a step. -/
def serverSucceeds : CollectAction → Bool
  | .proceed _ answer => answer.code = .success
  | _ => true

theorem hasSubscriber_iff {event : Int} :
    system.hasSubscriber eventId event = true ↔
      ∃ subscriber, system.manager.subscribers.contains subscriber = true ∧
        eventId subscriber = event := by
  rw [hasSubscriber, List.any_eq_true]
  constructor
  · rintro ⟨subscriber, mem, same⟩
    exact ⟨subscriber, SortedMap.mem_keys_iff.mp mem, of_decide_eq_true same⟩
  · rintro ⟨subscriber, entered, same⟩
    exact ⟨subscriber, SortedMap.mem_keys_iff.mpr entered, decide_eq_true same⟩

theorem isInserting_iff {event : Int} :
    system.isInserting eventId event = true ↔
      ∃ id call, system.calls.get? id = some call ∧ call.stage = .insert ∧
        eventId call.subscriber = event := by
  rw [isInserting, List.any_eq_true]
  constructor
  · rintro ⟨⟨id, call⟩, mem, entering⟩
    obtain ⟨stage, same⟩ := (Bool.and_eq_true _ _).mp entering
    exact ⟨id, call, SortedMap.mem_entries_iff.mp mem, of_decide_eq_true stage,
      of_decide_eq_true same⟩
  · rintro ⟨id, call, found, stage, same⟩
    refine ⟨(id, call), SortedMap.mem_entries_iff.mpr found, ?_⟩
    exact (Bool.and_eq_true _ _).mpr ⟨decide_eq_true stage, decide_eq_true same⟩

/-- An event that a subscriber is for or is about to be entered for. -/
def Needed (eventId : Address → Int) (system : CollectSystem) (event : Int) : Prop :=
  (∃ subscriber, system.manager.subscribers.contains subscriber = true ∧
      eventId subscriber = event) ∨
    ∃ id call, system.calls.get? id = some call ∧ call.stage = .insert ∧
      eventId call.subscriber = event

/-- An event that an `Unsubscribe` may still give up. -/
def Withdrawn (eventId : Address → Int) (system : CollectSystem) (event : Int) : Prop :=
  ∃ id call, system.calls.get? id = some call ∧
    (call.stage = .askLast ∨ call.stage = .serverUnsubscribe) ∧ eventId call.subscriber = event

/-- The service is subscribed for every event that is needed, and for another one only while an
`Unsubscribe` is about to give it up. -/
structure Covered (eventId : Address → Int) (system : CollectSystem) : Prop where
  needed : ∀ event, system.Needed eventId event → system.server.contains event = true
  given : ∀ event, system.server.contains event = true →
    system.Needed eventId event ∨ system.Withdrawn eventId event
  accepted : ∀ id call code, system.calls.get? id = some call → call.stage ≠ .restore code

theorem covered_initial : Covered eventId {} where
  needed := by
    rintro event (⟨subscriber, entered, _⟩ | ⟨id, call, found, _⟩)
    · exact absurd entered (by simp)
    · exact absurd found (by simp)
  given := fun event known => absurd known (by simp)
  accepted := fun id call code found => absurd found (by simp)

/-- When no call is in flight nothing is about to be entered or given up. -/
theorem Covered.agrees (covered : system.Covered eventId) (quiescent : system.Quiescent) :
    system.Agrees eventId := by
  have needed_iff (event : Int) : system.Needed eventId event ↔
      ∃ subscriber, system.manager.subscribers.contains subscriber = true ∧
        eventId subscriber = event := by
    refine ⟨?_, Or.inl⟩
    rintro (subscribed | ⟨id, call, found, stage, _⟩)
    · exact subscribed
    · obtain ⟨code, finished⟩ := quiescent id call found
      exact absurd (stage.symm.trans finished) (by simp)
  intro event
  rw [← needed_iff]
  refine ⟨fun known => ?_, covered.needed event⟩
  rcases covered.given event known with needed | ⟨id, call, found, stage, _⟩
  · exact needed
  · obtain ⟨code, finished⟩ := quiescent id call found
    rw [finished] at stage
    exact absurd stage (by simp)

/-- Two states that differ at most for one event. -/
structure SameElsewhere (eventId : Address → Int) (event : Int) (before after : CollectSystem) :
    Prop where
  calls : after.calls = before.calls
  server : ∀ other, other ≠ event →
    after.server.contains other = before.server.contains other
  subscribers : ∀ subscriber, eventId subscriber ≠ event →
    after.manager.subscribers.contains subscriber =
      before.manager.subscribers.contains subscriber

section Moves

variable {middle : CollectSystem} {id : CollectCallId} {call : CollectCall}
  {stage : CollectStage} {subscriber : Address} {event : Int}

theorem found_withCall {other : CollectCallId} {call' : CollectCall}
    (found : (middle.withCall id subscriber stage).calls.get? other = some call') :
    (other = id ∧ call' = { subscriber, stage }) ∨ middle.calls.get? other = some call' := by
  rcases SortedMap.get?_insert_eq_some.mp found with ⟨same, rfl⟩ | ⟨_, before⟩
  · exact .inl ⟨same, rfl⟩
  · exact .inr before

theorem get?_withCall {other : CollectCallId} {call' : CollectCall}
    (found : middle.calls.get? id = some call) (found' : middle.calls.get? other = some call') :
    (middle.withCall id subscriber stage).calls.get? other = some call' ∨ call' = call := by
  by_cases same : other = id
  · subst same
    exact .inr (Option.some.inj (found'.symm.trans found))
  · exact .inl ((SortedMap.get?_insert _ _ _ _).trans ((if_neg same).trans found'))

theorem needed_of_withCall
    (needed : (middle.withCall id subscriber stage).Needed eventId event) :
    middle.Needed eventId event ∨ (stage = .insert ∧ eventId subscriber = event) := by
  rcases needed with subscribed | ⟨other, call', found, entering, same⟩
  · exact .inl (.inl subscribed)
  · rcases found_withCall found with ⟨_, rfl⟩ | before
    · exact .inr ⟨entering, same⟩
    · exact .inl (.inr ⟨other, call', before, entering, same⟩)

theorem Needed.withCall (found : middle.calls.get? id = some call)
    (needed : middle.Needed eventId event) :
    (middle.withCall id subscriber stage).Needed eventId event ∨
      (call.stage = .insert ∧ eventId call.subscriber = event) := by
  rcases needed with subscribed | ⟨other, call', before, entering, same⟩
  · exact .inl (.inl subscribed)
  · rcases get?_withCall found before with kept | rfl
    · exact .inl (.inr ⟨other, call', kept, entering, same⟩)
    · exact .inr ⟨entering, same⟩

theorem Withdrawn.withCall (found : middle.calls.get? id = some call)
    (withdrawn : middle.Withdrawn eventId event) :
    (middle.withCall id subscriber stage).Withdrawn eventId event ∨
      ((call.stage = .askLast ∨ call.stage = .serverUnsubscribe) ∧
        eventId call.subscriber = event) := by
  obtain ⟨other, call', before, leaving, same⟩ := withdrawn
  rcases get?_withCall found before with kept | rfl
  · exact .inl ⟨other, call', kept, leaving, same⟩
  · exact .inr ⟨leaving, same⟩

theorem SameElsewhere.needed (elsewhere : SameElsewhere eventId event system middle)
    {other : Int} (different : other ≠ event) :
    middle.Needed eventId other ↔ system.Needed eventId other := by
  have subscribed (subscriber : Address) :
      (middle.manager.subscribers.contains subscriber = true ∧ eventId subscriber = other) ↔
        (system.manager.subscribers.contains subscriber = true ∧ eventId subscriber = other) := by
    refine and_congr_left fun same => ?_
    rw [elsewhere.subscribers subscriber (same.trans_ne different)]
  rw [Needed, Needed, elsewhere.calls, exists_congr subscribed]

theorem SameElsewhere.withdrawn (elsewhere : SameElsewhere eventId event system middle)
    (other : Int) : middle.Withdrawn eventId other ↔ system.Withdrawn eventId other := by
  rw [Withdrawn, Withdrawn, elsewhere.calls]

/-- A call that goes on concerns the event of its subscriber only. -/
theorem Covered.withCall (covered : system.Covered eventId)
    (found : system.calls.get? id = some call)
    (elsewhere : SameElsewhere eventId (eventId call.subscriber) system middle)
    (accepted : ∀ code, stage ≠ .restore code)
    (needed : (middle.withCall id call.subscriber stage).Needed eventId (eventId call.subscriber) →
      middle.server.contains (eventId call.subscriber) = true)
    (given : middle.server.contains (eventId call.subscriber) = true →
      (middle.withCall id call.subscriber stage).Needed eventId (eventId call.subscriber) ∨
        (middle.withCall id call.subscriber stage).Withdrawn eventId (eventId call.subscriber)) :
    (middle.withCall id call.subscriber stage).Covered eventId := by
  have present : middle.calls.get? id = some call := elsewhere.calls ▸ found
  constructor
  · intro event reached
    by_cases same : event = eventId call.subscriber
    · subst same
      exact needed reached
    · rcases needed_of_withCall reached with before | ⟨_, mine⟩
      · have known := covered.needed event ((elsewhere.needed same).mp before)
        exact (elsewhere.server event same).trans known
      · exact absurd mine.symm same
  · intro event known
    by_cases same : event = eventId call.subscriber
    · subst same
      exact given known
    · rcases covered.given event ((elsewhere.server event same).symm.trans known) with
        before | before
      · rcases ((elsewhere.needed same).mpr before).withCall present with kept | ⟨_, mine⟩
        · exact .inl kept
        · exact absurd mine.symm same
      · rcases ((elsewhere.withdrawn event).mpr before).withCall present with kept | ⟨_, mine⟩
        · exact .inr kept
        · exact absurd mine.symm same
  · intro other call' code reached
    rcases found_withCall reached with ⟨_, rfl⟩ | before
    · exact accepted code
    · exact covered.accepted other call' code (elsewhere.calls ▸ before)

/-- A section that changes neither the service nor the subscribers. -/
theorem Covered.unchanged (covered : system.Covered eventId)
    (found : system.calls.get? id = some call) (calls : middle.calls = system.calls)
    (server : middle.server = system.server)
    (subscribers : middle.manager.subscribers = system.manager.subscribers)
    (accepted : ∀ code, stage ≠ .restore code)
    (enters : stage = .insert → system.Needed eventId (eventId call.subscriber))
    (leaves : call.stage = .insert ∨ call.stage = .askLast ∨ call.stage = .serverUnsubscribe →
      (middle.withCall id call.subscriber stage).Needed eventId (eventId call.subscriber) ∨
        (middle.withCall id call.subscriber stage).Withdrawn eventId (eventId call.subscriber)) :
    (middle.withCall id call.subscriber stage).Covered eventId := by
  have present : middle.calls.get? id = some call := calls ▸ found
  have needed_iff (event : Int) : middle.Needed eventId event ↔ system.Needed eventId event := by
    rw [Needed, Needed, calls, subscribers]
  refine covered.withCall found ⟨calls, fun _ _ => by rw [server], fun _ _ => by rw [subscribers]⟩
    accepted ?_ ?_
  · intro reached
    rw [server]
    rcases needed_of_withCall reached with before | ⟨entering, _⟩
    · exact covered.needed _ ((needed_iff _).mp before)
    · exact covered.needed _ (enters entering)
  · intro known
    rw [server] at known
    rcases covered.given _ known with before | before
    · rcases ((needed_iff _).mpr before).withCall present with kept | ⟨entering, _⟩
      · exact .inl kept
      · exact leaves (.inl entering)
    · rw [Withdrawn, ← calls] at before
      rcases Withdrawn.withCall present before with kept | ⟨leaving, _⟩
      · exact .inr kept
      · exact leaves (.inr leaving)

theorem Covered.serverSubscribe (covered : system.Covered eventId)
    (found : system.calls.get? id = some call) :
    ({ system with server := system.server.insert (eventId call.subscriber) () }.withCall id
      call.subscriber .insert).Covered eventId := by
  refine covered.withCall found ⟨rfl, fun other different => ?_, fun _ _ => rfl⟩
    (fun code => by simp) (fun _ => by simp) fun _ => ?_
  · rw [SortedMap.contains_insert, decide_eq_false different, Bool.false_or]
  · exact .inl (.inr ⟨id, _, SortedMap.get?_insert_self _ _ _, rfl, rfl⟩)

theorem Covered.insert (covered : system.Covered eventId)
    (found : system.calls.get? id = some call) (entering : call.stage = .insert) :
    ({ system with manager := system.manager.insert call.subscriber }.withCall id call.subscriber
      (.finished .success)).Covered eventId := by
  have relied : system.Needed eventId (eventId call.subscriber) :=
    .inr ⟨id, call, found, entering, rfl⟩
  refine covered.withCall found ⟨rfl, fun _ _ => rfl, fun subscriber different => ?_⟩
    (fun code => by simp) (fun _ => covered.needed _ relied) fun _ => ?_
  · have other : subscriber ≠ call.subscriber := fun same => different (congrArg eventId same)
    rw [DataCollectManager.insert, SortedMap.contains_insert, decide_eq_false other,
      Bool.false_or]
  · refine .inl (.inl ⟨call.subscriber, ?_, rfl⟩)
    rw [CollectSystem.withCall, DataCollectManager.insert, SortedMap.contains_insert,
      decide_eq_true rfl, Bool.true_or]

/-- The subscriber is removed, and its call may give up the event. -/
theorem Covered.erase (covered : system.Covered eventId)
    (found : system.calls.get? id = some call) :
    ({ system with manager := system.manager.erase call.subscriber }.withCall id call.subscriber
      .askLast).Covered eventId := by
  refine covered.withCall found ⟨rfl, fun _ _ => rfl, fun subscriber different => ?_⟩
    (fun code => by simp) (fun reached => ?_) fun _ => ?_
  · have other : subscriber ≠ call.subscriber := fun same => different (congrArg eventId same)
    rw [DataCollectManager.erase, SortedMap.contains_erase, decide_eq_false other, Bool.not_false,
      Bool.true_and]
  · rcases needed_of_withCall reached with (⟨subscriber, entered, same⟩ | inserting) | ⟨stage, _⟩
    · rw [DataCollectManager.erase, SortedMap.contains_erase] at entered
      exact covered.needed _ (.inl ⟨subscriber, ((Bool.and_eq_true _ _).mp entered).2, same⟩)
    · exact covered.needed _ (.inr inserting)
    · exact absurd stage (by simp)
  · exact .inr ⟨id, _, SortedMap.get?_insert_self _ _ _, .inl rfl, rfl⟩

theorem Covered.serverUnsubscribe (covered : system.Covered eventId)
    (found : system.calls.get? id = some call)
    (unneeded : ¬system.Needed eventId (eventId call.subscriber)) :
    ({ system with server := system.server.erase (eventId call.subscriber) }.withCall id
      call.subscriber (.finished .success)).Covered eventId := by
  refine covered.withCall found ⟨rfl, fun other different => ?_, fun _ _ => rfl⟩
    (fun code => by simp) (fun reached => ?_) fun known => ?_
  · rw [SortedMap.contains_erase, decide_eq_false different, Bool.not_false, Bool.true_and]
  · rcases needed_of_withCall reached with before | ⟨stage, _⟩
    · exact absurd before unneeded
    · exact absurd stage (by simp)
  · rw [SortedMap.contains_erase, decide_eq_true rfl, Bool.not_true, Bool.false_and] at known
    exact absurd known (by simp)

end Moves

theorem not_needed_iff {event : Int} :
    ¬system.Needed eventId event ↔
      (system.hasSubscriber eventId event || system.isInserting eventId event) = false := by
  rw [← Bool.not_eq_true, Bool.or_eq_true, hasSubscriber_iff, isInserting_iff]
  rfl

theorem Covered.section (covered : system.Covered eventId) {id : CollectCallId}
    {call : CollectCall} {answer : CollectAnswer} {result : CollectStage × CollectSystem}
    (found : system.calls.get? id = some call) (succeeds : answer.code = .success)
    (unneeded : call.stage = .serverUnsubscribe →
      ¬system.Needed eventId (eventId call.subscriber))
    (taken : system.section? eventId call answer = some result) :
    (result.2.withCall id call.subscriber result.1).Covered eventId := by
  rw [section?] at taken
  cases stage : call.stage with
  | register object =>
      rw [stage] at taken
      obtain rfl := Option.some.inj taken
      obtain ⟨subscribers, outside, accepted⟩ :=
        system.manager.register_spec call.subscriber object answer
      exact covered.unchanged found rfl rfl subscribers accepted
        (fun entering => absurd entering outside) (by simp [stage])
  | askFirst =>
      rw [stage] at taken
      obtain rfl := Option.some.inj taken
      refine covered.unchanged found rfl rfl rfl ?_ ?_ ?_
      · intro code
        split_ifs <;> simp
      · intro entering
        split_ifs at entering with exist
        exact .inl (hasSubscriber_iff.mp exist)
      · rw [stage]
        simp
  | serverSubscribe =>
      rw [stage] at taken
      dsimp only at taken
      rw [if_pos succeeds] at taken
      obtain rfl := Option.some.inj taken
      exact covered.serverSubscribe found
  | insert =>
      rw [stage] at taken
      obtain rfl := Option.some.inj taken
      exact covered.insert found stage
  | checkSubscribed =>
      rw [stage] at taken
      obtain rfl := Option.some.inj taken
      obtain ⟨outside, accepted⟩ := system.manager.checkSubscribed_spec call.subscriber
      exact covered.unchanged found rfl rfl rfl accepted
        (fun entering => absurd entering outside) (by simp [stage])
  | findService =>
      rw [stage] at taken
      dsimp only at taken
      split at taken <;> obtain rfl := Option.some.inj taken <;>
        exact covered.unchanged found rfl rfl rfl (by simp) (by simp) (by simp [stage])
  | erase =>
      rw [stage] at taken
      obtain rfl := Option.some.inj taken
      exact covered.erase found
  | askLast =>
      rw [stage] at taken
      obtain rfl := Option.some.inj taken
      refine covered.unchanged found rfl rfl rfl ?_ ?_ ?_
      · intro code
        split_ifs <;> simp
      · split_ifs <;> simp
      · intro _
        split_ifs with exist
        · exact .inl (.inl (hasSubscriber_iff.mp exist))
        · exact .inr ⟨id, _, SortedMap.get?_insert_self _ _ _, .inr rfl, rfl⟩
  | serverUnsubscribe =>
      rw [stage] at taken
      dsimp only at taken
      rw [if_pos succeeds] at taken
      obtain rfl := Option.some.inj taken
      exact covered.serverUnsubscribe found (unneeded stage)
  | restore code => exact absurd stage (covered.accepted id call code found)
  | finished code =>
      rw [stage] at taken
      exact absurd taken (by simp)

/-- A new call has no part in what is needed. -/
theorem Covered.begin (covered : system.Covered eventId) {id : CollectCallId}
    {subscriber : Address} {stage : CollectStage} (fresh : ¬system.calls.contains id = true)
    (enters : stage ≠ .insert) (accepted : ∀ code, stage ≠ .restore code) :
    (system.withCall id subscriber stage).Covered eventId := by
  have kept {other : CollectCallId} {call : CollectCall}
      (found : system.calls.get? other = some call) :
      (system.withCall id subscriber stage).calls.get? other = some call := by
    have different : other ≠ id := by
      rintro rfl
      exact fresh (SortedMap.contains_iff.mpr ⟨call, found⟩)
    exact (SortedMap.get?_insert _ _ _ _).trans ((if_neg different).trans found)
  constructor
  · intro event reached
    rcases needed_of_withCall reached with before | ⟨entering, _⟩
    · exact covered.needed event before
    · exact absurd entering enters
  · intro event known
    rcases covered.given event known with (subscribed | ⟨other, call, found, rest⟩) |
      ⟨other, call, found, rest⟩
    · exact .inl (.inl subscribed)
    · exact .inl (.inr ⟨other, call, kept found, rest⟩)
    · exact .inr ⟨other, call, kept found, rest⟩
  · intro other call code reached
    rcases found_withCall reached with ⟨_, rfl⟩ | before
    · exact accepted code
    · exact covered.accepted other call code before

theorem Covered.next (covered : system.Covered eventId) {action : CollectAction}
    (permitted : serverSucceeds action = true ∧ system.unsubscribesUnneeded eventId action = true)
    (taken : CollectSystem.next eventId system action = some after) : after.Covered eventId := by
  cases action with
  | subscribe id subscriber search =>
      simp only [CollectSystem.next] at taken
      split_ifs at taken with fresh
      obtain rfl := Option.some.inj taken
      rcases subscriber with _ | subscriber
      · exact covered.begin fresh (by simp) (by simp)
      · cases search <;> exact covered.begin fresh (by simp) (by simp)
  | unsubscribe id subscriber =>
      simp only [CollectSystem.next] at taken
      split_ifs at taken with fresh
      obtain rfl := Option.some.inj taken
      cases subscriber <;> exact covered.begin fresh (by simp) (by simp)
  | proceed id answer =>
      obtain ⟨call, found, moved⟩ := Option.bind_eq_some_iff.mp taken
      obtain ⟨result, sectioned, rfl⟩ := Option.map_eq_some_iff.mp moved
      refine covered.section found (of_decide_eq_true permitted.1) (fun stage => ?_) sectioned
      have condition := permitted.2
      rw [unsubscribesUnneeded, found, Option.all_some, stage, decide_eq_true rfl, Bool.true_and,
        Bool.not_eq_true'] at condition
      exact not_needed_iff.mpr condition

/-- When no call is in flight the service is subscribed exactly for the events of the
subscribers, if it was not called to unsubscribe an event that one of them needed. -/
theorem subscriptions_agree {final : CollectSystem} {actions : List CollectAction}
    (succeeding : ∀ action ∈ actions, serverSucceeds action = true)
    (permitted : Transition.Along (next eventId)
      (fun system action => system.unsubscribesUnneeded eventId action = true) {} actions)
    (reach : Transition.run (next eventId) {} actions = some final)
    (quiescent : final.Quiescent) : final.Agrees eventId := by
  have along := permitted.and_mem succeeding
  have covered : final.Covered eventId :=
    Transition.run_invariant (fun covered both taken => covered.next ⟨both.2, both.1⟩ taken)
      covered_initial along reach
  exact covered.agrees quiescent

/-- Two subscribers are entered one after the other, and the first is removed. -/
def firstLeaves : List CollectAction :=
  .subscribe 1 (some 10) (.proxy 100) :: List.replicate 4 (.proceed 1 {}) ++
    .subscribe 2 (some 11) (.proxy 100) :: List.replicate 3 (.proceed 2 {}) ++
      .unsubscribe 3 (some 10) :: List.replicate 4 (.proceed 3 {})

theorem subscriptions_agree_firstLeaves :
    ∃ final, Transition.run (next fun _ => 7) {} firstLeaves = some final ∧
      final.server.contains 7 = true ∧ final.Agrees fun _ => 7 := by
  let final := (Transition.run (next fun _ => 7) {} firstLeaves).getD {}
  have reach : Transition.run (next fun _ => 7) {} firstLeaves = some final :=
    Transition.run_eq_getD (by decide +kernel)
  refine ⟨final, reach, by decide +kernel, ?_⟩
  exact subscriptions_agree (by decide +kernel) (by decide +kernel) reach
    (quiescent_of_entries (by decide +kernel))

/-- The second `Subscribe` finds the subscriber of the first and does not call the service; before
it enters its own, that of the first is removed as the last one. -/
def lastLeavesBeforeInsert : List CollectAction :=
  .subscribe 1 (some 10) (.proxy 100) :: List.replicate 4 (.proceed 1 {}) ++
    .subscribe 2 (some 11) (.proxy 100) :: List.replicate 2 (.proceed 2 {}) ++
      .unsubscribe 3 (some 10) :: List.replicate 5 (.proceed 3 {}) ++ [.proceed 2 {}]

/-- After `lastLeavesBeforeInsert` a subscriber is entered for an event that the service does not
collect for it. -/
theorem subscriptions_disagree :
    ∃ final, Transition.run (next fun _ => 7) {} lastLeavesBeforeInsert = some final ∧
      (∀ action ∈ lastLeavesBeforeInsert, serverSucceeds action = true) ∧ final.Quiescent ∧
        ¬final.Agrees fun _ => 7 := by
  let final := (Transition.run (next fun _ => 7) {} lastLeavesBeforeInsert).getD {}
  refine ⟨final, Transition.run_eq_getD (by decide +kernel), by decide +kernel,
    quiescent_of_entries (by decide +kernel), ?_⟩
  intro agrees
  have entered : final.manager.subscribers.contains 11 = true := by decide +kernel
  have dropped : final.server.contains 7 = false := by decide +kernel
  exact absurd ((agrees 7).mpr ⟨11, entered, rfl⟩) (by simp [dropped])

end CollectSystem

end SecurityGuard
