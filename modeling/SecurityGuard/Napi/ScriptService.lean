import SecurityGuard.Napi.ScriptTasks
import SecurityGuard.Sdk.Subscriptions

/-!
# A script alone keeps the service subscribed

Calls of the library that come one after the other never unsubscribe an event that is needed.  The
calls of one script do, so the service collects exactly the events that the script listens to.
-/

namespace SecurityGuard

/-- Whether a step begins a call. -/
def CollectAction.begins : CollectAction → Bool
  | .proceed _ _ => false
  | _ => true

namespace CollectSystem

variable {eventId : Address → Int} {collect after : CollectSystem}

/-- At most one call is in flight, and it gives up no event that a subscriber is for. -/
structure Sequential (eventId : Address → Int) (collect : CollectSystem) : Prop where
  covered : collect.Covered eventId
  alone : ∀ id call, collect.calls.get? id = some call → (∀ code, call.stage ≠ .finished code) →
    ∀ other call', collect.calls.get? other = some call' → other ≠ id →
      ∃ code, call'.stage = .finished code
  leaving : ∀ id call, collect.calls.get? id = some call → call.stage = .serverUnsubscribe →
    collect.hasSubscriber eventId (eventId call.subscriber) = false

theorem sequential_initial : Sequential eventId {} where
  covered := covered_initial
  alone _ _ found := absurd found (by simp)
  leaving _ _ found := absurd found (by simp)

/-- A section that is about to call the service for the last subscriber of an event has found no
other one. -/
theorem section_leaving {call : CollectCall} {answer : CollectAnswer}
    (moved : collect.section? eventId call answer = some (.serverUnsubscribe, after)) :
    after.hasSubscriber eventId (eventId call.subscriber) = false := by
  obtain ⟨subscriber, before⟩ := call
  cases before with
  | askLast =>
      obtain ⟨stage, rfl⟩ := Prod.mk.inj (Option.some.inj moved)
      split_ifs at stage with exist
      exact (Bool.not_eq_true _).mp exist
  | register object =>
      obtain ⟨stage, -⟩ := Prod.mk.inj (Option.some.inj moved)
      rw [DataCollectManager.register] at stage
      split_ifs at stage
      dsimp only at stage
      split_ifs at stage
  | checkSubscribed =>
      obtain ⟨stage, -⟩ := Prod.mk.inj (Option.some.inj moved)
      rw [DataCollectManager.checkSubscribed] at stage
      split_ifs at stage
  | findService =>
      dsimp only [section?] at moved
      split at moved <;> simp at moved
  | serverSubscribe | serverUnsubscribe =>
      dsimp only [section?] at moved
      split_ifs at moved <;> simp at moved
  | askFirst =>
      obtain ⟨stage, -⟩ := Prod.mk.inj (Option.some.inj moved)
      split_ifs at stage
  | insert | erase | restore | finished => simp [section?] at moved

theorem section_calls {call : CollectCall} {answer : CollectAnswer} {stage : CollectStage}
    (moved : collect.section? eventId call answer = some (stage, after)) :
    after.calls = collect.calls := by
  obtain ⟨subscriber, before⟩ := call
  cases before with
  | findService =>
      dsimp only [section?] at moved
      split at moved
      all_goals
        obtain ⟨-, rfl⟩ := Prod.mk.inj (Option.some.inj moved)
        rfl
  | serverSubscribe | serverUnsubscribe =>
      dsimp only [section?] at moved
      split_ifs at moved
      all_goals
        obtain ⟨-, rfl⟩ := Prod.mk.inj (Option.some.inj moved)
        rfl
  | finished => simp [section?] at moved
  | _ =>
      obtain ⟨-, rfl⟩ := Prod.mk.inj (Option.some.inj moved)
      rfl

/-- The calls stay in turn when only one of them changes and the others have finished. -/
theorem Sequential.of_insert {id : CollectCallId} {call : CollectCall}
    (covered : after.Covered eventId) (calls : after.calls = collect.calls.insert id call)
    (finished : ∀ other call', collect.calls.get? other = some call' → other ≠ id →
      ∃ code, call'.stage = .finished code)
    (leaving : call.stage = .serverUnsubscribe →
      after.hasSubscriber eventId (eventId call.subscriber) = false) :
    after.Sequential eventId := by
  have others {other : CollectCallId} {call' : CollectCall} (different : other ≠ id)
      (found : after.calls.get? other = some call') : ∃ code, call'.stage = .finished code := by
    rw [calls, SortedMap.get?_insert, if_neg different] at found
    exact finished other call' found different
  refine ⟨covered, fun first call' found unfinished other call'' found' different => ?_,
    fun other call' found stage => ?_⟩
  · by_cases same : first = id
    · exact others (same ▸ different) found'
    · obtain ⟨code, done⟩ := others same found
      exact absurd done (unfinished code)
  · by_cases same : other = id
    · rw [same, calls, SortedMap.get?_insert_self] at found
      obtain rfl := Option.some.inj found
      exact leaving stage
    · obtain ⟨code, done⟩ := others same found
      exact absurd (stage.symm.trans done) (by simp)

theorem Sequential.unneeded (sequential : collect.Sequential eventId) (id : CollectCallId)
    (answer : CollectAnswer) :
    collect.unsubscribesUnneeded eventId (.proceed id answer) = true := by
  cases found : collect.calls.get? id with
  | none => simp [unsubscribesUnneeded, found]
  | some call =>
      by_cases stage : call.stage = .serverUnsubscribe
      · have absent := sequential.leaving id call found stage
        have entering : collect.isInserting eventId (eventId call.subscriber) = false := by
          by_contra entering
          obtain ⟨other, call', found', inserting, -⟩ :=
            isInserting_iff.mp ((Bool.not_eq_false _).mp entering)
          have different : other ≠ id := by
            rintro rfl
            obtain rfl := Option.some.inj (found.symm.trans found')
            exact absurd (stage.symm.trans inserting) (by simp)
          obtain ⟨code, done⟩ := sequential.alone id call found (by simp [stage]) other call' found'
            different
          exact absurd (inserting.symm.trans done) (by simp)
        simp [unsubscribesUnneeded, found, absent, entering]
      · simp [unsubscribesUnneeded, found, stage]

/-- A call that begins when none is in flight, or a section of the one that is. -/
theorem Sequential.next (sequential : collect.Sequential eventId) {action : CollectAction}
    (turn : action.begins = true → collect.Quiescent) (accepted : serverSucceeds action = true)
    (taken : CollectSystem.next eventId collect action = some after) :
    after.Sequential eventId := by
  cases action with
  | subscribe id subscriber search =>
      have quiescent := turn rfl
      have covered := sequential.covered.next ⟨accepted, rfl⟩ taken
      simp only [CollectSystem.next] at taken
      split_ifs at taken
      obtain rfl := Option.some.inj taken
      have finished (other : CollectCallId) (call' : CollectCall)
          (found : collect.calls.get? other = some call') (_ : other ≠ id) :
          ∃ code, call'.stage = .finished code := quiescent other call' found
      rcases subscriber with _ | subscriber
      · exact .of_insert covered rfl finished (by simp)
      · cases search <;> exact .of_insert covered rfl finished (by simp)
  | unsubscribe id subscriber =>
      have quiescent := turn rfl
      have covered := sequential.covered.next ⟨accepted, rfl⟩ taken
      simp only [CollectSystem.next] at taken
      split_ifs at taken
      obtain rfl := Option.some.inj taken
      have finished (other : CollectCallId) (call' : CollectCall)
          (found : collect.calls.get? other = some call') (_ : other ≠ id) :
          ∃ code, call'.stage = .finished code := quiescent other call' found
      cases subscriber <;> exact .of_insert covered rfl finished (by simp)
  | proceed id answer =>
      have covered := sequential.covered.next ⟨accepted, sequential.unneeded id answer⟩ taken
      obtain ⟨call, found, moved⟩ := Option.bind_eq_some_iff.mp taken
      obtain ⟨⟨stage, middle⟩, sectioned, rfl⟩ := Option.map_eq_some_iff.mp moved
      have unfinished (code : Code) : call.stage ≠ .finished code := by
        intro done
        simp [section?, done] at sectioned
      have calls : (middle.withCall id call.subscriber stage).calls =
          collect.calls.insert id { subscriber := call.subscriber, stage } := by
        rw [withCall, section_calls sectioned]
      refine .of_insert covered calls (sequential.alone id call found unfinished) ?_
      rintro rfl
      have absent := section_leaving sectioned
      exact absent

end CollectSystem

/-- The script that a step is of. -/
def ScriptAction.script? : ScriptAction → Option JsEnv
  | .on env _ _ _ _ | .off env _ _ | .proceed env _ | .resume env _ | .run env _ => some env
  | .notify _ | .forward _ => none

/-- Whether the service does what it is called for in a step. -/
def ScriptAction.serverSucceeds : ScriptAction → Bool
  | .proceed _ answer => answer.code = .success
  | _ => true

namespace ScriptSystem

variable {eventId : Address → Int} {pointer : Address → Nat} {system after : ScriptSystem}
  {env : JsEnv} {thread : ScriptThread}

/-- The calls of the library come from one script, one after the other. -/
structure InTurn (eventId : Address → Int) (env : JsEnv) (system : ScriptSystem) : Prop where
  only : ∀ other thread, system.threads.get? other = some thread → other = env
  sequential : system.collect.Sequential eventId
  finished : ∀ id call, system.collect.calls.get? id = some call →
    (∀ thread, system.threads.get? env = some thread → thread.id ≠ id) →
      ∃ code, call.stage = .finished code

theorem inTurn_initial : InTurn eventId env {} where
  only _ _ found := absurd found (by simp)
  sequential := CollectSystem.sequential_initial
  finished _ _ found := absurd found (by simp)

theorem InTurn.quiescent_of_idle (inTurn : system.InTurn eventId env)
    (idle : system.threads.get? env = none) : system.collect.Quiescent := fun id call found =>
  inTurn.finished id call found fun thread waiting => by simp [idle] at waiting

theorem InTurn.quiescent_of_finished (inTurn : system.InTurn eventId env)
    (found : system.threads.get? env = some thread) {code : Code}
    (finished : (system.collect.calls.get? thread.id).map CollectCall.stage =
      some (.finished code)) : system.collect.Quiescent := by
  intro id call known
  by_cases own : thread.id = id
  · rw [own, known] at finished
    exact ⟨code, Option.some.inj finished⟩
  · refine inTurn.finished id call known fun thread' found' => ?_
    obtain rfl := Option.some.inj (found.symm.trans found')
    exact own

/-- A script enters a library call when none is in flight, or leaves one. -/
theorem InTurn.of_call {id : CollectCallId} {call : CollectCall}
    (only : ∀ other thread, system.threads.get? other = some thread → other = env)
    (quiescent : system.collect.Quiescent) (sequential : after.collect.Sequential eventId)
    (threads : after.threads = system.threads.insert env thread) (own : thread.id = id)
    (calls : after.collect.calls = system.collect.calls.insert id call) :
    after.InTurn eventId env := by
  refine ⟨fun other thread' found => ?_, sequential, fun other call' found apart => ?_⟩
  · rw [threads, SortedMap.get?_insert] at found
    split_ifs at found with same
    · exact same
    · exact only other thread' found
  · have different : other ≠ id := fun same =>
      apart thread (by rw [threads, SortedMap.get?_insert_self]) (own.trans same.symm)
    rw [calls, SortedMap.get?_insert, if_neg different] at found
    exact quiescent other call' found

theorem InTurn.of_quiescent
    (only : ∀ other thread, after.threads.get? other = some thread → other = env)
    (sequential : after.collect.Sequential eventId) (quiescent : after.collect.Quiescent) :
    after.InTurn eventId env :=
  ⟨only, sequential, fun id call found _ => quiescent id call found⟩

theorem only_erase
    (only : ∀ other thread, system.threads.get? other = some thread → other = env) (other : JsEnv)
    (thread : ScriptThread) (found : (system.threads.erase env).get? other = some thread) :
    other = env :=
  only other thread (SortedMap.get?_erase_eq_some.mp found).2

theorem offFrom_inTurn {scope : OffScope} {passed left : List SubscribeCBInfo}
    {id : CollectCallId}
    (only : ∀ other thread, system.threads.get? other = some thread → other = env)
    (sequential : system.collect.Sequential eventId) (quiescent : system.collect.Quiescent)
    (taken : system.offFrom eventId env scope passed left id = some after) :
    after.InTurn eventId env := by
  rw [offFrom] at taken
  split at taken
  next =>
    obtain rfl := Option.some.inj taken
    exact .of_quiescent (only_erase only) sequential quiescent
  next =>
    obtain ⟨collect, moved, rfl⟩ := Option.map_eq_some_iff.mp taken
    obtain ⟨-, -, calls⟩ := CollectSystem.unsubscribe_moves moved
    exact .of_call only quiescent (sequential.next (fun _ => quiescent) rfl moved) rfl rfl calls

theorem InTurn.next (inTurn : system.InTurn eventId env) (sound : system.Sound)
    {action : ScriptAction} (own : (action.script?.all fun script => script = env) = true)
    (accepted : action.serverSucceeds = true)
    (taken : ScriptSystem.next eventId pointer system action = some after) :
    after.InTurn eventId env := by
  have kept (same : system.SameTables after) : after.InTurn eventId env := by
    obtain ⟨-, -, threads, -, collect⟩ := same
    refine ⟨?_, collect ▸ inTurn.sequential, ?_⟩
    · rw [threads]
      exact inTurn.only
    · rw [threads, collect]
      exact inTurn.finished
  cases action with
  | on other callback subscriber search id =>
      obtain rfl : other = env := by simpa [ScriptAction.script?] using own
      simp only [ScriptSystem.next, on] at taken
      split_ifs at taken with refused known
      · obtain rfl := Option.some.inj taken
        exact inTurn
      · obtain ⟨collect, moved, rfl⟩ := Option.map_eq_some_iff.mp taken
        simp only [Bool.or_eq_true, Bool.not_eq_true', not_or, Bool.not_eq_false] at refused
        have quiescent := inTurn.quiescent_of_idle (isFree_iff.mp refused.1).1
        obtain ⟨-, -, stage, calls, -⟩ := CollectSystem.subscribe_moves moved
        exact .of_call inTurn.only quiescent
          (inTurn.sequential.next (fun _ => quiescent) rfl moved) rfl rfl calls
  | off other scope id =>
      obtain rfl : other = env := by simpa [ScriptAction.script?] using own
      simp only [ScriptSystem.next, off] at taken
      split_ifs at taken with busy unknown
      · obtain rfl := Option.some.inj taken
        exact inTurn
      · have idle := (isFree_iff.mp (by simpa using busy : system.isFree other = true)).1
        exact offFrom_inTurn inTurn.only inTurn.sequential (inTurn.quiescent_of_idle idle) taken
  | proceed other answer =>
      obtain rfl : other = env := by simpa [ScriptAction.script?] using own
      obtain ⟨thread, found, moved⟩ := Option.bind_eq_some_iff.mp taken
      obtain ⟨collect, proceeds, rfl⟩ := Option.map_eq_some_iff.mp moved
      obtain ⟨before, call, present⟩ := (sound.waiting other thread found).stage
      obtain ⟨stage, calls, -, -⟩ := CollectSystem.proceed_moves call present proceeds
      have begun : (CollectAction.proceed thread.id answer).begins = true →
          system.collect.Quiescent := fun begins => by cases begins
      refine ⟨inTurn.only, inTurn.sequential.next begun accepted proceeds,
        fun id call' known apart => ?_⟩
      dsimp only at known
      rw [calls, SortedMap.get?_insert, if_neg (apart thread found).symm] at known
      exact inTurn.finished id call' known apart
  | resume other id =>
      obtain rfl : other = env := by simpa [ScriptAction.script?] using own
      obtain ⟨thread, found, taken⟩ := Option.bind_eq_some_iff.mp taken
      split at taken
      next code finished =>
        have quiescent := inTurn.quiescent_of_finished found finished
        cases call : thread.call with
        | on =>
            rw [call] at taken
            dsimp only at taken
            rw [finishOn] at taken
            split_ifs at taken
            all_goals
              obtain rfl := Option.some.inj taken
              exact .of_quiescent (only_erase inTurn.only) inTurn.sequential quiescent
        | off scope passed rest =>
            rw [call] at taken
            dsimp only at taken
            rw [finishOff] at taken
            split_ifs at taken
            · obtain rfl := Option.some.inj taken
              exact .of_quiescent (only_erase inTurn.only) inTurn.sequential quiescent
            · obtain rfl := Option.some.inj taken
              exact .of_quiescent (only_erase inTurn.only) inTurn.sequential quiescent
            · dsimp only at taken
              refine offFrom_inTurn ?_ ?_ ?_ taken
              · exact inTurn.only
              · exact inTurn.sequential
              · exact quiescent
      next => cases taken
  | notify event => exact kept (notify_same taken)
  | forward sent => exact kept (forward_same taken)
  | run other answer => exact kept (run_same taken)

/-- No other script has an entry. -/
theorem lists_next (sound : system.Sound)
    (lists : ∀ other, other ≠ env → ∀ info, info ∉ system.infos other) {action : ScriptAction}
    (own : (action.script?.all fun script => script = env) = true)
    (taken : ScriptSystem.next eventId pointer system action = some after) :
    ∀ other, other ≠ env → ∀ info, info ∉ after.infos other := by
  have shrunk (shrinks : system.Shrinks after) (other : JsEnv) (different : other ≠ env)
      (info : SubscribeCBInfo) : info ∉ after.infos other := fun mem =>
    lists other different info (shrinks.infos other mem)
  have kept (same : system.SameTables after) (other : JsEnv) (different : other ≠ env)
      (info : SubscribeCBInfo) : info ∉ after.infos other := by
    rw [same.infos]
    exact lists other different info
  cases action with
  | on script callback subscriber search id =>
      obtain rfl : script = env := by simpa [ScriptAction.script?] using own
      rcases on_moves taken with ⟨rfl, -⟩ | ⟨-, -, -, -, -, infos⟩
      · exact lists
      · intro other different info
        rw [infos, if_neg different]
        exact lists other different info
  | off => exact shrunk (off_shrinks taken)
  | proceed => exact shrunk (proceed_shrinks taken)
  | resume => exact shrunk (resume_shrinks sound taken)
  | notify => exact kept (notify_same taken)
  | forward => exact kept (forward_same taken)
  | run => exact kept (run_same taken)

/-- When one script makes all calls and the service accepts them, the service is subscribed exactly
for the events of its list whenever the script is in no call. -/
theorem lone_script_is_served {actions : List ScriptAction}
    (own : ∀ action ∈ actions, (action.script?.all fun script => script = env) = true)
    (accepted : ∀ action ∈ actions, action.serverSucceeds = true)
    (reach : Transition.run (ScriptSystem.next eventId pointer) {} actions = some system)
    (idle : system.threads.get? env = none) (event : Int) :
    system.collect.server.contains event = true ↔
      ∃ info ∈ system.infos env, eventId info.subscriber = event := by
  have step {before after : ScriptSystem} {action : ScriptAction}
      (holds : before.Sound ∧ before.InTurn eventId env ∧
        ∀ other, other ≠ env → ∀ info, info ∉ before.infos other)
      (permitted : (action.script?.all fun script => script = env) = true ∧
        action.serverSucceeds = true)
      (taken : ScriptSystem.next eventId pointer before action = some after) :
      after.Sound ∧ after.InTurn eventId env ∧
        ∀ other, other ≠ env → ∀ info, info ∉ after.infos other :=
    ⟨next_sound holds.1 taken, holds.2.1.next holds.1 permitted.1 permitted.2 taken,
      lists_next holds.1 holds.2.2 permitted.1 taken⟩
  have permitted (action : ScriptAction) (mem : action ∈ actions) :
      (action.script?.all fun script => script = env) = true ∧ action.serverSucceeds = true :=
    ⟨own action mem, accepted action mem⟩
  obtain ⟨sound, inTurn, lists⟩ := Transition.run_invariant step
    ⟨sound_initial, inTurn_initial, fun _ _ _ mem => absurd mem List.not_mem_nil⟩
    (Transition.along_of_mem permitted _) reach
  rw [inTurn.sequential.covered.agrees (inTurn.quiescent_of_idle idle) event]
  constructor
  · rintro ⟨subscriber, entered, same⟩
    obtain ⟨owner, info, mem, rfl⟩ := sound.entered subscriber entered
    obtain rfl : owner = env := by
      by_contra different
      exact lists owner different info mem
    exact ⟨info, mem, same⟩
  · rintro ⟨info, mem, same⟩
    exact ⟨info.subscriber, sound.settled env info mem fun thread found => by simp [idle] at found,
      same⟩

/-- A script subscribes two functions to one event, and takes the first back. -/
def loneTrace : List ScriptAction :=
  [.on 1 7 100 (.proxy 0) 0, .proceed 1 {}, .proceed 1 {}, .proceed 1 {}, .proceed 1 {},
    .resume 1 9, .on 1 8 101 (.proxy 0) 1, .proceed 1 {}, .proceed 1 {}, .proceed 1 {},
    .resume 1 9, .off 1 (.function 7) 2, .proceed 1 {}, .proceed 1 {}, .proceed 1 {},
    .proceed 1 {}, .resume 1 9]

/-- The script after `loneTrace`. -/
def loneSystem : ScriptSystem :=
  (Transition.run (next (fun _ => 5) id) {} loneTrace).getD {}

theorem lone_script_is_served_loneTrace :
    loneSystem.collect.server.contains 5 = true ↔ ∃ info ∈ loneSystem.infos 1, (5 : Int) = 5 :=
  lone_script_is_served (by decide) (by decide) (Transition.run_eq_getD (by decide +kernel))
    (by decide +kernel) 5

end ScriptSystem

end SecurityGuard
