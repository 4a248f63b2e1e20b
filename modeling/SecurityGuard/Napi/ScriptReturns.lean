import SecurityGuard.Napi.ScriptSubscriptions

/-!
# Calls of scripts return

A call ends after a number of its own steps that its list bounds, and no script waits for ever for
the mutex: the script that holds it can go on.
-/

namespace SecurityGuard

/-- The steps of a library call that are left, up to the one that takes its answer. -/
def CollectStage.left : CollectStage → Nat
  | .checkSubscribed => 7
  | .findService => 6
  | .register _ | .erase => 5
  | .askFirst | .askLast => 4
  | .serverSubscribe | .serverUnsubscribe => 3
  | .insert | .restore _ => 2
  | .finished _ => 1

/-- The entries that a call may still come to. -/
def ScriptCall.left : ScriptCall → Nat
  | .on => 0
  | .off _ _ rest => rest.length

/-- The script that a step is of, for the steps within its calls. -/
def ScriptAction.within? : ScriptAction → Option JsEnv
  | .proceed env _ | .resume env _ => some env
  | _ => none

theorem DataCollectManager.register_left (manager : DataCollectManager)
    (subscriber object : Address) (answer : CollectAnswer) :
    (manager.register subscriber object answer).1.left ≤ 4 := by
  rw [register]
  split_ifs
  · simp [CollectStage.left]
  · simp [CollectStage.left]
  · dsimp only
    split_ifs <;> simp [CollectStage.left]

namespace CollectSystem

variable {eventId : Address → Int} {collect after : CollectSystem}

/-- Every section brings a library call further. -/
theorem section_left {call : CollectCall} {answer : CollectAnswer} {stage : CollectStage}
    (moved : collect.section? eventId call answer = some (stage, after)) :
    stage.left < call.stage.left := by
  obtain ⟨subscriber, before⟩ := call
  cases before with
  | register object =>
      obtain ⟨rfl, -⟩ := Prod.mk.inj (Option.some.inj moved)
      exact Nat.lt_succ_of_le (collect.manager.register_left subscriber object answer)
  | checkSubscribed =>
      obtain ⟨rfl, -⟩ := Prod.mk.inj (Option.some.inj moved)
      rw [DataCollectManager.checkSubscribed]
      split_ifs <;> simp [CollectStage.left]
  | findService =>
      dsimp only [section?] at moved
      split at moved
      all_goals
        obtain ⟨rfl, -⟩ := Prod.mk.inj (Option.some.inj moved)
        simp [CollectStage.left]
  | askFirst | askLast =>
      obtain ⟨rfl, -⟩ := Prod.mk.inj (Option.some.inj moved)
      split_ifs <;> simp [CollectStage.left]
  | serverSubscribe | serverUnsubscribe =>
      dsimp only [section?] at moved
      split_ifs at moved
      all_goals
        obtain ⟨rfl, -⟩ := Prod.mk.inj (Option.some.inj moved)
        simp [CollectStage.left]
  | insert | erase | restore =>
      obtain ⟨rfl, -⟩ := Prod.mk.inj (Option.some.inj moved)
      simp [CollectStage.left]
  | finished code => simp [section?] at moved

theorem exists_section {call : CollectCall} (answer : CollectAnswer)
    (unfinished : ∀ code, call.stage ≠ .finished code) :
    ∃ result, collect.section? eventId call answer = some result := by
  obtain ⟨subscriber, stage⟩ := call
  cases stage with
  | finished code => exact absurd rfl (unfinished code)
  | findService =>
      rw [section?]
      dsimp only
      split <;> exact ⟨_, rfl⟩
  | serverSubscribe | serverUnsubscribe =>
      rw [section?]
      dsimp only
      split_ifs <;> exact ⟨_, rfl⟩
  | _ => exact ⟨_, rfl⟩

theorem proceed_left {id : CollectCallId} {call : CollectCall} {answer : CollectAnswer}
    (found : collect.calls.get? id = some call)
    (taken : next eventId collect (.proceed id answer) = some after) :
    ∃ later, after.calls.get? id = some later ∧ later.stage.left < call.stage.left := by
  rw [next, found, Option.bind_some] at taken
  obtain ⟨⟨stage, middle⟩, moved, rfl⟩ := Option.map_eq_some_iff.mp taken
  exact ⟨_, SortedMap.get?_insert_self .., section_left moved⟩

end CollectSystem

namespace ScriptSystem

variable {eventId : Address → Int} {pointer : Address → Nat} {system after : ScriptSystem}
  {env : JsEnv} {thread : ScriptThread}

/-- The steps that the call of a script may still take. -/
def work (system : ScriptSystem) (env : JsEnv) : Nat :=
  (system.threads.get? env).elim 0 fun thread =>
    (system.collect.calls.get? thread.id).elim 0 (fun call => call.stage.left) +
      7 * thread.call.left

theorem work_of_idle (idle : system.threads.get? env = none) : system.work env = 0 := by
  rw [work, idle, Option.elim_none]

theorem work_of_waiting {call : CollectCall} (found : system.threads.get? env = some thread)
    (waiting : system.collect.calls.get? thread.id = some call) :
    system.work env = call.stage.left + 7 * thread.call.left := by
  rw [work, found, Option.elim_some, waiting, Option.elim_some]

/-- What a call of one script leaves to the others. -/
structure Frames (system after : ScriptSystem) (env : JsEnv) : Prop where
  threads : ∀ other, other ≠ env → after.threads.get? other = system.threads.get? other
  calls : ∀ other, other ≠ env → ∀ thread, system.threads.get? other = some thread →
    after.collect.calls.get? thread.id = system.collect.calls.get? thread.id

theorem Frames.refl (system : ScriptSystem) (env : JsEnv) : system.Frames system env :=
  ⟨fun _ _ => rfl, fun _ _ _ _ => rfl⟩

theorem Frames.work (frames : system.Frames after env) {other : JsEnv} (different : other ≠ env) :
    after.work other = system.work other := by
  rw [ScriptSystem.work, ScriptSystem.work, frames.threads other different]
  cases found : system.threads.get? other with
  | none => rfl
  | some thread =>
      rw [Option.elim_some, Option.elim_some, frames.calls other different thread found]

theorem Sound.frames (sound : system.Sound) {id : CollectCallId} {call : CollectCall}
    (threads : ∀ other, other ≠ env → after.threads.get? other = system.threads.get? other)
    (unknown : system.collect.calls.contains id = false)
    (calls : after.collect.calls = system.collect.calls.insert id call) :
    system.Frames after env := by
  refine ⟨threads, fun other _ thread found => ?_⟩
  obtain ⟨stage, waiting, -⟩ := (sound.waiting other thread found).stage
  have apart : thread.id ≠ id := by
    intro same
    rw [same] at waiting
    simp [SortedMap.contains, waiting] at unknown
  rw [calls, SortedMap.get?_insert, if_neg apart]

theorem endOff_frames (system : ScriptSystem) (env : JsEnv) :
    system.Frames (system.endOff env) env := by
  refine ⟨fun other different => ?_, fun _ _ _ _ => rfl⟩
  rw [endOff, SortedMap.get?_erase, if_neg different]

theorem Sound.offFrom_frames (sound : system.Sound) {scope : OffScope}
    {passed left : List SubscribeCBInfo} {id : CollectCallId} {middle : ScriptSystem}
    (taken : middle.offFrom eventId env scope passed left id = some after)
    (threads : middle.threads = system.threads) (collect : middle.collect = system.collect) :
    system.Frames after env := by
  rw [offFrom] at taken
  split at taken
  next =>
    obtain rfl := Option.some.inj taken
    have frames := endOff_frames middle env
    exact ⟨fun other different => (frames.threads other different).trans (by rw [threads]),
      fun _ _ _ _ => by rw [endOff, collect]⟩
  next =>
    obtain ⟨collect', moved, rfl⟩ := Option.map_eq_some_iff.mp taken
    obtain ⟨unknown, -, calls⟩ := CollectSystem.unsubscribe_moves moved
    rw [collect] at unknown calls
    refine sound.frames (fun other different => ?_) unknown calls
    dsimp only
    rw [threads, SortedMap.get?_insert, if_neg different]

theorem off_frames (sound : system.Sound) {scope : OffScope} {id : CollectCallId}
    (taken : system.off eventId env scope id = some after) : system.Frames after env := by
  rw [off] at taken
  split_ifs at taken
  · obtain rfl := Option.some.inj taken
    exact .refl system env
  · exact sound.offFrom_frames taken rfl rfl

theorem on_frames (sound : system.Sound) {callback : JsFunction} {subscriber : Address}
    {search : ServiceSearch} {id : CollectCallId}
    (taken : system.on eventId pointer env callback subscriber search id = some after) :
    system.Frames after env := by
  rw [on] at taken
  split_ifs at taken
  · obtain rfl := Option.some.inj taken
    exact .refl system env
  · obtain ⟨collect, moved, rfl⟩ := Option.map_eq_some_iff.mp taken
    obtain ⟨unknown, -, stage, calls, -⟩ := CollectSystem.subscribe_moves moved
    refine sound.frames (fun other different => ?_) unknown calls
    rw [SortedMap.get?_insert, if_neg different]

theorem proceed_frames (sound : system.Sound) {answer : CollectAnswer}
    (taken : system.proceed eventId env answer = some after) : system.Frames after env := by
  obtain ⟨thread, found, moved⟩ := Option.bind_eq_some_iff.mp taken
  obtain ⟨collect, proceeds, rfl⟩ := Option.map_eq_some_iff.mp moved
  obtain ⟨before, call, present⟩ := (sound.waiting env thread found).stage
  obtain ⟨stage, calls, -, -⟩ := CollectSystem.proceed_moves call present proceeds
  refine ⟨fun _ _ => rfl, fun other different thread' found' => ?_⟩
  have apart : thread'.id ≠ thread.id := fun same =>
    different (sound.thread_unique found' found same)
  dsimp only
  rw [calls, SortedMap.get?_insert, if_neg apart]

theorem Frames.of_erase (threads : after.threads = system.threads.erase env)
    (collect : after.collect = system.collect) : system.Frames after env := by
  refine ⟨fun other different => ?_, fun _ _ _ _ => by rw [collect]⟩
  rw [threads, SortedMap.get?_erase, if_neg different]

theorem finishOn_frames {info : SubscribeCBInfo} {code : Code}
    (taken : system.finishOn env info code = some after) : system.Frames after env := by
  rw [finishOn] at taken
  split_ifs at taken
  · obtain rfl := Option.some.inj taken
    exact .of_erase rfl rfl
  · obtain rfl := Option.some.inj taken
    exact .of_erase rfl rfl

theorem Sound.finishOff_frames (sound : system.Sound) {scope : OffScope}
    {passed rest : List SubscribeCBInfo} {code : Code} {id : CollectCallId}
    (taken : system.finishOff eventId env scope passed rest code id = some after) :
    system.Frames after env := by
  rw [finishOff] at taken
  split_ifs at taken
  · obtain rfl := Option.some.inj taken
    exact .of_erase rfl rfl
  · obtain rfl := Option.some.inj taken
    exact .of_erase rfl rfl
  · exact sound.offFrom_frames taken rfl rfl

theorem resume_frames (sound : system.Sound) {id : CollectCallId}
    (taken : system.resume eventId env id = some after) : system.Frames after env := by
  obtain ⟨thread, -, taken⟩ := Option.bind_eq_some_iff.mp taken
  split at taken
  next =>
    cases call : thread.call with
    | on =>
        rw [call] at taken
        exact finishOn_frames taken
    | off scope passed rest =>
        rw [call] at taken
        exact sound.finishOff_frames taken
  next => cases taken

theorem SameTables.frames (same : system.SameTables after) (env : JsEnv) :
    system.Frames after env :=
  ⟨fun _ _ => by rw [same.2.2.1], fun _ _ _ _ => by rw [same.2.2.2.2]⟩

theorem proceed_work (sound : system.Sound) {answer : CollectAnswer}
    (taken : system.proceed eventId env answer = some after) :
    after.work env < system.work env := by
  obtain ⟨thread, found, moved⟩ := Option.bind_eq_some_iff.mp taken
  obtain ⟨collect, proceeds, rfl⟩ := Option.map_eq_some_iff.mp moved
  obtain ⟨stage, call, -⟩ := (sound.waiting env thread found).stage
  obtain ⟨later, call', fewer⟩ := CollectSystem.proceed_left call proceeds
  rw [work_of_waiting found call, ScriptSystem.work, found, Option.elim_some, call',
    Option.elim_some]
  omega

/-- The loop comes to no entry twice. -/
theorem offFrom_work {scope : OffScope} {passed left : List SubscribeCBInfo} {id : CollectCallId}
    (taken : system.offFrom eventId env scope passed left id = some after) :
    after.work env ≤ 7 * left.length := by
  rw [offFrom] at taken
  split at taken
  next =>
    obtain rfl := Option.some.inj taken
    rw [work_of_idle (by rw [endOff, SortedMap.get?_erase, if_pos rfl])]
    exact Nat.zero_le _
  next info rest remaining =>
    obtain ⟨collect, moved, rfl⟩ := Option.map_eq_some_iff.mp taken
    obtain ⟨-, -, calls⟩ := CollectSystem.unsubscribe_moves moved
    have shorter : rest.length + 1 ≤ left.length := by
      have suffix : (left.dropWhile fun info => !scope.wants eventId info).length ≤ left.length :=
        (List.dropWhile_suffix _).length_le
      rw [remaining] at suffix
      exact suffix
    rw [ScriptSystem.work, SortedMap.get?_insert_self, Option.elim_some, calls,
      SortedMap.get?_insert_self, Option.elim_some]
    simp only [CollectStage.left, ScriptCall.left]
    omega

theorem resume_work (sound : system.Sound) {id : CollectCallId}
    (taken : system.resume eventId env id = some after) : after.work env < system.work env := by
  obtain ⟨thread, found, taken⟩ := Option.bind_eq_some_iff.mp taken
  obtain ⟨stage, call, -⟩ := (sound.waiting env thread found).stage
  rw [call] at taken
  rw [work_of_waiting found call]
  have left_pos : 0 < stage.left := by
    cases stage <;> simp [CollectStage.left]
  have idle (left : after.threads.get? env = none) :
      after.work env < stage.left + 7 * thread.call.left := by
    rw [work_of_idle left]
    omega
  split at taken
  next code finished =>
    cases calling : thread.call with
    | on =>
        rw [calling] at taken idle
        dsimp only at taken
        rw [finishOn] at taken
        split_ifs at taken
        all_goals
          obtain rfl := Option.some.inj taken
          exact idle (by rw [SortedMap.get?_erase, if_pos rfl])
    | off scope passed rest =>
        rw [calling] at taken idle
        dsimp only at taken
        rw [finishOff] at taken
        split_ifs at taken
        · obtain rfl := Option.some.inj taken
          exact idle (by rw [SortedMap.get?_erase, if_pos rfl])
        · obtain rfl := Option.some.inj taken
          exact idle (by rw [endOff, SortedMap.get?_erase, if_pos rfl])
        · dsimp only at taken
          have bound := offFrom_work taken
          simp only [ScriptCall.left]
          omega
  next => cases taken

/-- A step within the call of a script takes from the work of the call, and the other steps leave
it alone. -/
theorem next_work (sound : system.Sound) (waiting : system.threads.contains env = true)
    {action : ScriptAction} (taken : next eventId pointer system action = some after) :
    after.work env + (if action.within? = some env then 1 else 0) ≤ system.work env := by
  have still {other : JsEnv} (frames : system.Frames after other) (different : env ≠ other)
      (outside : action.within? ≠ some env) :
      after.work env + (if action.within? = some env then 1 else 0) ≤ system.work env := by
    rw [if_neg outside, frames.work different, Nat.add_zero]
  have busy {other : JsEnv} (free : system.isFree other = true) : env ≠ other := by
    rintro rfl
    simp [SortedMap.contains, (isFree_iff.mp free).1] at waiting
  cases action with
  | on other callback subscriber search id =>
      have free : system.isFree other = true := by
        by_contra taken'
        simp [next, on, taken'] at taken
      exact still (on_frames sound taken) (busy free) (by simp [ScriptAction.within?])
  | off other scope id =>
      have free : system.isFree other = true := by
        by_contra taken'
        simp [next, off, taken'] at taken
      exact still (off_frames sound taken) (busy free) (by simp [ScriptAction.within?])
  | proceed other answer =>
      by_cases same : other = env
      · subst same
        have own : (ScriptAction.proceed other answer).within? = some other := rfl
        rw [if_pos own]
        exact proceed_work sound taken
      · exact still (proceed_frames sound taken) (Ne.symm same)
          (by simp [ScriptAction.within?, same])
  | resume other id =>
      by_cases same : other = env
      · subst same
        have own : (ScriptAction.resume other id).within? = some other := rfl
        rw [if_pos own]
        exact resume_work sound taken
      · exact still (resume_frames sound taken) (Ne.symm same)
          (by simp [ScriptAction.within?, same])
  | notify event =>
      exact still ((notify_same taken).frames (env + 1)) (by simp) (by simp [ScriptAction.within?])
  | forward sent =>
      exact still ((forward_same taken).frames (env + 1)) (by simp) (by simp [ScriptAction.within?])
  | run other answer =>
      exact still ((run_same taken).frames (env + 1)) (by simp) (by simp [ScriptAction.within?])

theorem exists_offFrom (system : ScriptSystem) (env : JsEnv) (scope : OffScope)
    (passed left : List SubscribeCBInfo) {id : CollectCallId}
    (unknown : system.collect.calls.contains id = false) :
    ∃ after, system.offFrom eventId env scope passed left id = some after := by
  rw [offFrom]
  split
  · exact ⟨_, rfl⟩
  · simp [CollectSystem.next, unknown]

/-- The call of a script goes on unless it has to take the mutex. -/
theorem goes_on (sound : system.Sound) (found : system.threads.get? env = some thread)
    (passes : thread.call = .on → system.holder = none) (answer : CollectAnswer)
    {id : CollectCallId} (unknown : system.collect.calls.contains id = false) :
    ∃ action, (action = .proceed env answer ∨ action = .resume env id) ∧
      ∃ after, next eventId pointer system action = some after := by
  obtain ⟨stage, call, -⟩ := (sound.waiting env thread found).stage
  by_cases finished : ∃ code, stage = .finished code
  · obtain ⟨code, rfl⟩ := finished
    refine ⟨.resume env id, .inr rfl, ?_⟩
    simp only [next, resume, found, Option.bind_some, call, Option.map_some]
    cases calling : thread.call with
    | on =>
        dsimp only
        rw [finishOn, passes calling]
        split_ifs
        · exact ⟨_, rfl⟩
        · simp at *
        · exact ⟨_, rfl⟩
    | off scope passed rest =>
        dsimp only
        rw [finishOff]
        split_ifs
        · exact ⟨_, rfl⟩
        · exact ⟨_, rfl⟩
        · exact exists_offFrom _ env scope passed rest unknown
  · refine ⟨.proceed env answer, .inl rfl, ?_⟩
    have unfinished (code : Code) : stage ≠ .finished code := fun same => finished ⟨code, same⟩
    obtain ⟨result, moved⟩ : ∃ result, system.collect.section? eventId
        { subscriber := thread.info.subscriber, stage } answer = some result :=
      CollectSystem.exists_section answer unfinished
    simp only [next, proceed, found, Option.bind_some, CollectSystem.next, call]
    rw [moved]
    exact ⟨_, rfl⟩

theorem Sound.work_le (sound : system.Sound) (env : JsEnv) :
    system.work env ≤ 7 * (system.infos env).length := by
  cases found : system.threads.get? env with
  | none =>
      rw [work_of_idle found]
      exact Nat.zero_le _
  | some thread =>
      have waits := sound.waiting env thread found
      obtain ⟨stage, call, -⟩ := waits.stage
      have stage_le : stage.left ≤ 7 := by
        cases stage <;> simp [CollectStage.left]
      have listed : thread.call.left + 1 ≤ (system.infos env).length := by
        have listed := waits.listed
        cases calling : thread.call with
        | on => exact List.length_pos_of_mem waits.mem
        | off scope passed rest =>
            rw [calling] at listed
            rw [listed, ScriptCall.left]
            simp
      rw [work_of_waiting found call]
      dsimp only
      omega

/-- In every run the call of a script has at most seven steps for an entry of its list, whatever
the other scripts do meanwhile, and the script or the one that holds the mutex can make a step
whatever the library and the service answer. -/
theorem calls_return {actions : List ScriptAction}
    (reach : Transition.run (next eventId pointer) {} actions = some system)
    (waiting : system.threads.get? env = some thread) :
    (∀ {more : List ScriptAction} {final : ScriptSystem},
      Transition.run (next eventId pointer) system more = some final →
        Transition.Along (next eventId pointer)
          (fun state _ => state.threads.contains env = true) system more →
            more.countP (fun action => action.within? = some env) ≤
              7 * (system.infos env).length) ∧
      ∃ script, (script = env ∨ system.holder = some script) ∧
        ∀ answer id, system.collect.calls.contains id = false →
          ∃ action, (action = .proceed script answer ∨ action = .resume script id) ∧
            ∃ after, next eventId pointer system action = some after := by
  have sound := sound_run reach
  refine ⟨fun {more final} continues stays => ?_, ?_⟩
  · have step {before after : ScriptSystem} {action : ScriptAction} (sound : before.Sound)
        (stays : before.threads.contains env = true)
        (taken : next eventId pointer before action = some after) :
        after.Sound ∧ after.work env +
          (if decide (action.within? = some env) = true then 1 else 0) ≤ before.work env := by
      refine ⟨next_sound sound taken, ?_⟩
      simpa using next_work sound stays taken
    have bounded := @Transition.run_budget _ _ (next eventId pointer)
      (fun state _ => state.threads.contains env = true) Sound
      (fun action => action.within? = some env) (fun state => state.work env) step _ _ _ sound
      stays continues
    have enough := sound.work_le env
    omega
  · cases held : system.holder with
    | none =>
        exact ⟨env, .inl rfl, fun answer id unknown =>
          goes_on sound waiting (fun _ => held) answer unknown⟩
    | some script =>
        obtain ⟨thread', found, leaving⟩ := (sound.holder script).mp held
        exact ⟨script, .inr rfl, fun answer id unknown =>
          goes_on sound found (fun entering => absurd entering leaving) answer unknown⟩

/-- The service refuses one script, which has to wait until another one has unsubscribed. -/
def mutexTrace : List ScriptAction :=
  [.on 1 7 100 (.proxy 0) 0, .proceed 1 {}, .proceed 1 {}, .proceed 1 {}, .proceed 1 {},
    .resume 1 3, .on 2 7 200 (.proxy 0) 1, .proceed 2 {}, .proceed 2 {},
    .off 1 (.function 7) 2, .proceed 2 { code := .badParam }]

/-- The scripts after `mutexTrace`. -/
def mutexSystem : ScriptSystem :=
  (Transition.run (next (fun subscriber => subscriber) id) {} mutexTrace).getD {}

theorem calls_return_mutexTrace :
    ∃ script, (script = 2 ∨ mutexSystem.holder = some script) ∧
      ∀ answer call, mutexSystem.collect.calls.contains call = false →
        ∃ action, (action = .proceed script answer ∨ action = .resume script call) ∧
          ∃ after, next (fun subscriber => subscriber) id mutexSystem action = some after :=
  (calls_return (Transition.run_eq_getD (by decide +kernel))
    (show mutexSystem.threads.get? 2 =
      some { call := .on, info := { callback := 7, subscriber := 200 }, id := 1 } from by
        decide +kernel)).2

end ScriptSystem

end SecurityGuard
