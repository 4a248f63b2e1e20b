import SecurityGuard.Napi.Scripts

/-!
# The scripts and the library agree

Between its calls a script has exactly the subscribers in the library that it has in its table,
and every function is in the table once.
-/

namespace SecurityGuard

open ScriptSystem

/-- Whether a call of `Subscribe` has entered its subscriber at a stage. -/
def CollectStage.afterInsert : CollectStage → Option Bool
  | .register _ | .askFirst | .serverSubscribe | .insert => some false
  | .finished code => some (code = .success)
  | _ => none

/-- Whether a call of `Unsubscribe` has its subscriber in the library at a stage. -/
def CollectStage.beforeErase : CollectStage → Option Bool
  | .checkSubscribed | .findService | .erase => some true
  | .askLast | .serverUnsubscribe => some false
  | .restore code => if code = .success then none else some false
  | .finished code => some (code ≠ .success)
  | _ => none

/-- Whether the library has the subscriber of a waiting call. -/
def ScriptCall.present : ScriptCall → CollectStage → Option Bool
  | .on, stage => stage.afterInsert
  | .off .., stage => stage.beforeErase

/-- The first section of `Subscribe` goes on to enter the subscriber, or fails. -/
theorem DataCollectManager.register_afterInsert {manager : DataCollectManager}
    {subscriber : Address} (absent : manager.subscribers.contains subscriber = false)
    (object : Address) (answer : CollectAnswer) :
    (manager.register subscriber object answer).1.afterInsert = some false := by
  have unknown : ¬manager.subscribers.contains subscriber = true := by simp [absent]
  rw [register, if_neg unknown]
  split_ifs with unset
  · rfl
  · dsimp only
    split_ifs with watched
    · rfl
    · exact congrArg some (decide_eq_false watched)

namespace CollectSystem

variable {eventId : Address → Int} {collect after : CollectSystem}

/-- A section changes the subscriber of its call only, and keeps track of it. -/
theorem section_moves {call : CollectCall} {script : ScriptCall} {answer : CollectAnswer}
    (present : script.present call.stage =
      some (collect.manager.subscribers.contains call.subscriber))
    {stage : CollectStage} (moved : collect.section? eventId call answer = some (stage, after)) :
    after.calls = collect.calls ∧
      script.present stage = some (after.manager.subscribers.contains call.subscriber) ∧
        ∀ other, other ≠ call.subscriber → after.manager.subscribers.contains other =
          collect.manager.subscribers.contains other := by
  obtain ⟨subscriber, before⟩ := call
  cases script with
  | on =>
      cases before with
      | register object =>
          obtain ⟨rfl, rfl⟩ := Prod.mk.inj (Option.some.inj moved)
          obtain ⟨kept, -, -⟩ := collect.manager.register_spec subscriber object answer
          have absent : collect.manager.subscribers.contains subscriber = false :=
            (Option.some.inj present).symm
          refine ⟨rfl, ?_, fun other _ => by rw [kept]⟩
          rw [kept, absent]
          exact DataCollectManager.register_afterInsert absent object answer
      | askFirst =>
          obtain ⟨rfl, rfl⟩ := Prod.mk.inj (Option.some.inj moved)
          refine ⟨rfl, ?_, fun _ _ => rfl⟩
          rw [← present]
          split_ifs <;> rfl
      | serverSubscribe =>
          dsimp only [section?] at moved
          split_ifs at moved with accepted
          · obtain ⟨rfl, rfl⟩ := Prod.mk.inj (Option.some.inj moved)
            exact ⟨rfl, present, fun _ _ => rfl⟩
          · obtain ⟨rfl, rfl⟩ := Prod.mk.inj (Option.some.inj moved)
            refine ⟨rfl, ?_, fun _ _ => rfl⟩
            rw [← present]
            exact congrArg some (decide_eq_false accepted)
      | insert =>
          obtain ⟨rfl, rfl⟩ := Prod.mk.inj (Option.some.inj moved)
          refine ⟨rfl, ?_, fun other different => ?_⟩
          · simp [ScriptCall.present, CollectStage.afterInsert, DataCollectManager.insert]
          · simp [DataCollectManager.insert, different]
      | finished code => simp [section?] at moved
      | _ => simp [ScriptCall.present, CollectStage.afterInsert] at present
  | off scope passed rest =>
      cases before with
      | checkSubscribed =>
          obtain ⟨rfl, rfl⟩ := Prod.mk.inj (Option.some.inj moved)
          refine ⟨rfl, ?_, fun _ _ => rfl⟩
          have entered : collect.manager.subscribers.contains subscriber = true :=
            (Option.some.inj present).symm
          rw [DataCollectManager.checkSubscribed, entered]
          split_ifs <;> rfl
      | findService =>
          dsimp only [section?] at moved
          split at moved
          all_goals
            obtain ⟨rfl, rfl⟩ := Prod.mk.inj (Option.some.inj moved)
            exact ⟨rfl, present, fun _ _ => rfl⟩
      | erase =>
          obtain ⟨rfl, rfl⟩ := Prod.mk.inj (Option.some.inj moved)
          refine ⟨rfl, ?_, fun other different => ?_⟩
          · simp [ScriptCall.present, CollectStage.beforeErase, DataCollectManager.erase]
          · simp [DataCollectManager.erase, different]
      | askLast =>
          obtain ⟨rfl, rfl⟩ := Prod.mk.inj (Option.some.inj moved)
          refine ⟨rfl, ?_, fun _ _ => rfl⟩
          rw [← present]
          split_ifs <;> rfl
      | serverUnsubscribe =>
          dsimp only [section?] at moved
          split_ifs at moved with accepted
          · obtain ⟨rfl, rfl⟩ := Prod.mk.inj (Option.some.inj moved)
            exact ⟨rfl, present, fun _ _ => rfl⟩
          · obtain ⟨rfl, rfl⟩ := Prod.mk.inj (Option.some.inj moved)
            refine ⟨rfl, ?_, fun _ _ => rfl⟩
            rw [← present]
            exact if_neg accepted
      | restore code =>
          obtain ⟨rfl, rfl⟩ := Prod.mk.inj (Option.some.inj moved)
          have refused : code ≠ .success := by
            rintro rfl
            simp [ScriptCall.present, CollectStage.beforeErase] at present
          refine ⟨rfl, ?_, fun other different => ?_⟩
          · simp [ScriptCall.present, CollectStage.beforeErase, DataCollectManager.insert, refused]
          · simp [DataCollectManager.insert, different]
      | finished code => simp [section?] at moved
      | _ => simp [ScriptCall.present, CollectStage.beforeErase] at present

theorem proceed_moves {id : CollectCallId} {call : CollectCall} {script : ScriptCall}
    (found : collect.calls.get? id = some call)
    (present : script.present call.stage =
      some (collect.manager.subscribers.contains call.subscriber))
    {answer : CollectAnswer} (taken : next eventId collect (.proceed id answer) = some after) :
    ∃ stage, after.calls = collect.calls.insert id { subscriber := call.subscriber, stage } ∧
      script.present stage = some (after.manager.subscribers.contains call.subscriber) ∧
        ∀ other, other ≠ call.subscriber → after.manager.subscribers.contains other =
          collect.manager.subscribers.contains other := by
  rw [next, found, Option.bind_some] at taken
  obtain ⟨⟨stage, middle⟩, moved, rfl⟩ := Option.map_eq_some_iff.mp taken
  obtain ⟨calls, kept, others⟩ := section_moves present moved
  exact ⟨stage, by rw [withCall, calls], kept, others⟩

theorem subscribe_moves {id : CollectCallId} {subscriber : Address} {search : ServiceSearch}
    (taken : next eventId collect (.subscribe id (some subscriber) search) = some after) :
    collect.calls.contains id = false ∧ after.manager = collect.manager ∧
      ∃ stage, after.calls = collect.calls.insert id { subscriber, stage } ∧
        ScriptCall.on.present stage = some false := by
  rw [next] at taken
  split_ifs at taken with known
  obtain rfl := Option.some.inj taken
  refine ⟨by simpa using known, ?_⟩
  cases search with
  | noRegistry => exact ⟨rfl, .finished .nullObject, rfl, rfl⟩
  | noProxy => exact ⟨rfl, .finished .nullObject, rfl, rfl⟩
  | proxy object => exact ⟨rfl, .register object, rfl, rfl⟩

theorem unsubscribe_moves {id : CollectCallId} {subscriber : Address}
    (taken : next eventId collect (.unsubscribe id (some subscriber)) = some after) :
    collect.calls.contains id = false ∧ after.manager = collect.manager ∧
      after.calls = collect.calls.insert id { subscriber, stage := .checkSubscribed } := by
  rw [next] at taken
  split_ifs at taken with known
  obtain rfl := Option.some.inj taken
  exact ⟨by simpa using known, rfl, rfl⟩

end CollectSystem

/-! ## The invariant -/

namespace ScriptSystem

/-- Whether the library has a subscriber. -/
def has (system : ScriptSystem) (subscriber : Address) : Bool :=
  system.collect.manager.subscribers.contains subscriber

/-- The entry of a waiting thread is in its place, and the library is with its call. -/
structure Waits (system : ScriptSystem) (env : JsEnv) (thread : ScriptThread) : Prop where
  listed :
    match thread.call with
    | .on => thread.info ∈ system.infos env
    | .off _ passed rest => system.infos env = passed ++ thread.info :: rest
  stage : ∃ stage,
    system.collect.calls.get? thread.id = some { subscriber := thread.info.subscriber, stage } ∧
      thread.call.present stage = some (system.has thread.info.subscriber)

/-- Every entry has a subscriber of its own and a function of its own in its script, and the
library has the subscribers of the entries, up to those of the waiting threads. -/
structure Sound (system : ScriptSystem) : Prop where
  owned : ∀ env, ∀ info ∈ system.infos env,
    system.objects.get? info.subscriber = some { env, callback := info.callback }
  distinct : ∀ env, ((system.infos env).map SubscribeCBInfo.callback).Nodup
  waiting : ∀ env thread, system.threads.get? env = some thread → system.Waits env thread
  settled : ∀ env, ∀ info ∈ system.infos env,
    (∀ thread, system.threads.get? env = some thread → thread.info ≠ info) →
      system.has info.subscriber = true
  entered : ∀ subscriber, system.has subscriber = true →
    ∃ env, ∃ info ∈ system.infos env, info.subscriber = subscriber
  holder : ∀ env, system.holder = some env ↔
    ∃ thread, system.threads.get? env = some thread ∧ thread.call ≠ .on

variable {system after : ScriptSystem} {env : JsEnv} {thread : ScriptThread}
  {info : SubscribeCBInfo}

theorem sound_initial : Sound {} where
  owned _ _ mem := absurd mem (List.not_mem_nil)
  distinct _ := List.nodup_nil
  waiting _ _ found := absurd found (by simp)
  settled _ _ mem := absurd mem (List.not_mem_nil)
  entered _ known := absurd known (by simp [has])
  holder _ := iff_of_false (by simp) (by simp)

theorem Waits.mem (waits : system.Waits env thread) : thread.info ∈ system.infos env := by
  have listed := waits.listed
  cases call : thread.call with
  | on =>
      rw [call] at listed
      exact listed
  | off scope passed rest =>
      rw [call] at listed
      rw [listed]
      simp

theorem Sound.unique (sound : system.Sound) {other : JsEnv} {info' : SubscribeCBInfo}
    (mem : info ∈ system.infos env) (mem' : info' ∈ system.infos other)
    (same : info.subscriber = info'.subscriber) : env = other ∧ info = info' := by
  have first := sound.owned env info mem
  rw [same, sound.owned other info' mem', Option.some.injEq, SubscriberPtr.mk.injEq] at first
  obtain ⟨rfl, callback⟩ := first
  obtain ⟨ownCallback, subscriber⟩ := info
  obtain ⟨otherCallback, otherSubscriber⟩ := info'
  exact ⟨rfl, SubscribeCBInfo.mk.injEq .. ▸ ⟨callback.symm, same⟩⟩

theorem Sound.thread_unique (sound : system.Sound) {other : JsEnv} {thread' : ScriptThread}
    (found : system.threads.get? env = some thread)
    (found' : system.threads.get? other = some thread') (same : thread.id = thread'.id) :
    env = other := by
  obtain ⟨stage, call, -⟩ := (sound.waiting env thread found).stage
  obtain ⟨stage', call', -⟩ := (sound.waiting other thread' found').stage
  rw [same, call', Option.some.injEq, CollectCall.mk.injEq] at call
  exact (sound.unique (sound.waiting env thread found).mem
    (sound.waiting other thread' found').mem call.1.symm).1

theorem Waits.frame (waits : system.Waits env thread) (infos : after.infos env = system.infos env)
    (call : after.collect.calls.get? thread.id = system.collect.calls.get? thread.id)
    (has : after.has thread.info.subscriber = system.has thread.info.subscriber) :
    after.Waits env thread := by
  obtain ⟨stage, found, present⟩ := waits.stage
  refine ⟨?_, stage, call.trans found, by rw [has, present]⟩
  rw [infos]
  exact waits.listed

variable {eventId : Address → Int} {pointer : Address → Nat}

theorem proceed_sound (sound : system.Sound) {answer : CollectAnswer}
    (taken : system.proceed eventId env answer = some after) : after.Sound := by
  obtain ⟨thread, found, moved⟩ := Option.bind_eq_some_iff.mp taken
  obtain ⟨collect, proceeds, rfl⟩ := Option.map_eq_some_iff.mp moved
  have waits := sound.waiting env thread found
  obtain ⟨before, call, present⟩ := waits.stage
  obtain ⟨stage, calls, kept, others⟩ := CollectSystem.proceed_moves call present proceeds
  have has_other {other : JsEnv} {info : SubscribeCBInfo} (mem : info ∈ system.infos other)
      (different : other = env → thread.info ≠ info) :
      collect.manager.subscribers.contains info.subscriber = system.has info.subscriber := by
    refine others info.subscriber fun same => ?_
    obtain ⟨rfl, equal⟩ := sound.unique mem waits.mem same
    exact different rfl equal.symm
  exact
    { owned := sound.owned
      distinct := sound.distinct
      waiting := fun other thread' found' => by
        by_cases same : other = env
        · subst same
          obtain rfl := Option.some.inj (found'.symm.trans found)
          refine ⟨waits.listed, stage, ?_, kept⟩
          dsimp only
          rw [calls, SortedMap.get?_insert_self]
        · have apart : thread'.id ≠ thread.id := fun equal =>
            same (sound.thread_unique found' found equal)
          have waits' := sound.waiting other thread' found'
          refine waits'.frame rfl ?_ (has_other waits'.mem fun equal => absurd equal same)
          dsimp only
          rw [calls, SortedMap.get?_insert, if_neg apart]
      settled := fun other info mem idle =>
        (has_other mem fun equal => idle thread (equal ▸ found)).trans
          (sound.settled other info mem idle)
      entered := fun subscriber known => by
        by_cases same : subscriber = thread.info.subscriber
        · exact ⟨env, thread.info, waits.mem, same.symm⟩
        · exact sound.entered subscriber ((others subscriber same).symm.trans known)
      holder := sound.holder }

/-! ## The calls of a script -/

theorem infos_of_insert {list : List SubscribeCBInfo}
    (inserted : after.subscribers = system.subscribers.insert env list) (other : JsEnv) :
    after.infos other = if other = env then list else system.infos other := by
  rw [infos, inserted, SortedMap.get?_insert]
  split_ifs <;> rfl

theorem infos_endOff (system : ScriptSystem) (env other : JsEnv) :
    (system.endOff env).infos other = system.infos other := by
  by_cases done : system.infos env = []
  · rw [infos, endOff, if_pos done, SortedMap.get?_erase]
    split_ifs with same
    · rw [same, done]
      rfl
    · rfl
  · rw [infos, endOff, if_neg done]
    rfl

/-- What the invariant is about. -/
theorem Sound.congr (sound : system.Sound) (infos : ∀ env, after.infos env = system.infos env)
    (objects : after.objects = system.objects) (threads : after.threads = system.threads)
    (holder : after.holder = system.holder) (collect : after.collect = system.collect) :
    after.Sound := by
  have has (subscriber : Address) : after.has subscriber = system.has subscriber := by
    rw [ScriptSystem.has, collect, ScriptSystem.has]
  refine ⟨?_, ?_, ?_, ?_, ?_, ?_⟩
  · simpa only [infos, objects] using sound.owned
  · simpa only [infos] using sound.distinct
  · intro env thread found
    rw [threads] at found
    exact (sound.waiting env thread found).frame (infos env) (by rw [collect]) (has _)
  · simpa only [infos, threads, has] using sound.settled
  · simpa only [infos, has] using sound.entered
  · simpa only [holder, threads] using sound.holder

theorem isFree_iff {system : ScriptSystem} {env : JsEnv} :
    system.isFree env = true ↔ system.threads.get? env = none ∧ system.holder = none := by
  simp [isFree, SortedMap.contains]

theorem Sound.unlisted (sound : system.Sound) {subscriber : Address}
    (new : system.objects.contains subscriber = false) :
    (∀ env, ∀ info ∈ system.infos env, info.subscriber ≠ subscriber) ∧
      system.has subscriber = false := by
  have unlisted (env : JsEnv) (info : SubscribeCBInfo) (mem : info ∈ system.infos env) :
      info.subscriber ≠ subscriber := by
    rintro rfl
    have known := SortedMap.contains_iff.mpr ⟨_, sound.owned env info mem⟩
    simp [new] at known
  refine ⟨unlisted, ?_⟩
  by_contra known
  obtain ⟨env, info, mem, same⟩ := sound.entered subscriber (by simpa using known)
  exact unlisted env info mem same

theorem Sound.others_wait (sound : system.Sound) {other : JsEnv} {id : CollectCallId}
    {call : CollectCall} (known : system.collect.calls.contains id = false)
    (found : system.threads.get? other = some thread)
    (infos : after.infos other = system.infos other)
    (calls : after.collect.calls = system.collect.calls.insert id call)
    (manager : after.collect.manager = system.collect.manager) : after.Waits other thread := by
  have waits := sound.waiting other thread found
  obtain ⟨stage, waiting, -⟩ := waits.stage
  have apart : thread.id ≠ id := by
    rintro rfl
    simp [SortedMap.contains, waiting] at known
  refine waits.frame infos ?_ ?_
  · rw [calls, SortedMap.get?_insert, if_neg apart]
  · rw [has, manager, has]

theorem on_sound (sound : system.Sound) {callback : JsFunction} {subscriber : Address}
    {search : ServiceSearch} {id : CollectCallId}
    (taken : system.on eventId pointer env callback subscriber search id = some after) :
    after.Sound := by
  rw [on] at taken
  split_ifs at taken with refused known
  · obtain rfl := Option.some.inj taken
    exact sound
  · obtain ⟨collect, moved, rfl⟩ := Option.map_eq_some_iff.mp taken
    simp only [Bool.or_eq_true, Bool.not_eq_true', not_or, Bool.not_eq_false] at refused
    obtain ⟨idle, unheld⟩ := isFree_iff.mp refused.1
    have new : system.objects.contains subscriber = false := by
      have fresh := refused.2
      rw [isFresh, Bool.and_eq_true] at fresh
      simpa using fresh.1
    obtain ⟨unlisted, absent⟩ := sound.unlisted new
    obtain ⟨unknown, manager, stage, calls, present⟩ := CollectSystem.subscribe_moves moved
    have infos (other : JsEnv) :
        ScriptSystem.infos
            { system with
              collect
              subscribers := system.subscribers.insert env
                (system.infos env ++ [{ callback, subscriber }])
              objects := system.objects.insert subscriber { env, callback }
              threads :=
                system.threads.insert env { call := .on, info := { callback, subscriber }, id } }
            other =
          if other = env then system.infos env ++ [⟨callback, subscriber⟩]
          else system.infos other :=
      infos_of_insert rfl other
    have has (other : Address) : collect.manager.subscribers.contains other = system.has other := by
      rw [manager, ScriptSystem.has]
    refine ⟨?_, ?_, ?_, ?_, ?_, ?_⟩
    · intro other info mem
      rw [infos] at mem
      dsimp only
      split_ifs at mem with same
      · rcases List.mem_append.mp mem with old | last
        · rw [SortedMap.get?_insert, if_neg (unlisted env info old), same]
          exact sound.owned env info old
        · obtain rfl := List.mem_singleton.mp last
          rw [same, SortedMap.get?_insert_self]
      · rw [SortedMap.get?_insert, if_neg (unlisted other info mem)]
        exact sound.owned other info mem
    · intro other
      rw [infos]
      split_ifs with same
      · rw [List.map_append, List.map_singleton, List.nodup_append]
        refine ⟨sound.distinct env, List.nodup_singleton _, ?_⟩
        rintro function mem _ last rfl
        rw [List.mem_singleton] at last
        subst last
        obtain ⟨info, mem, equal⟩ := List.mem_map.mp mem
        exact known (List.any_eq_true.mpr ⟨info, mem, decide_eq_true equal⟩)
      · exact sound.distinct other
    · intro other thread found
      dsimp only at found
      rw [SortedMap.get?_insert] at found
      split_ifs at found with same
      · obtain rfl := Option.some.inj found
        refine ⟨?_, stage, ?_, ?_⟩
        · rw [infos, if_pos same]
          exact List.mem_append_right _ List.mem_cons_self
        · dsimp only
          rw [calls, SortedMap.get?_insert_self]
        · rw [present, ScriptSystem.has, has, absent]
      · exact sound.others_wait unknown found (by rw [infos, if_neg same]) calls manager
    · intro other info mem idleThere
      rw [infos] at mem
      rw [ScriptSystem.has, has]
      dsimp only at idleThere
      split_ifs at mem with same
      · subst same
        rcases List.mem_append.mp mem with old | last
        · exact sound.settled other info old fun thread found => by simp [idle] at found
        · obtain rfl := List.mem_singleton.mp last
          exact absurd rfl (idleThere _ (SortedMap.get?_insert_self ..))
      · refine sound.settled other info mem fun thread found => idleThere thread ?_
        rw [SortedMap.get?_insert, if_neg same, found]
    · intro other entered
      rw [ScriptSystem.has, has] at entered
      obtain ⟨owner, info, mem, same⟩ := sound.entered other entered
      refine ⟨owner, info, ?_, same⟩
      rw [infos]
      split_ifs with equal
      · exact List.mem_append_left _ (equal ▸ mem)
      · exact mem
    · intro other
      dsimp only
      rw [unheld]
      refine iff_of_false (by simp) ?_
      rintro ⟨thread, found, off⟩
      rw [SortedMap.get?_insert] at found
      split_ifs at found
      · obtain rfl := Option.some.inj found
        exact off rfl
      · have held := (sound.holder other).mpr ⟨thread, found, off⟩
        simp [unheld] at held

/-- A thread that has its answer leaves, and its entry stays in the list exactly if the library
has the subscriber. -/
theorem finish_sound (sound : system.Sound) (found : system.threads.get? env = some thread)
    {list : List SubscribeCBInfo} (shorter : list.Sublist (system.infos env))
    (kept : ∀ info ∈ system.infos env,
      (info ∈ list ↔ info ≠ thread.info ∨ system.has thread.info.subscriber = true))
    (infos : ∀ other, after.infos other = if other = env then list else system.infos other)
    (objects : after.objects = system.objects)
    (threads : after.threads = system.threads.erase env) (collect : after.collect = system.collect)
    (holder : after.holder = if thread.call = .on then system.holder else none) : after.Sound := by
  have has (subscriber : Address) : after.has subscriber = system.has subscriber := by
    rw [ScriptSystem.has, collect, ScriptSystem.has]
  have older {other : JsEnv} {info : SubscribeCBInfo} (mem : info ∈ after.infos other) :
      info ∈ system.infos other := by
    rw [infos] at mem
    split_ifs at mem with same
    · exact same ▸ shorter.subset mem
    · exact mem
  refine ⟨?_, ?_, ?_, ?_, ?_, ?_⟩
  · intro other info mem
    rw [objects]
    exact sound.owned other info (older mem)
  · intro other
    rw [infos]
    split_ifs
    · exact (sound.distinct env).sublist (shorter.map _)
    · exact sound.distinct other
  · intro other thread' found'
    obtain ⟨different, found'⟩ := SortedMap.get?_erase_eq_some.mp (threads ▸ found')
    exact (sound.waiting other thread' found').frame (by rw [infos, if_neg different])
      (by rw [collect]) (has _)
  · intro other info mem idle
    rw [has]
    by_cases same : other = env
    · subst same
      by_cases equal : info = thread.info
      · rw [infos, if_pos rfl] at mem
        rcases (kept info (shorter.subset mem)).mp mem with different | entered
        · exact absurd equal different
        · rwa [equal]
      · refine sound.settled other info (older mem) fun thread' found' => ?_
        obtain rfl := Option.some.inj (found.symm.trans found')
        exact fun same => equal same.symm
    · refine sound.settled other info (older mem) fun thread' found' => idle thread' ?_
      rw [threads, SortedMap.get?_erase, if_neg same, found']
  · intro subscriber entered
    rw [has] at entered
    obtain ⟨owner, info, mem, same⟩ := sound.entered subscriber entered
    refine ⟨owner, info, ?_, same⟩
    rw [infos]
    split_ifs with equal
    · subst equal
      refine (kept info mem).mpr ?_
      by_cases own : info = thread.info
      · exact .inr (by rw [← own, same, entered])
      · exact .inl own
    · exact mem
  · intro other
    rw [holder, threads]
    split_ifs with entering
    · rw [sound.holder]
      refine exists_congr fun thread' => and_congr_left fun off => ?_
      rw [SortedMap.get?_erase]
      split_ifs with same
      · rw [same, found]
        refine iff_of_false ?_ (by simp)
        rintro ⟨⟩
        exact off entering
      · rfl
    · refine iff_of_false (by simp) ?_
      rintro ⟨thread', found', off⟩
      obtain ⟨different, found'⟩ := SortedMap.get?_erase_eq_some.mp found'
      have mine := (sound.holder env).mpr ⟨thread, found, entering⟩
      have other's := (sound.holder other).mpr ⟨thread', found', off⟩
      exact different (Option.some.inj (other's.symm.trans mine))

/-- Taking the entry of a thread out of its list. -/
theorem Sound.taken_out (sound : system.Sound)
    {passed rest : List SubscribeCBInfo} (listed : system.infos env = passed ++ thread.info :: rest)
    (absent : system.has thread.info.subscriber = false) :
    (passed ++ rest).Sublist (system.infos env) ∧ ∀ info ∈ system.infos env,
      (info ∈ passed ++ rest ↔
        info ≠ thread.info ∨ system.has thread.info.subscriber = true) := by
  have once : thread.info ∉ passed ++ rest := by
    have distinct := (sound.distinct env).of_map
    rw [listed] at distinct
    exact (List.nodup_middle.mp distinct).notMem
  rw [listed]
  refine ⟨List.Sublist.append_left (List.sublist_cons_self ..) passed, fun info mem => ?_⟩
  constructor
  · rintro still
    exact .inl fun same => once (same ▸ still)
  · rintro (different | entered)
    · simp only [List.mem_append, List.mem_cons] at mem ⊢
      tauto
    · simp [absent] at entered

theorem finishOn_sound (sound : system.Sound) (found : system.threads.get? env = some thread)
    (entering : thread.call = .on) {code : Code}
    (finished : (system.collect.calls.get? thread.id).map CollectCall.stage =
      some (.finished code))
    (taken : system.finishOn env thread.info code = some after) : after.Sound := by
  obtain ⟨stage, call, present⟩ := (sound.waiting env thread found).stage
  rw [call] at finished
  obtain rfl : stage = .finished code := Option.some.inj finished
  rw [entering, ScriptCall.present, CollectStage.afterInsert, Option.some.injEq] at present
  rw [finishOn] at taken
  split_ifs at taken with accepted held
  · obtain rfl := Option.some.inj taken
    refine finish_sound sound found (List.Sublist.refl _) (fun info mem => ?_) (fun other => ?_)
      rfl rfl rfl (if_pos entering).symm
    · exact iff_of_true mem (.inr (by rw [← present, decide_eq_true accepted]))
    · split_ifs with same
      · rw [same]
        rfl
      · rfl
  · obtain rfl := Option.some.inj taken
    have absent : system.has thread.info.subscriber = false := by
      rw [← present, decide_eq_false accepted]
    refine finish_sound sound found List.filter_sublist (fun info mem => ?_)
      (infos_of_insert rfl) rfl rfl rfl (if_pos entering).symm
    have mine := (sound.waiting env thread found).mem
    simp only [List.mem_filter, mem, true_and, decide_eq_true_eq, absent, Bool.false_eq_true,
      or_false, ne_eq]
    refine not_congr ⟨fun same => (sound.unique mem mine same).2, fun same => by rw [same]⟩

/-- The loop of an `off`, from a place where the script is in no call. -/
theorem offFrom_sound (sound : system.Sound) (free : system.isFree env = true) {scope : OffScope}
    {passed left : List SubscribeCBInfo} {id : CollectCallId}
    (listed : system.infos env = passed ++ left)
    (taken : system.offFrom eventId env scope passed left id = some after) : after.Sound := by
  obtain ⟨idle, unheld⟩ := isFree_iff.mp free
  rw [offFrom] at taken
  split at taken
  next =>
    obtain rfl := Option.some.inj taken
    exact sound.congr (infos_endOff system env) rfl (SortedMap.erase_of_absent idle) unheld.symm rfl
  next info rest remaining =>
    obtain ⟨collect, moved, rfl⟩ := Option.map_eq_some_iff.mp taken
    obtain ⟨unknown, manager, calls⟩ := CollectSystem.unsubscribe_moves moved
    have whole : system.infos env =
        (passed ++ left.takeWhile fun info => !scope.wants eventId info) ++ info :: rest := by
      rw [listed, List.append_assoc, ← remaining, List.takeWhile_append_dropWhile]
    have has (other : Address) : collect.manager.subscribers.contains other = system.has other := by
      rw [manager, ScriptSystem.has]
    have mem : info ∈ system.infos env := by
      rw [whole]
      simp
    have entered : system.has info.subscriber = true :=
      sound.settled env info mem fun thread found => by simp [idle] at found
    refine ⟨sound.owned, sound.distinct, ?_, ?_, ?_, ?_⟩
    · intro other thread found
      dsimp only at found
      rw [SortedMap.get?_insert] at found
      split_ifs at found with same
      · obtain rfl := Option.some.inj found
        subst same
        refine ⟨whole, .checkSubscribed, ?_, ?_⟩
        · dsimp only
          rw [calls, SortedMap.get?_insert_self]
        · rw [ScriptSystem.has, has, entered]
          rfl
      · exact sound.others_wait unknown found rfl calls manager
    · intro other info mem idleThere
      rw [ScriptSystem.has, has]
      refine sound.settled other info mem fun thread found => idleThere thread ?_
      have different : other ≠ env := by
        rintro rfl
        simp [idle] at found
      dsimp only
      rw [SortedMap.get?_insert, if_neg different, found]
    · intro subscriber known
      rw [ScriptSystem.has, has] at known
      exact sound.entered subscriber known
    · intro other
      dsimp only
      constructor
      · rintro ⟨⟩
        exact ⟨_, SortedMap.get?_insert_self .., by simp⟩
      · rintro ⟨thread, found, off⟩
        rw [SortedMap.get?_insert] at found
        split_ifs at found with same
        · rw [same]
        · have held := (sound.holder other).mpr ⟨thread, found, off⟩
          simp [unheld] at held

theorem off_sound (sound : system.Sound) {scope : OffScope} {id : CollectCallId}
    (taken : system.off eventId env scope id = some after) : after.Sound := by
  rw [off] at taken
  split_ifs at taken with busy unknown
  · obtain rfl := Option.some.inj taken
    exact sound
  · exact offFrom_sound sound (by simpa using busy) (List.nil_append _).symm taken

/-- A system whose script has left its call. -/
def released (system : ScriptSystem) (env : JsEnv) : ScriptSystem :=
  { system with threads := system.threads.erase env, holder := none }

theorem released_isFree (system : ScriptSystem) (env : JsEnv) :
    (system.released env).isFree env = true :=
  isFree_iff.mpr ⟨by rw [released, SortedMap.get?_erase, if_pos rfl], rfl⟩

/-- The loop does not ask where the thread was before. -/
theorem offFrom_released (system : ScriptSystem) (env : JsEnv) (scope : OffScope)
    (passed left : List SubscribeCBInfo) (id : CollectCallId) :
    (system.released env).offFrom eventId env scope passed left id =
      system.offFrom eventId env scope passed left id := by
  have again (thread : ScriptThread) :
      (system.threads.erase env).insert env thread = system.threads.insert env thread :=
    SortedMap.ext_get? fun other => by
      simp only [SortedMap.get?_insert, SortedMap.get?_erase]
      split_ifs <;> rfl
  have erased : (system.threads.erase env).erase env = system.threads.erase env :=
    SortedMap.erase_of_absent (by rw [SortedMap.get?_erase, if_pos rfl])
  rw [offFrom, offFrom]
  cases left.dropWhile fun info => !scope.wants eventId info with
  | nil =>
      simp only [released, endOff, erased]
      rfl
  | cons info rest => simp only [released, again]

theorem finishOff_sound (sound : system.Sound) (found : system.threads.get? env = some thread)
    {scope : OffScope} {passed rest : List SubscribeCBInfo}
    (leaving : thread.call = .off scope passed rest) {code : Code} {id : CollectCallId}
    (finished : (system.collect.calls.get? thread.id).map CollectCall.stage =
      some (.finished code))
    (taken : system.finishOff eventId env scope passed rest code id = some after) :
    after.Sound := by
  have waits := sound.waiting env thread found
  obtain ⟨stage, call, present⟩ := waits.stage
  rw [call] at finished
  obtain rfl : stage = .finished code := Option.some.inj finished
  rw [leaving, ScriptCall.present, CollectStage.beforeErase, Option.some.injEq] at present
  have listed : system.infos env = passed ++ thread.info :: rest := by
    have listed := waits.listed
    rw [leaving] at listed
    exact listed
  have outside : thread.call ≠ .on := by simp [leaving]
  rw [finishOff] at taken
  split_ifs at taken with refused single
  · obtain rfl := Option.some.inj taken
    refine finish_sound sound found (List.Sublist.refl _) (fun info mem => ?_) (fun other => ?_)
      rfl rfl rfl (if_neg outside).symm
    · exact iff_of_true mem (.inr (by rw [← present, decide_eq_true refused]))
    · split_ifs with same
      · rw [same]
        rfl
      · rfl
  all_goals
    have absent : system.has thread.info.subscriber = false := by
      rw [← present, decide_eq_false refused]
    obtain ⟨shorter, kept⟩ := sound.taken_out listed absent
    have erased : (({ system with
        subscribers := system.subscribers.insert env (passed ++ rest) } :
          ScriptSystem).released env).Sound :=
      finish_sound sound found shorter kept (infos_of_insert rfl) rfl rfl rfl
        (if_neg outside).symm
    have now :
        ScriptSystem.infos
            { system with subscribers := system.subscribers.insert env (passed ++ rest) } env =
          passed ++ rest :=
      (infos_of_insert rfl env).trans (if_pos rfl)
  · obtain rfl := Option.some.inj taken
    exact erased.congr (infos_endOff _ env) rfl rfl rfl rfl
  · rw [← offFrom_released] at taken
    refine offFrom_sound erased (released_isFree _ env) ?_ taken
    exact now

theorem resume_sound (sound : system.Sound) {id : CollectCallId}
    (taken : system.resume eventId env id = some after) : after.Sound := by
  obtain ⟨thread, found, taken⟩ := Option.bind_eq_some_iff.mp taken
  split at taken
  next code finished =>
    cases call : thread.call with
    | on =>
        rw [call] at taken
        exact finishOn_sound sound found call finished taken
    | off scope passed rest =>
        rw [call] at taken
        exact finishOff_sound sound found call finished taken
  next => cases taken

/-- What a notification and its tasks leave alone. -/
def SameTables (system after : ScriptSystem) : Prop :=
  after.subscribers = system.subscribers ∧ after.objects = system.objects ∧
    after.threads = system.threads ∧ after.holder = system.holder ∧
      after.collect = system.collect

theorem notify_same {event : NapiSecurityEvent} (taken : system.notify eventId event = some after) :
    system.SameTables after := by
  rw [notify] at taken
  split_ifs at taken
  obtain rfl := Option.some.inj taken
  exact ⟨rfl, rfl, rfl, rfl, rfl⟩

theorem forward_same {sent : Bool} (taken : system.forward sent = some after) :
    system.SameTables after := by
  rw [forward] at taken
  split at taken
  next => cases taken
  next =>
    obtain rfl := Option.some.inj taken
    exact ⟨rfl, rfl, rfl, rfl, rfl⟩
  next =>
    obtain ⟨object, -, rfl⟩ := Option.map_eq_some_iff.mp taken
    exact ⟨rfl, rfl, rfl, rfl, rfl⟩

theorem run_same {answer : TaskAnswer} (taken : system.run env answer = some after) :
    system.SameTables after := by
  rw [run] at taken
  split_ifs at taken
  split at taken
  next => cases taken
  next =>
    obtain rfl := Option.some.inj taken
    exact ⟨rfl, rfl, rfl, rfl, rfl⟩

theorem SameTables.sound (same : system.SameTables after) (sound : system.Sound) : after.Sound :=
  sound.congr (fun env => by rw [infos, same.1, infos]) same.2.1 same.2.2.1 same.2.2.2.1
    same.2.2.2.2

theorem next_sound {action : ScriptAction} (sound : system.Sound)
    (taken : next eventId pointer system action = some after) : after.Sound := by
  cases action with
  | on => exact on_sound sound taken
  | off => exact off_sound sound taken
  | proceed => exact proceed_sound sound taken
  | resume => exact resume_sound sound taken
  | notify => exact (notify_same taken).sound sound
  | forward => exact (forward_same taken).sound sound
  | run => exact (run_same taken).sound sound

theorem sound_run {actions : List ScriptAction}
    (reach : Transition.run (next eventId pointer) {} actions = some system) : system.Sound :=
  Transition.run_stable next_sound sound_initial reach

/-- In every run a function is in the list of its script once, and a subscriber is in one list; the
library has the subscriber of a script that is in no call exactly if it is in its list. -/
theorem scripts_agree {actions : List ScriptAction}
    (reach : Transition.run (next eventId pointer) {} actions = some system) :
    (∀ env, ((system.infos env).map SubscribeCBInfo.callback).Nodup) ∧
      (∀ env, ∀ info ∈ system.infos env, ∀ other, ∀ info' ∈ system.infos other,
        info.subscriber = info'.subscriber → env = other ∧ info = info') ∧
        (∀ subscriber, system.has subscriber = true →
          ∃ env, ∃ info ∈ system.infos env, info.subscriber = subscriber) ∧
          ∀ subscriber object, system.objects.get? subscriber = some object →
            system.threads.get? object.env = none →
              (system.has subscriber = true ↔
                { callback := object.callback, subscriber } ∈ system.infos object.env) := by
  have sound := sound_run reach
  refine ⟨sound.distinct, fun env info mem other info' mem' => sound.unique mem mem',
    sound.entered, fun subscriber object known idle => ⟨fun entered => ?_, fun mem => ?_⟩⟩
  · obtain ⟨env, info, mem, rfl⟩ := sound.entered subscriber entered
    obtain rfl := Option.some.inj (known.symm.trans (sound.owned env info mem))
    exact mem
  · exact sound.settled object.env _ mem fun thread found => by simp [idle] at found

/-- Two scripts subscribe a function each; the service accepts the first and refuses the second. -/
def subscribingTrace : List ScriptAction :=
  [.on 1 7 100 (.proxy 0) 0, .proceed 1 {}, .proceed 1 {}, .on 2 7 200 (.proxy 0) 1,
    .proceed 1 {}, .proceed 1 {}, .resume 1 2, .proceed 2 {}, .proceed 2 {},
    .proceed 2 { code := .badParam }, .resume 2 2]

/-- The scripts after `subscribingTrace`. -/
def subscribedSystem : ScriptSystem :=
  (Transition.run (next (fun subscriber => subscriber) id) {} subscribingTrace).getD {}

theorem reach_subscribedSystem :
    Transition.run (next (fun subscriber => subscriber) id) {} subscribingTrace =
      some subscribedSystem :=
  Transition.run_eq_getD (by decide +kernel)

theorem scripts_agree_subscribingTrace :
    subscribedSystem.has 100 = true ↔
      { callback := 7, subscriber := 100 } ∈ subscribedSystem.infos 1 :=
  (scripts_agree reach_subscribedSystem).2.2.2 100 { env := 1, callback := 7 }
    (by decide +kernel) (by decide +kernel)

end ScriptSystem

end SecurityGuard
