import SecurityGuard.Napi.ScriptSubscriptions

/-!
# What the task of a notification calls

A task looks for its subscriber by the machine address, and the subscriber may be gone by then.
Its function is called for a subscriber that is still listed, unless a new subscriber was given
the address of one that is gone while the task was waiting.
-/

namespace SecurityGuard

/-- The subscriber that a step makes. -/
def ScriptAction.made? : ScriptAction → Option Address
  | .on _ _ subscriber _ _ => some subscriber
  | _ => none

namespace ScriptSystem

variable {eventId : Address → Int} {pointer : Address → Nat} {system after : ScriptSystem}
  {env : JsEnv} {thread : ScriptThread} {info : SubscribeCBInfo} {subscriber : Address}

/-- Some script has a function with this subscriber. -/
def Listed (system : ScriptSystem) (subscriber : Address) : Prop :=
  ∃ env, ∃ info ∈ system.infos env, info.subscriber = subscriber

/-- A step that enters no subscriber, and has nothing to do with notifications. -/
structure Shrinks (system after : ScriptSystem) : Prop where
  notifying : after.notifying = system.notifying
  tasks : after.tasks = system.tasks
  objects : after.objects = system.objects
  infos : ∀ env, after.infos env ⊆ system.infos env

theorem Shrinks.refl (system : ScriptSystem) : system.Shrinks system :=
  ⟨rfl, rfl, rfl, fun _ => List.Subset.refl _⟩

theorem Shrinks.trans {middle : ScriptSystem} (first : system.Shrinks middle)
    (second : middle.Shrinks after) : system.Shrinks after where
  notifying := second.notifying.trans first.notifying
  tasks := second.tasks.trans first.tasks
  objects := second.objects.trans first.objects
  infos env := List.Subset.trans (second.infos env) (first.infos env)

theorem infos_insert_subset {list : List SubscribeCBInfo}
    (inserted : after.subscribers = system.subscribers.insert env list)
    (shorter : list ⊆ system.infos env) (other : JsEnv) :
    after.infos other ⊆ system.infos other := by
  rw [infos_of_insert inserted]
  split_ifs with same
  · exact same ▸ shorter
  · exact List.Subset.refl _

theorem endOff_shrinks (system : ScriptSystem) (env : JsEnv) :
    system.Shrinks (system.endOff env) :=
  ⟨rfl, rfl, rfl, fun other => by rw [infos_endOff]; exact List.Subset.refl _⟩

theorem offFrom_shrinks {scope : OffScope} {passed left : List SubscribeCBInfo}
    {id : CollectCallId} (taken : system.offFrom eventId env scope passed left id = some after) :
    system.Shrinks after := by
  rw [offFrom] at taken
  split at taken
  next =>
    obtain rfl := Option.some.inj taken
    exact endOff_shrinks system env
  next =>
    obtain ⟨collect, -, rfl⟩ := Option.map_eq_some_iff.mp taken
    exact ⟨rfl, rfl, rfl, fun _ => List.Subset.refl _⟩

theorem off_shrinks {scope : OffScope} {id : CollectCallId}
    (taken : system.off eventId env scope id = some after) : system.Shrinks after := by
  rw [off] at taken
  split_ifs at taken
  · obtain rfl := Option.some.inj taken
    exact .refl system
  · exact offFrom_shrinks taken

theorem proceed_shrinks {answer : CollectAnswer}
    (taken : system.proceed eventId env answer = some after) : system.Shrinks after := by
  obtain ⟨thread, -, taken⟩ := Option.bind_eq_some_iff.mp taken
  obtain ⟨collect, -, rfl⟩ := Option.map_eq_some_iff.mp taken
  exact ⟨rfl, rfl, rfl, fun _ => List.Subset.refl _⟩

theorem finishOn_shrinks {code : Code} (taken : system.finishOn env info code = some after) :
    system.Shrinks after := by
  rw [finishOn] at taken
  split_ifs at taken
  · obtain rfl := Option.some.inj taken
    exact ⟨rfl, rfl, rfl, fun _ => List.Subset.refl _⟩
  · obtain rfl := Option.some.inj taken
    exact ⟨rfl, rfl, rfl, infos_insert_subset rfl List.filter_sublist.subset⟩

theorem finishOff_shrinks {scope : OffScope} {passed rest : List SubscribeCBInfo} {code : Code}
    {id : CollectCallId} (listed : system.infos env = passed ++ info :: rest)
    (taken : system.finishOff eventId env scope passed rest code id = some after) :
    system.Shrinks after := by
  have erased : system.Shrinks
      { system with subscribers := system.subscribers.insert env (passed ++ rest) } := by
    refine ⟨rfl, rfl, rfl, infos_insert_subset rfl ?_⟩
    rw [listed]
    exact ((List.sublist_cons_self info rest).append_left passed).subset
  rw [finishOff] at taken
  split_ifs at taken
  · obtain rfl := Option.some.inj taken
    exact ⟨rfl, rfl, rfl, fun _ => List.Subset.refl _⟩
  · obtain rfl := Option.some.inj taken
    exact erased.trans (endOff_shrinks _ env)
  · exact erased.trans (offFrom_shrinks taken)

theorem resume_shrinks (sound : system.Sound) {id : CollectCallId}
    (taken : system.resume eventId env id = some after) : system.Shrinks after := by
  obtain ⟨thread, found, taken⟩ := Option.bind_eq_some_iff.mp taken
  have listed := (sound.waiting env thread found).listed
  split at taken
  next =>
    cases call : thread.call with
    | on =>
        rw [call] at taken
        exact finishOn_shrinks taken
    | off scope passed rest =>
        rw [call] at taken listed
        exact finishOff_shrinks listed taken
  next => cases taken

/-- A call of `on` changes nothing, or enters a new subscriber behind the others of its script. -/
theorem on_moves {callback : JsFunction} {search : ServiceSearch} {id : CollectCallId}
    (taken : system.on eventId pointer env callback subscriber search id = some after) :
    after = system ∧ ((system.infos env).any fun info => info.callback = callback) = true ∨
      ((system.infos env).any fun info => info.callback = callback) = false ∧
        system.isFresh pointer subscriber = true ∧
          after.notifying = system.notifying ∧ after.tasks = system.tasks ∧
            after.objects = system.objects.insert subscriber { env, callback } ∧
              ∀ other, after.infos other =
                if other = env then system.infos env ++ [⟨callback, subscriber⟩]
                else system.infos other := by
  rw [on] at taken
  split_ifs at taken with refused known
  · exact .inl ⟨(Option.some.inj taken).symm, known⟩
  · obtain ⟨collect, -, rfl⟩ := Option.map_eq_some_iff.mp taken
    simp only [Bool.or_eq_true, Bool.not_eq_true', not_or, Bool.not_eq_false] at refused
    exact .inr ⟨by simpa using known, refused.2, rfl, rfl, rfl, infos_of_insert rfl⟩

/-- The subscribers that the notification has not come to yet. -/
def pending (system : ScriptSystem) : List Address := system.notifying.elim [] Prod.snd

/-- The subscribers that the library takes down for an event. -/
def snapshot (eventId : Address → Int) (system : ScriptSystem) (event : NapiSecurityEvent) :
    List Address :=
  system.collect.manager.subscribers.keys.filter fun subscriber =>
    eventId subscriber = event.eventId

theorem mem_snapshot {event : NapiSecurityEvent} :
    subscriber ∈ system.snapshot eventId event ↔
      system.has subscriber = true ∧ eventId subscriber = event.eventId := by
  simp only [snapshot, List.mem_filter, SortedMap.mem_keys_iff, decide_eq_true_eq, has,
    SortedMap.contains_iff]

theorem snapshot_nodup (system : ScriptSystem) (event : NapiSecurityEvent) :
    (system.snapshot eventId event).Nodup :=
  system.collect.manager.subscribers.keys_nodup.filter _

theorem notify_moves {event : NapiSecurityEvent}
    (taken : system.notify eventId event = some after) :
    system.notifying = none ∧
      after.notifying = some (event, system.snapshot eventId event) ∧
        after.tasks = system.tasks := by
  rw [notify] at taken
  split_ifs at taken with busy
  obtain rfl := Option.some.inj taken
  exact ⟨by simpa using busy, rfl, rfl⟩

theorem queue_of_insert {list : List SubscriberOAWorker}
    (inserted : after.tasks = system.tasks.insert env list) (other : JsEnv) :
    after.queue other = if other = env then list else system.queue other := by
  rw [queue, inserted, SortedMap.get?_insert]
  split_ifs <;> rfl

/-- The next subscriber is passed over, or its script gets a task behind the others. -/
theorem forward_moves {sent : Bool} (taken : system.forward sent = some after) :
    system.pending = [] ∧ after.pending = [] ∧ after.tasks = system.tasks ∨
      ∃ event subscriber rest object,
        system.notifying = some (event, subscriber :: rest) ∧
          after.notifying = some (event, rest) ∧
            system.objects.get? subscriber = some object ∧
              ∀ other, after.queue other =
                if sent = true ∧ other = object.env then
                  system.queue other ++ [⟨event, object.callback, subscriber⟩]
                else system.queue other := by
  rw [forward] at taken
  split at taken
  next => cases taken
  next event empty =>
    obtain rfl := Option.some.inj taken
    exact .inl ⟨by rw [pending, empty]; rfl, rfl, rfl⟩
  next event subscriber rest busy =>
    obtain ⟨object, known, rfl⟩ := Option.map_eq_some_iff.mp taken
    refine .inr ⟨event, subscriber, rest, object, busy, rfl, known, fun other => ?_⟩
    cases sent with
    | false => simp [queue]
    | true =>
        refine (queue_of_insert rfl other).trans ?_
        simp only [true_and]
        split_ifs with same
        · rw [same]
        · rfl

/-- A script takes its next task when it is in no call. -/
theorem run_moves {answer : TaskAnswer} (taken : system.run env answer = some after) :
    system.threads.get? env = none ∧ after.notifying = system.notifying ∧
      ∃ task rest, system.queue env = task :: rest ∧
        ∀ other, after.queue other = if other = env then rest else system.queue other := by
  rw [run] at taken
  split_ifs at taken with busy
  split at taken
  next => cases taken
  next task rest queued =>
    obtain rfl := Option.some.inj taken
    simp only [Bool.or_eq_true, not_or] at busy
    exact ⟨by simpa [SortedMap.contains] using busy.1, rfl, task, rest, queued, queue_of_insert rfl⟩

/-! ## Live subscribers -/

/-- Something holds the subscriber. -/
def Live (system : ScriptSystem) (subscriber : Address) : Prop :=
  system.Listed subscriber ∨ subscriber ∈ system.pending

theorem exists_entry {holds : SubscribeCBInfo → Prop} :
    (∃ entry ∈ system.subscribers.entries, ∃ info ∈ entry.2, holds info) ↔
      ∃ env, ∃ info ∈ system.infos env, holds info := by
  constructor
  · rintro ⟨⟨env, list⟩, mem, info, listed, held⟩
    refine ⟨env, info, ?_, held⟩
    rw [infos, SortedMap.mem_entries_iff.mp mem]
    exact listed
  · rintro ⟨env, info, mem, held⟩
    rw [infos] at mem
    cases found : system.subscribers.get? env with
    | none => simp [found] at mem
    | some list =>
        rw [found] at mem
        exact ⟨(env, list), SortedMap.mem_entries_iff.mpr found, info, mem, held⟩

theorem Sound.mem_liveObjects (sound : system.Sound) :
    subscriber ∈ system.liveObjects ↔ system.Live subscriber := by
  have inLists : (subscriber ∈ system.subscribers.entries.flatMap fun entry =>
      entry.2.map SubscribeCBInfo.subscriber) ↔ system.Listed subscriber := by
    simp only [List.mem_flatMap, List.mem_map, Listed]
    exact exists_entry
  have inLibrary (known : subscriber ∈ system.collect.manager.subscribers.keys) :
      system.Listed subscriber :=
    sound.entered subscriber (SortedMap.mem_keys_iff.mp known)
  rw [liveObjects, List.mem_append, List.mem_append, inLists, Live, pending]
  constructor
  · rintro ((listed | known) | waiting)
    · exact .inl listed
    · exact .inl (inLibrary known)
    · exact .inr waiting
  · rintro (listed | waiting)
    · exact .inl (.inl listed)
    · exact .inr waiting

theorem isFound_iff {task : SubscriberOAWorker} :
    system.isFound pointer task = true ↔
      ∃ other, system.Listed other ∧ pointer other = pointer task.subscriber := by
  have found : system.isFound pointer task = true ↔
      ∃ env, ∃ info ∈ system.infos env, pointer info.subscriber = pointer task.subscriber := by
    rw [← exists_entry]
    simp only [isFound, List.any_eq_true, decide_eq_true_eq]
  rw [found]
  constructor
  · rintro ⟨env, info, mem, same⟩
    exact ⟨info.subscriber, ⟨env, info, mem, rfl⟩, same⟩
  · rintro ⟨_, ⟨env, info, mem, rfl⟩, same⟩
    exact ⟨env, info, mem, same⟩

theorem Shrinks.listed (shrinks : system.Shrinks after) (listed : after.Listed subscriber) :
    system.Listed subscriber := by
  obtain ⟨env, info, mem, same⟩ := listed
  exact ⟨env, info, shrinks.infos env mem, same⟩

theorem SameTables.infos (same : system.SameTables after) (env : JsEnv) :
    after.infos env = system.infos env := by
  rw [ScriptSystem.infos, same.1, ScriptSystem.infos]

theorem SameTables.listed (same : system.SameTables after) :
    after.Listed subscriber ↔ system.Listed subscriber := by
  simp only [Listed, same.infos]

/-- A step makes at most one subscriber, whose address is fresh. -/
theorem Sound.listed_next (sound : system.Sound) {action : ScriptAction}
    (taken : next eventId pointer system action = some after) (listed : after.Listed subscriber) :
    system.Listed subscriber ∨
      action.made? = some subscriber ∧ system.isFresh pointer subscriber = true := by
  cases action with
  | on env callback made search id =>
      rcases on_moves taken with ⟨rfl, -⟩ | ⟨-, fresh, -, -, -, infos⟩
      · exact .inl listed
      · obtain ⟨other, info, mem, same⟩ := listed
        rw [infos] at mem
        split_ifs at mem
        · rcases List.mem_append.mp mem with old | last
          · exact .inl ⟨env, info, old, same⟩
          · obtain rfl := List.mem_singleton.mp last
            obtain rfl : made = subscriber := same
            exact .inr ⟨rfl, fresh⟩
        · exact .inl ⟨other, info, mem, same⟩
  | off => exact .inl ((off_shrinks taken).listed listed)
  | proceed => exact .inl ((proceed_shrinks taken).listed listed)
  | resume => exact .inl ((resume_shrinks sound taken).listed listed)
  | notify => exact .inl ((notify_same taken).listed.mp listed)
  | forward => exact .inl ((forward_same taken).listed.mp listed)
  | run => exact .inl ((run_same taken).listed.mp listed)

/-- A notification takes down subscribers that are listed. -/
theorem Sound.pending_next (sound : system.Sound) {action : ScriptAction}
    (taken : next eventId pointer system action = some after)
    (waiting : subscriber ∈ after.pending) : system.Live subscriber := by
  have kept (notifying : after.notifying = system.notifying) : system.Live subscriber :=
    .inr (by rwa [pending, notifying] at waiting)
  cases action with
  | on =>
      rcases on_moves taken with ⟨rfl, -⟩ | ⟨-, -, notifying, -, -, -⟩
      · exact .inr waiting
      · exact kept notifying
  | off => exact kept (off_shrinks taken).notifying
  | proceed => exact kept (proceed_shrinks taken).notifying
  | resume => exact kept (resume_shrinks sound taken).notifying
  | notify event =>
      rw [pending, (notify_moves taken).2.1] at waiting
      exact .inl (sound.entered subscriber (mem_snapshot.mp waiting).1)
  | forward sent =>
      rcases forward_moves taken with ⟨-, done, -⟩ | ⟨event, first, rest, _, before, now, -, -⟩
      · simp [done] at waiting
      · rw [pending, now] at waiting
        refine .inr ?_
        rw [pending, before]
        exact List.mem_cons_of_mem first waiting
  | run => exact kept (run_moves taken).2.1

theorem Sound.live_next (sound : system.Sound) {action : ScriptAction}
    (taken : next eventId pointer system action = some after) (live : after.Live subscriber) :
    system.Live subscriber ∨
      action.made? = some subscriber ∧ system.isFresh pointer subscriber = true := by
  rcases live with listed | waiting
  · exact (sound.listed_next taken listed).imp .inl fun made => made
  · exact .inl (sound.pending_next taken waiting)

/-- A subscriber stays what it is. -/
theorem Sound.objects_next (sound : system.Sound) {action : ScriptAction}
    {object : SubscriberPtr} (taken : next eventId pointer system action = some after)
    (known : system.objects.get? subscriber = some object) :
    after.objects.get? subscriber = some object := by
  cases action with
  | on env callback made search id =>
      rcases on_moves taken with ⟨rfl, -⟩ | ⟨-, fresh, -, -, objects, -⟩
      · exact known
      · have different : subscriber ≠ made := by
          rintro rfl
          simp [isFresh, SortedMap.contains, known] at fresh
        rw [objects, SortedMap.get?_insert, if_neg different, known]
  | off => exact (off_shrinks taken).objects ▸ known
  | proceed => exact (proceed_shrinks taken).objects ▸ known
  | resume => exact (resume_shrinks sound taken).objects ▸ known
  | notify => exact (notify_same taken).2.1 ▸ known
  | forward => exact (forward_same taken).2.1 ▸ known
  | run => exact (run_same taken).2.1 ▸ known

/-- A task in a queue was there, or a notification has just made it. -/
theorem Sound.queue_next (sound : system.Sound) {action : ScriptAction}
    {task : SubscriberOAWorker} (taken : next eventId pointer system action = some after)
    (queued : task ∈ after.queue env) :
    task ∈ system.queue env ∨
      ∃ rest, system.notifying = some (task.event, task.subscriber :: rest) ∧
        system.objects.get? task.subscriber = some { env, callback := task.callback } := by
  have kept (tasks : after.tasks = system.tasks) : task ∈ system.queue env := by
    rwa [queue, tasks] at queued
  cases action with
  | on =>
      rcases on_moves taken with ⟨rfl, -⟩ | ⟨-, -, -, tasks, -, -⟩
      · exact .inl queued
      · exact .inl (kept tasks)
  | off => exact .inl (kept (off_shrinks taken).tasks)
  | proceed => exact .inl (kept (proceed_shrinks taken).tasks)
  | resume => exact .inl (kept (resume_shrinks sound taken).tasks)
  | notify => exact .inl (kept (notify_moves taken).2.2)
  | forward sent =>
      rcases forward_moves taken with ⟨-, -, tasks⟩ | ⟨event, first, rest, _, before, -, known, now⟩
      · exact .inl (kept tasks)
      · rw [now] at queued
        split_ifs at queued with own
        · rcases List.mem_append.mp queued with old | last
          · exact .inl old
          · obtain rfl := List.mem_singleton.mp last
            obtain ⟨-, rfl⟩ := own
            exact .inr ⟨rest, before, known⟩
        · exact .inl queued
  | run other answer =>
      obtain ⟨-, -, first, rest, before, now⟩ := run_moves taken
      rw [now] at queued
      split_ifs at queued with same
      · rw [same, before]
        exact .inl (List.mem_cons_of_mem first queued)
      · exact .inl queued

/-- Tasks and notifications are for the subscribers of their event, and live subscribers have
machine addresses of their own. -/
structure Tasked (eventId : Address → Int) (pointer : Address → Nat) (system : ScriptSystem) :
    Prop where
  sound : system.Sound
  queued : ∀ env, ∀ task ∈ system.queue env,
    system.objects.get? task.subscriber = some { env, callback := task.callback } ∧
      eventId task.subscriber = task.event.eventId
  notified : ∀ event list, system.notifying = some (event, list) → list.Nodup ∧
    ∀ subscriber ∈ list, eventId subscriber = event.eventId
  apart : ∀ first second, system.Live first → system.Live second →
    pointer first = pointer second → first = second

theorem tasked_initial : Tasked eventId pointer {} where
  sound := sound_initial
  queued _ _ mem := absurd mem List.not_mem_nil
  notified _ _ busy := absurd busy (by simp)
  apart first _ live := by
    rcases live with ⟨env, info, mem, -⟩ | waiting
    · exact absurd mem List.not_mem_nil
    · exact absurd waiting List.not_mem_nil

theorem Sound.fresh_apart (sound : system.Sound)
    (fresh : system.isFresh pointer subscriber = true) {other : Address}
    (live : system.Live other) : pointer other ≠ pointer subscriber := by
  rw [isFresh, Bool.and_eq_true, List.all_eq_true] at fresh
  exact of_decide_eq_true (fresh.2 other (sound.mem_liveObjects.mpr live))

theorem Tasked.notified_next (tasked : system.Tasked eventId pointer) {action : ScriptAction}
    (taken : next eventId pointer system action = some after) (event : NapiSecurityEvent)
    (list : List Address) (busy : after.notifying = some (event, list)) :
    list.Nodup ∧ ∀ subscriber ∈ list, eventId subscriber = event.eventId := by
  have kept (same : after.notifying = system.notifying) :
      list.Nodup ∧ ∀ subscriber ∈ list, eventId subscriber = event.eventId :=
    tasked.notified event list (same ▸ busy)
  cases action with
  | on =>
      rcases on_moves taken with ⟨rfl, -⟩ | ⟨-, -, notifying, -, -, -⟩
      · exact tasked.notified event list busy
      · exact kept notifying
  | off => exact kept (off_shrinks taken).notifying
  | proceed => exact kept (proceed_shrinks taken).notifying
  | resume => exact kept (resume_shrinks tasked.sound taken).notifying
  | notify other =>
      rw [(notify_moves taken).2.1] at busy
      obtain ⟨rfl, rfl⟩ := Prod.mk.inj (Option.some.inj busy)
      exact ⟨snapshot_nodup system other, fun subscriber mem => (mem_snapshot.mp mem).2⟩
  | forward sent =>
      rcases forward_moves taken with ⟨-, done, -⟩ | ⟨other, first, rest, _, before, now, -, -⟩
      · rw [pending, busy] at done
        obtain rfl : list = [] := done
        exact ⟨List.nodup_nil, fun subscriber mem => absurd mem List.not_mem_nil⟩
      · rw [now] at busy
        obtain ⟨rfl, rfl⟩ := Prod.mk.inj (Option.some.inj busy)
        obtain ⟨distinct, same⟩ := tasked.notified other (first :: rest) before
        exact ⟨distinct.of_cons, fun subscriber mem =>
          same subscriber (List.mem_cons_of_mem first mem)⟩
  | run => exact kept (run_moves taken).2.1

theorem Tasked.next (tasked : system.Tasked eventId pointer) {action : ScriptAction}
    (taken : ScriptSystem.next eventId pointer system action = some after) :
    after.Tasked eventId pointer where
  sound := next_sound tasked.sound taken
  queued env task mem := by
    rcases tasked.sound.queue_next taken mem with old | ⟨rest, busy, known⟩
    · obtain ⟨known, same⟩ := tasked.queued env task old
      exact ⟨tasked.sound.objects_next taken known, same⟩
    · exact ⟨tasked.sound.objects_next taken known,
        (tasked.notified _ _ busy).2 task.subscriber List.mem_cons_self⟩
  notified := tasked.notified_next taken
  apart first second live live' same := by
    rcases tasked.sound.live_next taken live with old | ⟨made, fresh⟩
    · rcases tasked.sound.live_next taken live' with old' | ⟨made', fresh'⟩
      · exact tasked.apart first second old old' same
      · exact absurd same (tasked.sound.fresh_apart fresh' old)
    · rcases tasked.sound.live_next taken live' with old' | ⟨made', fresh'⟩
      · exact absurd same.symm (tasked.sound.fresh_apart fresh old')
      · exact Option.some.inj (made.symm.trans made')

/-- Whether `on` gives its new subscriber the machine address of a task that waits. -/
def reuses (pointer : Address → Nat) (system : ScriptSystem) : ScriptAction → Bool
  | .on env callback subscriber _ _ =>
      !((system.infos env).any fun info => info.callback = callback) &&
        system.tasks.entries.any fun entry =>
          entry.2.any fun task => pointer task.subscriber = pointer subscriber
  | _ => false

/-- A call that a task makes is for an entry that its script has, and the library has the
subscriber unless the script is in a call. -/
def Serves (eventId : Address → Int) (system : ScriptSystem) (env : JsEnv)
    (subscriber : Address) (call : JsFunction × NapiSecurityEvent) : Prop :=
  { callback := call.1, subscriber } ∈ system.infos env ∧ eventId subscriber = call.2.eventId ∧
    (system.threads.get? env = none → system.has subscriber = true)

/-- Every call that a waiting task would make now is right. -/
def CallsServe (eventId : Address → Int) (pointer : Address → Nat) (system : ScriptSystem) : Prop :=
  ∀ env, ∀ task ∈ system.queue env, ∀ answer call,
    system.called pointer task answer = some call →
      system.Serves eventId env task.subscriber call

/-- No live subscriber has the machine address of another one whose task waits. -/
def TasksApart (pointer : Address → Nat) (system : ScriptSystem) : Prop :=
  ∀ env, ∀ task ∈ system.queue env, ∀ subscriber, system.Live subscriber →
    pointer subscriber = pointer task.subscriber → subscriber = task.subscriber

theorem exists_queued {holds : SubscriberOAWorker → Prop} :
    (∃ entry ∈ system.tasks.entries, ∃ task ∈ entry.2, holds task) ↔
      ∃ env, ∃ task ∈ system.queue env, holds task := by
  constructor
  · rintro ⟨⟨env, list⟩, mem, task, waiting, held⟩
    refine ⟨env, task, ?_, held⟩
    rw [queue, SortedMap.mem_entries_iff.mp mem]
    exact waiting
  · rintro ⟨env, task, mem, held⟩
    rw [queue] at mem
    cases found : system.tasks.get? env with
    | none => simp [found] at mem
    | some list =>
        rw [found] at mem
        exact ⟨(env, list), SortedMap.mem_entries_iff.mpr found, task, mem, held⟩

theorem reuses_iff {callback : JsFunction} {search : ServiceSearch} {id : CollectCallId} :
    reuses pointer system (.on env callback subscriber search id) = true ↔
      ((system.infos env).any fun info => info.callback = callback) = false ∧
        ∃ other, ∃ task ∈ system.queue other,
          pointer task.subscriber = pointer subscriber := by
  rw [← exists_queued]
  simp only [reuses, Bool.and_eq_true, Bool.not_eq_true', List.any_eq_true, decide_eq_true_eq]

theorem TasksApart.next (apart : system.TasksApart pointer)
    (tasked : system.Tasked eventId pointer) {action : ScriptAction}
    (new : reuses pointer system action = false)
    (taken : ScriptSystem.next eventId pointer system action = some after) :
    after.TasksApart pointer := by
  intro env task mem subscriber live same
  rcases tasked.sound.queue_next taken mem with queued | ⟨rest, busy, -⟩
  · rcases tasked.sound.live_next taken live with old | ⟨made, fresh⟩
    · exact apart env task queued subscriber old same
    · -- The new subscriber would have the address of the task.
      cases action with
      | on other callback first search id =>
          obtain rfl := Option.some.inj made
          rcases on_moves taken with ⟨rfl, -⟩ | ⟨unknown, -⟩
          · exact apart env task queued first live same
          · rw [reuses_iff.mpr ⟨unknown, env, task, queued, same.symm⟩] at new
            exact absurd new (by simp)
      | _ => cases made
  · have waiting : system.Live task.subscriber :=
      .inr (by rw [pending, busy]; exact List.mem_cons_self)
    rcases tasked.sound.live_next taken live with old | ⟨-, fresh⟩
    · exact tasked.apart subscriber task.subscriber old waiting same
    · exact absurd same.symm (tasked.sound.fresh_apart fresh waiting)

theorem called_eq_some {task : SubscriberOAWorker} {answer : TaskAnswer}
    {call : JsFunction × NapiSecurityEvent}
    (calls : system.called pointer task answer = some call) :
    system.isFound pointer task = true ∧ call = (task.callback, task.event) := by
  rw [called] at calls
  split_ifs at calls with opens unfound
  exact ⟨by simpa using unfound, (Option.some.inj calls).symm⟩

theorem TasksApart.callsServe (apart : system.TasksApart pointer)
    (tasked : system.Tasked eventId pointer) : system.CallsServe eventId pointer := by
  intro env task mem answer call calls
  obtain ⟨found, rfl⟩ := called_eq_some calls
  obtain ⟨other, listed, same⟩ := isFound_iff.mp found
  obtain rfl := apart env task mem other (.inl listed) same
  obtain ⟨owner, info, entry, own⟩ := listed
  obtain ⟨known, event⟩ := tasked.queued env task mem
  have owned := tasked.sound.owned owner info entry
  rw [own, known, Option.some.injEq, SubscriberPtr.mk.injEq] at owned
  obtain ⟨rfl, callback⟩ := owned
  have entry' :
      { callback := task.callback, subscriber := task.subscriber } ∈ system.infos env := by
    rwa [callback, ← own]
  exact ⟨entry', event, fun idle =>
    tasked.sound.settled env _ entry' fun thread found => by simp [idle] at found⟩

/-- A new subscriber at the address of a waiting task makes the task call for it. -/
theorem Tasked.not_callsServe (tasked : system.Tasked eventId pointer) {action : ScriptAction}
    (again : reuses pointer system action = true)
    (taken : ScriptSystem.next eventId pointer system action = some after) :
    ¬after.CallsServe eventId pointer := by
  intro serves
  cases action with
  | on env callback subscriber search id =>
      obtain ⟨unknown, other, task, mem, same⟩ := reuses_iff.mp again
      rcases on_moves taken with ⟨-, known⟩ | ⟨-, fresh, -, tasks, -, infos⟩
      · simp [unknown] at known
      · have listed : after.Listed subscriber := by
          refine ⟨env, ⟨callback, subscriber⟩, ?_, rfl⟩
          rw [infos, if_pos rfl]
          exact List.mem_append_right _ List.mem_cons_self
        have found : after.isFound pointer task = true :=
          isFound_iff.mpr ⟨subscriber, listed, same.symm⟩
        have queued : task ∈ after.queue other := by
          rwa [queue, tasks]
        obtain ⟨entry, -, -⟩ := serves other task queued {} (task.callback, task.event)
          (by simp [called, found])
        rcases tasked.sound.live_next taken (.inl ⟨other, _, entry, rfl⟩) with old | ⟨made, -⟩
        · exact tasked.sound.fresh_apart fresh old same
        · have own : subscriber = task.subscriber := Option.some.inj made
          have known := (tasked.queued other task mem).1
          rw [← own] at known
          simp [isFresh, SortedMap.contains, known] at fresh
  | _ => cases again

/-- In a run every function that a task calls is subscribed to the event at the time, with an entry
of its own script and a subscriber in the library, exactly if no new subscriber is given the
machine address of one whose task still waits. -/
theorem calls_serve_iff (actions : List ScriptAction) :
    Transition.Visits (ScriptSystem.next eventId pointer) (CallsServe eventId pointer) {} actions ↔
      Transition.Along (ScriptSystem.next eventId pointer)
        (fun system action => (system.next eventId pointer action).isSome = true →
          reuses pointer system action = false) {} actions := by
  have start : Tasked eventId pointer {} ∧ TasksApart pointer {} :=
    ⟨tasked_initial, fun env task mem => absurd mem List.not_mem_nil⟩
  refine Transition.visits_iff_along_of_refused
    (fun refused some_after => by simp [refused] at some_after)
    (fun sound guard taken => ?_) (fun sound taken => ?_)
    (fun system (sound : system.Tasked eventId pointer ∧ system.TasksApart pointer) =>
      sound.2.callsServe sound.1) start
  · have new := guard (by rw [taken]; rfl)
    exact ⟨sound.1.next taken, sound.2.next sound.1 new taken⟩
  · constructor
    · intro serves _
      by_contra again
      exact sound.1.not_callsServe (by simpa using again) taken serves
    · intro guard
      have new := guard (by rw [taken]; rfl)
      exact (sound.2.next sound.1 new taken).callsServe (sound.1.next taken)

/-- A script takes a function back while a task for it waits, and subscribes another one. -/
def staleTrace : List ScriptAction :=
  [.on 1 7 100 (.proxy 0) 0, .proceed 1 {}, .proceed 1 {}, .proceed 1 {}, .proceed 1 {},
    .resume 1 3, .notify { eventId := 5, version := "", content := "", timestamp := "" },
    .forward true, .forward true, .off 1 (.function 7) 1, .proceed 1 {}, .proceed 1 {},
    .proceed 1 {}, .proceed 1 {}, .proceed 1 {}, .resume 1 3, .on 1 8 101 (.proxy 0) 2]

/-- The scripts after `staleTrace`. -/
def staleSystem : ScriptSystem :=
  (Transition.run (next (fun _ => 5) fun _ => 0) {} staleTrace).getD {}

/-- At the address of the old subscriber the task calls the function that was taken back. -/
example : (staleSystem.queue 1).map (fun task =>
      (staleSystem.called (fun _ => 0) task {}).map Prod.fst) = [some 7] ∧
    (staleSystem.infos 1).map SubscribeCBInfo.callback = [8] := by
  decide +kernel

end ScriptSystem

end SecurityGuard
