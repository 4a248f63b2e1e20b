import SecurityGuard.Napi.ScriptTasks

/-!
# Which notifications come to a function

A function is called for an event once at most, in the order of the notifications.  While its
entry stays and the engine of its script fails nowhere, it is called for all of them.
-/

namespace SecurityGuard

/-- What the history keeps: a notification, or a call of a function. -/
inductive ScriptRecord where
  /-- The subscribers that the library took down for an event. -/
  | notified (event : NapiSecurityEvent) (subscribers : List Address)
  | called (env : JsEnv) (subscriber : Address) (callback : JsFunction) (event : NapiSecurityEvent)
  deriving DecidableEq

namespace ScriptRecord

/-- The event that a notification brings to a subscriber. -/
def eventFor? (subscriber : Address) : ScriptRecord → Option NapiSecurityEvent
  | notified event subscribers => if subscriber ∈ subscribers then some event else none
  | called _ _ _ _ => none

/-- The event of a call for a subscriber in a script. -/
def callOf? (env : JsEnv) (subscriber : Address) : ScriptRecord → Option NapiSecurityEvent
  | notified _ _ => none
  | called script own _ event => if script = env ∧ own = subscriber then some event else none

end ScriptRecord

/-- The events that a subscriber was taken down for. -/
def notifiedOf (subscriber : Address) (history : List ScriptRecord) : List NapiSecurityEvent :=
  history.filterMap (ScriptRecord.eventFor? subscriber)

/-- The events that the function of a subscriber was called for. -/
def calledOf (env : JsEnv) (subscriber : Address) (history : List ScriptRecord) :
    List NapiSecurityEvent :=
  history.filterMap (ScriptRecord.callOf? env subscriber)

/-- A step in which a task is sent, and the engine of a script does what a task asks for. -/
def ScriptAction.faithful : ScriptAction → Bool
  | .forward sent => sent
  | .run _ answer => answer.scopeOpens && answer.generated && answer.referenced
  | _ => true

namespace ScriptSystem

variable {eventId : Address → Int} {pointer : Address → Nat} {system after : ScriptSystem}
  {env : JsEnv} {subscriber : Address} {history : List ScriptRecord}

/-- What a step writes down. -/
def emit (eventId : Address → Int) (pointer : Address → Nat) (system : ScriptSystem) :
    ScriptAction → List ScriptRecord
  | .notify event => [.notified event (system.snapshot eventId event)]
  | .run env answer =>
      match system.queue env with
      | [] => []
      | task :: _ =>
          (system.called pointer task answer).toList.map fun call =>
            .called env task.subscriber call.1 call.2
  | _ => []

/-- The event of a task for a subscriber. -/
def SubscriberOAWorker.eventFor? (subscriber : Address) (task : SubscriberOAWorker) :
    Option NapiSecurityEvent :=
  if task.subscriber = subscriber then some task.event else none

/-- The event of the notification that has not come to a subscriber yet. -/
def pendingFor (system : ScriptSystem) (subscriber : Address) : List NapiSecurityEvent :=
  system.notifying.elim [] fun notification =>
    if subscriber ∈ notification.2 then [notification.1] else []

/-- The events on their way to the function of a subscriber. -/
def waitingFor (system : ScriptSystem) (env : JsEnv) (subscriber : Address) :
    List NapiSecurityEvent :=
  (system.queue env).filterMap (SubscriberOAWorker.eventFor? subscriber) ++
    system.pendingFor subscriber

theorem waitingFor_congr (tasks : after.tasks = system.tasks)
    (notifying : after.notifying = system.notifying) :
    after.waitingFor env subscriber = system.waitingFor env subscriber := by
  rw [waitingFor, queue, pendingFor, tasks, notifying, waitingFor, queue, pendingFor]

theorem notify_waitingFor {event : NapiSecurityEvent}
    (taken : system.notify eventId event = some after) :
    after.waitingFor env subscriber = system.waitingFor env subscriber ++
      notifiedOf subscriber [.notified event (system.snapshot eventId event)] := by
  obtain ⟨idle, busy, tasks⟩ := notify_moves taken
  simp only [waitingFor, queue, pendingFor, tasks, idle, busy, Option.elim_some, Option.elim_none,
    List.append_nil, notifiedOf, List.filterMap_cons, List.filterMap_nil,
    ScriptRecord.eventFor?]
  split_ifs <;> rfl

theorem pendingFor_of_busy {event : NapiSecurityEvent} {list : List Address}
    (busy : system.notifying = some (event, list)) :
    system.pendingFor subscriber = if subscriber ∈ list then [event] else [] := by
  rw [pendingFor, busy, Option.elim_some]

theorem pendingFor_of_done (done : system.pending = []) : system.pendingFor subscriber = [] := by
  cases notifying : system.notifying with
  | none => rw [pendingFor, notifying, Option.elim_none]
  | some notification =>
      rw [pending, notifying, Option.elim_some] at done
      rw [pendingFor, notifying, Option.elim_some, done]
      rfl

/-- The next subscriber loses its notification, or gets it as a task behind the others. -/
theorem Tasked.forward_waitingFor (tasked : system.Tasked eventId pointer) {sent : Bool}
    (taken : system.forward sent = some after) :
    (after.waitingFor env subscriber).Sublist (system.waitingFor env subscriber) ∧
      (sent = true → (∃ callback, system.objects.get? subscriber = some { env, callback }) →
        after.waitingFor env subscriber = system.waitingFor env subscriber) := by
  rcases forward_moves taken with
    ⟨idle, done, tasks⟩ | ⟨event, first, rest, object, busy, now, known, queued⟩
  · have same : after.waitingFor env subscriber = system.waitingFor env subscriber := by
      rw [waitingFor, waitingFor, pendingFor_of_done idle, pendingFor_of_done done, queue, tasks,
        queue]
    exact ⟨same ▸ List.Sublist.refl _, fun _ _ => same⟩
  · have distinct := (tasked.notified event (first :: rest) busy).1
    rw [waitingFor, waitingFor, pendingFor_of_busy busy, pendingFor_of_busy now, queued]
    by_cases own : subscriber = first
    · subst own
      rw [if_neg (List.nodup_cons.mp distinct).1, if_pos List.mem_cons_self, List.append_nil]
      split_ifs with accepted
      · rw [List.filterMap_append]
        simp [SubscriberOAWorker.eventFor?]
      · refine ⟨List.sublist_append_left .., fun sent owner => ?_⟩
        obtain ⟨callback, owned⟩ := owner
        obtain rfl := Option.some.inj (known.symm.trans owned)
        exact absurd ⟨sent, rfl⟩ accepted
    · have others : subscriber ∈ first :: rest ↔ subscriber ∈ rest := by
        simp [own]
      simp only [others]
      split_ifs with accepted
      all_goals simp [SubscriberOAWorker.eventFor?, Ne.symm own]

theorem notifiedOf_run (subscriber : Address) (other : JsEnv) (answer : TaskAnswer) :
    notifiedOf subscriber (emit eventId pointer system (.run other answer)) = [] := by
  rw [emit]
  split
  · rfl
  · cases system.called pointer _ answer <;> rfl

/-- The first task of a script is behind it, with a call or without. -/
theorem run_waitingFor {answer : TaskAnswer} {other : JsEnv}
    (taken : system.run other answer = some after) :
    (calledOf env subscriber (emit eventId pointer system (.run other answer)) ++
        after.waitingFor env subscriber).Sublist (system.waitingFor env subscriber) ∧
      (ScriptAction.faithful (.run other answer) = true → system.Listed subscriber →
        calledOf env subscriber (emit eventId pointer system (.run other answer)) ++
            after.waitingFor env subscriber =
          system.waitingFor env subscriber) := by
  obtain ⟨-, notifying, task, rest, queued, now⟩ := run_moves taken
  have pending : after.pendingFor subscriber = system.pendingFor subscriber := by
    rw [pendingFor, notifying, pendingFor]
  rw [waitingFor, waitingFor, pending, now, emit, queued]
  dsimp only
  by_cases own : other = env ∧ task.subscriber = subscriber
  · obtain ⟨rfl, rfl⟩ := own
    rw [if_pos rfl, queued]
    cases calls : system.called pointer task answer with
    | none =>
        refine ⟨?_, fun faithful listed => ?_⟩
        · simp [calledOf, SubscriberOAWorker.eventFor?]
        · have found : system.isFound pointer task = true :=
            isFound_iff.mpr ⟨task.subscriber, listed, rfl⟩
          simp only [ScriptAction.faithful, Bool.and_eq_true] at faithful
          simp [called, found, faithful.1.1, faithful.1.2, faithful.2] at calls
    | some call =>
        obtain ⟨-, rfl⟩ := called_eq_some calls
        simp [calledOf, ScriptRecord.callOf?, SubscriberOAWorker.eventFor?]
  · have silent : calledOf env subscriber
        ((system.called pointer task answer).toList.map fun call =>
          .called other task.subscriber call.1 call.2) = [] := by
      cases system.called pointer task answer with
      | none => rfl
      | some call => simp [calledOf, ScriptRecord.callOf?, own]
    have same : (if env = other then rest else system.queue env).filterMap
          (SubscriberOAWorker.eventFor? subscriber) =
        (system.queue env).filterMap (SubscriberOAWorker.eventFor? subscriber) := by
      split_ifs with mine
      · have foreign : task.subscriber ≠ subscriber := fun equal => own ⟨mine.symm, equal⟩
        simp [mine, queued, SubscriberOAWorker.eventFor?, foreign]
      · rfl
    rw [silent, same, List.nil_append]
    exact ⟨List.Sublist.refl _, fun _ _ => rfl⟩

/-- What a step calls was on its way, and what it notifies comes last. -/
structure Delivers (system after : ScriptSystem) (action : ScriptAction) (env : JsEnv)
    (subscriber : Address) (records : List ScriptRecord) : Prop where
  sublist : (calledOf env subscriber records ++ after.waitingFor env subscriber).Sublist
    (system.waitingFor env subscriber ++ notifiedOf subscriber records)
  /-- Nothing is lost for a subscriber that is listed. -/
  all : action.faithful = true → system.Listed subscriber →
    (∃ callback, system.objects.get? subscriber = some { env, callback }) →
      calledOf env subscriber records ++ after.waitingFor env subscriber =
        system.waitingFor env subscriber ++ notifiedOf subscriber records

theorem Delivers.of_eq {action : ScriptAction} {records : List ScriptRecord}
    (same : calledOf env subscriber records ++ after.waitingFor env subscriber =
      system.waitingFor env subscriber ++ notifiedOf subscriber records) :
    system.Delivers after action env subscriber records :=
  ⟨same ▸ List.Sublist.refl _, fun _ _ _ => same⟩

theorem Delivers.quiet {action : ScriptAction} (tasks : after.tasks = system.tasks)
    (notifying : after.notifying = system.notifying) :
    system.Delivers after action env subscriber [] :=
  .of_eq (by rw [waitingFor_congr tasks notifying]; exact (List.append_nil _).symm)

theorem Tasked.delivers (tasked : system.Tasked eventId pointer) {action : ScriptAction}
    (taken : ScriptSystem.next eventId pointer system action = some after) :
    system.Delivers after action env subscriber (emit eventId pointer system action) := by
  cases action with
  | on =>
      rcases on_moves taken with ⟨rfl, -⟩ | ⟨-, -, notifying, tasks, -, -⟩
      · exact .quiet rfl rfl
      · exact .quiet tasks notifying
  | off => exact .quiet (off_shrinks taken).tasks (off_shrinks taken).notifying
  | proceed => exact .quiet (proceed_shrinks taken).tasks (proceed_shrinks taken).notifying
  | resume =>
      have shrinks := resume_shrinks tasked.sound taken
      exact .quiet shrinks.tasks shrinks.notifying
  | notify event => exact .of_eq (notify_waitingFor taken)
  | forward sent =>
      obtain ⟨sublist, exact_if⟩ := tasked.forward_waitingFor taken
      refine ⟨sublist.trans (List.sublist_append_left ..), fun faithful _ owned => ?_⟩
      exact (exact_if faithful owned).trans (List.append_nil _).symm
  | run other answer =>
      obtain ⟨sublist, exact_if⟩ := run_waitingFor taken
      refine ⟨sublist.trans (List.sublist_append_left ..), fun faithful listed _ => ?_⟩
      rw [exact_if faithful listed, notifiedOf_run, List.append_nil]

theorem Sound.notifiedOf_emit (sound : system.Sound)
    (unknown : system.objects.get? subscriber = none) (action : ScriptAction) :
    notifiedOf subscriber (emit eventId pointer system action) = [] := by
  cases action with
  | notify event =>
      have absent : subscriber ∉ system.snapshot eventId event := by
        intro mem
        obtain ⟨env, info, listed, rfl⟩ := sound.entered subscriber (mem_snapshot.mp mem).1
        simp [sound.owned env info listed] at unknown
      simp [emit, notifiedOf, ScriptRecord.eventFor?, absent]
  | run other answer => exact notifiedOf_run subscriber other answer
  | _ => rfl

/-- The calls and the events on their way are notifications, in their order. -/
structure Ordered (eventId : Address → Int) (pointer : Address → Nat)
    (recorded : ScriptSystem × List ScriptRecord) : Prop where
  tasked : recorded.1.Tasked eventId pointer
  sublist : ∀ env subscriber,
    (calledOf env subscriber recorded.2 ++ recorded.1.waitingFor env subscriber).Sublist
      (notifiedOf subscriber recorded.2)
  unknown : ∀ subscriber, recorded.1.objects.get? subscriber = none →
    notifiedOf subscriber recorded.2 = []

/-- No notification of a listed subscriber has been lost. -/
def Complete (recorded : ScriptSystem × List ScriptRecord) : Prop :=
  ∀ env subscriber, recorded.1.Listed subscriber →
    (∃ callback, recorded.1.objects.get? subscriber = some { env, callback }) →
      calledOf env subscriber recorded.2 ++ recorded.1.waitingFor env subscriber =
        notifiedOf subscriber recorded.2

section Runs

variable {recorded later : ScriptSystem × List ScriptRecord} {action : ScriptAction}
  {actions : List ScriptAction}

theorem ordered_initial : Ordered eventId pointer ({}, []) where
  tasked := tasked_initial
  sublist _ _ := List.Sublist.refl _
  unknown _ _ := rfl

theorem Ordered.next (ordered : Ordered eventId pointer recorded)
    (taken : Transition.recording (ScriptSystem.next eventId pointer) (emit eventId pointer)
      recorded action = some later) : Ordered eventId pointer later := by
  obtain ⟨after, moved, rfl⟩ := Transition.recording_eq_some.mp taken
  refine ⟨ordered.tasked.next moved, fun env subscriber => ?_, fun subscriber unknown => ?_⟩
  · have delivers : recorded.1.Delivers after action env subscriber
        (emit eventId pointer recorded.1 action) := ordered.tasked.delivers moved
    rw [calledOf, List.filterMap_append, List.append_assoc, notifiedOf, List.filterMap_append]
    refine ((delivers.sublist).append_left _).trans ?_
    rw [← List.append_assoc]
    exact (ordered.sublist env subscriber).append_right _
  · have before : recorded.1.objects.get? subscriber = none := by
      cases known : recorded.1.objects.get? subscriber with
      | none => rfl
      | some object =>
          have kept := ordered.tasked.sound.objects_next moved known
          exact absurd (unknown.symm.trans kept) (by simp)
    rw [notifiedOf, List.filterMap_append]
    exact List.append_eq_nil_iff.mpr
      ⟨ordered.unknown subscriber before, ordered.tasked.sound.notifiedOf_emit before action⟩

theorem Complete.next (complete : Complete recorded) (ordered : Ordered eventId pointer recorded)
    (faithful : action.faithful = true)
    (taken : Transition.recording (ScriptSystem.next eventId pointer) (emit eventId pointer)
      recorded action = some later) : Complete later := by
  have ordered' := ordered.next taken
  obtain ⟨after, moved, rfl⟩ := Transition.recording_eq_some.mp taken
  rintro env subscriber listed ⟨callback, known⟩
  have sound := ordered.tasked.sound
  rcases sound.listed_next moved listed with old | ⟨-, fresh⟩
  · -- A listed subscriber stays with its script.
    have owned : recorded.1.objects.get? subscriber = some { env, callback } := by
      obtain ⟨owner, info, mem, rfl⟩ := old
      have before := sound.owned owner info mem
      exact before.trans ((sound.objects_next moved before).symm.trans known)
    have delivers : recorded.1.Delivers after action env subscriber
        (emit eventId pointer recorded.1 action) := ordered.tasked.delivers moved
    have step := delivers.all faithful old ⟨callback, owned⟩
    have before := complete env subscriber old ⟨callback, owned⟩
    rw [calledOf, List.filterMap_append, List.append_assoc, notifiedOf, List.filterMap_append]
    calc _ = calledOf env subscriber recorded.2 ++ (recorded.1.waitingFor env subscriber ++
          notifiedOf subscriber (emit eventId pointer recorded.1 action)) :=
            congrArg (calledOf env subscriber recorded.2 ++ ·) step
      _ = _ := by rw [← List.append_assoc, before]; rfl
  · -- A new subscriber has had no notification yet.
    have unknown : recorded.1.objects.get? subscriber = none := by
      rw [isFresh, Bool.and_eq_true] at fresh
      simpa [SortedMap.contains] using fresh.1
    have none_yet : notifiedOf subscriber
        (recorded.2 ++ emit eventId pointer recorded.1 action) = [] := by
      rw [notifiedOf, List.filterMap_append]
      exact List.append_eq_nil_iff.mpr
        ⟨ordered.unknown subscriber unknown, sound.notifiedOf_emit unknown action⟩
    have short := ordered'.sublist env subscriber
    rw [none_yet] at short ⊢
    exact List.sublist_nil.mp short

/-- In every run the calls that have been made to the function of a subscriber, then those that
are on their way, are for notifications of the subscriber, in their order and none twice. -/
theorem calls_in_order
    (reach : Transition.run (Transition.recording (ScriptSystem.next eventId pointer)
      (emit eventId pointer)) ({}, []) actions = some (system, history))
    (env : JsEnv) (subscriber : Address) :
    (calledOf env subscriber history ++ system.waitingFor env subscriber).Sublist
      (notifiedOf subscriber history) :=
  (Transition.run_stable Ordered.next ordered_initial reach).sublist env subscriber

/-- Two scripts subscribe to an event and get two notifications of it; the first script has run its
tasks and the second one has run one of them. -/
def notifiedTrace : List ScriptAction :=
  let event (content : String) : NapiSecurityEvent :=
    { eventId := 5, version := "1", content, timestamp := "" }
  [.on 1 7 100 (.proxy 0) 0, .proceed 1 {}, .proceed 1 {}, .proceed 1 {}, .proceed 1 {},
    .resume 1 2, .on 2 9 200 (.proxy 0) 1, .proceed 2 {}, .proceed 2 {}, .proceed 2 {},
    .resume 2 2, .notify (event "a"), .forward true, .run 1 {}, .forward true, .forward true,
    .notify (event "b"), .forward true, .forward true, .run 2 {}, .run 1 {}]

/-- The scripts and their history after `notifiedTrace`. -/
def notifiedScripts : ScriptSystem × List ScriptRecord :=
  (Transition.run (Transition.recording (ScriptSystem.next (fun _ => 5) id)
    (emit (fun _ => 5) id)) ({}, []) notifiedTrace).getD ({}, [])

theorem reach_notifiedScripts :
    Transition.run (Transition.recording (ScriptSystem.next (fun _ => 5) id)
      (emit (fun _ => 5) id)) ({}, []) notifiedTrace =
        some notifiedScripts :=
  Transition.run_eq_getD (by decide +kernel)

theorem calls_in_order_notifiedTrace :
    (calledOf 2 200 notifiedScripts.2 ++ notifiedScripts.1.waitingFor 2 200).Sublist
      (notifiedOf 200 notifiedScripts.2) :=
  calls_in_order reach_notifiedScripts 2 200

/-- In a run in which every task is sent and no engine fails, the function of a listed entry has
been called, or is going to be, for every notification of its subscriber. -/
theorem no_notification_is_lost (faithful : ∀ action ∈ actions, action.faithful = true)
    (reach : Transition.run (Transition.recording (ScriptSystem.next eventId pointer)
      (emit eventId pointer)) ({}, []) actions = some (system, history))
    (env : JsEnv) (info : SubscribeCBInfo) (listed : info ∈ system.infos env) :
    calledOf env info.subscriber history ++ system.waitingFor env info.subscriber =
      notifiedOf info.subscriber history := by
  have step {before after : ScriptSystem × List ScriptRecord} {action : ScriptAction}
      (sound : Ordered eventId pointer before ∧ Complete before)
      (faithful : action.faithful = true)
      (taken : Transition.recording (ScriptSystem.next eventId pointer) (emit eventId pointer)
        before action = some after) : Ordered eventId pointer after ∧ Complete after :=
    ⟨sound.1.next taken, sound.2.next sound.1 faithful taken⟩
  obtain ⟨ordered, complete⟩ := Transition.run_invariant step
    ⟨ordered_initial, fun _ _ _ _ => rfl⟩ (Transition.along_of_mem faithful _) reach
  exact complete env info.subscriber ⟨env, info, listed, rfl⟩
    ⟨info.callback, ordered.tasked.sound.owned env info listed⟩

theorem no_notification_is_lost_notifiedTrace :
    calledOf 2 200 notifiedScripts.2 ++ notifiedScripts.1.waitingFor 2 200 =
      notifiedOf 200 notifiedScripts.2 :=
  no_notification_is_lost (by decide) reach_notifiedScripts 2
    { callback := 9, subscriber := 200 } (by decide +kernel)

end Runs

end ScriptSystem

end SecurityGuard
