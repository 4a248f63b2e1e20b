import SecurityGuard.Upload.TaskCount

/-!
# No event is lost or duplicated

An accepted event waits in `notifyEvents_` or in a task, is held by a thread that took it out of
one of them, has been uploaded, or is discarded with a cause.  An event that was appended for the
store waits in `events_`, is held by the thread that took it out, or has been inserted.  Every
step moves occurrences from one place to another.
-/

namespace SecurityGuard

namespace UploadStage

/-- The events that the thread has yet to upload, submit or discard. -/
def held : UploadStage → List CollectorEvent
  | .batch event | .checkImmediate event | .countImmediate event | .submitImmediate event => [event]
  | .checkBatch taken | .submitBatch taken => taken
  | .upload _ rest | .store _ rest _ | .insert _ rest _ => rest
  | .countBatch | .clearEvents | .clearInsert _ | .clearNotify => []

/-- The events that the thread is about to insert. -/
def taken : UploadStage → List SecEvent
  | .clearInsert taken | .insert _ _ taken => taken
  | _ => []

end UploadStage

def TaskQueue.events (queue : Option TaskQueue) : List CollectorEvent :=
  (queue.map fun queue => queue.waiting.flatten).getD []

theorem TaskQueue.events_submit (queue : TaskQueue) (task : List CollectorEvent) :
    TaskQueue.events (some (queue.submit task)) = TaskQueue.events (some queue) ++ task := by
  simp [TaskQueue.events, TaskQueue.submit]

theorem TaskQueue.events_release (queue : Option TaskQueue) :
    TaskQueue.events (queue.map TaskQueue.release) = TaskQueue.events queue := by
  cases queue <;> rfl

theorem TaskQueue.events_start {queue later : TaskQueue} {task : List CollectorEvent}
    (starts : queue.start = some (task, later)) :
    TaskQueue.events (some queue) = task ++ TaskQueue.events (some later) := by
  obtain ⟨waiting, busy⟩ := queue
  cases waiting with
  | nil => simp [TaskQueue.start] at starts
  | cons head rest =>
      simp only [TaskQueue.start] at starts
      split_ifs at starts
      obtain ⟨rfl, rfl⟩ := Prod.mk.inj (Option.some.inj starts)
      rfl

namespace UploadSystem

variable {system after : UploadSystem} {id maxCount : Nat} {outside : Surroundings}
  {stage later : UploadStage}

/-- The events in the hands of threads. -/
def held (system : UploadSystem) : List CollectorEvent :=
  system.calls.entries.flatMap fun entry => entry.2.held

/-- The events of the tasks that wait in the two queues. -/
def queued (system : UploadSystem) : List CollectorEvent :=
  TaskQueue.events system.queue ++ TaskQueue.events system.crucialQueue

/-- The events that were discarded. -/
def discarded (system : UploadSystem) : List CollectorEvent :=
  system.discards.flatMap Discard.events

/-- Where an accepted event is while no thread holds it. -/
def placed (system : UploadSystem) : List CollectorEvent :=
  system.notifyEvents ++ system.queued ++ system.processed ++ system.discarded

/-- The events that threads are about to insert. -/
def taken (system : UploadSystem) : List SecEvent :=
  system.calls.entries.flatMap fun entry => entry.2.taken

/-- Where an appended event is while no thread holds it. -/
def stored (system : UploadSystem) : List SecEvent :=
  system.events ++ system.inserted.flatten

/-- Every accepted and every appended event is in one place, and the buffers are not full. -/
structure Conserved (system : UploadSystem) : Prop where
  accepted : ∀ event, system.accepted.count event =
    (system.calls.total fun stage => stage.held.count event) + system.placed.count event
  appended : ∀ event, system.appended.count event =
    (system.calls.total fun stage => stage.taken.count event) + system.stored.count event
  events : system.events.length < maxCacheEventSize
  notifyEvents : system.notifyEvents.length < maxCacheNotifyEventSize

/-- What a step does to the events of its thread, which held some and holds others afterwards. -/
structure Moves (before after : UploadSystem) (held : List CollectorEvent)
    (taken : List SecEvent) (heldLater : List CollectorEvent) (takenLater : List SecEvent) :
    Prop where
  accepted : ∀ event, before.accepted.count event + heldLater.count event +
      after.placed.count event =
    after.accepted.count event + held.count event + before.placed.count event
  appended : ∀ event, before.appended.count event + takenLater.count event +
      after.stored.count event =
    after.appended.count event + taken.count event + before.stored.count event
  events : before.events.length < maxCacheEventSize → after.events.length < maxCacheEventSize
  notifyEvents : before.notifyEvents.length < maxCacheNotifyEventSize →
    after.notifyEvents.length < maxCacheNotifyEventSize

/-- A thread goes on. -/
theorem Conserved.moved (conserved : Conserved system) (found : system.calls.get? id = some stage)
    (calls : after.calls = system.calls.insert id later)
    (moves : Moves system after stage.held stage.taken later.held later.taken) :
    Conserved after where
  accepted event := by
    have before := conserved.accepted event
    have balance := moves.accepted event
    rw [SortedMap.total_of_get? _ found] at before
    rw [calls, SortedMap.total_insert]
    omega
  appended event := by
    have before := conserved.appended event
    have balance := moves.appended event
    rw [SortedMap.total_of_get? _ found] at before
    rw [calls, SortedMap.total_insert]
    omega
  events := moves.events conserved.events
  notifyEvents := moves.notifyEvents conserved.notifyEvents

/-- A thread ends. -/
theorem Conserved.ended (conserved : Conserved system) (found : system.calls.get? id = some stage)
    (calls : after.calls = system.calls.erase id)
    (moves : Moves system after stage.held stage.taken [] []) : Conserved after where
  accepted event := by
    have before := conserved.accepted event
    have balance := moves.accepted event
    rw [SortedMap.total_of_get? _ found] at before
    rw [List.count_nil] at balance
    rw [calls]
    omega
  appended event := by
    have before := conserved.appended event
    have balance := moves.appended event
    rw [SortedMap.total_of_get? _ found] at before
    rw [List.count_nil] at balance
    rw [calls]
    omega
  events := moves.events conserved.events
  notifyEvents := moves.notifyEvents conserved.notifyEvents

/-- A thread starts. -/
theorem Conserved.entered (conserved : Conserved system) {final : UploadSystem}
    (entered : after.enter id stage = some final) (calls : after.calls = system.calls)
    (moves : Moves system after [] [] stage.held stage.taken) : Conserved final := by
  rw [enter] at entered
  split_ifs at entered with used
  obtain rfl := Option.some.inj entered
  have fresh : after.calls.get? id = none := by simpa [SortedMap.contains] using used
  constructor
  · intro event
    have before := conserved.accepted event
    have balance := moves.accepted event
    rw [List.count_nil] at balance
    rw [proceed_calls, SortedMap.total_insert_of_fresh _ _ fresh, calls]
    change after.accepted.count event = _ + after.placed.count event
    omega
  · intro event
    have before := conserved.appended event
    have balance := moves.appended event
    rw [List.count_nil] at balance
    rw [proceed_calls, SortedMap.total_insert_of_fresh _ _ fresh, calls]
    change after.appended.count event = _ + after.stored.count event
    omega
  · exact moves.events conserved.events
  · exact moves.notifyEvents conserved.notifyEvents

theorem Moves.still {held : List CollectorEvent} {taken : List SecEvent}
    (accepted : after.accepted = system.accepted) (placed : after.placed = system.placed)
    (appended : after.appended = system.appended) (inserted : after.inserted = system.inserted)
    (events : after.events = system.events)
    (notifyEvents : after.notifyEvents = system.notifyEvents) :
    Moves system after held taken held taken where
  accepted _ := by rw [accepted, placed]
  appended _ := by rw [appended, stored, stored, events, inserted]
  events small := by rwa [events]
  notifyEvents small := by rwa [notifyEvents]

/-- A step that moves events among those that were accepted, and none of the store. -/
theorem Moves.of_placed {held heldLater : List CollectorEvent} {taken : List SecEvent}
    (accepted : after.accepted = system.accepted)
    (placed : ∀ event, heldLater.count event + after.placed.count event =
      held.count event + system.placed.count event)
    (appended : after.appended = system.appended) (inserted : after.inserted = system.inserted)
    (events : after.events = system.events)
    (notifyEvents : system.notifyEvents.length < maxCacheNotifyEventSize →
      after.notifyEvents.length < maxCacheNotifyEventSize) :
    Moves system after held taken heldLater taken where
  accepted event := by
    have balance := placed event
    rw [accepted]
    omega
  appended _ := by rw [appended, stored, stored, events, inserted]
  events small := by rwa [events]
  notifyEvents := notifyEvents

theorem Moves.of_stored {held : List CollectorEvent} {taken takenLater : List SecEvent}
    (accepted : after.accepted = system.accepted) (placed : after.placed = system.placed)
    (stored : ∀ event, system.appended.count event + takenLater.count event +
        after.stored.count event =
      after.appended.count event + taken.count event + system.stored.count event)
    (events : system.events.length < maxCacheEventSize → after.events.length < maxCacheEventSize)
    (notifyEvents : after.notifyEvents = system.notifyEvents) :
    Moves system after held taken held takenLater where
  accepted _ := by rw [accepted, placed]
  appended := stored
  events := events
  notifyEvents small := by rwa [notifyEvents]

theorem Moves.discarded {cause : DiscardCause} {events : List CollectorEvent}
    (accepted : after.accepted = system.accepted)
    (notifyEvents : after.notifyEvents = system.notifyEvents)
    (queued : after.queued = system.queued) (processed : after.processed = system.processed)
    (discards : after.discards = system.discards ++ [⟨cause, events⟩])
    (appended : after.appended = system.appended) (inserted : after.inserted = system.inserted)
    (same : after.events = system.events) : Moves system after events [] [] [] := by
  refine .of_placed accepted (fun event => ?_) appended inserted same fun small => by
    rwa [notifyEvents]
  rw [placed, placed, notifyEvents, queued, processed, UploadSystem.discarded, discards,
    UploadSystem.discarded, List.flatMap_append, List.flatMap_singleton]
  simp only [List.count_append, List.count_nil]
  omega

variable (id outside) in
theorem Conserved.advance (conserved : Conserved system)
    (found : system.calls.get? id = some stage) :
    Conserved (system.advance id maxCount outside stage) := by
  cases stage with
  -- The event joins the buffer, or the thread takes the full buffer with it.
  | batch event =>
      rw [UploadSystem.advance]
      split_ifs with room
      · refine conserved.ended found rfl
          (.of_placed rfl (fun other => ?_) rfl rfl rfl fun _ => room)
        simp only [placed, finish_notifyEvents, List.count_append, UploadStage.held,
          List.count_nil]
        simp only [queued, finish_queue, finish_crucialQueue, finish_processed, discarded,
          finish_discards]
        omega
      · refine conserved.moved found rfl (.of_placed rfl (fun other => ?_) rfl rfl rfl
          fun _ => Nat.succ_pos 9)
        simp only [placed, proceed_notifyEvents, List.count_append, UploadStage.held,
          List.count_nil]
        simp only [queued, proceed_queue, proceed_crucialQueue, proceed_processed, discarded,
          proceed_discards]
        omega
  | checkBatch taken =>
      rw [UploadSystem.advance]
      split_ifs
      · exact conserved.ended found rfl (.discarded rfl rfl rfl rfl rfl rfl rfl rfl)
      · exact conserved.moved found rfl (.still rfl rfl rfl rfl rfl rfl)
  | submitBatch taken =>
      rw [UploadSystem.advance]
      cases present : system.queue with
      | none => exact conserved.ended found rfl (.discarded rfl rfl rfl rfl rfl rfl rfl rfl)
      | some queue =>
          refine conserved.moved found rfl
            (.of_placed rfl (fun other => ?_) rfl rfl rfl fun small => small)
          simp only [placed, queued, proceed_queue, TaskQueue.events_submit, present,
            List.count_append, UploadStage.held, List.count_nil]
          simp only [proceed_notifyEvents, proceed_crucialQueue, proceed_processed, discarded,
            proceed_discards]
          omega
  | countBatch => exact conserved.ended found rfl (.still rfl rfl rfl rfl rfl rfl)
  | checkImmediate event =>
      rw [UploadSystem.advance]
      split_ifs
      · exact conserved.ended found rfl (.discarded rfl rfl rfl rfl rfl rfl rfl rfl)
      · exact conserved.moved found rfl (.still rfl rfl rfl rfl rfl rfl)
  | countImmediate event => exact conserved.moved found rfl (.still rfl rfl rfl rfl rfl rfl)
  | submitImmediate event =>
      rw [UploadSystem.advance]
      cases present : system.crucialQueue with
      | none =>
          refine conserved.ended found rfl
            (.discarded rfl rfl ?_ rfl rfl rfl rfl rfl)
          rw [queued, queued, present]
          rfl
      | some queue =>
          refine conserved.ended found rfl
            (.of_placed rfl (fun other => ?_) rfl rfl rfl fun small => small)
          simp only [placed, queued, finish_crucialQueue, TaskQueue.events_submit, present,
            List.count_append, UploadStage.held, List.count_nil]
          simp only [finish_notifyEvents, finish_queue, finish_processed, discarded,
            finish_discards]
          omega
  -- Events of the store go from the buffer to the thread and from there into the store.
  | clearEvents =>
      refine conserved.moved found rfl (.of_stored rfl rfl (fun other => ?_)
        (fun _ => Nat.succ_pos 63) rfl)
      simp only [UploadStage.taken, stored, UploadSystem.advance, proceed_events,
        proceed_inserted, proceed_appended, List.count_append, List.count_nil]
      omega
  | clearInsert taken =>
      refine conserved.moved found rfl (.of_stored rfl rfl (fun other => ?_)
        (fun small => small) rfl)
      simp only [UploadStage.taken, stored, UploadSystem.advance, proceed_events,
        proceed_inserted, proceed_appended, List.flatten_append, List.flatten_singleton,
        List.count_append, List.count_nil]
      omega
  | clearNotify =>
      refine conserved.moved found rfl (.of_placed rfl (fun other => ?_) rfl rfl rfl
        fun _ => Nat.succ_pos 9)
      simp only [placed, UploadSystem.advance, proceed_notifyEvents, UploadStage.held,
        List.count_append, List.count_nil]
      simp only [queued, proceed_queue, proceed_crucialQueue, proceed_processed, discarded,
        proceed_discards]
      omega
  | upload runner rest =>
      cases rest with
      | nil =>
          cases runner with
          | batchTask =>
              refine conserved.ended found rfl (.still rfl ?_ rfl rfl rfl rfl)
              rw [placed, placed, queued, queued]
              simp only [UploadSystem.advance, finishRunner, finish_queue, finish_crucialQueue,
                finish_notifyEvents, finish_processed, TaskQueue.events_release]
              rfl
          | crucialTask =>
              refine conserved.ended found rfl (.still rfl ?_ rfl rfl rfl rfl)
              rw [placed, placed, queued, queued]
              simp only [UploadSystem.advance, finishRunner, finish_queue, finish_crucialQueue,
                finish_notifyEvents, finish_processed, TaskQueue.events_release]
              rfl
          | clearEventCache => exact conserved.ended found rfl (.still rfl rfl rfl rfl rfl rfl)
      | cons event rest =>
          have moves : Moves system { system with processed := system.processed ++ [event] }
              (event :: rest) [] rest [] := by
            refine .of_placed rfl (fun other => ?_) rfl rfl rfl fun small => small
            simp only [placed, queued, discarded, List.count_append, List.count_cons,
              List.count_nil]
            omega
          rw [UploadSystem.advance]
          cases outside.uploadedEvent event with
          | none =>
              exact conserved.moved found rfl
                ⟨moves.accepted, moves.appended, moves.events, moves.notifyEvents⟩
          | some uploaded =>
              exact conserved.moved found rfl
                ⟨moves.accepted, moves.appended, moves.events, moves.notifyEvents⟩
  | store runner rest event =>
      rw [UploadSystem.advance]
      split_ifs with room
      · refine conserved.moved found rfl (.of_stored rfl rfl (fun other => ?_)
          (fun _ => room) rfl)
        simp only [UploadStage.taken, stored, proceed_events, proceed_inserted, proceed_appended,
          List.count_append]
        omega
      · refine conserved.moved found rfl (.of_stored rfl rfl (fun other => ?_)
          (fun _ => Nat.succ_pos 63) rfl)
        simp only [UploadStage.taken, stored, proceed_events, proceed_inserted, proceed_appended,
          List.count_append, List.count_nil]
        omega
  | insert runner rest taken =>
      refine conserved.moved found rfl (.of_stored rfl rfl (fun other => ?_)
        (fun small => small) rfl)
      simp only [UploadStage.taken, stored, UploadSystem.advance, proceed_events,
        proceed_inserted, proceed_appended, List.flatten_append, List.flatten_singleton,
        List.count_append, List.count_nil]
      omega

theorem Conserved.next {action : UploadAction} (conserved : Conserved system)
    (taken : next maxCount system action = some after) : Conserved after := by
  cases action with
  | uploadEvent id outside event =>
      rw [UploadSystem.next] at taken
      cases entered : enterEvent outside event with
      | returns code =>
          simp only [entered, Option.some.injEq] at taken
          exact taken ▸ conserved
      | continues stage =>
          simp only [entered] at taken
          have moves : Moves system { system with accepted := system.accepted ++ [event] } [] []
              [event] [] := by
            refine ⟨fun other => ?_, fun _ => rfl, fun small => small, fun small => small⟩
            simp only [placed, queued, discarded, List.count_append, List.count_nil]
            omega
          rcases enterEvent_continues entered with rfl | rfl <;>
            exact conserved.entered taken rfl moves
  | clearEventCache id =>
      exact conserved.entered taken rfl (.still rfl rfl rfl rfl rfl rfl)
  | runTask id =>
      obtain ⟨⟨task, later⟩, started, taken⟩ := Option.bind_eq_some_iff.mp taken
      obtain ⟨queue, present, starts⟩ := Option.bind_eq_some_iff.mp started
      refine conserved.entered taken rfl (.of_placed rfl (fun other => ?_) rfl rfl rfl
        fun small => small)
      simp only [placed, queued, present, TaskQueue.events_start starts, UploadStage.held,
        discarded, List.count_append, List.count_nil]
      omega
  | runCrucialTask id =>
      obtain ⟨⟨task, later⟩, started, taken⟩ := Option.bind_eq_some_iff.mp taken
      obtain ⟨queue, present, starts⟩ := Option.bind_eq_some_iff.mp started
      refine conserved.entered taken rfl (.of_placed rfl (fun other => ?_) rfl rfl rfl
        fun small => small)
      simp only [placed, queued, present, TaskQueue.events_start starts, UploadStage.held,
        discarded, List.count_append, List.count_nil]
      omega
  | step id outside =>
      obtain ⟨stage, found, rfl⟩ := Option.map_eq_some_iff.mp taken
      exact conserved.advance id outside found

theorem conserved_started (queues : Bool) : Conserved (started queues) where
  accepted _ := by cases queues <;> rfl
  appended _ := by cases queues <;> rfl
  events := Nat.succ_pos 63
  notifyEvents := Nat.succ_pos 9

/-- In every interleaving each accepted event is held by one thread, waits in `notifyEvents_` or
in a task, has been uploaded or is discarded, each appended event is held by one thread, waits in
`events_` or has been inserted, and the buffers are not full. -/
theorem events_conserved {queues : Bool} {actions : List UploadAction}
    (reach : Transition.run (next maxCount) (started queues) actions = some system) :
    system.accepted.Perm (system.held ++ system.notifyEvents ++ system.queued ++
        system.processed ++ system.discarded) ∧
      system.appended.Perm (system.taken ++ system.events ++ system.inserted.flatten) ∧
      system.events.length < 64 ∧ system.notifyEvents.length < 10 := by
  have conserved : Conserved system :=
    Transition.run_stable (fun conserved taken => Conserved.next conserved taken)
      (conserved_started queues) reach
  refine ⟨List.perm_iff_count.mpr fun event => ?_, List.perm_iff_count.mpr fun event => ?_,
    conserved.events, conserved.notifyEvents⟩
  · rw [conserved.accepted event, SortedMap.total_count]
    simp only [held, placed, List.count_append]
    omega
  · rw [conserved.appended event, SortedMap.total_count]
    simp only [UploadSystem.taken, stored, List.count_append]
    omega

/-- The batch of ten events has been uploaded at the end. -/
theorem events_conserved_countedBatch :
    let final := (Transition.run (next 500) (started true) countedBatch).getD (started true)
    final.accepted.Perm (final.held ++ final.notifyEvents ++ final.queued ++
        final.processed ++ final.discarded) ∧
      final.appended.Perm (final.taken ++ final.events ++ final.inserted.flatten) ∧
      final.events.length < 64 ∧ final.notifyEvents.length < 10 :=
  events_conserved (Transition.run_eq_getD (by decide +kernel))

/-- Between its steps a thread alone has the events that it took out of a buffer. -/
theorem batch_in_hand :
    ¬∀ (actions : List UploadAction) (final : UploadSystem),
      Transition.run (next 500) (started true) actions = some final →
        final.accepted.Perm (final.notifyEvents ++ final.queued ++ final.processed ++
            final.discarded) ∧
          final.appended.Perm (final.events ++ final.inserted.flatten) ∧
          final.events.length < 64 ∧ final.notifyEvents.length < 10 := by
  intro conservation
  have filled : (Transition.run (next 500) (started true) fillBatch).any (fun final =>
      final.accepted.length = 10 ∧ (final.notifyEvents ++ final.queued ++ final.processed ++
        final.discarded).length = 0) = true := by
    decide +kernel
  obtain ⟨final, reach, found⟩ := (Option.any_eq_true _ _).mp filled
  obtain ⟨ten, none⟩ := of_decide_eq_true found
  have same := (conservation _ final reach).1.length_eq
  omega

end UploadSystem

end SecurityGuard
