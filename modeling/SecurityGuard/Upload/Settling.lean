import SecurityGuard.Upload.Reports

/-!
# The pipeline settles

Without new reports and new runs of `ClearEventCache`, whatever the order of its steps, the pipeline
comes to rest after a number of steps that its state bounds.  Then nothing waits but what the two
buffers hold.
-/

namespace SecurityGuard

/-- A step of a thread or of a queue; nothing is reported and no run of `ClearEventCache` begins. -/
def UploadAction.Works : UploadAction → Prop
  | .uploadEvent _ _ _ | .clearEventCache _ => False
  | .runTask _ | .runCrucialTask _ | .step _ _ => True

instance : DecidablePred UploadAction.Works
  | .uploadEvent _ _ _ | .clearEventCache _ => isFalse id
  | .runTask _ | .runCrucialTask _ | .step _ _ => isTrue trivial

namespace UploadStage

/-- How many steps the thread still makes, together with the task that it may submit.  Each event
that it uploads takes three. -/
def steps : UploadStage → Nat
  | .batch _ => 9
  | .checkBatch taken => 3 * taken.length + 5
  | .submitBatch taken => 3 * taken.length + 4
  | .countBatch => 1
  | .checkImmediate _ => 8
  | .countImmediate _ => 7
  | .submitImmediate _ => 6
  | .clearEvents => 4
  | .clearInsert _ => 3
  | .clearNotify => 2
  | .upload _ rest => 3 * rest.length + 1
  | .store _ rest _ => 3 * rest.length + 3
  | .insert _ rest _ => 3 * rest.length + 2

/-- The thread runs a task for a runner. -/
def runs (runner : UploadRunner) : UploadStage → Nat
  | .upload own _ | .store own _ _ | .insert own _ _ => if own = runner then 1 else 0
  | _ => 0

end UploadStage

namespace TaskQueue

/-- How many steps the tasks make that wait in a queue. -/
def steps (queue : Option TaskQueue) : Nat :=
  (queue.map fun queue => (queue.waiting.map fun task => 3 * task.length + 2).sum).getD 0

theorem steps_submit (queue : TaskQueue) (task : List CollectorEvent) :
    TaskQueue.steps (some (queue.submit task)) =
      TaskQueue.steps (some queue) + (3 * task.length + 2) := by
  simp only [TaskQueue.steps, TaskQueue.submit, Option.map_some, Option.getD_some, List.map_append,
    List.map_cons, List.map_nil, List.sum_append, List.sum_singleton]

theorem steps_release (queue : Option TaskQueue) :
    TaskQueue.steps (queue.map TaskQueue.release) = TaskQueue.steps queue := by
  cases queue <;> rfl

theorem steps_start {queue later : TaskQueue} {task : List CollectorEvent}
    (starts : queue.start = some (task, later)) :
    TaskQueue.steps (some queue) = 3 * task.length + 2 + TaskQueue.steps (some later) := by
  obtain ⟨waiting, busy⟩ := queue
  cases waiting with
  | nil => simp [TaskQueue.start] at starts
  | cons head rest =>
      simp only [TaskQueue.start] at starts
      split_ifs at starts
      obtain ⟨rfl, rfl⟩ := Prod.mk.inj (Option.some.inj starts)
      rfl

/-- The tasks that run: one while the queue is busy. -/
def running (queue : Option TaskQueue) : Nat :=
  (queue.map fun queue => queue.busy.toNat).getD 0

end TaskQueue

namespace UploadSystem

variable {system after : UploadSystem} {id maxCount : Nat} {outside : Surroundings}
  {stage later : UploadStage} {action : UploadAction}

/-- A bound on the steps of the pipeline while nothing is reported. -/
def steps (system : UploadSystem) : Nat :=
  system.calls.total UploadStage.steps + 3 * system.notifyEvents.length +
    TaskQueue.steps system.queue + TaskQueue.steps system.crucialQueue

/-- The part of the bound that is in no thread. -/
def placedSteps (system : UploadSystem) : Nat :=
  3 * system.notifyEvents.length + TaskQueue.steps system.queue +
    TaskQueue.steps system.crucialQueue

theorem steps_eq (system : UploadSystem) :
    system.steps = system.calls.total UploadStage.steps + system.placedSteps := by
  rw [steps, placedSteps, ← add_assoc, ← add_assoc]

theorem steps_moved (found : system.calls.get? id = some stage)
    (calls : after.calls = system.calls.insert id later)
    (fewer : later.steps + after.placedSteps + 1 ≤ stage.steps + system.placedSteps) :
    after.steps + 1 ≤ system.steps := by
  rw [steps_eq, steps_eq, calls, SortedMap.total_insert, SortedMap.total_of_get? _ found]
  omega

theorem steps_ended (found : system.calls.get? id = some stage)
    (calls : after.calls = system.calls.erase id)
    (fewer : after.placedSteps + 1 ≤ stage.steps + system.placedSteps) :
    after.steps + 1 ≤ system.steps := by
  rw [steps_eq, steps_eq, calls, SortedMap.total_of_get? _ found]
  omega

theorem steps_entered {final : UploadSystem} (entered : after.enter id stage = some final)
    (calls : after.calls = system.calls)
    (fewer : stage.steps + after.placedSteps + 1 ≤ system.placedSteps) :
    final.steps + 1 ≤ system.steps := by
  obtain ⟨fresh, rfl⟩ := enter_eq_some entered
  rw [steps_eq, steps_eq, proceed_calls, SortedMap.total_insert_of_fresh _ _ fresh, calls]
  change stage.steps + system.calls.total UploadStage.steps + after.placedSteps + 1 ≤ _
  omega

theorem steps_advance (found : system.calls.get? id = some stage) :
    (system.advance id maxCount outside stage).steps + 1 ≤ system.steps := by
  have same {fewer : Nat} (less : fewer + 1 ≤ stage.steps) :
      fewer + system.placedSteps + 1 ≤ stage.steps + system.placedSteps := by omega
  have last (positive : 1 ≤ stage.steps) :
      system.placedSteps + 1 ≤ stage.steps + system.placedSteps := by omega
  -- A stage goes on with less work left, or hands what is left to a queue.
  cases stage with
  | batch event =>
      rw [advance]
      split_ifs with room
      · refine steps_ended found rfl ?_
        simp only [placedSteps, finish_notifyEvents, finish_queue, finish_crucialQueue,
          UploadStage.steps, List.length_append, List.length_singleton]
        omega
      · refine steps_moved found rfl ?_
        simp only [placedSteps, proceed_notifyEvents, proceed_queue, proceed_crucialQueue,
          UploadStage.steps, List.length_append, List.length_singleton, List.length_nil]
        omega
  | checkBatch taken =>
      rw [advance]
      split_ifs
      · exact steps_ended found rfl (last (Nat.succ_pos _))
      · exact steps_moved found rfl (same le_rfl)
  | submitBatch taken =>
      rw [advance]
      cases present : system.queue with
      | none =>
          refine steps_ended found rfl ?_
          simp only [placedSteps, finish_notifyEvents, finish_queue, finish_crucialQueue,
            discard_notifyEvents, discard_queue, discard_crucialQueue, UploadStage.steps]
          omega
      | some queue =>
          refine steps_moved found rfl ?_
          simp only [placedSteps, proceed_notifyEvents, proceed_queue, proceed_crucialQueue,
            TaskQueue.steps_submit, present, UploadStage.steps]
          omega
  | countBatch => exact steps_ended found rfl (last le_rfl)
  | checkImmediate event =>
      rw [advance]
      split_ifs
      · exact steps_ended found rfl (last (Nat.succ_pos _))
      · exact steps_moved found rfl (same le_rfl)
  | countImmediate event => exact steps_moved found rfl (same le_rfl)
  | submitImmediate event =>
      rw [advance]
      cases present : system.crucialQueue with
      | none =>
          refine steps_ended found rfl ?_
          simp only [placedSteps, finish_notifyEvents, finish_queue, finish_crucialQueue,
            discard_notifyEvents, discard_queue, discard_crucialQueue, present, UploadStage.steps]
          omega
      | some queue =>
          refine steps_ended found rfl ?_
          simp only [placedSteps, finish_notifyEvents, finish_queue, finish_crucialQueue,
            TaskQueue.steps_submit, present, UploadStage.steps, List.length_singleton]
          omega
  | clearEvents => exact steps_moved found rfl (same le_rfl)
  | clearInsert taken => exact steps_moved found rfl (same le_rfl)
  | clearNotify =>
      refine steps_moved found rfl ?_
      simp only [placedSteps, advance, proceed_notifyEvents, proceed_queue, proceed_crucialQueue,
        UploadStage.steps, List.length_nil]
      omega
  | upload runner rest =>
      cases rest with
      | nil =>
          cases runner with
          | batchTask =>
              refine steps_ended found rfl ?_
              simp only [placedSteps, advance, finishRunner, finish_notifyEvents, finish_queue,
                finish_crucialQueue, TaskQueue.steps_release, UploadStage.steps, List.length_nil]
              omega
          | crucialTask =>
              refine steps_ended found rfl ?_
              simp only [placedSteps, advance, finishRunner, finish_notifyEvents, finish_queue,
                finish_crucialQueue, TaskQueue.steps_release, UploadStage.steps, List.length_nil]
              omega
          | clearEventCache => exact steps_ended found rfl (last le_rfl)
      | cons event rest =>
          rw [advance]
          have length : (event :: rest).length = rest.length + 1 := rfl
          cases outside.uploadedEvent event with
          | none =>
              refine steps_moved found rfl (same ?_)
              simp only [UploadStage.steps, length]
              omega
          | some uploaded =>
              refine steps_moved found rfl (same ?_)
              simp only [UploadStage.steps, length]
              omega
  | store runner rest event =>
      rw [advance]
      split_ifs
      · exact steps_moved found rfl (same (by simp [UploadStage.steps]))
      · exact steps_moved found rfl (same le_rfl)
  | insert runner rest taken => exact steps_moved found rfl (same le_rfl)

/-- Every step of the pipeline takes from the bound. -/
theorem steps_next (works : action.Works) (taken : next maxCount system action = some after) :
    after.steps + 1 ≤ system.steps := by
  cases action with
  | uploadEvent | clearEventCache => exact works.elim
  | runTask id =>
      obtain ⟨⟨task, later⟩, started, taken⟩ := Option.bind_eq_some_iff.mp taken
      obtain ⟨queue, present, starts⟩ := Option.bind_eq_some_iff.mp started
      refine steps_entered taken rfl ?_
      simp only [placedSteps, present, TaskQueue.steps_start starts, UploadStage.steps]
      omega
  | runCrucialTask id =>
      obtain ⟨⟨task, later⟩, started, taken⟩ := Option.bind_eq_some_iff.mp taken
      obtain ⟨queue, present, starts⟩ := Option.bind_eq_some_iff.mp started
      refine steps_entered taken rfl ?_
      simp only [placedSteps, present, TaskQueue.steps_start starts, UploadStage.steps]
      omega
  | step id outside =>
      obtain ⟨stage, found, rfl⟩ := Option.map_eq_some_iff.mp taken
      exact steps_advance found

/-- A queue is busy exactly while a thread runs its task. -/
structure Busy (system : UploadSystem) : Prop where
  batch : system.calls.total (UploadStage.runs .batchTask) = TaskQueue.running system.queue
  crucial : system.calls.total (UploadStage.runs .crucialTask) =
    TaskQueue.running system.crucialQueue

theorem busy_started (queues : Bool) : Busy (started queues) where
  batch := by cases queues <;> rfl
  crucial := by cases queues <;> rfl

theorem Busy.moved (busy : Busy system) (found : system.calls.get? id = some stage)
    (calls : after.calls = system.calls.insert id later)
    (batch : later.runs .batchTask = stage.runs .batchTask)
    (crucial : later.runs .crucialTask = stage.runs .crucialTask)
    (queue : TaskQueue.running after.queue = TaskQueue.running system.queue)
    (crucialQueue : TaskQueue.running after.crucialQueue = TaskQueue.running system.crucialQueue) :
    Busy after where
  batch := by
    rw [calls, SortedMap.total_insert, batch, queue, ← busy.batch, SortedMap.total_of_get? _ found]
  crucial := by
    rw [calls, SortedMap.total_insert, crucial, crucialQueue, ← busy.crucial,
      SortedMap.total_of_get? _ found]

theorem Busy.ended (busy : Busy system) (found : system.calls.get? id = some stage)
    (calls : after.calls = system.calls.erase id)
    (batch : stage.runs .batchTask + TaskQueue.running after.queue =
      TaskQueue.running system.queue)
    (crucial : stage.runs .crucialTask + TaskQueue.running after.crucialQueue =
      TaskQueue.running system.crucialQueue) : Busy after where
  batch := by
    have before := busy.batch
    rw [SortedMap.total_of_get? _ found] at before
    rw [calls]
    omega
  crucial := by
    have before := busy.crucial
    rw [SortedMap.total_of_get? _ found] at before
    rw [calls]
    omega

theorem Busy.entered (busy : Busy system) {final : UploadSystem}
    (entered : after.enter id stage = some final) (calls : after.calls = system.calls)
    (batch : TaskQueue.running after.queue =
      stage.runs .batchTask + TaskQueue.running system.queue)
    (crucial : TaskQueue.running after.crucialQueue =
      stage.runs .crucialTask + TaskQueue.running system.crucialQueue) : Busy final := by
  obtain ⟨fresh, rfl⟩ := enter_eq_some entered
  constructor
  · rw [proceed_calls, SortedMap.total_insert_of_fresh _ _ fresh, calls, busy.batch]
    exact batch.symm
  · rw [proceed_calls, SortedMap.total_insert_of_fresh _ _ fresh, calls, busy.crucial]
    exact crucial.symm

/-- A task that ends was the one of its queue. -/
theorem running_release {queue : Option TaskQueue} (running : TaskQueue.running queue ≠ 0) :
    1 + TaskQueue.running (queue.map TaskQueue.release) = TaskQueue.running queue := by
  cases queue with
  | none => exact absurd rfl running
  | some queue =>
      obtain ⟨waiting, busy⟩ := queue
      cases busy with
      | false => exact absurd rfl running
      | true => rfl

theorem Busy.advance (busy : Busy system) (found : system.calls.get? id = some stage) :
    Busy (system.advance id maxCount outside stage) := by
  have none : 0 + TaskQueue.running system.queue = TaskQueue.running system.queue := Nat.zero_add _
  have none' : 0 + TaskQueue.running system.crucialQueue =
    TaskQueue.running system.crucialQueue := Nat.zero_add _
  cases stage with
  | batch | checkBatch | checkImmediate =>
      rw [UploadSystem.advance]
      split_ifs
      · exact busy.ended found rfl none none'
      · exact busy.moved found rfl rfl rfl rfl rfl
  | submitBatch taken =>
      rw [UploadSystem.advance]
      cases present : system.queue with
      | none => exact busy.ended found rfl none none'
      | some queue =>
          refine busy.moved found rfl rfl rfl ?_ rfl
          rw [present]
          rfl
  | countBatch => exact busy.ended found rfl none none'
  | countImmediate | clearEvents | clearInsert | clearNotify =>
      exact busy.moved found rfl rfl rfl rfl rfl
  | submitImmediate event =>
      rw [UploadSystem.advance]
      cases present : system.crucialQueue with
      | none =>
          rw [present] at none'
          exact busy.ended found rfl none (present.symm ▸ none')
      | some queue =>
          refine busy.ended found rfl none ?_
          rw [present] at none' ⊢
          exact none'
  | upload runner rest =>
      cases rest with
      | nil =>
          cases runner with
          | batchTask =>
              have before := busy.batch
              rw [SortedMap.total_of_get? _ found] at before
              exact busy.ended found rfl (running_release (before ▸ Nat.add_one_ne_zero _ ∘
                (Nat.add_comm _ _).trans)) none'
          | crucialTask =>
              have before := busy.crucial
              rw [SortedMap.total_of_get? _ found] at before
              exact busy.ended found rfl none (running_release (before ▸ Nat.add_one_ne_zero _ ∘
                (Nat.add_comm _ _).trans))
          | clearEventCache => exact busy.ended found rfl none none'
      | cons event rest =>
          rw [UploadSystem.advance]
          cases outside.uploadedEvent event <;> exact busy.moved found rfl rfl rfl rfl rfl
  | store =>
      rw [UploadSystem.advance]
      split_ifs <;> exact busy.moved found rfl rfl rfl rfl rfl
  | insert => exact busy.moved found rfl rfl rfl rfl rfl

theorem running_start {queue later : TaskQueue} {task : List CollectorEvent}
    (starts : queue.start = some (task, later)) :
    TaskQueue.running (some later) = 1 + TaskQueue.running (some queue) := by
  obtain ⟨waiting, busy⟩ := queue
  cases waiting with
  | nil => simp [TaskQueue.start] at starts
  | cons head rest =>
      simp only [TaskQueue.start] at starts
      split_ifs at starts with idle
      obtain ⟨rfl, rfl⟩ := Prod.mk.inj (Option.some.inj starts)
      obtain rfl : busy = false := Bool.eq_false_iff.mpr idle
      rfl

theorem Busy.next (busy : Busy system) (taken : next maxCount system action = some after) :
    Busy after := by
  have none : TaskQueue.running system.queue = 0 + TaskQueue.running system.queue :=
    (Nat.zero_add _).symm
  have none' : TaskQueue.running system.crucialQueue = 0 + TaskQueue.running system.crucialQueue :=
    (Nat.zero_add _).symm
  cases action with
  | uploadEvent id outside event =>
      rw [UploadSystem.next] at taken
      cases entered : enterEvent outside event with
      | returns code =>
          simp only [entered, Option.some.injEq] at taken
          exact taken ▸ busy
      | continues stage =>
          simp only [entered] at taken
          rcases enterEvent_continues entered with rfl | rfl <;>
            exact busy.entered taken rfl none none'
  | clearEventCache id => exact busy.entered taken rfl none none'
  | runTask id =>
      obtain ⟨⟨task, later⟩, started, taken⟩ := Option.bind_eq_some_iff.mp taken
      obtain ⟨queue, present, starts⟩ := Option.bind_eq_some_iff.mp started
      refine busy.entered taken rfl ?_ none'
      rw [present]
      exact running_start starts
  | runCrucialTask id =>
      obtain ⟨⟨task, later⟩, started, taken⟩ := Option.bind_eq_some_iff.mp taken
      obtain ⟨queue, present, starts⟩ := Option.bind_eq_some_iff.mp started
      refine busy.entered taken rfl none ?_
      rw [present]
      exact running_start starts
  | step id outside =>
      obtain ⟨stage, found, rfl⟩ := Option.map_eq_some_iff.mp taken
      exact busy.advance found

/-! ## At rest -/

/-- No thread and no queue can take a step. -/
def Resting (maxCount : Nat) (system : UploadSystem) : Prop :=
  ∀ action : UploadAction, action.Works → next maxCount system action = none

theorem Resting.entries (resting : Resting maxCount system) : system.calls.entries = [] := by
  rcases present : system.calls.entries with - | ⟨⟨id, stage⟩, rest⟩
  · rfl
  · have found : system.calls.get? id = some stage :=
      SortedMap.mem_entries_iff.mp (present ▸ List.mem_cons_self)
    have stuck := resting (.step id { config := {}, isJson := fun _ => true }) trivial
    rw [next, found] at stuck
    exact absurd stuck (Option.some_ne_none _)

theorem events_of_stuck {queue : Option TaskQueue} (idle : TaskQueue.running queue = 0)
    (stuck : queue.bind TaskQueue.start = none) : TaskQueue.events queue = [] := by
  rcases queue with - | ⟨⟨- | ⟨task, waiting⟩, busy⟩⟩
  · rfl
  · rfl
  · obtain rfl : busy = false := by simpa [TaskQueue.running] using idle
    exact absurd stuck (Option.some_ne_none _)

theorem start_of_enter {found : Option (List CollectorEvent × TaskQueue)}
    {enters : List CollectorEvent × TaskQueue → UploadSystem} {runner : UploadRunner}
    (empty : ∀ start, (enters start).calls.entries = [])
    (blocked : (found.bind fun start =>
      (enters start).enter 0 (.upload runner start.1)) = none) : found = none := by
  cases found with
  | none => rfl
  | some start =>
      have fresh : (enters start).calls.contains 0 = false := by
        rw [SortedMap.contains, SortedMap.get?, empty]
        rfl
      rw [Option.bind_some, enter, fresh] at blocked
      exact absurd blocked (Option.some_ne_none _)

/-- The pipeline rests exactly if no thread runs and no task can start. -/
theorem resting_iff : Resting maxCount system ↔
    system.calls.entries = [] ∧ system.queue.bind TaskQueue.start = none ∧
      system.crucialQueue.bind TaskQueue.start = none := by
  constructor
  · intro resting
    have empty := resting.entries
    refine ⟨empty, ?_, ?_⟩
    · exact @start_of_enter _ (fun start => { system with queue := some start.2 }) .batchTask
        (fun _ => empty) (resting (.runTask 0) trivial)
    · exact @start_of_enter _ (fun start => { system with crucialQueue := some start.2 })
        .crucialTask (fun _ => empty) (resting (.runCrucialTask 0) trivial)
  · rintro ⟨empty, batch, crucial⟩ action works
    cases action with
    | uploadEvent | clearEventCache => exact works.elim
    | runTask id => rw [next, batch, Option.bind_none]
    | runCrucialTask id => rw [next, crucial, Option.bind_none]
    | step id outside =>
        rw [next, SortedMap.get?, empty]
        rfl

theorem sound_of_reach {queues : Bool} {actions : List UploadAction}
    (reach : Transition.run (next maxCount) (started queues) actions = some system) :
    Busy system ∧ Conserved system :=
  ⟨Transition.run_stable (fun busy taken => Busy.next busy taken) (busy_started queues) reach,
    Transition.run_stable (fun conserved taken => Conserved.next conserved taken)
      (conserved_started queues) reach⟩

/-- At rest nothing waits but what is in the buffers. -/
theorem Resting.placed (resting : Resting maxCount system) (busy : Busy system)
    (conserved : Conserved system) :
    system.accepted.Perm (system.notifyEvents ++ system.discarded ++ system.processed) ∧
      system.appended.Perm (system.events ++ system.inserted.flatten) := by
  obtain ⟨empty, batch, crucial⟩ := resting_iff.mp resting
  have idle (runner : UploadRunner) : system.calls.total (UploadStage.runs runner) = 0 := by
    rw [SortedMap.total, empty]
    rfl
  have waiting : system.waiting = system.notifyEvents := by
    rw [waiting, held, queued, empty, events_of_stuck (busy.batch ▸ idle .batchTask) batch,
      events_of_stuck (busy.crucial ▸ idle .crucialTask) crucial]
    exact List.append_nil _
  constructor
  · have accepted := conserved.accepted_eq
    rw [waiting, Multiset.coe_add, Multiset.coe_add] at accepted
    exact Multiset.coe_eq_coe.mp accepted
  · have appended := conserved.appended_eq
    rw [UploadSystem.taken, empty, List.flatMap_nil, List.nil_append, Multiset.coe_add] at appended
    exact Multiset.coe_eq_coe.mp appended

/-- The pipeline comes to rest. -/
theorem settles (maxCount : Nat) (system : UploadSystem) :
    ∃ further final, (∀ action ∈ further, action.Works) ∧
      Transition.run (next maxCount) system further = some final ∧ Resting maxCount final := by
  induction left : system.steps using Nat.strong_induction_on generalizing system with
  | h left ih =>
      by_cases resting : Resting maxCount system
      · exact ⟨[], system, fun _ mem => absurd mem List.not_mem_nil, rfl, resting⟩
      · simp only [Resting, not_forall] at resting
        obtain ⟨action, works, moves⟩ := resting
        obtain ⟨after, taken⟩ := Option.ne_none_iff_exists'.mp moves
        have fewer := steps_next works taken
        obtain ⟨further, final, all, goes, rests⟩ := ih after.steps (by omega) after rfl
        refine ⟨action :: further, final, ?_, ?_, rests⟩
        · exact List.forall_mem_cons.mpr ⟨works, all⟩
        · exact Transition.run_cons_eq_some.mpr ⟨after, taken, goes⟩

/-- While nothing is reported and no run of `ClearEventCache` begins, the pipeline can come to rest,
and every schedule of it ends, after no more steps than its state tells.  At rest, each accepted
event is in `notifyEvents_`, among nine at most, uploaded or discarded, and each uploaded one is in
`events_`, among sixty-three at most, or inserted. -/
theorem pipeline_settles {queues : Bool} {actions : List UploadAction}
    (reach : Transition.run (next maxCount) (started queues) actions = some system) :
    (∃ further final, (∀ action ∈ further, action.Works) ∧
        Transition.run (next maxCount) system further = some final ∧ Resting maxCount final) ∧
      ∀ further final, (∀ action ∈ further, action.Works) →
        Transition.run (next maxCount) system further = some final →
          further.length + final.steps ≤ system.steps ∧
            (Resting maxCount final →
              final.accepted.Perm (final.notifyEvents ++ final.discarded ++ final.processed) ∧
                final.appended.Perm (final.events ++ final.inserted.flatten) ∧
                final.notifyEvents.length < 10 ∧ final.events.length < 64) := by
  refine ⟨settles maxCount system, fun further final works goes => ⟨?_, fun resting => ?_⟩⟩
  · have budget : final.steps + further.countP (fun _ => true) ≤ system.steps :=
      @Transition.run_budget _ _ _ (fun _ action => action.Works) (fun _ => True) _ _
        (fun _ works taken => ⟨trivial, steps_next works taken⟩) _ _ _ trivial
        (Transition.along_of_mem works system) goes
    rw [List.countP_true] at budget
    omega
  · have whole : Transition.run (next maxCount) (started queues) (actions ++ further) =
        some final := by
      rw [Transition.run_append, reach]
      exact goes
    obtain ⟨busy, conserved⟩ := sound_of_reach whole
    obtain ⟨accepted, appended⟩ := resting.placed busy conserved
    exact ⟨accepted, appended, conserved.notifyEvents, conserved.events⟩

/-- A batch of ten events that was taken is uploaded within its steps. -/
theorem pipeline_settles_fillBatch :
    let filled := (Transition.run (next 500) (started true) fillBatch).getD (started true)
    let work := List.replicate 3 (.step 9 batchSurroundings) ++ runBatch 10
    let final := (Transition.run (next 500) filled work).getD filled
    work.length + final.steps ≤ filled.steps :=
  ((pipeline_settles (Transition.run_eq_getD (by decide +kernel))).2 _ _ (by decide)
    (Transition.run_eq_getD (by decide +kernel))).1

/-- Nothing is in `notifyEvents_`, and no thread is about to add to it. -/
def Unbatched (system : UploadSystem) : Prop :=
  system.notifyEvents = [] ∧
    ∀ id stage, system.calls.get? id = some stage → ∀ event, stage ≠ .batch event

theorem Unbatched.moved (unbatched : Unbatched system)
    (notifyEvents : after.notifyEvents = system.notifyEvents)
    (calls : after.calls = system.calls.insert id later) (other : ∀ event, later ≠ .batch event) :
    Unbatched after := by
  refine ⟨notifyEvents.trans unbatched.1, fun key stage found => ?_⟩
  rw [calls] at found
  rcases SortedMap.get?_insert_eq_some.mp found with ⟨-, rfl⟩ | ⟨-, found⟩
  · exact other
  · exact unbatched.2 key stage found

theorem Unbatched.ended (unbatched : Unbatched system)
    (notifyEvents : after.notifyEvents = system.notifyEvents)
    (calls : after.calls = system.calls.erase id) : Unbatched after := by
  refine ⟨notifyEvents.trans unbatched.1, fun key stage found => ?_⟩
  rw [calls] at found
  exact unbatched.2 key stage (SortedMap.get?_erase_eq_some.mp found).2

theorem Unbatched.entered (unbatched : Unbatched system) {final : UploadSystem}
    (entered : after.enter id stage = some final) (calls : after.calls = system.calls)
    (notifyEvents : after.notifyEvents = system.notifyEvents)
    (other : ∀ event, stage ≠ .batch event) : Unbatched final := by
  obtain ⟨-, rfl⟩ := enter_eq_some entered
  have proceeds : (after.proceed id stage).calls = system.calls.insert id stage := by
    rw [proceed_calls, calls]
  exact unbatched.moved notifyEvents proceeds other

theorem Unbatched.advance (unbatched : Unbatched system)
    (found : system.calls.get? id = some stage) :
    Unbatched (system.advance id maxCount outside stage) := by
  cases stage with
  | batch event => exact absurd rfl (unbatched.2 id _ found event)
  | checkBatch | checkImmediate =>
      rw [UploadSystem.advance]
      split_ifs
      · exact unbatched.ended rfl rfl
      · exact unbatched.moved rfl rfl fun _ same => UploadStage.noConfusion same
  | submitBatch =>
      rw [UploadSystem.advance]
      cases system.queue with
      | none => exact unbatched.ended rfl rfl
      | some queue => exact unbatched.moved rfl rfl fun _ same => UploadStage.noConfusion same
  | submitImmediate =>
      rw [UploadSystem.advance]
      cases system.crucialQueue <;> exact unbatched.ended rfl rfl
  | countBatch => exact unbatched.ended rfl rfl
  | countImmediate | clearEvents | clearInsert | insert =>
      exact unbatched.moved rfl rfl fun _ same => UploadStage.noConfusion same
  | clearNotify =>
      exact unbatched.moved unbatched.1.symm rfl fun _ same => UploadStage.noConfusion same
  | upload runner rest =>
      cases rest with
      | nil => cases runner <;> exact unbatched.ended rfl rfl
      | cons event rest =>
          rw [UploadSystem.advance]
          cases outside.uploadedEvent event <;>
            exact unbatched.moved rfl rfl fun _ same => UploadStage.noConfusion same
  | store =>
      rw [UploadSystem.advance]
      split_ifs <;> exact unbatched.moved rfl rfl fun _ same => UploadStage.noConfusion same

theorem Unbatched.next (unbatched : Unbatched system) (works : action.Works)
    (taken : next maxCount system action = some after) : Unbatched after := by
  cases action with
  | uploadEvent | clearEventCache => exact works.elim
  | runTask id | runCrucialTask id =>
      obtain ⟨⟨task, later⟩, -, taken⟩ := Option.bind_eq_some_iff.mp taken
      exact unbatched.entered taken rfl rfl fun _ same => UploadStage.noConfusion same
  | step id outside =>
      obtain ⟨stage, found, rfl⟩ := Option.map_eq_some_iff.mp taken
      exact unbatched.advance found

/-- A run of `ClearEventCache` up to the uploads that it makes. -/
def clearing (outside : Surroundings) : List UploadAction :=
  .clearEventCache 0 :: List.replicate 3 (.step 0 outside)

theorem run_clearing (maxCount : Nat) (outside : Surroundings)
    (still : system.calls.entries = []) :
    ∃ after, Transition.run (next maxCount) system (clearing outside) = some after ∧
      after.calls.entries = [(0, .upload .clearEventCache system.notifyEvents)] ∧
      after.notifyEvents = [] ∧ after.events = [] ∧ after.queue = system.queue ∧
      after.crucialQueue = system.crucialQueue := by
  obtain ⟨events, notifyEvents, queue, crucialQueue, taskCount, crucialTaskCount,
    ⟨entries, increasing⟩, accepted, processed, discards, appended, inserted⟩ := system
  obtain rfl : entries = [] := still
  exact ⟨_, rfl, rfl, rfl, rfl, rfl, rfl⟩

/-- The events that were accepted and not discarded are uploaded, and the uploaded ones inserted. -/
def Saved (system : UploadSystem) : Prop :=
  system.accepted.Perm (system.discarded ++ system.processed) ∧
    system.appended.Perm system.inserted.flatten

/-- A thread of `ClearEventCache` that has nothing to upload ends with its next step. -/
theorem eq_finish_of_single {cleared final : UploadSystem} {further : List UploadAction}
    (threads : cleared.calls.entries = [(0, .upload .clearEventCache [])])
    (idle : Resting maxCount (cleared.finish 0)) (works : ∀ action ∈ further, action.Works)
    (goes : Transition.run (next maxCount) cleared further = some final)
    (resting : Resting maxCount final) : final = cleared.finish 0 := by
  obtain ⟨-, batch, crucial⟩ := resting_iff.mp idle
  cases further with
  | nil =>
      obtain rfl : cleared = final := Option.some.inj goes
      exact absurd (threads.symm.trans resting.entries) (List.cons_ne_nil _ _)
  | cons action further =>
      obtain ⟨own, others⟩ := List.forall_mem_cons.mp works
      obtain ⟨after, taken, goes⟩ := Transition.run_cons_eq_some.mp goes
      have ended : after = cleared.finish 0 := by
        cases action with
        | uploadEvent | clearEventCache => exact own.elim
        | runTask id =>
            rw [next, show cleared.queue.bind TaskQueue.start = none from batch] at taken
            exact absurd taken.symm (Option.some_ne_none _)
        | runCrucialTask id =>
            rw [next, show cleared.crucialQueue.bind TaskQueue.start = none from crucial] at taken
            exact absurd taken.symm (Option.some_ne_none _)
        | step id outside =>
            obtain ⟨stage, found, rfl⟩ := Option.map_eq_some_iff.mp taken
            have mem := SortedMap.mem_entries_iff.mpr found
            rw [threads, List.mem_singleton] at mem
            obtain ⟨rfl, rfl⟩ := Prod.mk.inj mem
            rfl
      subst ended
      cases further with
      | nil => exact (Option.some.inj goes).symm
      | cons action further =>
          obtain ⟨after, taken, -⟩ := Transition.run_cons_eq_some.mp goes
          rw [idle action (others action List.mem_cons_self)] at taken
          exact absurd taken.symm (Option.some_ne_none _)

/-- From every state of rest two runs of `ClearEventCache`, each followed to a state of rest in
whatever order, bring everything that was accepted and not discarded to the store: the first one
uploads what `notifyEvents_` held, and the second one inserts it. -/
theorem two_clearings_save {queues : Bool} {actions second third : List UploadAction}
    {idle later final : UploadSystem} {outside' : Surroundings}
    (reach : Transition.run (next maxCount) (started queues) actions = some idle)
    (resting : Resting maxCount idle) (works : ∀ action ∈ second ++ third, action.Works)
    (once : Transition.run (next maxCount) idle (clearing outside ++ second) = some later)
    (resting' : Resting maxCount later)
    (twice : Transition.run (next maxCount) later (clearing outside' ++ third) = some final)
    (resting'' : Resting maxCount final) : Saved final := by
  obtain ⟨works, works'⟩ := List.forall_mem_append.mp works
  have whole : Transition.run (next maxCount) (started queues)
      (actions ++ (clearing outside ++ second) ++ (clearing outside' ++ third)) = some final := by
    rw [Transition.run_append, Transition.run_append, reach, Option.bind_some, once]
    exact twice
  obtain ⟨cleared, clears, threads, emptied, -⟩ :=
    run_clearing maxCount outside (resting_iff.mp resting).1
  rw [Transition.run_append, clears, Option.bind_some] at once
  have unbatched : Unbatched cleared := by
    refine ⟨emptied, fun id stage found event same => ?_⟩
    have mem := SortedMap.mem_entries_iff.mpr found
    rw [threads, List.mem_singleton] at mem
    exact UploadStage.noConfusion (same.symm.trans (Prod.mk.inj mem).2)
  have unbatched' : Unbatched later :=
    Transition.run_invariant (fun unbatched works taken => Unbatched.next unbatched works taken)
      unbatched (Transition.along_of_mem works cleared) once
  obtain ⟨still, batch, crucial⟩ := resting_iff.mp resting'
  obtain ⟨cleared', clears', threads', emptied', handed, queue, crucialQueue⟩ :=
    run_clearing maxCount outside' still
  rw [Transition.run_append, clears', Option.bind_some] at twice
  rw [unbatched'.1] at threads'
  have ended : Resting maxCount (cleared'.finish 0) := by
    refine resting_iff.mpr ⟨?_, ?_, ?_⟩
    · simp [SortedMap.erase, threads']
    · rw [finish_queue, queue, batch]
    · rw [finish_crucialQueue, crucialQueue, crucial]
  obtain rfl := eq_finish_of_single threads' ended works' twice resting''
  obtain ⟨busy, conserved⟩ := sound_of_reach whole
  obtain ⟨accepted, appended⟩ := resting''.placed busy conserved
  rw [show (cleared'.finish 0).notifyEvents = [] from emptied'] at accepted
  rw [show (cleared'.finish 0).events = [] from handed] at appended
  exact ⟨accepted, appended⟩

/-- An event of a batch that is not full, and two runs of `ClearEventCache`. -/
def oneReport : List UploadAction :=
  [.uploadEvent 0 batchSurroundings reportedEvent, .step 0 batchSurroundings]

theorem two_clearings_save_oneReport :
    let idle := (Transition.run (next 500) (started true) oneReport).getD (started true)
    let second := List.replicate 3 (.step 0 batchSurroundings)
    let later := (Transition.run (next 500) idle (clearing batchSurroundings ++ second)).getD idle
    let third := [.step 0 batchSurroundings]
    Saved ((Transition.run (next 500) later (clearing batchSurroundings ++ third)).getD later) :=
  two_clearings_save (Transition.run_eq_getD (by decide +kernel))
    (resting_iff.mpr (by decide +kernel)) (by decide) (Transition.run_eq_getD (by decide +kernel))
    (resting_iff.mpr (by decide +kernel)) (Transition.run_eq_getD (by decide +kernel))
    (resting_iff.mpr (by decide +kernel))

end UploadSystem

end SecurityGuard
