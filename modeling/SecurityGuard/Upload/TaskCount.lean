import SecurityGuard.Upload.Pipeline

/-!
# The counter of batch tasks

`BatchUploadEvent` counts its task after it has submitted it, so the task may have taken itself
off the counter before.  The counter then wraps around, and the next batches are discarded
although none is pending.  As long as no task ends on a counter of zero, the counter is at most
the number of pending tasks.
-/

namespace SecurityGuard

namespace UploadStage

/-- The task of the thread is submitted and not counted. -/
def uncounted : UploadStage → Nat
  | .countBatch => 1
  | _ => 0

/-- The thread runs a batch task. -/
def runsBatch : UploadStage → Nat
  | .upload .batchTask _ | .store .batchTask _ _ | .insert .batchTask _ _ => 1
  | _ => 0

end UploadStage

namespace UploadSystem

variable {system : UploadSystem} {id maxCount : Nat} {outside : Surroundings}

theorem proceed_total (measure : UploadStage → Nat) (stage : UploadStage) :
    (system.proceed id stage).calls.total measure =
      measure stage + (system.calls.erase id).total measure :=
  SortedMap.total_insert measure system.calls id stage

/-- The tasks that run in the queue: one while it is busy. -/
def busyTasks (system : UploadSystem) : Nat :=
  (system.queue.map fun queue => queue.busy.toNat).getD 0

/-- The counter counts the pending tasks but those that are submitted and not counted. -/
structure TaskCounted (maxCount : Nat) (system : UploadSystem) : Prop where
  counted : ∃ count, system.taskCount = BitVec.ofNat 32 count ∧
    count + system.calls.total UploadStage.uncounted = system.pending
  running : system.calls.total UploadStage.runsBatch = system.busyTasks
  limit : ∀ discard ∈ system.discards, ∀ pending, discard.cause = .batchLimit pending →
    maxCount < pending
  queued : system.queue.isSome = true → ∀ discard ∈ system.discards, discard.cause ≠ .noQueue

/-- A task that ends finds a counter that is not zero. -/
def EndsCounted (system : UploadSystem) : UploadAction → Prop
  | .step id _ => system.calls.get? id = some (.upload .batchTask []) → system.taskCount ≠ 0
  | _ => True

theorem TaskCounted.taskCount_le (counted : TaskCounted maxCount system) :
    system.taskCount.toNat ≤ system.pending := by
  obtain ⟨count, same, sum⟩ := counted.counted
  have small : count % 2 ^ 32 ≤ count := Nat.mod_le count _
  rw [same, BitVec.toNat_ofNat]
  omega

/-- A step that neither counts nor submits nor ends a batch task. -/
theorem TaskCounted.of_same (counted : TaskCounted maxCount system) {after : UploadSystem}
    (taskCount : after.taskCount = system.taskCount) (queue : after.queue = system.queue)
    (uncounted : after.calls.total UploadStage.uncounted =
      system.calls.total UploadStage.uncounted)
    (runs : after.calls.total UploadStage.runsBatch = system.calls.total UploadStage.runsBatch)
    (discards : after.discards = system.discards) : TaskCounted maxCount after where
  counted := by
    rw [taskCount, uncounted, pending, queue]
    exact counted.counted
  running := by
    rw [runs, busyTasks, queue]
    exact counted.running
  limit := by
    rw [discards]
    exact counted.limit
  queued := by
    rw [discards, queue]
    exact counted.queued

/-- A discard that its cause justifies. -/
theorem TaskCounted.discard (counted : TaskCounted maxCount system) {cause : DiscardCause}
    (events : List CollectorEvent) (limit : ∀ pending, cause = .batchLimit pending →
      maxCount < pending) (queued : system.queue.isSome = true → cause ≠ .noQueue) :
    TaskCounted maxCount (system.discard cause events) where
  counted := counted.counted
  running := counted.running
  limit discard mem pending same := by
    rw [discard_discards, List.mem_append, List.mem_singleton] at mem
    rcases mem with old | rfl
    · exact counted.limit discard old pending same
    · exact limit pending same
  queued present discard mem := by
    rw [discard_discards, List.mem_append, List.mem_singleton] at mem
    rcases mem with old | rfl
    · exact counted.queued present discard old
    · exact queued present

variable {stage later : UploadStage} {after : UploadSystem}

theorem TaskCounted.moved (counted : TaskCounted maxCount system)
    (found : system.calls.get? id = some stage) (taskCount : after.taskCount = system.taskCount)
    (queue : after.queue = system.queue) (discards : after.discards = system.discards)
    (calls : after.calls = system.calls.insert id later)
    (uncounted : later.uncounted = stage.uncounted) (runs : later.runsBatch = stage.runsBatch) :
    TaskCounted maxCount after := by
  refine counted.of_same taskCount queue ?_ ?_ discards
  · rw [calls, SortedMap.total_insert, uncounted, SortedMap.total_of_get? _ found]
  · rw [calls, SortedMap.total_insert, runs, SortedMap.total_of_get? _ found]

theorem TaskCounted.ended (counted : TaskCounted maxCount system)
    (found : system.calls.get? id = some stage) (taskCount : after.taskCount = system.taskCount)
    (queue : after.queue = system.queue) (discards : after.discards = system.discards)
    (calls : after.calls = system.calls.erase id) (uncounted : stage.uncounted = 0)
    (runs : stage.runsBatch = 0) : TaskCounted maxCount after := by
  refine counted.of_same taskCount queue ?_ ?_ discards
  · rw [calls, SortedMap.total_of_get? _ found, uncounted, Nat.zero_add]
  · rw [calls, SortedMap.total_of_get? _ found, runs, Nat.zero_add]

theorem TaskCounted.entered (counted : TaskCounted maxCount system) {final : UploadSystem}
    (taken : after.enter id stage = some final) (taskCount : system.taskCount = after.taskCount)
    (queue : system.queue = after.queue) (discards : system.discards = after.discards)
    (calls : system.calls = after.calls) (uncounted : stage.uncounted = 0)
    (runs : stage.runsBatch = 0) : TaskCounted maxCount final := by
  rw [enter] at taken
  split_ifs at taken with used
  obtain rfl := Option.some.inj taken
  have fresh : after.calls.get? id = none := by simpa [SortedMap.contains] using used
  refine counted.of_same taskCount.symm queue.symm ?_ ?_ discards.symm
  · rw [proceed_calls, SortedMap.total_insert_of_fresh _ _ fresh, uncounted, Nat.zero_add, calls]
  · rw [proceed_calls, SortedMap.total_insert_of_fresh _ _ fresh, runs, Nat.zero_add, calls]

theorem TaskCounted.submit (counted : TaskCounted maxCount system) {taken : List CollectorEvent}
    (found : system.calls.get? id = some (.submitBatch taken)) {queue : TaskQueue}
    (present : system.queue = some queue) :
    TaskCounted maxCount
      ({ system with queue := some (queue.submit taken) }.proceed id .countBatch) where
  counted := by
    obtain ⟨count, same, sum⟩ := counted.counted
    refine ⟨count, same, ?_⟩
    rw [SortedMap.total_of_get? _ found, pending, present] at sum
    rw [proceed_total]
    simp only [UploadStage.uncounted, pending, proceed_queue, Option.map_some, Option.getD_some,
      TaskQueue.pending, TaskQueue.submit, List.length_append, List.length_singleton] at sum ⊢
    omega
  running := by
    have runs := counted.running
    rw [SortedMap.total_of_get? _ found, busyTasks, present] at runs
    rw [proceed_total]
    exact runs
  limit := counted.limit
  queued _ := counted.queued (by rw [present]; rfl)

theorem TaskCounted.count (counted : TaskCounted maxCount system)
    (found : system.calls.get? id = some .countBatch) :
    TaskCounted maxCount ({ system with taskCount := system.taskCount + 1 }.finish id) where
  counted := by
    obtain ⟨count, same, sum⟩ := counted.counted
    refine ⟨count + 1, ?_, ?_⟩
    · rw [finish_taskCount, same, BitVec.ofNat_add]
      rfl
    · rw [SortedMap.total_of_get? _ found, UploadStage.uncounted] at sum
      change count + 1 + (system.calls.erase id).total UploadStage.uncounted = system.pending
      omega
  running := by
    have runs := counted.running
    rw [SortedMap.total_of_get? _ found] at runs
    rw [finish_calls, ← Nat.zero_add (SortedMap.total _ _)]
    exact runs
  limit := counted.limit
  queued := counted.queued

/-- The queue is busy while a batch task runs. -/
theorem TaskCounted.busy (counted : TaskCounted maxCount system)
    (found : system.calls.get? id = some stage) (runs : stage.runsBatch = 1) :
    ∃ queue, system.queue = some queue ∧ queue.busy = true ∧
      (system.calls.erase id).total UploadStage.runsBatch = 0 := by
  have running := counted.running
  rw [SortedMap.total_of_get? _ found, runs, busyTasks] at running
  cases present : system.queue with
  | none => simp [present] at running
  | some queue =>
      rw [present, Option.map_some, Option.getD_some] at running
      refine ⟨queue, rfl, ?_⟩
      cases busy : queue.busy with
      | false =>
          rw [busy, Bool.toNat_false] at running
          omega
      | true =>
          rw [busy, Bool.toNat_true] at running
          exact ⟨rfl, by omega⟩

theorem TaskCounted.endTask (counted : TaskCounted maxCount system)
    (found : system.calls.get? id = some (.upload .batchTask []))
    (nonzero : system.taskCount ≠ 0) :
    TaskCounted maxCount (system.finishRunner id .batchTask) := by
  obtain ⟨queue, present, busy, alone⟩ := counted.busy found rfl
  obtain ⟨count, same, sum⟩ := counted.counted
  constructor
  · have positive : count ≠ 0 := by
      rintro rfl
      exact nonzero same
    obtain ⟨less, rfl⟩ := Nat.exists_eq_succ_of_ne_zero positive
    refine ⟨less, ?_, ?_⟩
    · change system.taskCount - 1 = BitVec.ofNat 32 less
      rw [same, Nat.succ_eq_add_one, BitVec.ofNat_add]
      exact BitVec.add_sub_cancel _ _
    · rw [SortedMap.total_of_get? _ found, pending, present] at sum
      simp only [finishRunner, UploadStage.uncounted, pending, finish_queue, finish_calls, present,
        Option.map_some, Option.getD_some, TaskQueue.pending, TaskQueue.release, busy,
        Bool.toNat_true, Bool.toNat_false] at sum ⊢
      omega
  · simp only [finishRunner, finish_calls, alone, busyTasks, finish_queue, present,
      Option.map_some, Option.getD_some, TaskQueue.release, Bool.toNat_false]
  · exact counted.limit
  · exact fun _ => counted.queued (by rw [present]; rfl)

theorem TaskCounted.runTask (counted : TaskCounted maxCount system) {queue later : TaskQueue}
    (present : system.queue = some queue) {task : List CollectorEvent}
    (starts : queue.start = some (task, later)) (fresh : system.calls.get? id = none) :
    TaskCounted maxCount
      ({ system with queue := some later }.proceed id (.upload .batchTask task)) := by
  obtain ⟨count, same, sum⟩ := counted.counted
  have running := counted.running
  rw [pending, present] at sum
  rw [busyTasks, present] at running
  obtain ⟨waiting, busy⟩ := queue
  cases waiting with
  | nil => simp [TaskQueue.start] at starts
  | cons head rest =>
      simp only [TaskQueue.start] at starts
      split_ifs at starts with idle
      obtain ⟨rfl, rfl⟩ := Prod.mk.inj (Option.some.inj starts)
      rw [Bool.not_eq_true] at idle
      subst idle
      constructor
      · refine ⟨count, same, ?_⟩
        rw [proceed_calls, SortedMap.total_insert_of_fresh _ _ fresh]
        simp only [UploadStage.uncounted, pending, proceed_queue, Option.map_some,
          Option.getD_some, TaskQueue.pending, List.length_cons, Bool.toNat_true,
          Bool.toNat_false] at sum ⊢
        omega
      · rw [proceed_calls, SortedMap.total_insert_of_fresh _ _ fresh]
        simp only [UploadStage.runsBatch, busyTasks, proceed_queue, Option.map_some,
          Option.getD_some, Bool.toNat_true, Bool.toNat_false] at running ⊢
        omega
      · exact counted.limit
      · exact fun _ => counted.queued (by rw [present]; rfl)

variable (id outside) in
theorem TaskCounted.advance (counted : TaskCounted maxCount system)
    (found : system.calls.get? id = some stage)
    (ends : stage = .upload .batchTask [] → system.taskCount ≠ 0) :
    TaskCounted maxCount (system.advance id maxCount outside stage) := by
  cases stage with
  | batch event =>
      rw [UploadSystem.advance]
      split_ifs
      · exact counted.ended found rfl rfl rfl rfl rfl rfl
      · exact counted.moved found rfl rfl rfl rfl rfl rfl
  | checkBatch taken =>
      rw [UploadSystem.advance]
      split_ifs with full
      -- The counter is never above the number of tasks, so that the limit was really reached.
      · have many : maxCount < system.pending := full.trans_le counted.taskCount_le
        refine (counted.discard taken (fun pending same => ?_) (fun _ => ?_)).ended found rfl rfl
          rfl rfl rfl rfl
        · cases same
          exact many
        · exact DiscardCause.noConfusion
      · exact counted.moved found rfl rfl rfl rfl rfl rfl
  | submitBatch taken =>
      rw [UploadSystem.advance]
      cases present : system.queue with
      | none =>
          refine (counted.discard taken (fun pending same => ?_) (fun queued => ?_)).ended found rfl
            rfl rfl rfl rfl rfl
          · exact DiscardCause.noConfusion same
          · rw [present] at queued
            exact Bool.noConfusion queued
      | some queue => exact counted.submit found present
  | countBatch => exact counted.count found
  | checkImmediate event =>
      rw [UploadSystem.advance]
      split_ifs
      · refine (counted.discard [event] (fun pending same => ?_) (fun _ => ?_)).ended found rfl rfl
          rfl rfl rfl rfl
        · exact DiscardCause.noConfusion same
        · exact DiscardCause.noConfusion
      · exact counted.moved found rfl rfl rfl rfl rfl rfl
  | countImmediate event => exact counted.moved found rfl rfl rfl rfl rfl rfl
  | submitImmediate event =>
      rw [UploadSystem.advance]
      cases system.crucialQueue with
      | none =>
          refine (counted.discard [event] (fun pending same => ?_) (fun _ => ?_)).ended found rfl
            rfl rfl rfl rfl rfl
          · exact DiscardCause.noConfusion same
          · exact DiscardCause.noConfusion
      | some queue => exact counted.ended found rfl rfl rfl rfl rfl rfl
  | clearEvents => exact counted.moved found rfl rfl rfl rfl rfl rfl
  | clearInsert taken => exact counted.moved found rfl rfl rfl rfl rfl rfl
  | clearNotify => exact counted.moved found rfl rfl rfl rfl rfl rfl
  | upload runner rest =>
      cases rest with
      | nil =>
          cases runner with
          | batchTask => exact counted.endTask found (ends rfl)
          | crucialTask => exact counted.ended found rfl rfl rfl rfl rfl rfl
          | clearEventCache => exact counted.ended found rfl rfl rfl rfl rfl rfl
      | cons event rest =>
          rw [UploadSystem.advance]
          cases outside.uploadedEvent event with
          | none => cases runner <;> exact counted.moved found rfl rfl rfl rfl rfl rfl
          | some uploaded => cases runner <;> exact counted.moved found rfl rfl rfl rfl rfl rfl
  | store runner rest event =>
      rw [UploadSystem.advance]
      dsimp only
      split_ifs
      · cases runner <;> exact counted.moved found rfl rfl rfl rfl rfl rfl
      · cases runner <;> exact counted.moved found rfl rfl rfl rfl rfl rfl
  | insert runner rest taken =>
      cases runner <;> exact counted.moved found rfl rfl rfl rfl rfl rfl

theorem enterEvent_continues {event : CollectorEvent}
    (accepted : enterEvent outside event = .continues stage) :
    stage = .batch event ∨ stage = .checkImmediate event := by
  rw [enterEvent] at accepted
  split_ifs at accepted
  cases configured : outside.config.getEventConfig event.eventId with
  | none => simp [configured] at accepted
  | some cfg =>
      simp only [configured] at accepted
      split_ifs at accepted
      · exact .inr (Decision.continues.inj accepted).symm
      · exact .inl (Decision.continues.inj accepted).symm

theorem TaskCounted.next {action : UploadAction} (counted : TaskCounted maxCount system)
    (ends : EndsCounted system action) (taken : next maxCount system action = some after) :
    TaskCounted maxCount after := by
  cases action with
  | uploadEvent id outside event =>
      rw [UploadSystem.next] at taken
      cases entered : enterEvent outside event with
      | returns code =>
          simp only [entered, Option.some.injEq] at taken
          exact taken ▸ counted
      | continues stage =>
          simp only [entered] at taken
          rcases enterEvent_continues entered with rfl | rfl <;>
            exact counted.entered taken rfl rfl rfl rfl rfl rfl
  | clearEventCache id => exact counted.entered taken rfl rfl rfl rfl rfl rfl
  | runTask id =>
      obtain ⟨⟨task, later⟩, started, taken⟩ := Option.bind_eq_some_iff.mp taken
      obtain ⟨queue, present, starts⟩ := Option.bind_eq_some_iff.mp started
      dsimp only at taken
      rw [enter] at taken
      split_ifs at taken with used
      obtain rfl := Option.some.inj taken
      exact counted.runTask present starts (by simpa [SortedMap.contains] using used)
  | runCrucialTask id =>
      obtain ⟨⟨task, later⟩, started, taken⟩ := Option.bind_eq_some_iff.mp taken
      exact counted.entered taken rfl rfl rfl rfl rfl rfl
  | step id outside =>
      obtain ⟨stage, found, rfl⟩ := Option.map_eq_some_iff.mp taken
      exact counted.advance id outside found fun same => ends (same ▸ found)

theorem taskCounted_started (queues : Bool) : TaskCounted maxCount (started queues) where
  counted := ⟨0, rfl, by cases queues <;> rfl⟩
  running := by cases queues <;> rfl
  limit _ mem := absurd mem List.not_mem_nil
  queued _ _ mem := absurd mem List.not_mem_nil

/-- In a run whose batch tasks all end on a counter that is not zero, the counter is at most the
number of pending tasks.  A batch is discarded at the limit only while more tasks are pending, and
only then if the queues were created. -/
theorem taskCount_le_pending {queues : Bool} {actions : List UploadAction}
    (ends : Transition.Along (next maxCount) EndsCounted (started queues) actions)
    (reach : Transition.run (next maxCount) (started queues) actions = some system) :
    system.taskCount.toNat ≤ system.pending ∧
      (∀ discard ∈ system.discards, ∀ pending, discard.cause = .batchLimit pending →
        maxCount < pending) ∧
      (system.queue.isSome = true → ∀ discard ∈ system.discards, discard.cause ≠ .noQueue) := by
  have counted : TaskCounted maxCount system :=
    Transition.run_invariant (fun counted allowed taken => TaskCounted.next counted allowed taken)
      (taskCounted_started queues) ends reach
  exact ⟨counted.taskCount_le, counted.limit, counted.queued⟩

/-- Event 5 is uploaded in batches. -/
def batchSurroundings : Surroundings where
  config := { eventMap := SortedMap.empty.insert 5 { eventId := 5, isBatchUpload := 1 } }
  isJson _ := true

def reportedEvent : CollectorEvent := { eventId := 5, content := "[]" }

/-- Ten calls report an event, and the last one takes the batch. -/
def fillBatch : List UploadAction :=
  (List.range 10).flatMap fun id =>
    [.uploadEvent id batchSurroundings reportedEvent, .step id batchSurroundings]

/-- A task uploads ten events and ends. -/
def runBatch (id : Nat) : List UploadAction :=
  .runTask id :: List.replicate 21 (.step id batchSurroundings)

/-- The batch is submitted and counted, and then its task runs. -/
def countedBatch : List UploadAction :=
  fillBatch ++ List.replicate 3 (.step 9 batchSurroundings) ++ runBatch 10

instance (system : UploadSystem) : ∀ action, Decidable (EndsCounted system action)
  | .step _ _ => inferInstanceAs (Decidable (_ → _))
  | .uploadEvent _ _ _ | .clearEventCache _ | .runTask _ | .runCrucialTask _ =>
      inferInstanceAs (Decidable True)

/-- The counter of a batch that is counted before its task ends. -/
theorem taskCount_le_pending_countedBatch :
    let final := (Transition.run (next 500) (started true) countedBatch).getD (started true)
    final.taskCount.toNat ≤ final.pending ∧
      (∀ discard ∈ final.discards, ∀ pending, discard.cause = .batchLimit pending →
        500 < pending) ∧
      (final.queue.isSome = true → ∀ discard ∈ final.discards, discard.cause ≠ .noQueue) :=
  taskCount_le_pending (by decide +kernel) (Transition.run_eq_getD (by decide +kernel))

/-- A task may end before it is counted, and then the counter exceeds every number of tasks. -/
theorem taskCount_wraps :
    ¬∀ (actions : List UploadAction) (final : UploadSystem),
      Transition.run (next 500) (started true) actions = some final →
        final.taskCount.toNat ≤ final.pending ∧
          ∀ discard ∈ final.discards, ∀ pending, discard.cause = .batchLimit pending →
            500 < pending := by
  intro bounded
  have wraps : (Transition.run (next 500) (started true)
      (fillBatch ++ List.replicate 2 (.step 9 batchSurroundings) ++ runBatch 10)).any (fun final =>
        final.taskCount.toNat = 2 ^ 32 - 1 ∧ final.pending = 0) = true := by
    decide +kernel
  obtain ⟨final, reach, found⟩ := (Option.any_eq_true _ _).mp wraps
  obtain ⟨count, none⟩ := of_decide_eq_true found
  have few := (bounded _ final reach).1
  omega

end UploadSystem

end SecurityGuard
