import Mathlib.Tactic.Simps.Basic
import SecurityGuard.Foundation.Execution
import SecurityGuard.Upload.Task

/-!
# The upload pipeline

Callers of `UploadEvent`, the tasks of two serial queues and the runs of `ClearEventCache` share
two buffers and two task counters.  A critical section, an atomic operation on a counter and a
call of `DatabaseManager::InsertEvent` are one step each, so a thread holds what it took out of
a buffer between its steps.  The lists at the end of the state are history that no step reads.
-/

namespace SecurityGuard

/-- `MAX_CACHE_EVENT_SIZE`. -/
def maxCacheEventSize : Nat := 64
def maxCacheNotifyEventSize : Nat := 10

/-- The threads that run `UploadEventTask` for each event of a list. -/
inductive UploadRunner where
  | batchTask
  | crucialTask
  | clearEventCache
  deriving DecidableEq

/-- Where a thread of the pipeline stands, with what it holds. -/
inductive UploadStage where
  /-- `BatchUploadEvent` is about to append its event. -/
  | batch (event : CollectorEvent)
  /-- It has taken a full `notifyEvents_` and is about to read the counter. -/
  | checkBatch (taken : List CollectorEvent)
  | submitBatch (taken : List CollectorEvent)
  /-- The task is submitted and not counted yet. -/
  | countBatch
  /-- `UploadEventImmediately` is about to read its counter. -/
  | checkImmediate (event : CollectorEvent)
  | countImmediate (event : CollectorEvent)
  | submitImmediate (event : CollectorEvent)
  /-- `ClearEventCache` is about to take `events_`. -/
  | clearEvents
  | clearInsert (taken : List SecEvent)
  | clearNotify
  /-- `UploadEventTask` is next, or the end of the thread. -/
  | upload (runner : UploadRunner) (rest : List CollectorEvent)
  /-- `UploadEventToStore` is about to append the event. -/
  | store (runner : UploadRunner) (rest : List CollectorEvent) (event : CollectorEvent)
  /-- It has taken a full `events_`. -/
  | insert (runner : UploadRunner) (rest : List CollectorEvent) (taken : List SecEvent)
  deriving DecidableEq

/-- A serial queue runs one task at a time, in the order of their submission. -/
structure TaskQueue where
  waiting : List (List CollectorEvent) := []
  busy : Bool := false
  deriving DecidableEq

namespace TaskQueue

/-- A task waits behind the others. -/
def submit (queue : TaskQueue) (task : List CollectorEvent) : TaskQueue :=
  { queue with waiting := queue.waiting ++ [task] }

/-- The next task, once the one before it has ended. -/
def start (queue : TaskQueue) : Option (List CollectorEvent × TaskQueue) :=
  match queue.waiting with
  | [] => none
  | task :: waiting => if queue.busy then none else some (task, { waiting, busy := true })

/-- The task that runs has ended. -/
def release (queue : TaskQueue) : TaskQueue := { queue with busy := false }

/-- The tasks that are submitted and not finished. -/
def pending (queue : TaskQueue) : Nat := queue.waiting.length + queue.busy.toNat

end TaskQueue

/-- Why events are discarded; `pending` counts the batch tasks that are not finished. -/
inductive DiscardCause where
  | batchLimit (pending : Nat)
  | immediateLimit
  | noQueue
  | noCrucialQueue
  deriving DecidableEq

/-- Events that were discarded together. -/
structure Discard where
  cause : DiscardCause
  events : List CollectorEvent
  deriving DecidableEq

/-- The cached events, the queues with their counts and the calls under way. -/
structure UploadSystem where
  events : List SecEvent := []
  notifyEvents : List CollectorEvent := []
  /-- Absent while `queue_` is null. -/
  queue : Option TaskQueue
  crucialQueue : Option TaskQueue
  taskCount : BitVec 32 := 0
  crucialTaskCount : BitVec 32 := 0
  calls : SortedMap Nat UploadStage := .empty
  /-- Events that `UploadEvent` did not reject. -/
  accepted : List CollectorEvent := []
  /-- Events that `UploadEventTask` was called with. -/
  processed : List CollectorEvent := []
  discards : List Discard := []
  /-- Events that `UploadEventToStore` appended. -/
  appended : List SecEvent := []
  /-- Events handed to `DatabaseManager::InsertEvent`, call after call. -/
  inserted : List (List SecEvent) := []

/-- A step of the pipeline, with what its surroundings answer. -/
inductive UploadAction where
  | uploadEvent (id : Nat) (outside : Surroundings) (event : CollectorEvent)
  | clearEventCache (id : Nat)
  | runTask (id : Nat)
  | runCrucialTask (id : Nat)
  | step (id : Nat) (outside : Surroundings)

namespace UploadSystem

variable (system : UploadSystem) (id : Nat)

/-- A call goes on to a stage. -/
@[simps]
def proceed (stage : UploadStage) : UploadSystem :=
  { system with calls := system.calls.insert id stage }

/-- A call ends. -/
@[simps]
def finish : UploadSystem := { system with calls := system.calls.erase id }

/-- Record the events that are dropped. -/
@[simps]
def discard (cause : DiscardCause) (events : List CollectorEvent) : UploadSystem :=
  { system with discards := system.discards ++ [{ cause, events }] }

/-- The batch tasks that are submitted and not finished. -/
def pending : Nat := (system.queue.map TaskQueue.pending).getD 0

/-- The stage in which an event enters the pipeline, unless `UploadEvent` rejects it. -/
def enterEvent (outside : Surroundings) (event : CollectorEvent) : Decision UploadStage :=
  if !outside.checkRiskContent event then .returns .badParam
  else
    match outside.config.getEventConfig event.eventId with
    | none => .returns .badParam
    | some cfg =>
        if cfg.isBatchUpload ≠ 1 then .continues (.checkImmediate event)
        else .continues (.batch event)

/-- The end of a thread; a task takes itself off its counter. -/
def finishRunner : UploadRunner → UploadSystem
  | .batchTask =>
      { system with
        taskCount := system.taskCount - 1
        queue := system.queue.map TaskQueue.release }.finish id
  | .crucialTask =>
      { system with
        crucialTaskCount := system.crucialTaskCount - 1
        crucialQueue := system.crucialQueue.map TaskQueue.release }.finish id
  | .clearEventCache => system.finish id

/-- The next step of a thread; a check refuses once its counter exceeds `maxCount`. -/
def advance (maxCount : Nat) (outside : Surroundings) : UploadStage → UploadSystem
  | .batch event =>
      let filled := system.notifyEvents ++ [event]
      if filled.length < maxCacheNotifyEventSize then
        { system with notifyEvents := filled }.finish id
      else { system with notifyEvents := [] }.proceed id (.checkBatch filled)
  | .checkBatch taken =>
      if maxCount < system.taskCount.toNat then
        (system.discard (.batchLimit system.pending) taken).finish id
      else system.proceed id (.submitBatch taken)
  | .submitBatch taken =>
      match system.queue with
      | none => (system.discard .noQueue taken).finish id
      | some queue => { system with queue := some (queue.submit taken) }.proceed id .countBatch
  -- The task may have run before it is counted.
  | .countBatch => { system with taskCount := system.taskCount + 1 }.finish id
  | .checkImmediate event =>
      if maxCount < system.crucialTaskCount.toNat then
        (system.discard .immediateLimit [event]).finish id
      else system.proceed id (.countImmediate event)
  | .countImmediate event =>
      { system with crucialTaskCount := system.crucialTaskCount + 1 }.proceed id
        (.submitImmediate event)
  | .submitImmediate event =>
      match system.crucialQueue with
      | none =>
          ({ system with crucialTaskCount := system.crucialTaskCount - 1 }.discard
            .noCrucialQueue [event]).finish id
      | some queue => { system with crucialQueue := some (queue.submit [event]) }.finish id
  -- The two buffers are cleared one after the other, each under its own lock.
  | .clearEvents => { system with events := [] }.proceed id (.clearInsert system.events)
  | .clearInsert taken =>
      { system with inserted := system.inserted ++ [taken] }.proceed id .clearNotify
  | .clearNotify =>
      { system with notifyEvents := [] }.proceed id
        (.upload .clearEventCache system.notifyEvents)
  | .upload runner [] => system.finishRunner id runner
  | .upload runner (event :: rest) =>
      let taken := { system with processed := system.processed ++ [event] }
      match outside.uploadedEvent event with
      | none => taken.proceed id (.upload runner rest)
      | some uploaded => taken.proceed id (.store runner rest uploaded)
  | .store runner rest event =>
      let filled := system.events ++ [event.secEvent]
      let appended := { system with appended := system.appended ++ [event.secEvent] }
      if filled.length < maxCacheEventSize then
        { appended with events := filled }.proceed id (.upload runner rest)
      else { appended with events := [] }.proceed id (.insert runner rest filled)
  | .insert runner rest taken =>
      { system with inserted := system.inserted ++ [taken] }.proceed id (.upload runner rest)

/-- A new thread. -/
def enter (stage : UploadStage) : Option UploadSystem :=
  if system.calls.contains id then none else some (system.proceed id stage)

/-- The pipeline under any interleaving of its threads. -/
def next (maxCount : Nat) : Transition UploadSystem UploadAction := fun system action =>
  match action with
  | .uploadEvent id outside event =>
      match enterEvent outside event with
      | .returns _ => some system
      | .continues stage => { system with accepted := system.accepted ++ [event] }.enter id stage
  | .clearEventCache id => system.enter id .clearEvents
  | .runTask id =>
      (system.queue.bind TaskQueue.start).bind fun (task, queue) =>
        { system with queue := some queue }.enter id (.upload .batchTask task)
  | .runCrucialTask id =>
      (system.crucialQueue.bind TaskQueue.start).bind fun (task, queue) =>
        { system with crucialQueue := some queue }.enter id (.upload .crucialTask task)
  | .step id outside =>
      (system.calls.get? id).map fun stage => system.advance id maxCount outside stage

/-- No thread runs; the queues may not have been created. -/
def started (queues : Bool) : UploadSystem where
  queue := if queues then some {} else none
  crucialQueue := if queues then some {} else none

end UploadSystem

end SecurityGuard
