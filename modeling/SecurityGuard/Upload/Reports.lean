import Mathlib.Data.Multiset.Bind
import SecurityGuard.Store.Retained
import SecurityGuard.Upload.Conservation

/-!
# From a report to the table

The pipeline hands its batches to `DatabaseManager::InsertEvent`, which stores them under the
configuration in force, while models store and delete events of their own, queries are answered,
the configuration is updated and the service ends and starts again.  Every event that was reported
is in one place at every time, over all of this.
-/

namespace SecurityGuard

/-- The source of the events that the models insert. -/
def modelSource : Nat := 1

/-- An event that `UploadEventTask` was called with, and the event that it handed on. -/
abbrev Upload := CollectorEvent × Option CollectorEvent

/-- The event that an upload adds to `events_`. -/
def Upload.secEvent? (upload : Upload) : Option SecEvent := upload.2.map CollectorEvent.secEvent

/-- The steps of a pipeline read the configuration in force. -/
def UploadAction.under (config : ConfigData) : UploadAction → UploadAction
  | .uploadEvent id outside event => .uploadEvent id { outside with config } event
  | .step id outside => .step id { outside with config }
  | action => action

namespace UploadSystem

variable (system : UploadSystem)

/-- The upload that a step begins. -/
def uploads : UploadAction → List Upload
  | .step id outside =>
      match system.calls.get? id with
      | some (.upload _ (event :: _)) => [(event, outside.uploadedEvent event)]
      | _ => []
  | _ => []

/-- The call of `InsertEvent` that a step makes. -/
def insertions : UploadAction → List StoreCall
  | .step id _ =>
      match system.calls.get? id with
      | some (.clearInsert taken) | some (.insert _ _ taken) => [.insertEvent userSource taken]
      | _ => []
  | _ => []

end UploadSystem

/-- A call that others than the pipeline make while the service runs. -/
def StoreCall.ofOthers : StoreCall → Bool
  | .insertEvent source _ => source = modelSource
  | .restart _ => false
  | _ => true

def StoreSystem.after (parseJson : String → Option Json)
    (engine : Sql.Engine DatabaseHelper.schema) (system : StoreSystem) (call : StoreCall) :
    StoreSystem where
  config := StoreSystem.configAfter parseJson system.config call
  store := StoreSystem.storeAfter engine system.config system.store call

/-- The pipeline of a service, with the uploads that it began. -/
abbrev UploadService := UploadSystem × List Upload

/-- The service that runs, with the configuration and the table that it works on. -/
structure ReportSystem where
  service : UploadService
  storage : StoreSystem
  /-- The services that have ended, as they were at their ends. -/
  ended : List UploadService := []
  /-- The calls that were made on the configuration and the table. -/
  calls : List StoreCall := []

/-- A step of the pipeline, of the store or a restart. -/
inductive ReportAction where
  | pipeline (action : UploadAction)
  | storage (call : StoreCall)
  /-- The service ends, and what it had in memory is gone; it starts with the table it left. -/
  | restart (queues : Bool) (stream : Option String)

namespace ReportSystem

variable (parseJson : String → Option Json) (engine : Sql.Engine DatabaseHelper.schema)

def serve (system : ReportSystem) (calls : List StoreCall) : ReportSystem :=
  { system with
    storage := calls.foldl (StoreSystem.after parseJson engine) system.storage
    calls := system.calls ++ calls }

def next (maxCount : Nat) : Transition ReportSystem ReportAction := fun system action =>
  match action with
  | .pipeline action =>
      let action := action.under system.storage.config
      (Transition.recording (UploadSystem.next maxCount) UploadSystem.uploads system.service
        action).map fun service =>
          { system.serve parseJson engine (system.service.1.insertions action) with service }
  | .storage call => if call.ofOthers then some (system.serve parseJson engine [call]) else none
  | .restart queues stream =>
      some { system.serve parseJson engine [.restart stream] with
        service := (.started queues, [])
        ended := system.ended ++ [system.service] }

/-- A service that starts on a table; nothing was reported. -/
def started (queues : Bool) (storage : StoreSystem) : ReportSystem where
  service := (.started queues, [])
  storage

end ReportSystem

namespace UploadStage

/-- The event that the thread is about to append to `events_`. -/
def storing : UploadStage → List SecEvent
  | .store _ _ event => [event.secEvent]
  | _ => []

end UploadStage

namespace UploadSystem

/-- The reports that wait to be uploaded. -/
def waiting (system : UploadSystem) : List CollectorEvent :=
  system.held ++ system.notifyEvents ++ system.queued

/-- The events that threads are about to append to `events_`. -/
def storing (system : UploadSystem) : List SecEvent :=
  system.calls.entries.flatMap fun entry => entry.2.storing

/-- The uploaded events that were not handed to `InsertEvent`. -/
def unsaved (system : UploadSystem) : List SecEvent :=
  system.storing ++ system.taken ++ system.events

variable {system after : UploadSystem} {id maxCount : Nat} {outside : Surroundings}
  {stage later : UploadStage} {uploads : List Upload} {action : UploadAction}

theorem enter_eq_some {final : UploadSystem} (entered : system.enter id stage = some final) :
    system.calls.get? id = none ∧ final = system.proceed id stage := by
  rw [enter] at entered
  split_ifs at entered with used
  exact ⟨by simpa [SortedMap.contains] using used, (Option.some.inj entered).symm⟩

theorem Conserved.accepted_eq (conserved : Conserved system) :
    (↑system.accepted : Multiset CollectorEvent) =
      ↑system.waiting + ↑system.discarded + ↑system.processed := by
  simp only [Multiset.coe_add]
  refine Multiset.coe_eq_coe.mpr (List.perm_iff_count.mpr fun event => ?_)
  rw [conserved.accepted event, SortedMap.total_count]
  simp only [waiting, held, placed, List.count_append]
  omega

theorem Conserved.appended_eq (conserved : Conserved system) :
    (↑system.appended : Multiset SecEvent) =
      ↑(system.taken ++ system.events) + ↑system.inserted.flatten := by
  rw [Multiset.coe_add]
  refine Multiset.coe_eq_coe.mpr (List.perm_iff_count.mpr fun event => ?_)
  rw [conserved.appended event, SortedMap.total_count]
  simp only [UploadSystem.taken, stored, List.count_append]
  omega

/-- The uploads of a pipeline are those of the events it processed, and what an upload hands on is
appended or about to be. -/
structure Recorded (system : UploadSystem) (uploads : List Upload) : Prop where
  processed : system.processed = uploads.map Prod.fst
  appended : ∀ event, (uploads.filterMap Upload.secEvent?).count event =
    (system.calls.total fun stage => stage.storing.count event) + system.appended.count event

theorem recorded_started (queues : Bool) : Recorded (started queues) [] where
  processed := rfl
  appended _ := rfl

theorem Recorded.appended_eq (recorded : Recorded system uploads) :
    (↑(uploads.filterMap Upload.secEvent?) : Multiset SecEvent) =
      ↑system.storing + ↑system.appended := by
  rw [Multiset.coe_add]
  refine Multiset.coe_eq_coe.mpr (List.perm_iff_count.mpr fun event => ?_)
  rw [recorded.appended event, SortedMap.total_count, storing, List.count_append]

theorem Recorded.moved (recorded : Recorded system uploads) {began : List Upload}
    (found : system.calls.get? id = some stage) (calls : after.calls = system.calls.insert id later)
    (processed : after.processed = system.processed ++ began.map Prod.fst)
    (balance : ∀ event, (began.filterMap Upload.secEvent?).count event +
        stage.storing.count event + system.appended.count event =
      later.storing.count event + after.appended.count event) :
    Recorded after (uploads ++ began) where
  processed := by rw [processed, recorded.processed, List.map_append]
  appended event := by
    have before := recorded.appended event
    have balance := balance event
    rw [SortedMap.total_of_get? _ found] at before
    rw [List.filterMap_append, List.count_append, calls, SortedMap.total_insert]
    omega

theorem Recorded.still (recorded : Recorded system uploads)
    (found : system.calls.get? id = some stage) (calls : after.calls = system.calls.insert id later)
    (processed : after.processed = system.processed) (appended : after.appended = system.appended)
    (storing : later.storing = stage.storing) : Recorded after (uploads ++ []) :=
  recorded.moved found calls (processed.trans (List.append_nil _).symm) fun event => by
    rw [appended, storing, List.filterMap_nil, List.count_nil, Nat.zero_add]

theorem Recorded.ended (recorded : Recorded system uploads)
    (found : system.calls.get? id = some stage) (calls : after.calls = system.calls.erase id)
    (processed : after.processed = system.processed) (appended : after.appended = system.appended)
    (storing : stage.storing = []) : Recorded after (uploads ++ []) where
  processed := by rw [processed, recorded.processed, List.append_nil]
  appended event := by
    have before := recorded.appended event
    rw [SortedMap.total_of_get? _ found, storing, List.count_nil, Nat.zero_add] at before
    rw [List.append_nil, calls, appended, before]

theorem Recorded.entered (recorded : Recorded system uploads) {final : UploadSystem}
    (entered : after.enter id stage = some final) (calls : after.calls = system.calls)
    (processed : after.processed = system.processed) (appended : after.appended = system.appended)
    (storing : stage.storing = []) : Recorded final (uploads ++ []) := by
  obtain ⟨fresh, rfl⟩ := enter_eq_some entered
  refine ⟨?_, fun event => ?_⟩
  · rw [List.append_nil]
    exact processed.trans recorded.processed
  · rw [List.append_nil, proceed_calls, SortedMap.total_insert_of_fresh _ _ fresh, storing,
      List.count_nil, Nat.zero_add, calls, proceed_appended, appended]
    exact recorded.appended event

theorem Recorded.advance (recorded : Recorded system uploads)
    (found : system.calls.get? id = some stage) :
    Recorded (system.advance id maxCount outside stage)
      (uploads ++ system.uploads (.step id outside)) := by
  rw [UploadSystem.uploads, found]
  cases stage with
  | batch event =>
      rw [UploadSystem.advance]
      split_ifs
      · exact recorded.ended found rfl rfl rfl rfl
      · exact recorded.still found rfl rfl rfl rfl
  | checkBatch taken =>
      rw [UploadSystem.advance]
      split_ifs
      · exact recorded.ended found rfl rfl rfl rfl
      · exact recorded.still found rfl rfl rfl rfl
  | submitBatch taken =>
      rw [UploadSystem.advance]
      cases system.queue with
      | none => exact recorded.ended found rfl rfl rfl rfl
      | some queue => exact recorded.still found rfl rfl rfl rfl
  | countBatch => exact recorded.ended found rfl rfl rfl rfl
  | checkImmediate event =>
      rw [UploadSystem.advance]
      split_ifs
      · exact recorded.ended found rfl rfl rfl rfl
      · exact recorded.still found rfl rfl rfl rfl
  | countImmediate event => exact recorded.still found rfl rfl rfl rfl
  | submitImmediate event =>
      rw [UploadSystem.advance]
      cases system.crucialQueue with
      | none => exact recorded.ended found rfl rfl rfl rfl
      | some queue => exact recorded.ended found rfl rfl rfl rfl
  | clearEvents => exact recorded.still found rfl rfl rfl rfl
  | clearInsert taken => exact recorded.still found rfl rfl rfl rfl
  | clearNotify => exact recorded.still found rfl rfl rfl rfl
  | upload runner rest =>
      cases rest with
      | nil => cases runner <;> exact recorded.ended found rfl rfl rfl rfl
      | cons event rest =>
          rw [UploadSystem.advance]
          cases handed : outside.uploadedEvent event with
          | none =>
              refine recorded.moved found rfl rfl fun other => ?_
              simp [List.filterMap_cons, Upload.secEvent?, UploadStage.storing, handed]
          | some uploaded =>
              refine recorded.moved found rfl rfl fun other => ?_
              simp [Upload.secEvent?, UploadStage.storing, handed]
  | store runner rest event =>
      have balance : ∀ other, (([] : List Upload).filterMap Upload.secEvent?).count other +
          [event.secEvent].count other + system.appended.count other =
            [].count other + (system.appended ++ [event.secEvent]).count other := by
        intro other
        rw [List.count_append, List.filterMap_nil, List.count_nil]
        omega
      rw [UploadSystem.advance]
      split_ifs
      · exact recorded.moved found rfl (List.append_nil _).symm balance
      · exact recorded.moved found rfl (List.append_nil _).symm balance
  | insert runner rest taken => exact recorded.still found rfl rfl rfl rfl

theorem Recorded.next (recorded : Recorded system uploads)
    (taken : next maxCount system action = some after) :
    Recorded after (uploads ++ system.uploads action) := by
  cases action with
  | uploadEvent id outside event =>
      rw [UploadSystem.next] at taken
      cases entered : enterEvent outside event with
      | returns code =>
          simp only [entered, Option.some.injEq] at taken
          exact taken ▸ (List.append_nil uploads).symm ▸ recorded
      | continues stage =>
          simp only [entered] at taken
          rcases enterEvent_continues entered with rfl | rfl <;>
            exact recorded.entered taken rfl rfl rfl rfl
  | clearEventCache id => exact recorded.entered taken rfl rfl rfl rfl
  | runTask id =>
      obtain ⟨⟨task, later⟩, -, taken⟩ := Option.bind_eq_some_iff.mp taken
      exact recorded.entered taken rfl rfl rfl rfl
  | runCrucialTask id =>
      obtain ⟨⟨task, later⟩, -, taken⟩ := Option.bind_eq_some_iff.mp taken
      exact recorded.entered taken rfl rfl rfl rfl
  | step id outside =>
      obtain ⟨stage, found, rfl⟩ := Option.map_eq_some_iff.mp taken
      exact recorded.advance found

end UploadSystem

/-- The events of a source that a call hands over. -/
def StoreCall.handed (source : Nat) : StoreCall → List SecEvent
  | .insertEvent other events => if other = source then events else []
  | _ => []

namespace EventLog

variable {parseJson : String → Option Json}

/-- The events of a source that the calls of a run hand over and that `InsertEvent` stores, or does
not store, under the configuration in force. -/
def handed (parseJson : String → Option Json) (source : Nat) (stores : Bool) :
    ConfigData → List StoreCall → List SecEvent
  | _, [] => []
  | config, call :: calls =>
      (call.handed source).filter
          (fun event => (operation? config source event).isSome = stores) ++
        handed parseJson source stores (StoreSystem.configAfter parseJson config call) calls

theorem handed_eq (source : Nat) (config : ConfigData) (calls : List StoreCall) :
    (↑(calls.flatMap (StoreCall.handed source)) : Multiset SecEvent) =
      ↑(handed parseJson source false config calls) +
        ↑(handed parseJson source true config calls) := by
  induction calls generalizing config with
  | nil => rfl
  | cons call calls ih =>
      have parts : (↑(call.handed source) : Multiset SecEvent) =
          ↑((call.handed source).filter fun event =>
              (operation? config source event).isSome = false) +
            ↑((call.handed source).filter fun event =>
              (operation? config source event).isSome = true) := by
        have others (event : SecEvent) :
            (!decide ((operation? config source event).isSome = false)) =
              decide ((operation? config source event).isSome = true) := by
          cases operation? config source event <;> rfl
        simpa only [Multiset.coe_add, Multiset.coe_eq_coe, others] using
          (List.filter_append_perm (fun event =>
            decide ((operation? config source event).isSome = false)) (call.handed source)).symm
      rw [List.flatMap_cons, ← Multiset.coe_add, parts,
        ih (StoreSystem.configAfter parseJson config call), handed, handed, ← Multiset.coe_add,
        ← Multiset.coe_add]
      exact add_add_add_comm _ _ _ _

theorem added_operations (config : ConfigData) (source : Nat) (events : List SecEvent) :
    (events.filterMap (operation? config source)).flatMap Retention.Operation.added =
      events.filter fun event => (operation? config source event).isSome = true := by
  induction events with
  | nil => rfl
  | cons event events ih =>
      cases taken : operation? config source event with
      | none => rw [List.filterMap_cons_none taken, List.filter_cons_of_neg (by simp [taken]), ih]
      | some operation =>
          obtain ⟨cfg, -, rfl⟩ := operation?_eq_some taken
          rw [List.filterMap_cons_some taken, List.filter_cons_of_pos (by simp [taken]),
            List.flatMap_cons, ih]
          rfl

/-- A call that inserts does so for the service or for a model. -/
def Sourced : StoreCall → Prop
  | .insertEvent source _ => source = userSource ∨ source = modelSource
  | _ => True

theorem added_call (config : ConfigData) {call : StoreCall} (sourced : Sourced call) :
    (↑((operations config call).flatMap Retention.Operation.added) : Multiset SecEvent) =
      ↑((call.handed userSource).filter fun event =>
          (operation? config userSource event).isSome = true) +
        ↑((call.handed modelSource).filter fun event =>
          (operation? config modelSource event).isSome = true) := by
  cases call with
  | insertEvent source events =>
      rw [operations, added_operations]
      rcases sourced with rfl | rfl
      · exact (add_zero _).symm
      · exact (zero_add _).symm
  | deleteOldEventByEventId | deleteAllEventByEventId =>
      rw [operations]
      split_ifs <;> rfl
  | query | count | update | restart => rfl

/-- A run adds the events that it stores for the service and for the models. -/
theorem added_history (config : ConfigData) {calls : List StoreCall}
    (sourced : ∀ call ∈ calls, Sourced call) :
    (↑((history parseJson config calls).flatMap Retention.Operation.added) :
        Multiset SecEvent) =
      ↑(handed parseJson userSource true config calls) +
        ↑(handed parseJson modelSource true config calls) := by
  induction calls generalizing config with
  | nil => rfl
  | cons call calls ih =>
      have later := ih (StoreSystem.configAfter parseJson config call)
        fun other mem => sourced other (List.mem_cons_of_mem call mem)
      rw [history, List.flatMap_append, ← Multiset.coe_add,
        added_call config (sourced call List.mem_cons_self), later, handed, handed,
        ← Multiset.coe_add, ← Multiset.coe_add]
      exact add_add_add_comm _ _ _ _

end EventLog

namespace UploadSystem

variable {system after : UploadSystem} {id maxCount : Nat} {outside : Surroundings}
  {stage : UploadStage} {action : UploadAction}

theorem sourced_insertions :
    ∀ call ∈ system.insertions action, EventLog.Sourced call := by
  intro call mem
  cases action with
  | step id outside =>
      simp only [insertions] at mem
      split at mem
      · exact List.mem_singleton.mp mem ▸ .inl rfl
      · exact List.mem_singleton.mp mem ▸ .inl rfl
      · exact absurd mem List.not_mem_nil
  | uploadEvent | clearEventCache | runTask | runCrucialTask => exact absurd mem List.not_mem_nil

theorem inserted_advance (found : system.calls.get? id = some stage) :
    (system.advance id maxCount outside stage).inserted.flatten = system.inserted.flatten ++
      (system.insertions (.step id outside)).flatMap (StoreCall.handed userSource) := by
  have added (taken : List SecEvent) : (system.inserted ++ [taken]).flatten =
      system.inserted.flatten ++ [StoreCall.insertEvent userSource taken].flatMap
        (StoreCall.handed userSource) := by
    rw [List.flatten_append, List.flatten_singleton, List.flatMap_singleton]
    rfl
  rw [insertions, found]
  cases stage with
  | batch | checkBatch | checkImmediate =>
      rw [advance]
      split_ifs <;> exact (List.append_nil _).symm
  | submitBatch =>
      rw [advance]
      cases system.queue <;> exact (List.append_nil _).symm
  | submitImmediate =>
      rw [advance]
      cases system.crucialQueue <;> exact (List.append_nil _).symm
  | countBatch | countImmediate | clearEvents | clearNotify => exact (List.append_nil _).symm
  | clearInsert taken => exact added taken
  | upload runner rest =>
      cases rest with
      | nil => cases runner <;> exact (List.append_nil _).symm
      | cons event rest =>
          rw [advance]
          cases outside.uploadedEvent event <;> exact (List.append_nil _).symm
  | store =>
      rw [advance]
      split_ifs <;> exact (List.append_nil _).symm
  | insert runner rest taken => exact added taken

/-- What a step inserts is what it hands to the store. -/
theorem inserted_next (taken : next maxCount system action = some after) :
    after.inserted.flatten = system.inserted.flatten ++
      (system.insertions action).flatMap (StoreCall.handed userSource) := by
  have entered {id : Nat} {stage : UploadStage} {middle : UploadSystem}
      (taken : middle.enter id stage = some after) (same : middle.inserted = system.inserted) :
      after.inserted.flatten = system.inserted.flatten ++ [] := by
    obtain ⟨-, rfl⟩ := enter_eq_some taken
    rw [proceed_inserted, same, List.append_nil]
  cases action with
  | uploadEvent id outside event =>
      rw [next] at taken
      cases enters : enterEvent outside event with
      | returns code =>
          simp only [enters, Option.some.injEq] at taken
          exact taken ▸ (List.append_nil _).symm
      | continues stage =>
          simp only [enters] at taken
          exact entered taken rfl
  | clearEventCache id => exact entered taken rfl
  | runTask id | runCrucialTask id =>
      obtain ⟨⟨task, later⟩, -, taken⟩ := Option.bind_eq_some_iff.mp taken
      exact entered taken rfl
  | step id outside =>
      obtain ⟨stage, found, rfl⟩ := Option.map_eq_some_iff.mp taken
      exact inserted_advance found

end UploadSystem

/-! ## The whole system -/

namespace ReportSystem

variable {parseJson : String → Option Json} {engine : Sql.Engine DatabaseHelper.schema}
  {system after : ReportSystem} {action : ReportAction} {maxCount : Nat}

/-- The services of a run; the last of them runs. -/
def services (system : ReportSystem) : List UploadService := system.ended ++ [system.service]

/-- The events that `UploadEvent` did not reject. -/
def accepted (system : ReportSystem) : List CollectorEvent :=
  system.services.flatMap fun service => service.1.accepted

def discarded (system : ReportSystem) : List CollectorEvent :=
  system.services.flatMap fun service => service.1.discarded

def uploads (system : ReportSystem) : List Upload := system.services.flatMap Prod.snd

/-- The reports that still waited in services that ended. -/
def abandoned (system : ReportSystem) : List CollectorEvent :=
  system.ended.flatMap fun service => service.1.waiting

/-- The uploaded events that were not handed to the store by services that ended. -/
def abandonedUploads (system : ReportSystem) : List SecEvent :=
  system.ended.flatMap fun service => service.1.unsaved

/-- The services and the calls of the store account for every event. -/
structure Accounted (parseJson : String → Option Json)
    (engine : Sql.Engine DatabaseHelper.schema) (system : ReportSystem) : Prop where
  services : ∀ service ∈ system.services, service.1.Conserved ∧ service.1.Recorded service.2
  storage : system.storage = system.calls.foldl (StoreSystem.after parseJson engine) {}
  inserted : system.calls.flatMap (StoreCall.handed userSource) =
    system.services.flatMap fun service => service.1.inserted.flatten
  sourced : ∀ call ∈ system.calls, EventLog.Sourced call

theorem accounted_started (queues : Bool) : Accounted parseJson engine (started queues {}) where
  services service mem := by
    rw [List.mem_singleton.mp mem]
    exact ⟨UploadSystem.conserved_started queues, UploadSystem.recorded_started queues⟩
  storage := rfl
  inserted := rfl
  sourced _ mem := absurd mem List.not_mem_nil

theorem handed_ofOthers {call : StoreCall} (others : call.ofOthers = true) :
    call.handed userSource = [] ∧ EventLog.Sourced call := by
  cases call with
  | insertEvent source events =>
      obtain rfl : source = modelSource := of_decide_eq_true others
      exact ⟨rfl, .inr rfl⟩
  | restart stream => exact absurd others Bool.false_ne_true
  | deleteOldEventByEventId | deleteAllEventByEventId | query | count | update =>
      exact ⟨rfl, trivial⟩

theorem Accounted.next (accounted : Accounted parseJson engine system)
    (taken : next parseJson engine maxCount system action = some after) :
    Accounted parseJson engine after := by
  cases action with
  | pipeline action =>
      obtain ⟨service, recorded, rfl⟩ := Option.map_eq_some_iff.mp taken
      obtain ⟨pipeline, step, rfl⟩ := Transition.recording_eq_some.mp recorded
      obtain ⟨conserved, record⟩ := accounted.services system.service
        (List.mem_append_right _ List.mem_cons_self)
      constructor
      · intro service mem
        rcases List.mem_append.mp mem with old | new
        · exact accounted.services service (List.mem_append_left _ old)
        · rw [List.mem_singleton.mp new]
          exact ⟨conserved.next step, record.next step⟩
      · simp only [serve]
        rw [accounted.storage, List.foldl_append]
      · have handed := accounted.inserted
        simp only [ReportSystem.services, List.flatMap_append, List.flatMap_singleton] at handed
        simp only [ReportSystem.services, serve, List.flatMap_append, List.flatMap_singleton,
          handed, UploadSystem.inserted_next step, List.append_assoc]
      · intro call mem
        rcases List.mem_append.mp mem with old | new
        · exact accounted.sourced call old
        · exact UploadSystem.sourced_insertions call new
  | storage call =>
      rw [ReportSystem.next] at taken
      split_ifs at taken with others
      obtain rfl := Option.some.inj taken
      obtain ⟨none, sourced⟩ := handed_ofOthers others
      constructor
      · exact accounted.services
      · simp only [serve]
        rw [accounted.storage, List.foldl_append]
      · simp only [serve, List.flatMap_append, List.flatMap_singleton, none, List.append_nil]
        exact accounted.inserted
      · intro other mem
        rcases List.mem_append.mp mem with old | new
        · exact accounted.sourced other old
        · exact List.mem_singleton.mp new ▸ sourced
  | restart queues stream =>
      obtain rfl := Option.some.inj taken
      constructor
      · intro service mem
        rcases List.mem_append.mp mem with old | new
        · exact accounted.services service old
        · rw [List.mem_singleton.mp new]
          exact ⟨UploadSystem.conserved_started queues, UploadSystem.recorded_started queues⟩
      · simp only [serve]
        rw [accounted.storage, List.foldl_append]
      · have handed := accounted.inserted
        simp only [ReportSystem.services] at handed
        simp only [ReportSystem.services, serve, List.flatMap_append, List.flatMap_singleton,
          ← handed]
        rfl
      · intro call mem
        rcases List.mem_append.mp mem with old | new
        · exact accounted.sourced call old
        · exact List.mem_singleton.mp new ▸ trivial

theorem coe_services {α : Type*} (part : UploadService → List α) :
    (↑(system.services.flatMap part) : Multiset α) =
      ↑(part system.service) + ↑(system.ended.flatMap part) := by
  rw [services, List.flatMap_append, List.flatMap_singleton, ← Multiset.coe_add]
  exact add_comm _ _

theorem Accounted.accepted_eq (accounted : Accounted parseJson engine system) :
    (↑system.accepted : Multiset CollectorEvent) =
      ↑system.service.1.waiting + ↑system.abandoned + ↑system.discarded +
        ↑(system.uploads.map Prod.fst) := by
  have parts : (↑system.accepted : Multiset CollectorEvent) =
      ↑(system.services.flatMap fun service => service.1.waiting) + ↑system.discarded +
        ↑(system.uploads.map Prod.fst) := by
    rw [accepted, discarded, uploads, List.map_flatMap]
    simp only [← Multiset.coe_bind]
    rw [← Multiset.bind_add, ← Multiset.bind_add]
    refine Multiset.bind_congr fun service mem => ?_
    obtain ⟨conserved, recorded⟩ := accounted.services service (Multiset.mem_coe.mp mem)
    rw [conserved.accepted_eq, recorded.processed]
  rw [parts, coe_services]
  rfl

theorem Accounted.uploads_eq (accounted : Accounted parseJson engine system) :
    (↑(system.uploads.filterMap Upload.secEvent?) : Multiset SecEvent) =
      ↑system.service.1.unsaved + ↑system.abandonedUploads +
        ↑(system.calls.flatMap (StoreCall.handed userSource)) := by
  have parts : (↑(system.uploads.filterMap Upload.secEvent?) : Multiset SecEvent) =
      ↑(system.services.flatMap fun service => service.1.unsaved) +
        ↑(system.services.flatMap fun service => service.1.inserted.flatten) := by
    rw [uploads, List.filterMap_flatMap]
    simp only [← Multiset.coe_bind]
    rw [← Multiset.bind_add]
    refine Multiset.bind_congr fun service mem => ?_
    obtain ⟨conserved, recorded⟩ := accounted.services service (Multiset.mem_coe.mp mem)
    rw [recorded.appended_eq, conserved.appended_eq, UploadSystem.unsaved, ← add_assoc,
      Multiset.coe_add, List.append_assoc]
  rw [parts, coe_services, accounted.inserted]
  rfl

theorem run_storage (storage : StoreSystem) (calls : List StoreCall) :
    Transition.run (StoreSystem.next parseJson engine) storage calls =
      some (calls.foldl (StoreSystem.after parseJson engine) storage) := by
  induction calls generalizing storage with
  | nil => rfl
  | cons call calls ih => exact ih (storage.after parseJson engine call)

/-- The uploaded events that `InsertEvent` did not store, since they were not configured for it. -/
def refused (parseJson : String → Option Json) (system : ReportSystem) : List SecEvent :=
  EventLog.handed parseJson userSource false {} system.calls

/-- The events of a source that `InsertEvent` stored. -/
def stored (parseJson : String → Option Json) (source : Nat) (system : ReportSystem) :
    List SecEvent :=
  EventLog.handed parseJson source true {} system.calls

/-- In every run from an empty table, every report that was accepted waits in the service, went with
one that ended, is discarded, or was uploaded.  Every event that an upload handed on is in the
service, went with one that ended, or was handed to the store, which refused it, lost it to newer
ones or to a deletion, or has it in the table, from which all queries are answered. -/
theorem reports_accounted {queues : Bool} {actions : List ReportAction} {final : ReportSystem}
    (reliable : engine.Reliable)
    (reach : Transition.run (next parseJson engine maxCount) (started queues {}) actions =
      some final) :
    (↑final.accepted : Multiset CollectorEvent) =
        ↑final.service.1.waiting + ↑final.abandoned + ↑final.discarded +
          ↑(final.uploads.map Prod.fst) ∧
      (↑(final.uploads.filterMap Upload.secEvent?) : Multiset SecEvent) =
        ↑final.service.1.unsaved + ↑final.abandonedUploads +
          (↑(final.refused parseJson) + ↑(final.stored parseJson userSource)) ∧
      (∃ lost, ↑(final.stored parseJson userSource) + ↑(final.stored parseJson modelSource) =
          lost + EventLog.events final.storage.store.table ∧
        Retention.Runs SecEvent.eventId EventLog.NoNewer
          (EventLog.history parseJson {} final.calls) 0
          (EventLog.events final.storage.store.table) lost) ∧
      EventLog.Reports engine final.storage.store
        (EventLog.events final.storage.store.table) := by
  have accounted : Accounted parseJson engine final :=
    Transition.run_stable (fun accounted taken => Accounted.next accounted taken)
      (accounted_started queues) reach
  have stepped : Transition.run (StoreSystem.next parseJson engine) {} final.calls =
      some final.storage := by
    rw [run_storage, accounted.storage]
  obtain ⟨⟨lost, runs⟩, sound⟩ :=
    EventLog.runs_history reliable EventLog.limited_empty EventLog.sound_initial stepped
  refine ⟨accounted.accepted_eq, ?_, ⟨lost, ?_, runs⟩, EventLog.reports_events reliable sound.kept⟩
  · rw [accounted.uploads_eq, EventLog.handed_eq userSource {}]
    rfl
  · have balance : ↑((EventLog.history parseJson {} final.calls).flatMap
        Retention.Operation.added) = lost + EventLog.events final.storage.store.table :=
      (zero_add _).symm.trans runs.balance
    rw [EventLog.added_history {} accounted.sourced] at balance
    exact balance

/-- A document after which event 7 goes to the table at once. -/
def uploadsSeven : Json :=
  .object [("eventcfg", .array [.object [("eventId", .text "7"), ("db_table", .text "risk_event"),
    ("storageRomNums", .number 1), ("isBatchUpload", .number 0)]])]

/-- Event 7 is reported, its task uploads it, and a run of `ClearEventCache` stores it. -/
def reportOfSeven : List ReportAction :=
  let outside : Surroundings := { config := {}, isJson := fun _ => true }
  [.restart true (some ""), .pipeline (.uploadEvent 0 outside { eventId := 7, content := "[]" })] ++
    List.replicate 3 (.pipeline (.step 0 outside)) ++ [.pipeline (.runCrucialTask 1)] ++
    List.replicate 3 (.pipeline (.step 1 outside)) ++ [.pipeline (.clearEventCache 2)] ++
    List.replicate 2 (.pipeline (.step 2 outside))

/-- The system after this report. -/
def afterReportOfSeven (system : ReportSystem) : ReportSystem :=
  (Transition.run (next (fun _ => some uploadsSeven) (.sequential DatabaseHelper.schema) 500)
    system reportOfSeven).getD system

theorem reports_accounted_reportOfSeven :
    EventLog.Answers
      (EventLog.events (afterReportOfSeven (started true {})).storage.store.table) (·.eventId = 7)
      (DatabaseHelper.queryEventByEventId (.sequential DatabaseHelper.schema)
        (afterReportOfSeven (started true {})).storage.store 7) :=
  (reports_accounted (fun _ => rfl) (Transition.run_eq_getD rfl)).2.2.2.byEventId 7

end ReportSystem

end SecurityGuard
