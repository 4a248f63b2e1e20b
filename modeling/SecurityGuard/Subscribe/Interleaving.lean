import SecurityGuard.Foundation.Execution
import SecurityGuard.Subscribe.Manager

/-!
# Overlapping operations on subscriptions

An operation on the sessions is a sequence of critical sections.  Those under `sessionMutex_`
are single steps.  `subscribeMutex_` is held from the check of the sessions to the end of the
collector call, which are two steps, so that sections of other operations fall between them.
An operation that is not interrupted does what the sequential function of the manager does.
-/

namespace SecurityGuard

/-- The number of a call. -/
abbrev CallId := Nat

/-- An operation on the sessions, with its arguments. -/
inductive Operation where
  | creatClient (eventGroup clientId : String) (callerPid : Int) (callback : Address)
  | insertSubscribeRecord (eventId : Int) (clientId : String)
  | insertSubscribeRecordWith (info : Manager.SubscribeInfo) (clientId : String)
  | removeSubscribeRecord (eventId : Int) (clientId : String) (cleanupSession : Bool)
  | destoryClient (clientId : String)
  | removeSubscribeRecordOnRemoteDied (callback : Address)
  deriving DecidableEq

/-- A collector call, with what its operation does next. -/
inductive CollectorTask where
  | insertion (eventId : Int) (clientId : String) (sessionCreated : Bool)
      (filters : List EventMuteFilter)
  | removal (eventId : Int) (clientId : String) (cleanupSession : Bool)
  | forgetting (eventId : Int) (todo : List Int) (clientId : String)
      (filters : List EventMuteFilter)
  deriving DecidableEq

/-- A critical section, or a plugin call, that does not need `subscribeMutex_`. -/
inductive Section where
  | enter (operation : Operation)
  | create (eventGroup clientId : String) (callerPid : Int) (callback : Address)
  | died (clientId : String) (events : List Int)
  | settle (task : CollectorTask) (code : Code)
  | checkMute (clientId : String) (filter : EventMuteFilter) (todo : List EventMuteFilter)
  | insertMute (clientId : String) (filter : EventMuteFilter) (todo : List EventMuteFilter)
  | removeMute (clientId : String) (filter : EventMuteFilter) (todo : List EventMuteFilter)
  deriving DecidableEq

/-- Where a call in flight stands. -/
inductive CallStage where
  /-- Does not need `subscribeMutex_`. -/
  | free (step : Section)
  /-- Waits for `subscribeMutex_`. -/
  | await (task : CollectorTask)
  /-- Holds `subscribeMutex_` and calls the collector. -/
  | collect (task : CollectorTask)
  deriving DecidableEq

namespace CollectorTask

/-- The event of a task. -/
def eventId : CollectorTask → Int
  | insertion eventId _ _ _ | removal eventId _ _ | forgetting eventId _ _ _ => eventId

variable {σ : Type} (config : ConfigData) (env : Externals σ) (manager : Manager σ)

/-- The check under both mutexes that decides whether the collector is called. -/
def needed : CollectorTask → Bool
  | insertion eventId _ _ _ => manager.isAnySessionSubscribes eventId
  | removal eventId _ _ | forgetting eventId _ _ _ => !manager.isAnySessionSubscribes eventId

/-- What a task asks of the collectors. -/
def call : CollectorTask → Code × Manager σ
  | insertion eventId _ _ _ => manager.subscribeSc config env eventId
  | removal eventId _ _ | forgetting eventId _ _ _ => manager.unSubscribeSc config env eventId

/-- `SubscribeScIfNeeded` and `UnSubscribeScIfLast` without interruption. -/
def callIfNeeded (task : CollectorTask) : Code × Manager σ :=
  if task.needed manager then task.call config env manager else (.success, manager)

theorem callIfNeeded_insertion (eventId : Int) (clientId : String) (sessionCreated : Bool)
    (filters : List EventMuteFilter) :
    (insertion eventId clientId sessionCreated filters).callIfNeeded config env manager =
      manager.subscribeScIfNeeded config env eventId := by
  cases any : manager.isAnySessionSubscribes eventId <;>
    simp [callIfNeeded, needed, call, Manager.subscribeScIfNeeded, any]

theorem callIfNeeded_removal (eventId : Int) (clientId : String) (cleanupSession : Bool) :
    (removal eventId clientId cleanupSession).callIfNeeded config env manager =
      manager.unSubscribeScIfLast config env eventId := by
  cases any : manager.isAnySessionSubscribes eventId <;>
    simp [callIfNeeded, needed, call, Manager.unSubscribeScIfLast, any]

theorem callIfNeeded_forgetting (eventId : Int) (todo : List Int) (clientId : String)
    (filters : List EventMuteFilter) :
    (forgetting eventId todo clientId filters).callIfNeeded config env manager =
      manager.unSubscribeScIfLast config env eventId :=
  callIfNeeded_removal config env manager eventId clientId false

end CollectorTask

namespace Section

/-- Continue with the filters of a new subscription. -/
def insertMutes (clientId : String) : List EventMuteFilter → Decision CallStage
  | [] => .returns .success
  | filter :: todo => .continues (.free (.checkMute clientId filter todo))

/-- Continue with the filters of a forgotten session. -/
def removeMutes (clientId : String) : List EventMuteFilter → Decision CallStage
  | [] => .returns .success
  | filter :: todo => .continues (.free (.removeMute clientId filter todo))

/-- Continue with the events of a forgotten session. -/
def forget (clientId : String) (filters : List EventMuteFilter) :
    List Int → Decision CallStage
  | [] => removeMutes clientId filters
  | eventId :: todo => .continues (.await (.forgetting eventId todo clientId filters))

variable {σ : Type} (config : ConfigData) (env : Externals σ) (manager : Manager σ)

/-- The first section of an operation. -/
def enterOperation : Operation → Manager σ × Decision CallStage
  | .creatClient eventGroup clientId callerPid callback =>
      let code := manager.isExceedLimited clientId eventGroup callerPid
      if code ≠ .success then (manager, .returns code)
      else (manager, .continues (.free (.create eventGroup clientId callerPid callback)))
  | .insertSubscribeRecord eventId clientId =>
      match manager.enterRecord eventId clientId with
      | .returns code => (manager, .returns code)
      | .continues (entered, filters) =>
          (entered, .continues (.await (.insertion eventId clientId false filters)))
  | .insertSubscribeRecordWith info clientId =>
      match manager.enterRecordWith info clientId with
      | .returns code => (manager, .returns code)
      | .continues (entered, sessionCreated) =>
          (entered, .continues (.await (.insertion info.eventId clientId sessionCreated [])))
  | .removeSubscribeRecord eventId clientId cleanupSession =>
      match manager.leaveRecord eventId clientId with
      | .returns code => (manager, .returns code)
      | .continues left => (left, .continues (.await (.removal eventId clientId cleanupSession)))
  | .destoryClient clientId =>
      match manager.leaveClient clientId with
      | .returns code => (manager, .returns code)
      | .continues (left, events, filters) => (left, forget clientId filters events)
  | .removeSubscribeRecordOnRemoteDied callback =>
      match manager.leaveCallback callback with
      | .returns _ => (manager, .returns .success)
      | .continues (left, clientId, events) =>
          (left, .continues (.free (.died clientId events)))

/-- The section after a collector call. -/
def settleTask (code : Code) : CollectorTask → Manager σ × Decision CallStage
  | .insertion eventId clientId sessionCreated filters =>
      if code ≠ .success then
        (manager.rollbackInsert eventId clientId sessionCreated, .returns code)
      else (manager, insertMutes clientId filters)
  | .removal eventId clientId cleanupSession =>
      if code ≠ .success then (manager.rollbackRemove eventId clientId, .returns code)
      else (manager.cleanupRecord eventId clientId cleanupSession, .returns .success)
  -- The answer is not heeded where a session ends.
  | .forgetting _ todo clientId filters => (manager, forget clientId filters todo)

def take : Section → Manager σ × Decision CallStage
  | enter operation => enterOperation manager operation
  | create eventGroup clientId callerPid callback =>
      let answer := manager.enterClient eventGroup clientId callerPid callback
      (answer.2, .returns answer.1)
  | died clientId events =>
      (manager.removeSdkAllEventFilter env clientId, forget clientId [] events)
  | settle task code => settleTask manager code task
  | checkMute clientId filter todo =>
      if manager.isFilterInSession clientId filter then
        (manager, .continues (.free (.insertMute clientId filter todo)))
      else (manager, insertMutes clientId todo)
  | insertMute clientId filter todo =>
      ((manager.insertMute config env filter clientId).2, insertMutes clientId todo)
  | removeMute clientId filter todo =>
      ((manager.removeMute config env filter clientId).2, removeMutes clientId todo)

end Section

/-- The manager and the calls in flight. -/
structure SubscribeSystem (σ : Type) where
  manager : Manager σ
  /-- The call that holds `subscribeMutex_`. -/
  subscribeMutex : Option CallId := none
  calls : SortedMap CallId CallStage := .empty
  /-- The codes that calls have returned, in order. -/
  returned : List (CallId × Code) := []

/-- A call of an operation, or its next section. -/
inductive SubscribeAction where
  | call (id : CallId) (operation : Operation)
  | step (id : CallId)
  deriving DecidableEq

/-- The call that takes the step. -/
def SubscribeAction.step? : SubscribeAction → Option CallId
  | .call _ _ => none
  | .step id => some id

namespace SubscribeSystem

variable {σ : Type} (config : ConfigData) (env : Externals σ) (system : SubscribeSystem σ)

/-- Move a call to its next stage, or let it return. -/
def proceed (id : CallId) : Decision CallStage → SubscribeSystem σ
  | .continues stage => { system with calls := system.calls.insert id stage }
  | .returns code =>
      { system with
        calls := system.calls.erase id
        returned := system.returned ++ [(id, code)] }

/-- One step of a call. -/
def callStep (id : CallId) : CallStage → Option (SubscribeSystem σ)
  | .free step =>
      let taken := step.take config env system.manager
      some ({ system with manager := taken.1 }.proceed id taken.2)
  | .await task =>
      if system.subscribeMutex ≠ none then none
      -- Whether the collector is wanted is read once `subscribeMutex_` is held.
      else if task.needed system.manager then
        some ({ system with subscribeMutex := some id }.proceed id (.continues (.collect task)))
      else some (system.proceed id (.continues (.free (.settle task .success))))
  | .collect task =>
      let answer := task.call config env system.manager
      some ({ system with manager := answer.2, subscribeMutex := none }.proceed id
        (.continues (.free (.settle task answer.1))))

/-- One step of the system: a call arrives or moves on. -/
def next : Transition (SubscribeSystem σ) SubscribeAction := fun system action =>
  match action with
  | .call id operation =>
      if system.calls.contains id then none
      else some (system.proceed id (.continues (.free (.enter operation))))
  | .step id => (system.calls.get? id).bind fun stage => system.callStep config env id stage

/-- What an operation does when no section of another one falls between its own. -/
def perform (manager : Manager σ) : Operation → Code × Manager σ
  | .creatClient eventGroup clientId callerPid callback =>
      manager.creatClient eventGroup clientId callerPid callback
  | .insertSubscribeRecord eventId clientId =>
      manager.insertSubscribeRecord config env eventId clientId
  | .insertSubscribeRecordWith info clientId =>
      manager.insertSubscribeRecordWith config env info clientId
  | .removeSubscribeRecord eventId clientId cleanupSession =>
      manager.removeSubscribeRecordCore config env eventId clientId cleanupSession
  | .destoryClient clientId => manager.destoryClient config env clientId
  | .removeSubscribeRecordOnRemoteDied callback =>
      (.success, manager.removeSubscribeRecordOnRemoteDied config env callback)

/-- Without interruption a call that has come to a decision returns with an answer. -/
def Ends (id : CallId) (before : Manager σ) (decision : Decision CallStage)
    (answer : Code × Manager σ) : Prop :=
  ∀ system : SubscribeSystem σ, system.manager = before → system.subscribeMutex = none →
    ∃ steps, Transition.run (next config env) (system.proceed id decision)
        (List.replicate steps (.step id)) =
      some ({ system with manager := answer.2 }.proceed id (.returns answer.1))

variable {config env} {id : CallId} {before : Manager σ} {answer : Code × Manager σ}

@[simp]
theorem proceed_manager (system : SubscribeSystem σ) (decision : Decision CallStage) :
    (system.proceed id decision).manager = system.manager := by
  cases decision <;> rfl

@[simp]
theorem proceed_subscribeMutex (system : SubscribeSystem σ) (decision : Decision CallStage) :
    (system.proceed id decision).subscribeMutex = system.subscribeMutex := by
  cases decision <;> rfl

theorem proceed_proceed (system : SubscribeSystem σ) (stage : CallStage) (manager : Manager σ)
    (holder : Option CallId) (decision : Decision CallStage) :
    { system.proceed id (.continues stage) with manager, subscribeMutex := holder }.proceed id
        decision =
      { system with manager, subscribeMutex := holder }.proceed id decision := by
  cases decision with
  | returns code =>
      have erased : (system.calls.insert id stage).erase id = system.calls.erase id :=
        SortedMap.ext_get? fun key => by by_cases same : key = id <;> simp [same]
      simp [proceed, erased]
  | continues later =>
      have inserted : (system.calls.insert id stage).insert id later =
          system.calls.insert id later :=
        SortedMap.ext_get? fun key => by by_cases same : key = id <;> simp [same]
      simp [proceed, inserted]

theorem ends_returns (code : Code) : Ends config env id before (.returns code) (code, before) := by
  intro system manager _
  refine ⟨0, ?_⟩
  subst manager
  rfl

theorem Ends.head {stage : CallStage} {manager : Manager σ} {decision : Decision CallStage}
    (rest : Ends config env id manager decision answer)
    (taken : ∀ system : SubscribeSystem σ, system.manager = before →
      system.subscribeMutex = none → ∃ steps,
        Transition.run (next config env) (system.proceed id (.continues stage))
            (List.replicate steps (.step id)) =
          some ({ system with manager }.proceed id decision)) :
    Ends config env id before (.continues stage) answer := by
  intro system same free
  obtain ⟨front, first⟩ := taken system same free
  obtain ⟨back, second⟩ := rest { system with manager } rfl free
  refine ⟨front + back, ?_⟩
  rw [List.replicate_add, Transition.run_append, first]
  exact second

theorem step_proceed (system : SubscribeSystem σ) (stage : CallStage) :
    next config env (system.proceed id (.continues stage)) (.step id) =
      (system.proceed id (.continues stage)).callStep config env id stage := by
  simp [next, proceed]

theorem ends_section {step : Section}
    (rest : Ends config env id (step.take config env before).1 (step.take config env before).2
      answer) :
    Ends config env id before (.continues (.free step)) answer := by
  refine rest.head fun system same free => ⟨1, ?_⟩
  subst same
  simp only [List.replicate_one, Transition.run, step_proceed, callStep, Option.bind_some]
  exact congrArg some (proceed_proceed system _ _ system.subscribeMutex _)

theorem ends_await {task : CollectorTask}
    (rest : Ends config env id (task.callIfNeeded config env before).2
      (.continues (.free (.settle task (task.callIfNeeded config env before).1))) answer) :
    Ends config env id before (.continues (.await task)) answer := by
  refine rest.head fun system same free => ?_
  subst same
  by_cases needed : task.needed system.manager = true
  · refine ⟨2, ?_⟩
    have first : next config env (system.proceed id (.continues (.await task))) (.step id) =
        some ({ system with subscribeMutex := some id }.proceed id
          (.continues (.collect task))) := by
      rw [step_proceed, callStep, if_neg (by simp [free]), if_pos (by simpa using needed)]
      exact congrArg some (proceed_proceed system _ system.manager (some id) _)
    simp only [List.replicate_succ, List.replicate_zero, Transition.run, first, Option.bind_some,
      step_proceed, callStep, CollectorTask.callIfNeeded, if_pos needed]
    rw [proceed_proceed { system with subscribeMutex := some id }, ← free]
    rfl
  · refine ⟨1, ?_⟩
    have first : next config env (system.proceed id (.continues (.await task))) (.step id) =
        some (system.proceed id (.continues (.free (.settle task .success)))) := by
      rw [step_proceed, callStep, if_neg (by simp [free]), if_neg (by simpa using needed)]
      exact congrArg some (proceed_proceed system _ system.manager system.subscribeMutex _)
    simp only [List.replicate_one, Transition.run, first, Option.bind_some,
      CollectorTask.callIfNeeded, if_neg needed]

theorem ends_insertMutes (clientId : String) (filters : List EventMuteFilter) :
    Ends config env id before (Section.insertMutes clientId filters)
      (.success, Manager.insertMutes config env clientId filters before) := by
  induction filters generalizing before with
  | nil => exact ends_returns .success
  | cons filter todo ih =>
      refine ends_section ?_
      by_cases present : before.isFilterInSession clientId filter = true
      · simp only [Section.take, Manager.insertMutes, if_pos present]
        exact ends_section ih
      · simp only [Section.take, Manager.insertMutes, if_neg present]
        exact ih

theorem ends_removeMutes (clientId : String) (filters : List EventMuteFilter) :
    Ends config env id before (Section.removeMutes clientId filters)
      (.success, Manager.removeMutes config env clientId filters before) := by
  induction filters generalizing before with
  | nil => exact ends_returns .success
  | cons filter todo ih => exact ends_section ih

theorem ends_forget (clientId : String) (filters : List EventMuteFilter) (events : List Int) :
    Ends config env id before (Section.forget clientId filters events)
      (.success, Manager.removeMutes config env clientId filters
        (Manager.unSubscribeAll config env events before)) := by
  induction events generalizing before with
  | nil => exact ends_removeMutes clientId filters
  | cons eventId todo ih =>
      refine ends_await (ends_section ?_)
      rw [CollectorTask.callIfNeeded_forgetting]
      exact ih

/-- A call that is not interrupted does what the sequential operation does, and returns. -/
theorem ends_perform (manager : Manager σ) (operation : Operation) :
    Ends config env id manager (.continues (.free (.enter operation)))
      (perform config env manager operation) := by
  refine ends_section ?_
  rw [Section.take]
  cases operation with
  | creatClient eventGroup clientId callerPid callback =>
      rw [Section.enterOperation, perform, Manager.creatClient]
      split_ifs
      · exact ends_returns _
      · exact ends_section (ends_returns _)
  | insertSubscribeRecord eventId clientId =>
      rw [Section.enterOperation, perform, Manager.insertSubscribeRecord]
      cases manager.enterRecord eventId clientId with
      | returns code => exact ends_returns code
      | continues entered =>
          refine ends_await (ends_section ?_)
          rw [CollectorTask.callIfNeeded_insertion, Section.take, Section.settleTask]
          dsimp only
          split_ifs
          · exact ends_returns _
          · exact ends_insertMutes clientId entered.2
  | insertSubscribeRecordWith info clientId =>
      rw [Section.enterOperation, perform, Manager.insertSubscribeRecordWith]
      cases manager.enterRecordWith info clientId with
      | returns code => exact ends_returns code
      | continues entered =>
          refine ends_await (ends_section ?_)
          rw [CollectorTask.callIfNeeded_insertion, Section.take, Section.settleTask]
          dsimp only
          split_ifs
          · exact ends_returns _
          · exact ends_insertMutes clientId []
  | removeSubscribeRecord eventId clientId cleanupSession =>
      rw [Section.enterOperation, perform, Manager.removeSubscribeRecordCore]
      cases manager.leaveRecord eventId clientId with
      | returns code => exact ends_returns code
      | continues left =>
          refine ends_await (ends_section ?_)
          rw [CollectorTask.callIfNeeded_removal, Section.take, Section.settleTask]
          dsimp only
          split_ifs
          · exact ends_returns _
          · exact ends_returns _
  | destoryClient clientId =>
      rw [Section.enterOperation, perform, Manager.destoryClient]
      cases manager.leaveClient clientId with
      | returns code => exact ends_returns code
      | continues left => exact ends_forget clientId left.2.2 left.2.1
  | removeSubscribeRecordOnRemoteDied callback =>
      rw [Section.enterOperation, perform, Manager.removeSubscribeRecordOnRemoteDied]
      cases manager.leaveCallback callback with
      | returns _ => exact ends_returns .success
      | continues left => exact ends_section (ends_forget left.2.1 [] left.2.2)

/-- Every call succeeds and changes nothing. -/
def idleExternals : Externals Unit where
  subscribeCollectors _ _ := (.success, ())
  subscribeCollectorsBySticky _ _ := (.success, ())
  unsubscribeCollectors _ _ := (.success, ())
  scSubscribe _ _ := (.success, ())
  scUnsubscribe _ _ := (.success, ())
  eventFilter := none

/-- A call that is not interrupted, with the number of its steps. -/
def uninterrupted (id : CallId) (operation : Operation) (steps : Nat) : List SubscribeAction :=
  .call id operation :: List.replicate steps (.step id)

end SubscribeSystem

end SecurityGuard
