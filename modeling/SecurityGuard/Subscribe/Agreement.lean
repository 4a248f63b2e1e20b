import SecurityGuard.Subscribe.Interleaving
import SecurityGuard.Subscribe.Sessions

/-!
# Subscriptions and collectors agree when nothing is in flight

While operations overlap, the collector of an event may lag behind the sessions.  Whenever the
two differ some call in flight is still to make the collector call that settles the difference.
This holds as long as every `RemoveSubscribeRecord` that comes to call the collector finds it
subscribed: one that comes too late gets `failed` and enters its subscription again.
-/

namespace SecurityGuard

/-- The task asks for the collector of an event. -/
def CollectorTask.subscribes (eventId : Int) : CollectorTask → Prop
  | insertion event _ _ _ => event = eventId
  | removal _ _ _ | forgetting _ _ _ _ => False

/-- The task, or one after it, gives the collector of an event up. -/
def CollectorTask.releases (eventId : Int) : CollectorTask → Prop
  | insertion _ _ _ _ => False
  | removal event _ _ => event = eventId
  | forgetting event todo _ _ => event = eventId ∨ eventId ∈ todo

/-- A `RemoveSubscribeRecord` of an event makes the call. -/
def CollectorTask.IsRemoval (eventId : Int) : CollectorTask → Prop
  | removal event _ _ => event = eventId
  | insertion _ _ _ _ | forgetting _ _ _ _ => False

/-- The section still has to give up its use of the event. -/
def Section.releases (eventId : Int) : Section → Prop
  | died _ events => eventId ∈ events
  | settle (.forgetting _ todo _ _) _ => eventId ∈ todo
  | _ => False

namespace CallStage

/-- The call will ask for the collector of an event. -/
def willSubscribe (eventId : Int) : CallStage → Prop
  | free _ => False
  | await task | collect task => task.subscribes eventId

/-- The call will give the collector of an event up. -/
def willUnsubscribe (eventId : Int) : CallStage → Prop
  | free step => step.releases eventId
  | await task | collect task => task.releases eventId

/-- A `RemoveSubscribeRecord` of an event is about to call `UnSubscribeSc`. -/
def RemovesCollector (eventId : Int) : CallStage → Prop
  | collect task => task.IsRemoval eventId
  | free _ | await _ => False

instance (eventId : Int) : DecidablePred (RemovesCollector eventId)
  | collect (.removal event _ _) => inferInstanceAs (Decidable (event = eventId))
  | collect (.insertion _ _ _ _) | collect (.forgetting _ _ _ _) | free _ | await _ =>
      inferInstanceAs (Decidable False)

/-- The stage is not one of a collector call or of its answer. -/
def Apart : CallStage → Prop
  | free (.settle _ _) | collect _ => False
  | _ => True

end CallStage

/-- The stage that a decision leads to has a property. -/
def Decision.Will {α : Type} (property : α → Prop) : Decision α → Prop
  | returns _ => False
  | continues stage => property stage

/-- The stage that a decision leads to, if any, has a property. -/
def Decision.Only {α : Type} (property : α → Prop) : Decision α → Prop
  | returns _ => True
  | continues stage => property stage

namespace Section

variable {σ : Type} {config : ConfigData} {env : Externals σ} {manager : Manager σ}
  {clientId : String} {eventId : Int}

theorem apart_insertMutes (filters : List EventMuteFilter) :
    (insertMutes clientId filters).Only CallStage.Apart := by
  cases filters <;> exact trivial

theorem apart_removeMutes (filters : List EventMuteFilter) :
    (removeMutes clientId filters).Only CallStage.Apart := by
  cases filters <;> exact trivial

theorem apart_forget (filters : List EventMuteFilter) (events : List Int) :
    (forget clientId filters events).Only CallStage.Apart := by
  cases events with
  | nil => exact apart_removeMutes filters
  | cons event todo => exact trivial

theorem will_forget (filters : List EventMuteFilter) {events : List Int} (mem : eventId ∈ events) :
    (forget clientId filters events).Will (CallStage.willUnsubscribe eventId) := by
  cases events with
  | nil => exact absurd mem List.not_mem_nil
  | cons event todo =>
      rcases List.mem_cons.mp mem with rfl | mem
      · exact .inl rfl
      · exact .inr mem

/-- What a section does to an event: who subscribes it changes only together with the collector
call that follows. -/
structure Effect (config : ConfigData) (eventId : Int) (before : Manager σ) (step : Section)
    (after : Manager σ) (decision : Decision CallStage) : Prop where
  collected : after.collected config eventId = before.collected config eventId
  passes : step.releases eventId → decision.Will (CallStage.willUnsubscribe eventId)
  apart : decision.Only CallStage.Apart
  sessions : after.isAnySessionSubscribes eventId = before.isAnySessionSubscribes eventId ∨
    after.isAnySessionSubscribes eventId = true ∧
      decision.Will (CallStage.willSubscribe eventId) ∨
    (after.isAnySessionSubscribes eventId = true → before.isAnySessionSubscribes eventId = true) ∧
      decision.Will (CallStage.willUnsubscribe eventId)

theorem Effect.quiet {before after : Manager σ} {step : Section} {decision : Decision CallStage}
    (collected : after.collected config eventId = before.collected config eventId)
    (passes : step.releases eventId → decision.Will (CallStage.willUnsubscribe eventId))
    (apart : decision.Only CallStage.Apart)
    (same : ∀ clientId, after.subscribes clientId eventId = before.subscribes clientId eventId) :
    Effect config eventId before step after decision :=
  ⟨collected, passes, apart, .inl (Manager.isAnySessionSubscribes_congr same)⟩

theorem Effect.entered {before after : Manager σ} {step : Section} {event : Int}
    {sessionCreated : Bool} {filters : List EventMuteFilter} (only : before.SessionsOnly after)
    (subscribed : ∀ other event', after.subscribes other event' =
      (decide (other = clientId ∧ event' = event) || before.subscribes other event'))
    (passes : ¬ step.releases eventId) :
    Effect config eventId before step after
      (.continues (.await (.insertion event clientId sessionCreated filters))) := by
  refine ⟨only.collected eventId, fun releases => absurd releases passes, trivial, ?_⟩
  by_cases same : event = eventId
  · refine .inr (.inl ⟨?_, same⟩)
    exact Manager.isAnySessionSubscribes_iff.mpr ⟨clientId, by simp [subscribed, same]⟩
  · refine .inl (Manager.isAnySessionSubscribes_congr fun other => ?_)
    simp [subscribed, Ne.symm same]

theorem Effect.left {before after : Manager σ} {step : Section} {decision : Decision CallStage}
    (only : before.SessionsOnly after) (passes : ¬ step.releases eventId)
    (apart : decision.Only CallStage.Apart)
    (fewer : ∀ other, after.subscribes other eventId → before.subscribes other eventId)
    (given : ∀ other, before.subscribes other eventId → after.subscribes other eventId ∨
      decision.Will (CallStage.willUnsubscribe eventId)) :
    Effect config eventId before step after decision := by
  refine ⟨only.collected eventId, fun releases => absurd releases passes, apart, ?_⟩
  by_cases will : decision.Will (CallStage.willUnsubscribe eventId)
  · exact .inr (.inr ⟨Manager.isAnySessionSubscribes_mono fewer, will⟩)
  · refine .inl (Manager.isAnySessionSubscribes_congr fun other => Bool.eq_iff_iff.mpr ⟨?_, ?_⟩)
    · exact fewer other
    · intro subscribes
      exact (given other subscribes).resolve_right will

theorem enterOperation_effect (operation : Operation) :
    Effect config eventId manager (.enter operation) (enterOperation manager operation).1
      (enterOperation manager operation).2 := by
  have refused (code : Code) :
      Effect config eventId manager (.enter operation) manager (.returns code) :=
    .quiet rfl (fun releases => releases.elim) trivial fun _ => rfl
  cases operation with
  | creatClient eventGroup clientId callerPid callback =>
      rw [enterOperation]
      split_ifs
      · exact refused _
      · exact .quiet rfl (fun releases => releases.elim) trivial fun _ => rfl
  | insertSubscribeRecord event clientId =>
      rw [enterOperation]
      cases taken : manager.enterRecord event clientId with
      | returns code => exact refused code
      | continues entered =>
          obtain ⟨only, -, subscribed⟩ := Manager.enterRecord_continues taken
          exact .entered only subscribed id
  | insertSubscribeRecordWith info clientId =>
      rw [enterOperation]
      cases taken : manager.enterRecordWith info clientId with
      | returns code => exact refused code
      | continues entered =>
          obtain ⟨only, -, subscribed⟩ := Manager.enterRecordWith_continues taken
          exact .entered only subscribed id
  | removeSubscribeRecord event clientId cleanupSession =>
      rw [enterOperation]
      cases taken : manager.leaveRecord event clientId with
      | returns code => exact refused code
      | continues left =>
          obtain ⟨only, -, subscribed⟩ := Manager.leaveRecord_continues taken
          refine .left only id trivial (fun other => by simp [subscribed]) fun other before => ?_
          by_cases same : event = eventId
          · exact .inr same
          · exact .inl (by simp [subscribed, Ne.symm same, before])
  | destoryClient clientId =>
      rw [enterOperation]
      cases taken : manager.leaveClient clientId with
      | returns code => exact refused code
      | continues left =>
          obtain ⟨only, events, subscribed⟩ := Manager.leaveClient_continues taken
          refine .left only id (apart_forget _ _) (fun other => by simp [subscribed])
            fun other before => ?_
          by_cases same : other = clientId
          · exact .inr (will_forget _ ((events eventId).mpr (same ▸ before)))
          · exact .inl (by simp [subscribed, same, before])
  | removeSubscribeRecordOnRemoteDied callback =>
      rw [enterOperation]
      cases taken : manager.leaveCallback callback with
      | returns _ => exact refused .success
      | continues left =>
          obtain ⟨only, events, subscribed⟩ := Manager.leaveCallback_continues taken
          refine .left only id trivial (fun other => by simp [subscribed]) fun other before => ?_
          by_cases same : other = left.2.1
          · exact .inr ((events eventId).mpr (same ▸ before))
          · exact .inl (by simp [subscribed, same, before])

/-- A collector call for the event succeeded, if an insertion or a removal asked for it. -/
def Answered (eventId : Int) : Section → Prop
  | settle (.insertion event _ _ _) code | settle (.removal event _ _) code =>
      event = eventId → code = .success
  | _ => True

theorem settleTask_effect {task : CollectorTask} {code : Code}
    (answered : Answered eventId (.settle task code)) :
    Effect config eventId manager (.settle task code) (settleTask manager code task).1
      (settleTask manager code task).2 := by
  cases task with
  | insertion event clientId sessionCreated filters =>
      rw [settleTask]
      split_ifs with failed
      · have other : eventId ≠ event := fun same => failed (answered same.symm)
        obtain ⟨only, subscribed⟩ := Manager.rollbackInsert_spec manager clientId event
          sessionCreated
        exact .quiet (only.collected eventId) id trivial fun clientId => by simp [subscribed, other]
      · exact .quiet rfl (fun releases => releases.elim) (apart_insertMutes filters) fun _ => rfl
  | removal event clientId cleanupSession =>
      rw [settleTask]
      split_ifs with failed
      · have other : eventId ≠ event := fun same => failed (answered same.symm)
        obtain ⟨only, subscribed⟩ := Manager.rollbackRemove_spec manager clientId event
        exact .quiet (only.collected eventId) id trivial fun clientId => by simp [subscribed, other]
      · obtain ⟨only, subscribed⟩ := Manager.cleanupRecord_spec manager clientId event
          cleanupSession
        exact .quiet (only.collected eventId) id trivial fun clientId => subscribed clientId eventId
  | forgetting event todo clientId filters =>
      exact .quiet rfl (will_forget filters) (apart_forget filters todo) fun _ => rfl

theorem take_effect {step : Section} (answered : Answered eventId step) :
    Effect config eventId manager step (step.take config env manager).1
      (step.take config env manager).2 := by
  cases step with
  | enter operation => exact enterOperation_effect operation
  | create eventGroup clientId callerPid callback =>
      obtain ⟨only, subscribed⟩ := Manager.enterClient_spec manager clientId eventGroup
        callerPid callback
      exact .quiet (only.collected eventId) id trivial fun clientId => subscribed clientId eventId
  | died clientId events =>
      obtain ⟨world, same⟩ := Manager.removeSdkAllEventFilter_world env manager clientId
      rw [take, same]
      exact .quiet rfl (will_forget []) (apart_forget [] events) fun _ => rfl
  | settle task code => exact settleTask_effect answered
  | checkMute clientId filter todo =>
      rw [take]
      split_ifs
      · exact .quiet rfl id trivial fun _ => rfl
      · exact .quiet rfl (fun releases => releases.elim) (apart_insertMutes todo) fun _ => rfl
  | insertMute clientId filter todo =>
      obtain ⟨world, same⟩ := Manager.callFilter_world config env manager clientId
        FilterPlugin.setEventFilter filter
      rw [take, Manager.insertMute, same]
      exact .quiet rfl (fun releases => releases.elim) (apart_insertMutes todo) fun _ => rfl
  | removeMute clientId filter todo =>
      obtain ⟨world, same⟩ := Manager.callFilter_world config env manager clientId
        FilterPlugin.removeEventFilter filter
      rw [take, Manager.removeMute, same]
      exact .quiet rfl (fun releases => releases.elim) (apart_removeMutes todo) fun _ => rfl

end Section

namespace CollectorTask

variable {σ : Type} {config : ConfigData} {env : Externals σ} {manager : Manager σ}
  {task : CollectorTask} {eventId : Int}

variable (config env manager) in
theorem call_collectorOnly :
    manager.CollectorOnly task.eventId (task.call config env manager).2 := by
  cases task with
  | insertion event => exact Manager.subscribeSc_collectorOnly _ _ _ _
  | removal event => exact Manager.unSubscribeSc_collectorOnly _ _ _ _
  | forgetting event => exact Manager.unSubscribeSc_collectorOnly _ _ _ _

theorem eventId_of_subscribes (subscribes : task.subscribes eventId) : task.eventId = eventId := by
  cases task with
  | insertion event => exact subscribes
  | removal event => exact subscribes.elim
  | forgetting event => exact subscribes.elim

theorem releases_settle {code : Code} (releases : task.releases eventId)
    (other : task.eventId ≠ eventId) : (Section.settle task code).releases eventId := by
  cases task with
  | insertion event => exact releases.elim
  | removal event => exact absurd releases other
  | forgetting event todo => exact releases.resolve_left other

theorem needed_of_subscribes (subscribes : task.subscribes eventId) :
    task.needed manager = manager.isAnySessionSubscribes eventId := by
  cases task with
  | insertion event =>
      obtain rfl : event = eventId := subscribes
      rfl
  | removal event => exact subscribes.elim
  | forgetting event => exact subscribes.elim

theorem needed_of_not_subscribes (event : task.eventId = eventId)
    (releases : ¬ task.subscribes eventId) :
    task.needed manager = !manager.isAnySessionSubscribes eventId := by
  subst event
  cases task with
  | insertion event => exact absurd rfl releases
  | removal event => rfl
  | forgetting event => rfl

theorem call_collects (succeeds : env.CollectorsSucceed)
    (plain : config.PlainSubscribeColl eventId) (subscribes : task.subscribes eventId) :
    (task.call config env manager).1 = .success ∧
      (task.call config env manager).2.collected config eventId = true := by
  cases task with
  | insertion event =>
      obtain rfl : event = eventId := subscribes
      exact Manager.subscribeSc_collects succeeds plain
  | removal event => exact subscribes.elim
  | forgetting event => exact subscribes.elim

theorem call_releases (succeeds : env.CollectorsSucceed)
    (plain : config.PlainSubscribeColl eventId) (event : task.eventId = eventId)
    (releases : ¬ task.subscribes eventId) :
    ((task.call config env manager).1 = .success ↔
        manager.collected config eventId = true) ∧
      (task.call config env manager).2.collected config eventId = false := by
  subst event
  cases task with
  | insertion event => exact absurd rfl releases
  | removal event => exact Manager.unSubscribeSc_releases succeeds plain
  | forgetting event => exact Manager.unSubscribeSc_releases succeeds plain

theorem eventId_of_removal (removal : task.IsRemoval eventId) : task.eventId = eventId := by
  cases task with
  | insertion event => exact removal.elim
  | removal event => exact removal
  | forgetting event => exact removal.elim

theorem not_releases_of_subscribes (subscribes : task.subscribes eventId) :
    ¬ task.releases eventId := by
  cases task with
  | insertion event => exact id
  | removal event => exact subscribes.elim
  | forgetting event => exact subscribes.elim

theorem answered_of_release {code : Code} (releases : ¬ task.subscribes eventId)
    (heeds : task.IsRemoval eventId → code = .success) :
    (Section.settle task code).Answered eventId := by
  cases task with
  | insertion event => exact fun same => absurd same releases
  | removal event => exact heeds
  | forgetting event => exact trivial

theorem answered_success : (Section.settle task .success).Answered eventId := by
  cases task with
  | insertion event => exact fun _ => rfl
  | removal event => exact fun _ => rfl
  | forgetting event => exact trivial

end CollectorTask

namespace SubscribeSystem

variable {σ : Type} {config : ConfigData} {env : Externals σ} {system : SubscribeSystem σ}
  {eventId : Int} {id other : CallId} {stage : CallStage} {decision : Decision CallStage}
  {property : CallStage → Prop}

/-! ## Calls in flight -/

theorem get?_proceed_of_ne (ne : other ≠ id) :
    (system.proceed id decision).calls.get? other = system.calls.get? other := by
  cases decision <;> simp [proceed, ne]

theorem get?_proceed_self :
    (system.proceed id decision).calls.get? id = some stage ↔ decision = .continues stage := by
  cases decision <;> simp [proceed]

/-- Some call in flight is at a stage with a property. -/
def Pending (property : CallStage → Prop) (system : SubscribeSystem σ) : Prop :=
  ∃ id stage, system.calls.get? id = some stage ∧ property stage

theorem pending_of_will (will : decision.Will property) :
    Pending property (system.proceed id decision) := by
  cases decision with
  | returns code => exact will.elim
  | continues stage => exact ⟨id, stage, get?_proceed_self.mpr rfl, will⟩

theorem Pending.proceed (pending : Pending property system)
    (passes : ∀ stage, system.calls.get? id = some stage → property stage →
      decision.Will property) :
    Pending property (system.proceed id decision) := by
  obtain ⟨holder, stage, found, holds⟩ := pending
  by_cases same : holder = id
  · subst same
    exact pending_of_will (passes stage found holds)
  · exact ⟨holder, stage, by rwa [get?_proceed_of_ne same], holds⟩

/-- Where sessions and collector differ on an event, a call in flight settles the difference. -/
structure Agreeing (config : ConfigData) (eventId : Int) (system : SubscribeSystem σ) : Prop where
  starts : system.manager.isAnySessionSubscribes eventId = true →
    system.manager.collected config eventId = false →
    Pending (CallStage.willSubscribe eventId) system
  stops : system.manager.isAnySessionSubscribes eventId = false →
    system.manager.collected config eventId = true →
    Pending (CallStage.willUnsubscribe eventId) system
  holder : ∀ id task, system.calls.get? id = some (.collect task) →
    system.subscribeMutex = some id
  /-- The check that a collector call relies on still holds, or is about to be redone. -/
  starting : ∀ id task, system.calls.get? id = some (.collect task) → task.subscribes eventId →
    system.manager.isAnySessionSubscribes eventId = true ∨
      Pending (CallStage.willUnsubscribe eventId) system
  stopping : ∀ id task, system.calls.get? id = some (.collect task) →
    ¬ task.subscribes eventId → task.eventId = eventId →
    system.manager.isAnySessionSubscribes eventId = false ∨
      Pending (CallStage.willSubscribe eventId) system
  answered : ∀ id step, system.calls.get? id = some (.free step) → step.Answered eventId

theorem agreeing_initial (world : σ) :
    Agreeing config eventId ({ manager := { world } } : SubscribeSystem σ) where
  starts any := by simp [Manager.isAnySessionSubscribes, SortedMap.empty] at any
  stops _ collected := by
    cases configured : config.getEventConfig eventId <;>
      simp [Manager.collected, configured] at collected
  holder _ _ found := by simp at found
  starting _ _ found := by simp at found
  stopping _ _ found := by simp at found
  answered _ _ found := by simp at found

theorem cases_of_proceed (found : (system.proceed id decision).calls.get? other = some stage) :
    other ≠ id ∧ system.calls.get? other = some stage ∨
      other = id ∧ decision = .continues stage := by
  by_cases same : other = id
  · subst same
    exact .inr ⟨rfl, get?_proceed_self.mp found⟩
  · exact .inl ⟨same, by rwa [get?_proceed_of_ne same] at found⟩

namespace Agreeing

variable (system) in
/-- A call that collects no longer, or not yet, is not found collecting after a step. -/
theorem collecting_before {task : CollectorTask} (apart : decision.Only CallStage.Apart)
    (found : (system.proceed id decision).calls.get? other = some (.collect task)) :
    system.calls.get? other = some (.collect task) := by
  obtain ⟨-, before⟩ | ⟨-, rfl⟩ := cases_of_proceed found
  · exact before
  · exact apart.elim

variable (system) in
theorem answered_of_proceed
    (earlier : ∀ id step, system.calls.get? id = some (.free step) → step.Answered eventId)
    (own : ∀ step, decision = .continues (.free step) → step.Answered eventId) {step : Section}
    (found : (system.proceed id decision).calls.get? other = some (.free step)) :
    step.Answered eventId := by
  obtain ⟨-, before⟩ | ⟨-, same⟩ := cases_of_proceed found
  · exact earlier other step before
  · exact own step same

theorem answered_of_apart (apart : decision.Only CallStage.Apart) (step : Section)
    (same : decision = .continues (.free step)) : step.Answered eventId := by
  subst same
  cases step with
  | settle task code => exact apart.elim
  | _ => exact trivial

/-- A step outside `subscribeMutex_` that keeps what is pending. -/
theorem of_effect (agreeing : Agreeing config eventId system) {step : Section}
    {after : Manager σ}
    (effect : step.Effect config eventId system.manager after decision)
    (passes : ∀ stage, system.calls.get? id = some stage → stage = .free step) :
    Agreeing config eventId ({ system with manager := after }.proceed id decision) := by
  have keepsSubscribe (pending : Pending (CallStage.willSubscribe eventId) system) :
      Pending (CallStage.willSubscribe eventId)
        ({ system with manager := after }.proceed id decision) := by
    refine Pending.proceed pending fun stage found holds => ?_
    obtain rfl := passes stage found
    exact holds.elim
  have collecting {other : CallId} {task : CollectorTask}
      (found : ({ system with manager := after }.proceed id decision).calls.get? other =
        some (.collect task)) : system.calls.get? other = some (.collect task) :=
    collecting_before { system with manager := after } effect.apart found
  have keepsUnsubscribe (pending : Pending (CallStage.willUnsubscribe eventId) system) :
      Pending (CallStage.willUnsubscribe eventId)
        ({ system with manager := after }.proceed id decision) := by
    refine Pending.proceed pending fun stage found holds => ?_
    obtain rfl := passes stage found
    exact effect.passes holds
  constructor
  · intro any collected
    simp only [proceed_manager] at any collected
    rw [effect.collected] at collected
    rcases effect.sessions with same | ⟨-, will⟩ | ⟨fewer, -⟩
    · exact keepsSubscribe (agreeing.starts (same ▸ any) collected)
    · exact pending_of_will will
    · exact keepsSubscribe (agreeing.starts (fewer any) collected)
  · intro any collected
    simp only [proceed_manager] at any collected
    rw [effect.collected] at collected
    rcases effect.sessions with same | ⟨subscribed, -⟩ | ⟨-, will⟩
    · exact keepsUnsubscribe (agreeing.stops (same ▸ any) collected)
    · exact absurd subscribed (by simp [any])
    · exact pending_of_will will
  · intro other task found
    rw [proceed_subscribeMutex]
    exact agreeing.holder other task (collecting found)
  · intro other task found subscribes
    have before := agreeing.starting other task (collecting found) subscribes
    rw [proceed_manager]
    rcases effect.sessions with same | ⟨subscribed, -⟩ | ⟨-, will⟩
    · exact before.imp (fun any => same ▸ any) keepsUnsubscribe
    · exact .inl subscribed
    · exact .inr (pending_of_will will)
  · intro other task found releases event
    have before := agreeing.stopping other task (collecting found) releases event
    rw [proceed_manager]
    rcases effect.sessions with same | ⟨-, will⟩ | ⟨fewer, -⟩
    · exact before.imp (fun any => same ▸ any) keepsSubscribe
    · exact .inr (pending_of_will will)
    · refine before.imp (fun none => ?_) keepsSubscribe
      exact Bool.eq_false_iff.mpr fun any => absurd (fewer any) (by simp [none])
  · intro other step found
    exact answered_of_proceed { system with manager := after } agreeing.answered
      (answered_of_apart effect.apart) found

theorem call (agreeing : Agreeing config eventId system) (operation : Operation)
    (fresh : system.calls.get? id = none) :
    Agreeing config eventId (system.proceed id (.continues (.free (.enter operation)))) := by
  have effect : (Section.enter operation).Effect config eventId system.manager system.manager
      (.continues (.free (.enter operation))) :=
    .quiet rfl (fun releases => releases.elim) trivial fun _ => rfl
  exact agreeing.of_effect effect fun stage found => by simp [fresh] at found

theorem take (agreeing : Agreeing config eventId system) {step : Section}
    (found : system.calls.get? id = some (.free step)) :
    Agreeing config eventId
      ({ system with manager := (step.take config env system.manager).1 }.proceed id
        (step.take config env system.manager).2) :=
  agreeing.of_effect (Section.take_effect (agreeing.answered id step found))
    fun _ stage => Option.some.inj (stage.symm.trans found)

theorem not_collecting (agreeing : Agreeing config eventId system)
    (free : system.subscribeMutex = none) {task : CollectorTask} :
    system.calls.get? id ≠ some (.collect task) := by
  intro found
  have held := agreeing.holder id task found
  simp [free] at held

/-- The sessions are not as the collector call of a task needs them, so it is not made. -/
theorem skip (agreeing : Agreeing config eventId system) {task : CollectorTask}
    (found : system.calls.get? id = some (.await task)) (free : system.subscribeMutex = none)
    (unneeded : task.needed system.manager = false) :
    Agreeing config eventId
      (system.proceed id (.continues (.free (.settle task .success)))) := by
  have collecting {other : CallId} {task' : CollectorTask} :
      (system.proceed id (.continues (.free (.settle task .success)))).calls.get? other ≠
        some (.collect task') := by
    intro after
    obtain ⟨-, before⟩ | ⟨-, same⟩ := cases_of_proceed after
    · exact agreeing.not_collecting free before
    · cases same
  constructor
  · intro any collected
    rw [proceed_manager] at any collected
    refine (agreeing.starts any collected).proceed fun stage same holds => ?_
    obtain rfl := Option.some.inj (found.symm.trans same)
    rw [CollectorTask.needed_of_subscribes holds] at unneeded
    exact absurd any (by simp [unneeded])
  · intro any collected
    rw [proceed_manager] at any collected
    refine (agreeing.stops any collected).proceed fun stage same holds => ?_
    obtain rfl := Option.some.inj (found.symm.trans same)
    refine CollectorTask.releases_settle holds fun event => ?_
    rw [CollectorTask.needed_of_not_subscribes event fun subscribes =>
      CollectorTask.not_releases_of_subscribes subscribes holds] at unneeded
    exact absurd any (by simpa using unneeded)
  · exact fun _ _ after => absurd after collecting
  · exact fun _ _ after => absurd after collecting
  · exact fun _ _ after => absurd after collecting
  · intro other step after
    refine answered_of_proceed _ agreeing.answered (fun step same => ?_) after
    cases same
    exact CollectorTask.answered_success

/-- A call enters `subscribeMutex_` when the sessions are as its collector call needs them. -/
theorem acquire (agreeing : Agreeing config eventId system) {task : CollectorTask}
    (found : system.calls.get? id = some (.await task)) (free : system.subscribeMutex = none)
    (needed : task.needed system.manager = true) :
    Agreeing config eventId
      ({ system with subscribeMutex := some id }.proceed id (.continues (.collect task))) := by
  have collecting {other : CallId} {task' : CollectorTask}
      (after : ({ system with subscribeMutex := some id }.proceed id
        (.continues (.collect task))).calls.get? other = some (.collect task')) :
      other = id ∧ task' = task := by
    obtain ⟨-, before⟩ | ⟨own, same⟩ := cases_of_proceed after
    · exact absurd before (agreeing.not_collecting free)
    · cases same
      exact ⟨own, rfl⟩
  constructor
  · intro any collected
    rw [proceed_manager] at any collected
    refine Pending.proceed (agreeing.starts any collected) fun stage same holds => ?_
    obtain rfl := Option.some.inj (found.symm.trans same)
    exact holds
  · intro any collected
    rw [proceed_manager] at any collected
    refine Pending.proceed (agreeing.stops any collected) fun stage same holds => ?_
    obtain rfl := Option.some.inj (found.symm.trans same)
    exact holds
  · intro other task' after
    rw [proceed_subscribeMutex, (collecting after).1]
  · intro other task' after subscribes
    obtain ⟨rfl, rfl⟩ := collecting after
    rw [CollectorTask.needed_of_subscribes subscribes] at needed
    exact .inl needed
  · intro other task' after releases event
    obtain ⟨rfl, rfl⟩ := collecting after
    rw [CollectorTask.needed_of_not_subscribes event releases] at needed
    exact .inl (by simpa using needed)
  · intro other step after
    exact answered_of_proceed { system with subscribeMutex := some id }
      agreeing.answered (fun step same => by cases same) after

/-- A collector call, which a removal makes only while the collector is subscribed. -/
theorem collect (agreeing : Agreeing config eventId system) {task : CollectorTask}
    (succeeds : env.CollectorsSucceed) (plain : config.PlainSubscribeColl eventId)
    (found : system.calls.get? id = some (.collect task))
    (finds : task.IsRemoval eventId → system.manager.collected config eventId = true) :
    Agreeing config eventId
      ({ system with
          manager := (task.call config env system.manager).2
          subscribeMutex := none }.proceed id
        (.continues (.free (.settle task (task.call config env system.manager).1)))) := by
  have only := task.call_collectorOnly config env system.manager
  have collecting {other : CallId} {task' : CollectorTask} :
      ({ system with
          manager := (task.call config env system.manager).2
          subscribeMutex := none }.proceed id
        (.continues (.free (.settle task
          (task.call config env system.manager).1)))).calls.get? other ≠
        some (.collect task') := by
    intro after
    obtain ⟨ne, before⟩ | ⟨-, same⟩ := cases_of_proceed after
    · have held := agreeing.holder other task' before
      exact ne (Option.some.inj (held.symm.trans (agreeing.holder id task found)))
    · cases same
  constructor
  · intro any collected
    rw [proceed_manager] at any collected
    rw [only.isAnySessionSubscribes] at any
    by_cases event : task.eventId = eventId
    · -- Only a release leaves the collector stopped; another call then asks for it.
      have releases : ¬ task.subscribes eventId := fun subscribes => by
        rw [(CollectorTask.call_collects succeeds plain subscribes).2] at collected
        exact absurd collected (by simp)
      have pending := (agreeing.stopping id task found releases event).resolve_left (by simp [any])
      refine Pending.proceed pending fun stage same holds => ?_
      obtain rfl := Option.some.inj (found.symm.trans same)
      exact releases holds
    · rw [only.collected (Ne.symm event)] at collected
      refine Pending.proceed (agreeing.starts any collected) fun stage same holds => ?_
      obtain rfl := Option.some.inj (found.symm.trans same)
      exact absurd (CollectorTask.eventId_of_subscribes holds) event
  · intro any collected
    rw [proceed_manager] at any collected
    rw [only.isAnySessionSubscribes] at any
    by_cases event : task.eventId = eventId
    · have subscribes : task.subscribes eventId := by
        by_contra releases
        rw [(CollectorTask.call_releases succeeds plain event releases).2] at collected
        exact absurd collected (by simp)
      have pending := (agreeing.starting id task found subscribes).resolve_left (by simp [any])
      refine Pending.proceed pending fun stage same holds => ?_
      obtain rfl := Option.some.inj (found.symm.trans same)
      exact absurd holds (CollectorTask.not_releases_of_subscribes subscribes)
    · rw [only.collected (Ne.symm event)] at collected
      refine Pending.proceed (agreeing.stops any collected) fun stage same holds => ?_
      obtain rfl := Option.some.inj (found.symm.trans same)
      exact CollectorTask.releases_settle holds event
  · exact fun _ _ after => absurd after collecting
  · exact fun _ _ after => absurd after collecting
  · exact fun _ _ after => absurd after collecting
  · intro other step after
    let called : SubscribeSystem σ :=
      { system with
        manager := (task.call config env system.manager).2
        subscribeMutex := none }
    refine answered_of_proceed called agreeing.answered (fun step same => ?_) after
    cases same
    by_cases subscribes : task.subscribes eventId
    · rw [(CollectorTask.call_collects succeeds plain subscribes).1]
      exact CollectorTask.answered_success
    · refine CollectorTask.answered_of_release subscribes fun removal => ?_
      exact (CollectorTask.call_releases succeeds plain (CollectorTask.eventId_of_removal removal)
        subscribes).1.mpr (finds removal)

end Agreeing

/-! ## Runs -/

/-- A removal of the event that goes ahead with its collector call finds the collector
subscribed. -/
def RemovalFindsCollector (config : ConfigData) (eventId : Int) (system : SubscribeSystem σ)
    (action : SubscribeAction) : Prop :=
  ∀ id ∈ action.step?, ∀ stage ∈ system.calls.get? id,
    stage.RemovesCollector eventId → system.manager.collected config eventId = true

instance (system : SubscribeSystem σ) (action : SubscribeAction) :
    Decidable (RemovalFindsCollector config eventId system action) :=
  inferInstanceAs (Decidable (∀ id ∈ action.step?, ∀ stage ∈ system.calls.get? id, _))

theorem Agreeing.step {after : SubscribeSystem σ} {action : SubscribeAction}
    (succeeds : env.CollectorsSucceed) (plain : config.PlainSubscribeColl eventId)
    (agreeing : Agreeing config eventId system)
    (finds : RemovalFindsCollector config eventId system action)
    (taken : next config env system action = some after) : Agreeing config eventId after := by
  cases action with
  | call id operation =>
      rw [next] at taken
      split_ifs at taken with present
      cases taken
      exact agreeing.call operation (by simpa [SortedMap.contains] using present)
  | step id =>
      obtain ⟨stage, found, moved⟩ := Option.bind_eq_some_iff.mp taken
      cases stage with
      | free step =>
          cases moved
          exact agreeing.take found
      | await task =>
          rw [callStep] at moved
          split_ifs at moved with held needed
          · cases moved
            exact agreeing.acquire found (not_not.mp held) needed
          · cases moved
            exact agreeing.skip found (not_not.mp held) (by simpa using needed)
      | collect task =>
          cases moved
          exact agreeing.collect succeeds plain found (finds id rfl _ found)

theorem agreeing_of_run {world : σ} {final : SubscribeSystem σ} {actions : List SubscribeAction}
    (succeeds : env.CollectorsSucceed) (plain : config.PlainSubscribeColl eventId)
    (permitted : Transition.Along (next config env) (RemovalFindsCollector config eventId)
      { manager := { world } } actions)
    (reach : Transition.run (next config env) { manager := { world } } actions = some final) :
    Agreeing config eventId final :=
  Transition.run_invariant (fun agreeing finds taken => agreeing.step succeeds plain finds taken)
    (agreeing_initial world) permitted reach

theorem not_pending_of_quiet (quiet : system.calls = .empty) : ¬ Pending property system := by
  rintro ⟨id, stage, found, -⟩
  simp [quiet] at found

/-- Agreement at rest: when no call is in flight, the collector of a plain event is subscribed
exactly when some session subscribes the event, in every run in which no removal comes too late
to its collector call. -/
theorem collected_iff_subscribed_at_rest {world : σ} {final : SubscribeSystem σ}
    {actions : List SubscribeAction} (succeeds : env.CollectorsSucceed)
    (plain : config.PlainSubscribeColl eventId)
    (permitted : Transition.Along (next config env) (RemovalFindsCollector config eventId)
      { manager := { world } } actions)
    (reach : Transition.run (next config env) { manager := { world } } actions = some final)
    (quiet : final.calls = .empty) :
    final.manager.collected config eventId = true ↔
      ∃ clientId session, final.manager.sessionsMap.get? clientId = some session ∧
        session.subEvents.contains eventId = true := by
  have agreeing := agreeing_of_run succeeds plain permitted reach
  have subscribed : final.manager.isAnySessionSubscribes eventId = true ↔
      ∃ clientId session, final.manager.sessionsMap.get? clientId = some session ∧
        session.subEvents.contains eventId = true := by
    simp only [Manager.isAnySessionSubscribes_iff, Manager.subscribes, Option.any_eq_true]
  rw [← subscribed]
  constructor
  · intro collected
    by_contra none
    exact not_pending_of_quiet quiet (agreeing.stops (Bool.eq_false_iff.mpr none) collected)
  · intro any
    by_contra stopped
    exact not_pending_of_quiet quiet (agreeing.starts any (Bool.eq_false_iff.mpr stopped))

theorem idleExternals_collectorsSucceed : idleExternals.CollectorsSucceed :=
  ⟨fun _ _ => rfl, fun _ _ => rfl, fun _ _ => rfl, fun _ _ => rfl⟩

/-- Event 7 is subscribed in this process. -/
def oneEventConfig : ConfigData where
  eventMap := SortedMap.empty.insert 7
    { eventId := 7, eventType := .subscribeColl, prog := securityGuardProg }

theorem oneEventConfig_plain : oneEventConfig.PlainSubscribeColl 7 := ⟨_, rfl, rfl, rfl⟩

/-- Two clients subscribe event 7. -/
def bothSubscribe : List SubscribeAction :=
  uninterrupted 0 (.insertSubscribeRecordWith ⟨7, "securityGroup", 100, 10⟩ "a") 4 ++
    uninterrupted 1 (.insertSubscribeRecordWith ⟨7, "securityGroup", 200, 20⟩ "b") 4

/-- The first client leaves and the second one stays. -/
def oneLeaves : List SubscribeAction :=
  bothSubscribe ++ uninterrupted 2 (.removeSubscribeRecord 7 "a" true) 3

/-- Agreement at rest after `oneLeaves`. -/
theorem collected_iff_subscribed_at_rest_oneLeaves :
    ∃ final, Transition.run (next oneEventConfig idleExternals) { manager := { world := () } }
        oneLeaves = some final ∧
      final.calls = .empty ∧
      (final.manager.collected oneEventConfig 7 = true ↔
        ∃ clientId session, final.manager.sessionsMap.get? clientId = some session ∧
          session.subEvents.contains 7 = true) := by
  have evaluated : (Transition.run (next oneEventConfig idleExternals)
      { manager := { world := () } } oneLeaves).any (fun final => final.calls = .empty) = true := by
    decide +kernel
  have permitted : Transition.Along (next oneEventConfig idleExternals)
      (RemovalFindsCollector oneEventConfig 7) { manager := { world := () } } oneLeaves := by
    decide +kernel
  obtain ⟨final, reach, found⟩ := (Option.any_eq_true _ _).mp evaluated
  have quiet := of_decide_eq_true found
  exact ⟨final, reach, quiet, collected_iff_subscribed_at_rest idleExternals_collectorsSucceed
    oneEventConfig_plain permitted reach quiet⟩

/-- Both clients leave at once: both erase their subscription before either stops the
collector. -/
def bothLeave : List SubscribeAction :=
  bothSubscribe ++
    [.call 2 (.removeSubscribeRecord 7 "a" true), .call 3 (.removeSubscribeRecord 7 "b" true),
      .step 2, .step 3, .step 2, .step 2, .step 2, .step 3, .step 3, .step 3]

/-- Without the condition a session subscribes an event whose collector is not subscribed. -/
theorem subscribed_without_collector :
    ¬ ∀ (actions : List SubscribeAction) (final : SubscribeSystem Unit),
      Transition.run (next oneEventConfig idleExternals) { manager := { world := () } } actions =
          some final →
      final.calls = .empty →
        (final.manager.collected oneEventConfig 7 = true ↔
          ∃ clientId session, final.manager.sessionsMap.get? clientId = some session ∧
            session.subEvents.contains 7 = true) := by
  intro agreement
  have evaluated : (Transition.run (next oneEventConfig idleExternals)
      { manager := { world := () } } bothLeave).any (fun final => final.calls = .empty ∧
        final.manager.subscribes "b" 7 = true ∧
        final.manager.collected oneEventConfig 7 = false) = true := by
    decide +kernel
  obtain ⟨final, reach, found⟩ := (Option.any_eq_true _ _).mp evaluated
  obtain ⟨quiet, subscribes, stopped⟩ := of_decide_eq_true found
  obtain ⟨session, present, contains⟩ := (Option.any_eq_true _ _).mp subscribes
  have collected := (agreement bothLeave final reach quiet).mpr ⟨"b", session, present, contains⟩
  exact absurd collected (by simp [stopped])

end SubscribeSystem

end SecurityGuard
