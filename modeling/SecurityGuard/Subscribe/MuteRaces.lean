import SecurityGuard.Subscribe.Agreement
import SecurityGuard.Subscribe.Mutes
import SecurityGuard.Subscribe.Sticky

/-!
# Overlapping changes of the filters

`InsertSubscribeMute` and `RemoveSubscribeMute` look at the filters of a session, call the plugin
outside `sessionMutex_` if the event is subscribed, and change the filters in a section of its
own.  The insertion does not look again there, so that two overlapping insertions enter one
filter twice and its removal leaves a copy.  The filters of a session are unique throughout a run
exactly if no insertion comes to its last section while the session has the filter.
-/

namespace SecurityGuard

/-- A filter enters the session of a client or leaves it. -/
inductive FilterChange where
  | inserted (clientId : String) (filter : EventMuteFilter)
  | removed (clientId : String) (filter : EventMuteFilter)
  deriving DecidableEq

/-- A filter was removed and not inserted again afterwards. -/
def RemovedSince (history : List FilterChange) (clientId : String) (filter : EventMuteFilter) :
    Prop :=
  ∃ front back, history = front ++ .removed clientId filter :: back ∧
    .inserted clientId filter ∉ back

theorem removedSince_concat {history : List FilterChange} {change : FilterChange}
    {clientId : String} {filter : EventMuteFilter} :
    RemovedSince (history ++ [change]) clientId filter ↔
      change = .removed clientId filter ∨
        change ≠ .inserted clientId filter ∧ RemovedSince history clientId filter := by
  constructor
  · rintro ⟨front, back, split, absent⟩
    rcases List.eq_nil_or_concat back with rfl | ⟨back, last, rfl⟩
    · obtain ⟨-, same⟩ := List.append_inj' split rfl
      exact .inl (by simpa using same)
    · have regrouped : history ++ [change] =
          (front ++ .removed clientId filter :: back) ++ [last] := by
        simpa using split
      obtain ⟨earlier, same⟩ := List.append_inj' regrouped rfl
      obtain rfl : change = last := by simpa using same
      refine .inr ⟨?_, front, back, earlier, fun mem => absent ?_⟩
      · rintro rfl
        exact absent (by simp)
      · simp [mem]
  · rintro (rfl | ⟨other, front, back, rfl, absent⟩)
    · exact ⟨history, [], rfl, List.not_mem_nil⟩
    · refine ⟨front, back ++ [change], by simp, fun mem => ?_⟩
      rcases List.mem_append.mp mem with early | last
      · exact absent early
      · exact other (List.mem_singleton.mp last).symm

/-- No session has a filter twice, or one that was removed and not inserted again. -/
structure UniqueFilters (sessions : SortedMap String ClientSession)
    (history : List FilterChange) : Prop where
  unique : ∀ clientId, ∀ session ∈ sessions.get? clientId, ∀ eventId,
    (Manager.filtersOf session eventId).Nodup
  gone : ∀ clientId filter, RemovedSince history clientId filter →
    ∀ session ∈ sessions.get? clientId, ∀ eventId, filter ∉ Manager.filtersOf session eventId

/-- The filters are unique and stand under their own events. -/
structure FiledFilters (sessions : SortedMap String ClientSession)
    (history : List FilterChange) : Prop where
  filed : ∀ clientId, ∀ session ∈ sessions.get? clientId, session.WellFiled
  gone : ∀ clientId filter, RemovedSince history clientId filter →
    ∀ session ∈ sessions.get? clientId, ∀ eventId, filter ∉ Manager.filtersOf session eventId

variable {sessions later : SortedMap String ClientSession} {history : List FilterChange}

theorem FiledFilters.unique (filed : FiledFilters sessions history) :
    UniqueFilters sessions history where
  unique clientId session found eventId := (filed.filed clientId session found).nodup eventId
  gone := filed.gone

theorem filedFilters_empty : FiledFilters .empty [] where
  filed clientId session found := by simp at found
  gone clientId filter removed session found := by simp at found

namespace FilterChange

def apply (sessions : SortedMap String ClientSession) :
    FilterChange → SortedMap String ClientSession
  | inserted clientId filter => sessions.modify clientId fun session => session.withFilter filter
  | removed clientId filter => sessions.modify clientId fun session => session.withoutFilter filter

/-- The session has no filter that is inserted. -/
def Fresh (sessions : SortedMap String ClientSession) : FilterChange → Prop
  | inserted clientId filter => ∀ session ∈ sessions.get? clientId,
      filter ∉ Manager.filtersOf session filter.eventId
  | removed _ _ => True

instance (sessions : SortedMap String ClientSession) :
    ∀ change : FilterChange, Decidable (change.Fresh sessions)
  | inserted _ _ => inferInstanceAs (Decidable (∀ _ ∈ _, _))
  | removed _ _ => isTrue trivial

end FilterChange

theorem FiledFilters.insert (filed : FiledFilters sessions history) {clientId : String}
    {filter : EventMuteFilter} (fresh : (FilterChange.inserted clientId filter).Fresh sessions) :
    FiledFilters ((FilterChange.inserted clientId filter).apply sessions)
      (history ++ [.inserted clientId filter]) := by
  have own {session : ClientSession} (found : sessions.get? clientId = some session) :
      (session.withFilter filter).WellFiled :=
    (filed.filed clientId session found).withFilter (fresh session found)
  constructor
  · intro other session found
    rcases SortedMap.get?_modify_eq_some.mp found with ⟨rfl, old, present, rfl⟩ | ⟨-, found⟩
    · exact own present
    · exact filed.filed other session found
  · intro other gone removed session found eventId
    rcases removedSince_concat.mp removed with clash | ⟨differs, before⟩
    · exact FilterChange.noConfusion clash
    rcases SortedMap.get?_modify_eq_some.mp found with ⟨rfl, old, present, rfl⟩ | ⟨-, found⟩
    · have absent := filed.gone other gone before old present eventId
      have ne : gone ≠ filter := by
        rintro rfl
        exact differs rfl
      rw [ClientSession.filtersOf_withFilter]
      split_ifs
      · simp [absent, ne]
      · exact absent
    · exact filed.gone other gone before session found eventId

theorem FiledFilters.remove (filed : FiledFilters sessions history) (clientId : String)
    (filter : EventMuteFilter) :
    FiledFilters ((FilterChange.removed clientId filter).apply sessions)
      (history ++ [.removed clientId filter]) := by
  constructor
  · intro other session found
    rcases SortedMap.get?_modify_eq_some.mp found with ⟨-, old, present, rfl⟩ | ⟨-, found⟩
    · exact (filed.filed other old present).withoutFilter
    · exact filed.filed other session found
  · intro other gone removed session found eventId
    rcases SortedMap.get?_modify_eq_some.mp found with
      ⟨rfl, old, present, rfl⟩ | ⟨different, found⟩
    · rw [(filed.filed other old present).mem_withoutFilter]
      rintro ⟨ne, mem⟩
      rcases removedSince_concat.mp removed with now | ⟨-, before⟩
      · exact ne (FilterChange.removed.inj now).2.symm
      · exact filed.gone other gone before old present eventId mem
    · rcases removedSince_concat.mp removed with now | ⟨-, before⟩
      · exact absurd (FilterChange.removed.inj now).1.symm different
      · exact filed.gone other gone before session found eventId

/-- A change keeps the filters unique exactly if it does not insert one that is there. -/
theorem FiledFilters.unique_apply_iff (filed : FiledFilters sessions history)
    (change : FilterChange) :
    UniqueFilters (change.apply sessions) (history ++ [change]) ↔ change.Fresh sessions := by
  constructor
  · intro unique
    cases change with
    | removed clientId filter => exact trivial
    | inserted clientId filter =>
        intro session found mem
        have entered : (session.withFilter filter) ∈
            ((FilterChange.inserted clientId filter).apply sessions).get? clientId := by
          rw [FilterChange.apply, SortedMap.get?_modify, if_pos rfl, found]
          rfl
        have nodup := unique.unique clientId _ entered filter.eventId
        rw [ClientSession.filtersOf_withFilter, if_pos rfl] at nodup
        exact (List.nodup_append.mp nodup).2.2 filter mem filter (List.mem_singleton_self filter)
          rfl
  · intro fresh
    cases change with
    | inserted clientId filter => exact (filed.insert fresh).unique
    | removed clientId filter => exact (filed.remove clientId filter).unique

namespace Manager

variable {σ : Type} {before after : Manager σ} {clientId : String}

/-- A session has the filters of the session it continues, or begins without filters. -/
def KeepsFilters (before after : Manager σ) : Prop :=
  ∀ clientId session, after.sessionsMap.get? clientId = some session →
    (∃ old, before.sessionsMap.get? clientId = some old ∧
      session.eventFilters = old.eventFilters ∧ session.clientId = old.clientId) ∨
    session.eventFilters = .empty ∧ session.clientId = clientId

namespace KeepsFilters

theorem of_same (sessions : after.sessionsMap = before.sessionsMap) :
    KeepsFilters before after := fun _ session found =>
  .inl ⟨session, sessions ▸ found, rfl, rfl⟩

theorem of_insert {old session : ClientSession}
    (found : before.sessionsMap.get? clientId = some old)
    (sessions : after.sessionsMap = before.sessionsMap.insert clientId session)
    (filters : session.eventFilters = old.eventFilters)
    (owner : session.clientId = old.clientId) : KeepsFilters before after := by
  intro other present entry
  rw [sessions] at entry
  rcases SortedMap.get?_insert_eq_some.mp entry with ⟨rfl, rfl⟩ | ⟨-, entry⟩
  · exact .inl ⟨old, found, filters, owner⟩
  · exact .inl ⟨present, entry, rfl, rfl⟩

theorem of_fresh {session : ClientSession}
    (sessions : after.sessionsMap = before.sessionsMap.insert clientId session)
    (filters : session.eventFilters = .empty) (owner : session.clientId = clientId) :
    KeepsFilters before after := by
  intro other present entry
  rw [sessions] at entry
  rcases SortedMap.get?_insert_eq_some.mp entry with ⟨rfl, rfl⟩ | ⟨-, entry⟩
  · exact .inr ⟨filters, owner⟩
  · exact .inl ⟨present, entry, rfl, rfl⟩

theorem of_erase (sessions : after.sessionsMap = before.sessionsMap.erase clientId) :
    KeepsFilters before after := by
  intro other present entry
  rw [sessions] at entry
  exact .inl ⟨present, (SortedMap.get?_erase_eq_some.mp entry).2, rfl, rfl⟩

theorem of_modify {change : ClientSession → ClientSession}
    (sessions : after.sessionsMap = before.sessionsMap.modify clientId change)
    (filters : ∀ session, (change session).eventFilters = session.eventFilters)
    (owner : ∀ session, (change session).clientId = session.clientId) :
    KeepsFilters before after := by
  intro other present entry
  rw [sessions] at entry
  rcases SortedMap.get?_modify_eq_some.mp entry with ⟨-, old, found, rfl⟩ | ⟨-, entry⟩
  · exact .inl ⟨old, found, filters old, owner old⟩
  · exact .inl ⟨present, entry, rfl, rfl⟩

theorem named (keeps : KeepsFilters before after) (named : before.Named) : after.Named := by
  intro clientId session found
  rcases keeps clientId session found with ⟨old, earlier, -, owner⟩ | ⟨-, owner⟩
  · exact owner.trans (named clientId old earlier)
  · exact owner

theorem filtersOf_cases (keeps : KeepsFilters before after) {session : ClientSession}
    (found : after.sessionsMap.get? clientId = some session) :
    (∃ old, before.sessionsMap.get? clientId = some old ∧
      ∀ eventId, filtersOf session eventId = filtersOf old eventId) ∨
    ∀ eventId, filtersOf session eventId = [] := by
  rcases keeps clientId session found with ⟨old, earlier, same, -⟩ | ⟨none, -⟩
  · exact .inl ⟨old, earlier, fun eventId => by rw [filtersOf, same, ← filtersOf]⟩
  · exact .inr fun eventId => by simp [filtersOf, none]

theorem filedFilters (keeps : KeepsFilters before after) {history : List FilterChange}
    (filed : FiledFilters before.sessionsMap history) :
    FiledFilters after.sessionsMap history := by
  constructor
  · intro clientId session found
    rcases keeps.filtersOf_cases found with ⟨old, earlier, same⟩ | none
    · have own := filed.filed clientId old earlier
      exact ⟨fun eventId => same eventId ▸ own.event eventId,
        fun eventId => same eventId ▸ own.nodup eventId⟩
    · exact ⟨fun eventId filter mem => absurd mem (by simp [none]),
        fun eventId => by simp [none]⟩
  · intro clientId filter removed session found eventId
    rcases keeps.filtersOf_cases found with ⟨old, earlier, same⟩ | none
    · rw [same]
      exact filed.gone clientId filter removed old earlier eventId
    · simp [none]

end KeepsFilters

end Manager

namespace Section

variable {σ : Type} {config : ConfigData} {env : Externals σ} {manager : Manager σ}

theorem enterOperation_keepsFilters (operation : Operation) :
    manager.KeepsFilters (enterOperation manager operation).1 := by
  cases operation with
  | creatClient eventGroup clientId callerPid callback =>
      rw [enterOperation]
      split_ifs <;> exact .of_same rfl
  | insertSubscribeRecord eventId clientId =>
      rw [enterOperation, Manager.enterRecord]
      cases found : manager.sessionsMap.get? clientId with
      | none => exact .of_same rfl
      | some session =>
          dsimp only
          split_ifs
          · exact .of_same rfl
          · exact .of_insert found rfl rfl rfl
  | insertSubscribeRecordWith info clientId =>
      rw [enterOperation, Manager.enterRecordWith]
      split_ifs
      · exact .of_same rfl
      · cases found : manager.sessionsMap.get? clientId with
        | none => exact .of_fresh rfl rfl rfl
        | some session => exact .of_insert found rfl rfl rfl
  | removeSubscribeRecord eventId clientId cleanupSession =>
      rw [enterOperation, Manager.leaveRecord]
      cases found : manager.sessionsMap.get? clientId with
      | none => exact .of_same rfl
      | some session =>
          dsimp only
          split_ifs
          · exact .of_same rfl
          · exact .of_insert found rfl rfl rfl
  | destoryClient clientId =>
      rw [enterOperation, Manager.leaveClient]
      cases manager.sessionsMap.get? clientId with
      | none => exact .of_same rfl
      | some session => exact .of_erase rfl
  | removeSubscribeRecordOnRemoteDied callback =>
      rw [enterOperation, Manager.leaveCallback]
      cases manager.sessionsMap.entries.find? fun entry => entry.2.callback = callback with
      | none => exact .of_same rfl
      | some entry => exact .of_erase rfl

theorem settleTask_keepsFilters (code : Code) (task : CollectorTask) :
    manager.KeepsFilters (settleTask manager code task).1 := by
  cases task with
  | insertion eventId clientId sessionCreated filters =>
      rw [settleTask]
      split_ifs
      · rw [Manager.rollbackInsert]
        cases found : manager.sessionsMap.get? clientId with
        | none => exact .of_same rfl
        | some session =>
            dsimp only
            split_ifs
            · exact .of_erase rfl
            · exact .of_insert found rfl rfl rfl
      · exact .of_same rfl
  | removal eventId clientId cleanupSession =>
      rw [settleTask]
      split_ifs
      · exact .of_modify rfl (fun _ => rfl) fun _ => rfl
      · have sessions := manager.cleanupRecord_sessionsMap clientId eventId cleanupSession
        split_ifs at sessions
        · exact .of_erase sessions
        · exact .of_same sessions
  | forgetting eventId todo clientId filters => exact .of_same rfl

variable (config env) in
theorem take_keepsFilters (step : Section) :
    manager.KeepsFilters (step.take config env manager).1 := by
  cases step with
  | enter operation => exact enterOperation_keepsFilters operation
  | create eventGroup clientId callerPid callback =>
      rw [take, Manager.enterClient]
      split_ifs
      · exact .of_same rfl
      · exact .of_fresh rfl rfl rfl
  | died clientId events => exact .of_same Manager.removeSdkAllEventFilter_sessionsMap
  | settle task code => exact settleTask_keepsFilters code task
  | checkMute clientId filter todo =>
      rw [take]
      split_ifs <;> exact .of_same rfl
  | insertMute clientId filter todo =>
      exact .of_same (Manager.callFilter_sessionsMap FilterPlugin.setEventFilter filter)
  | removeMute clientId filter todo =>
      exact .of_same (Manager.callFilter_sessionsMap FilterPlugin.removeEventFilter filter)

end Section

theorem SubscribeSystem.next_keepsFilters {σ : Type} {config : ConfigData} {env : Externals σ}
    {system after : SubscribeSystem σ} {action : SubscribeAction}
    (taken : next config env system action = some after) :
    system.manager.KeepsFilters after.manager := by
  cases action with
  | call id operation =>
      rw [next] at taken
      split_ifs at taken
      obtain rfl := Option.some.inj taken
      exact .of_same rfl
  | step id =>
      obtain ⟨stage, -, stepped⟩ := Option.bind_eq_some_iff.mp taken
      cases stage with
      | free step =>
          obtain rfl := Option.some.inj stepped
          rw [proceed_manager]
          exact Section.take_keepsFilters config env step
      | await task =>
          rw [callStep] at stepped
          split_ifs at stepped
          · obtain rfl := Option.some.inj stepped
            exact .of_same rfl
          · obtain rfl := Option.some.inj stepped
            exact .of_same rfl
      | collect task =>
          obtain rfl := Option.some.inj stepped
          rw [proceed_manager]
          exact .of_same (CollectorTask.call_collectorOnly config env system.manager).sessionsMap

/-! ## Calls on the filters -/

/-- A call that changes the filters of a client. -/
inductive MuteCall where
  | insertSubscribeMute (filter : EventMuteFilter) (clientId : String)
  | removeSubscribeMute (filter : EventMuteFilter) (clientId : String)
  deriving DecidableEq

/-- The next critical section, or plugin call, of a call on the filters. -/
inductive MuteStage where
  | enter (call : MuteCall)
  | insertMute (filter : EventMuteFilter) (clientId : String)
  | addFilter (filter : EventMuteFilter) (clientId : String)
  | removeMute (filter : EventMuteFilter) (clientId : String)
  | eraseFilter (filter : EventMuteFilter) (clientId : String)
  deriving DecidableEq

namespace MuteStage

variable {σ : Type} (config : ConfigData) (env : Externals σ) (manager : Manager σ)

/-- The first section of a call, which ends it if the event is not subscribed. -/
def enterCall : MuteCall → Manager σ × Decision MuteStage
  | .insertSubscribeMute filter clientId =>
      let code := manager.checkInsertMute filter clientId
      if code ≠ .success then (manager, .returns code)
      else if !manager.subscribes clientId filter.eventId then
        (manager.addFilter filter clientId, .returns .success)
      else (manager, .continues (.insertMute filter clientId))
  | .removeSubscribeMute filter clientId =>
      if !manager.isFilterInSession clientId filter then (manager, .returns .badParam)
      else if !manager.subscribes clientId filter.eventId then
        (manager.eraseFilterFromSession clientId filter, .returns .success)
      else (manager, .continues (.removeMute filter clientId))

/-- After a plugin call the call goes on if the plugin has agreed. -/
def afterPlugin (answer : Code × Manager σ) (stage : MuteStage) :
    Manager σ × Decision MuteStage :=
  (answer.2, if answer.1 ≠ .success then .returns answer.1 else .continues stage)

def take : MuteStage → Manager σ × Decision MuteStage
  | enter call => enterCall manager call
  | insertMute filter clientId =>
      afterPlugin (manager.insertMute config env filter clientId) (addFilter filter clientId)
  | addFilter filter clientId => (manager.addFilter filter clientId, .returns .success)
  | removeMute filter clientId =>
      afterPlugin (manager.removeMute config env filter clientId) (eraseFilter filter clientId)
  | eraseFilter filter clientId =>
      (manager.eraseFilterFromSession clientId filter, .returns .success)

/-- What a stage changes in the session of its client. -/
def change? : MuteStage → Option FilterChange
  | enter (.insertSubscribeMute filter clientId) =>
      if manager.checkInsertMute filter clientId = .success ∧
          !manager.subscribes clientId filter.eventId then
        some (.inserted clientId filter)
      else none
  | enter (.removeSubscribeMute filter clientId) =>
      if manager.isFilterInSession clientId filter ∧
          !manager.subscribes clientId filter.eventId then
        some (.removed clientId filter)
      else none
  -- the session may be gone by then
  | addFilter filter clientId =>
      if manager.sessionsMap.contains clientId then some (.inserted clientId filter) else none
  | eraseFilter filter clientId => some (.removed clientId filter)
  | insertMute _ _ | removeMute _ _ => none

/-- The section that ends an insertion does not find the filter in the session. -/
def InsertsFresh : MuteStage → Prop
  | addFilter filter clientId => manager.isFilterInSession clientId filter = false
  | _ => True

instance : ∀ stage : MuteStage, Decidable (stage.InsertsFresh manager)
  | addFilter filter clientId =>
      inferInstanceAs (Decidable (manager.isFilterInSession clientId filter = false))
  | enter _ | insertMute _ _ | removeMute _ _ | eraseFilter _ _ => isTrue trivial

variable {config env manager}

theorem addFilter_sessionsMap (filter : EventMuteFilter) (clientId : String) :
    (manager.addFilter filter clientId).sessionsMap =
      (FilterChange.inserted clientId filter).apply manager.sessionsMap := rfl

theorem eraseFilter_sessionsMap (filter : EventMuteFilter) (clientId : String) :
    (manager.eraseFilterFromSession clientId filter).sessionsMap =
      (FilterChange.removed clientId filter).apply manager.sessionsMap := rfl

variable (config env manager) in
/-- The sessions after a stage are those of its change. -/
theorem take_sessionsMap (stage : MuteStage) :
    (stage.take config env manager).1.sessionsMap =
      match stage.change? manager with
      | none => manager.sessionsMap
      | some change => change.apply manager.sessionsMap := by
  cases stage with
  | enter call =>
      cases call with
      | insertSubscribeMute filter clientId =>
          by_cases checked : manager.checkInsertMute filter clientId = .success
          · cases subscribed : manager.subscribes clientId filter.eventId with
            | false => simp [take, enterCall, change?, checked, subscribed, addFilter_sessionsMap]
            | true => simp [take, enterCall, change?, checked, subscribed]
          · simp [take, enterCall, change?, checked]
      | removeSubscribeMute filter clientId =>
          cases present : manager.isFilterInSession clientId filter with
          | false => simp [take, enterCall, change?, present]
          | true =>
              cases subscribed : manager.subscribes clientId filter.eventId with
              | false =>
                  simp [take, enterCall, change?, present, subscribed, eraseFilter_sessionsMap]
              | true => simp [take, enterCall, change?, present, subscribed]
  | insertMute filter clientId =>
      exact Manager.callFilter_sessionsMap FilterPlugin.setEventFilter filter
  | addFilter filter clientId =>
      rw [take, addFilter_sessionsMap, change?]
      split_ifs with present
      · rfl
      · rw [SortedMap.contains, Option.not_isSome_iff_eq_none] at present
        simp [FilterChange.apply, SortedMap.modify, present]
  | removeMute filter clientId =>
      exact Manager.callFilter_sessionsMap FilterPlugin.removeEventFilter filter
  | eraseFilter filter clientId => rfl

theorem fresh_of_checkInsertMute {filter : EventMuteFilter} {clientId : String}
    (checked : manager.checkInsertMute filter clientId = .success) :
    (FilterChange.inserted clientId filter).Fresh manager.sessionsMap := by
  intro session found mem
  rw [Option.mem_def] at found
  rw [Manager.checkInsertMute, found] at checked
  dsimp only at checked
  rw [if_pos (List.contains_iff_mem.mpr mem)] at checked
  exact absurd checked (by decide)

/-- Only the section that ends an insertion may enter a filter twice. -/
theorem fresh_iff_insertsFresh {stage : MuteStage} :
    (∀ change ∈ stage.change? manager, change.Fresh manager.sessionsMap) ↔
      stage.InsertsFresh manager := by
  cases stage with
  | enter call =>
      refine iff_of_true (fun change taken => ?_) trivial
      cases call with
      | insertSubscribeMute filter clientId =>
          obtain ⟨⟨checked, -⟩, entered⟩ := Option.ite_none_right_eq_some.mp taken
          obtain rfl := Option.some.inj entered
          exact fresh_of_checkInsertMute checked
      | removeSubscribeMute filter clientId =>
          obtain ⟨-, left⟩ := Option.ite_none_right_eq_some.mp taken
          obtain rfl := Option.some.inj left
          exact trivial
  | addFilter filter clientId =>
      rw [change?, InsertsFresh, Manager.isFilterInSession, SortedMap.contains]
      cases found : manager.sessionsMap.get? clientId with
      | none => simp
      | some session => simp [FilterChange.Fresh, found]
  | eraseFilter filter clientId => simp [change?, InsertsFresh, FilterChange.Fresh]
  | insertMute | removeMute => simp [change?, InsertsFresh]

end MuteStage

/-! ## The system -/

/-- The system with the calls on filters that are in flight. -/
structure MuteSystem (σ : Type) where
  system : SubscribeSystem σ
  mutes : SortedMap CallId MuteStage := .empty
  /-- The codes that calls on filters have returned, in order. -/
  returned : List (CallId × Code) := []
  /-- The changes of the filters so far. -/
  history : List FilterChange := []

/-- An operation or a call on filters arrives or moves on, or an event is published. -/
inductive MuteAction where
  | act (action : SubscribeAction)
  | call (id : CallId) (call : MuteCall)
  | step (id : CallId)
  | publish (refused : Bool) (event : PublishedEvent)
  deriving DecidableEq

namespace MuteSystem

variable {σ : Type} (config : ConfigData) (env : Externals σ) (state : MuteSystem σ)

/-- One step of a call on filters. -/
def moveOn (id : CallId) (stage : MuteStage) : MuteSystem σ :=
  let taken := stage.take config env state.system.manager
  let moved :=
    { state with
      system := { state.system with manager := taken.1 }
      history := state.history ++ (stage.change? state.system.manager).toList }
  match taken.2 with
  | .continues later => { moved with mutes := moved.mutes.insert id later }
  | .returns code =>
      { moved with
        mutes := moved.mutes.erase id
        returned := moved.returned ++ [(id, code)] }

/-- The state after a step that is possible. -/
def next : Transition (MuteSystem σ) MuteAction
  | state, .act action =>
      (state.system.next config env action).map fun system => { state with system }
  | state, .call id call =>
      if state.mutes.contains id then none
      else some { state with mutes := state.mutes.insert id (.enter call) }
  | state, .step id => (state.mutes.get? id).map fun stage => state.moveOn config env id stage
  | state, .publish refused event =>
      let published := state.system.manager.publishEventToSub config refused event
      some { state with system := { state.system with manager := published.2 } }

/-- The system before any call. -/
def initial (world : σ) : MuteSystem σ := { system := { manager := { world } } }

/-- No session has a filter twice, or one that was removed and not inserted again. -/
def Unique (state : MuteSystem σ) : Prop :=
  UniqueFilters state.system.manager.sessionsMap state.history

/-- The filters in the sessions are those of the history. -/
def Filed (state : MuteSystem σ) : Prop :=
  FiledFilters state.system.manager.sessionsMap state.history

/-- No insertion ends while the session has the filter. -/
def InsertsFresh (state : MuteSystem σ) : MuteAction → Prop
  | .step id => ∀ stage ∈ state.mutes.get? id, stage.InsertsFresh state.system.manager
  | .act _ | .call _ _ | .publish _ _ => True

instance (state : MuteSystem σ) : ∀ action : MuteAction, Decidable (state.InsertsFresh action)
  | .step id => inferInstanceAs
      (Decidable (∀ stage ∈ state.mutes.get? id, stage.InsertsFresh state.system.manager))
  | .act _ | .call _ _ | .publish _ _ => isTrue trivial

variable {config env state} {after : MuteSystem σ} {action : MuteAction} {id : CallId}
  {stage : MuteStage}

@[simp]
theorem moveOn_manager : (state.moveOn config env id stage).system.manager =
    (stage.take config env state.system.manager).1 := by
  rw [moveOn]
  split <;> rfl

@[simp]
theorem moveOn_history : (state.moveOn config env id stage).history =
    state.history ++ (stage.change? state.system.manager).toList := by
  rw [moveOn]
  split <;> rfl

/-- A step that is not one of a call on filters leaves the filters of the sessions alone. -/
theorem next_cases (taken : next config env state action = some after) :
    (state.system.manager.KeepsFilters after.system.manager ∧ after.history = state.history ∧
        state.InsertsFresh action) ∨
      ∃ id stage, action = .step id ∧ state.mutes.get? id = some stage ∧
        after = state.moveOn config env id stage := by
  cases action with
  | act action =>
      obtain ⟨system, stepped, rfl⟩ := Option.map_eq_some_iff.mp taken
      exact .inl ⟨SubscribeSystem.next_keepsFilters stepped, rfl, trivial⟩
  | call id call =>
      rw [next] at taken
      split_ifs at taken
      obtain rfl := Option.some.inj taken
      exact .inl ⟨.of_same rfl, rfl, trivial⟩
  | step id =>
      obtain ⟨stage, found, rfl⟩ := Option.map_eq_some_iff.mp taken
      exact .inr ⟨id, stage, rfl, found, rfl⟩
  | publish refused event =>
      obtain rfl := Option.some.inj taken
      refine .inl ⟨.of_same ?_, rfl, trivial⟩
      rcases state.system.manager.publishEventToSub_cases config refused event with
        ⟨same, -⟩ | ⟨-, round⟩
      · exact congrArg Manager.sessionsMap same
      · exact round.sessionsMap

theorem Filed.unique_moveOn_iff (filed : state.Filed) :
    (state.moveOn config env id stage).Unique ↔ stage.InsertsFresh state.system.manager := by
  rw [Unique, moveOn_manager, moveOn_history, MuteStage.take_sessionsMap,
    ← MuteStage.fresh_iff_insertsFresh]
  cases stage.change? state.system.manager with
  | none => simpa using filed.unique
  | some change => simpa using filed.unique_apply_iff change

theorem Filed.moveOn (filed : state.Filed)
    (fresh : stage.InsertsFresh state.system.manager) :
    (state.moveOn config env id stage).Filed := by
  rw [← MuteStage.fresh_iff_insertsFresh] at fresh
  rw [Filed, moveOn_manager, moveOn_history, MuteStage.take_sessionsMap]
  cases changed : stage.change? state.system.manager with
  | none => simpa [Filed] using filed
  | some change =>
      have fresh := fresh change changed
      cases change with
      | inserted clientId filter => exact FiledFilters.insert filed fresh
      | removed clientId filter => exact FiledFilters.remove filed clientId filter

theorem Filed.next (filed : state.Filed) (fresh : state.InsertsFresh action)
    (taken : next config env state action = some after) : after.Filed := by
  rcases next_cases taken with ⟨keeps, history, -⟩ | ⟨id, stage, rfl, found, rfl⟩
  · rw [Filed, history]
    exact keeps.filedFilters filed
  · exact filed.moveOn (fresh stage found)

theorem Filed.unique_next_iff (filed : state.Filed)
    (taken : MuteSystem.next config env state action = some after) :
    after.Unique ↔ state.InsertsFresh action := by
  rcases next_cases taken with ⟨keeps, history, fresh⟩ | ⟨id, stage, rfl, found, rfl⟩
  · refine iff_of_true ?_ fresh
    rw [Unique, history]
    exact (keeps.filedFilters filed).unique
  · rw [filed.unique_moveOn_iff, InsertsFresh, found]
    simp

/-- What a call on filters does when no section of another one falls between its own. -/
def perform (config : ConfigData) (env : Externals σ) (manager : Manager σ) :
    MuteCall → Code × Manager σ
  | .insertSubscribeMute filter clientId =>
      manager.insertSubscribeMute config env filter clientId
  | .removeSubscribeMute filter clientId =>
      manager.removeSubscribeMute config env filter clientId

/-- Without interruption a call that stands at a stage returns with an answer. -/
def Ends (config : ConfigData) (env : Externals σ) (id : CallId) (before : Manager σ)
    (stage : MuteStage) (answer : Code × Manager σ) : Prop :=
  ∀ state : MuteSystem σ, state.system.manager = before → state.mutes.get? id = some stage →
    ∃ steps final, Transition.run (MuteSystem.next config env) state
        (List.replicate steps (.step id)) = some final ∧
      final.system = { state.system with manager := answer.2 } ∧
      final.returned = state.returned ++ [(id, answer.1)]

variable {before middle : Manager σ} {answer : Code × Manager σ} {code : Code}
  {later : MuteStage}

theorem ends_of_returns (taken : stage.take config env before = (middle, .returns code)) :
    Ends config env id before stage (code, middle) := by
  intro state same found
  refine ⟨1, state.moveOn config env id stage, ?_, ?_, ?_⟩
  · simp [Transition.run, MuteSystem.next, found]
  · simp [MuteSystem.moveOn, same, taken]
  · simp [MuteSystem.moveOn, same, taken]

theorem Ends.head (rest : Ends config env id middle later answer)
    (taken : stage.take config env before = (middle, .continues later)) :
    Ends config env id before stage answer := by
  intro state same found
  obtain ⟨steps, final, reach, system, returned⟩ :=
    rest (state.moveOn config env id stage) (by simp [same, taken])
      (by simp [MuteSystem.moveOn, same, taken])
  refine ⟨steps + 1, final, ?_, ?_, ?_⟩
  · simpa [List.replicate_succ, Transition.run, MuteSystem.next, found] using reach
  · simpa [MuteSystem.moveOn, same, taken] using system
  · simpa [MuteSystem.moveOn, same, taken] using returned

theorem ends_afterPlugin {called : Code × Manager σ} {change : Manager σ}
    (plugin : stage.take config env before = MuteStage.afterPlugin called later)
    (last : later.take config env called.2 = (change, .returns .success)) :
    Ends config env id before stage
      (if called.1 ≠ .success then called else (.success, change)) := by
  rw [MuteStage.afterPlugin] at plugin
  split_ifs at plugin ⊢
  · exact ends_of_returns plugin
  · exact (ends_of_returns last).head plugin

theorem ends_perform (manager : Manager σ) (call : MuteCall) :
    Ends config env id manager (.enter call) (perform config env manager call) := by
  cases call with
  | insertSubscribeMute filter clientId =>
      rw [perform, Manager.insertSubscribeMute]
      by_cases checked : manager.checkInsertMute filter clientId = .success
      · cases subscribed : manager.subscribes clientId filter.eventId with
        | false =>
            simp only [checked, ne_eq, not_true_eq_false, if_false, Bool.not_false, if_true]
            exact ends_of_returns (by simp [MuteStage.take, MuteStage.enterCall, checked,
              subscribed])
        | true =>
            simp only [checked, ne_eq, not_true_eq_false, if_false, Bool.not_true,
              Bool.false_eq_true]
            have plugin : (MuteStage.insertMute filter clientId).take config env manager =
                MuteStage.afterPlugin (manager.insertMute config env filter clientId)
                  (.addFilter filter clientId) := rfl
            exact (ends_afterPlugin plugin rfl).head (by simp [MuteStage.take,
              MuteStage.enterCall, checked, subscribed])
      · simp only [checked, ne_eq, not_false_eq_true, if_true]
        exact ends_of_returns (by simp [MuteStage.take, MuteStage.enterCall, checked])
  | removeSubscribeMute filter clientId =>
      rw [perform, Manager.removeSubscribeMute]
      cases present : manager.isFilterInSession clientId filter with
      | false => exact ends_of_returns (by simp [MuteStage.take, MuteStage.enterCall, present])
      | true =>
          cases subscribed : manager.subscribes clientId filter.eventId with
          | false =>
              exact ends_of_returns (by simp [MuteStage.take, MuteStage.enterCall, present,
                subscribed])
          | true =>
              have plugin : (MuteStage.removeMute filter clientId).take config env manager =
                  MuteStage.afterPlugin (manager.removeMute config env filter clientId)
                    (.eraseFilter filter clientId) := rfl
              exact (ends_afterPlugin plugin rfl).head (by simp [MuteStage.take,
                MuteStage.enterCall, present, subscribed])

variable (config env) in
/-- The filters of the sessions are unique in every state of a run exactly if no insertion ends
while the session has the filter. -/
theorem filters_are_unique_iff (world : σ) (actions : List MuteAction) :
    Transition.Visits (MuteSystem.next config env) Unique (initial world) actions ↔
      Transition.Along (MuteSystem.next config env) InsertsFresh (initial world) actions := by
  refine Transition.visits_iff_along_of_refused ?_ Filed.next Filed.unique_next_iff
    (fun _ => FiledFilters.unique) filedFilters_empty
  intro state action refused
  cases action with
  | step id =>
      intro stage found
      rw [MuteSystem.next, Option.mem_def.mp found] at refused
      exact absurd refused (by simp)
  | act | call | publish => exact trivial

/-- A client subscribes event 7, sets one filter on it by two calls at once and removes it. -/
def insertsTwice : List MuteAction :=
  (SubscribeSystem.uninterrupted 0 (.creatClient "auditGroup" "a" 100 10) 2).map .act ++
    (SubscribeSystem.uninterrupted 0 (.insertSubscribeRecord 7 "a") 4).map .act ++
    [.call 1 (.insertSubscribeMute Manager.muteSeven "a"),
      .call 2 (.insertSubscribeMute Manager.muteSeven "a"),
      .step 1, .step 2, .step 1, .step 2, .step 1, .step 2,
      .call 3 (.removeSubscribeMute Manager.muteSeven "a"), .step 3, .step 3, .step 3]

/-- The filter is still in the session after its removal. -/
theorem removed_filter_remains :
    ¬∀ (actions : List MuteAction)
        (final : MuteSystem (List SecurityCollectorEventMuteFilter)),
      Transition.run (MuteSystem.next Manager.mutableConfig Manager.listingExternals)
        (initial []) actions = some final → final.Unique := by
  intro always
  have evaluated : (Transition.run
      (MuteSystem.next Manager.mutableConfig Manager.listingExternals) (initial [])
      insertsTwice).any (fun final =>
        final.history = [.inserted "a" Manager.muteSeven, .inserted "a" Manager.muteSeven,
          .removed "a" Manager.muteSeven] ∧
        ((final.system.manager.sessionsMap.get? "a").any fun session =>
          Manager.muteSeven ∈ Manager.filtersOf session 7) = true) = true := by
    decide +kernel
  obtain ⟨final, reach, found⟩ := (Option.any_eq_true _ _).mp evaluated
  obtain ⟨history, present⟩ := of_decide_eq_true found
  obtain ⟨session, here, mem⟩ := (Option.any_eq_true _ _).mp present
  have removed : RemovedSince final.history "a" Manager.muteSeven :=
    ⟨List.replicate 2 (.inserted "a" Manager.muteSeven), [], history, List.not_mem_nil⟩
  exact (always insertsTwice final reach).gone "a" Manager.muteSeven removed session here 7
    (of_decide_eq_true mem)

end MuteSystem

end SecurityGuard
