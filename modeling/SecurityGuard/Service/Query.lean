import SecurityGuard.Collector.Query
import SecurityGuard.Service.Permission

/-!
# Queries of the service

`QuerySecurityEvent` and `QuerySecurityEventById` check the caller and submit a task.  The task
sends the events it finds with `OnQuery` and ends with `OnComplete`, or with `OnError` and the
event ids that failed.
-/

namespace SecurityGuard

def maxOnQuerySize : Nat := 100

/-- The only event of `QuerySecurityEventById`. -/
def queryProcInfoEventId : Int := 1011015023

/-- A stored event as a query returns it. -/
def SecEvent.toSecurityEvent (event : SecEvent) : SecurityEvent where
  eventId := event.eventId
  version := event.version
  content := event.content
  timestamp := event.date

/-- The pieces in which a long list of events is sent; the step never grows. -/
def queryPieces (step : Nat) (positive : 0 < step) (events : List SecurityEvent) :
    List (List SecurityEvent) :=
  if empty : events = [] then []
  else
    let size := if step < events.length then step else events.length
    events.take size ::
      queryPieces size (by dsimp only [size]; split_ifs; exacts [positive, by grind])
        (events.drop size)
termination_by events.length
decreasing_by
  have long : 0 < events.length := List.length_pos_of_ne_nil empty
  rw [List.length_drop]
  split_ifs <;> omega

/-- The failed event ids as the message of `OnError` lists them. -/
def errEventIds : List Int → String
  | [] => ""
  | eventId :: rest => toString eventId ++ " " ++ errEventIds rest

/-- The message of `OnError`. -/
def errorMessage (errEventIds : String) : String :=
  "QuerySecurityEvent " ++ errEventIds ++ "failed"

/-- The queries of a call by the way they are served. -/
structure ClassifiedRulers where
  invalidEventIds : List Int := []
  securityGuardRulers : List SecurityEventRuler := []
  securityCollectorRulers : List SecurityEventRuler := []
  dbRulers : List SecurityEventRuler := []
  deriving DecidableEq

/-- Divide queries by the way they are served. -/
def ConfigData.classifyRulers (config : ConfigData) (group : EventGroupCfg) :
    List SecurityEventRuler → ClassifiedRulers
  | [] => {}
  | ruler :: rest =>
      let later := config.classifyRulers group rest
      if !group.eventList.contains ruler.eventId then
        -- An id outside the group of the caller is reported like one that is not configured.
        { later with invalidEventIds := ruler.eventId :: later.invalidEventIds }
      else
        match config.getEventConfig ruler.eventId with
        | none => { later with invalidEventIds := ruler.eventId :: later.invalidEventIds }
        | some cfg =>
            if cfg.eventType = .queryColl then
              if cfg.prog = securityGuardProg then
                { later with securityGuardRulers := ruler :: later.securityGuardRulers }
              else
                { later with securityCollectorRulers := ruler :: later.securityCollectorRulers }
            else { later with dbRulers := ruler :: later.dbRulers }

namespace QueryState

variable {σ : Type} (config : ConfigData) (env : QueryCalls σ) (state : QueryState σ)

/-- Call the callback object. -/
def callback (sent : QueryCallback) : QueryState σ :=
  { state with callbacks := state.callbacks ++ [sent] }

/-- Send events in pieces. -/
def onQueries (sent : List (List SecurityEvent)) : QueryState σ :=
  { state with callbacks := state.callbacks ++ sent.map .onQuery }

/-- Start a sub-query with empty lists. -/
def fresh : QueryState σ := { state with events := [], failedEventIds := [] }

/-- Send events, in pieces if there are too many for one call. -/
def querySecurityEventCallBack (events : List SecurityEvent) : QueryState σ :=
  if 0 < events.length ∧ events.length ≤ maxOnQuerySize then state.callback (.onQuery events)
  else if maxOnQuerySize < events.length then
    state.onQueries (queryPieces maxOnQuerySize (by decide) events)
  else state

/-- Ask the collector service for some events. -/
def queryService (rulers : List SecurityEventRuler) : Code × QueryState σ :=
  let asked := state.call (env.querySecurityEvent rulers)
  (asked.1.code, { asked.2 with events := asked.2.events ++ asked.1.events })

/-- Ask the collector service for a batch. -/
def queryServiceBatch (rulers : List SecurityEventRuler) : Code × QueryState σ :=
  let asked := state.call (env.querySecurityEventBatch rulers)
  (asked.1.code, asked.2.receive rulers asked.1)

/-- Ask the store for the events of a query. -/
def queryDatabase (ruler : SecurityEventRuler) : (Code × List SecEvent) × QueryState σ :=
  if ruler.beginTime = "" ∧ ruler.endTime = "" then
    state.call (env.queryEventByEventId ruler.eventId)
  else
    state.call
      (env.queryEventByEventIdAndDate riskTable [ruler.eventId] ruler.beginTime ruler.endTime)

/-- Ask the collectors of this process or the collector service, whichever collects an event. -/
def queryCollector (cfg : EventCfg) (ruler : SecurityEventRuler) : Code × QueryState σ :=
  if cfg.prog = securityGuardProg then state.fresh.queryCollection env [ruler]
  else state.fresh.queryService env [ruler]

/-- Serve one query and say whether it was served; the code of the store is ignored. -/
def queryEventByRuler (ruler : SecurityEventRuler) : Bool × QueryState σ :=
  match config.getEventConfig ruler.eventId with
  | none => (false, state.record [ruler] .failed [ruler.eventId])
  | some cfg =>
      if cfg.eventType = .queryColl then
        let asked := state.queryCollector env cfg ruler
        if asked.1 ≠ .success then (false, asked.2.record [ruler] asked.1 [ruler.eventId])
        else
          (true, (asked.2.record [ruler] asked.1 []).querySecurityEventCallBack asked.2.events)
      else
        let asked := state.queryDatabase env ruler
        (true,
          (asked.2.record [ruler] asked.1.1 []).querySecurityEventCallBack
            (asked.1.2.map SecEvent.toSecurityEvent))

/-- Send the events of a batch query and return the ids that it reported. -/
def replyBatch : List Int × QueryState σ :=
  (state.failedEventIds,
    if state.events ≠ [] then state.querySecurityEventCallBack state.events else state)

/-- `QuerySecurityGuardBatchAndCallback`. -/
def querySecurityGuardBatch (rulers : List SecurityEventRuler) : List Int × QueryState σ :=
  (state.fresh.queryCollectionBatch env rulers).2.replyBatch

/-- `QuerySecurityCollectorBatchAndCallback`. -/
def querySecurityCollectorBatch (rulers : List SecurityEventRuler) : List Int × QueryState σ :=
  (state.fresh.queryServiceBatch env rulers).2.replyBatch

/-- Serve the queries to the store and return the ids that failed. -/
def queryDbRulers : List SecurityEventRuler → QueryState σ → List Int × QueryState σ
  | [], state => ([], state)
  | ruler :: rest, state =>
      let asked := state.queryEventByRuler config env ruler
      let later := queryDbRulers rest asked.2
      (if asked.1 then later.1 else ruler.eventId :: later.1, later.2)

/-- Call `query` only if there is something to query. -/
def unlessEmpty (rulers : List SecurityEventRuler)
    (query : List SecurityEventRuler → QueryState σ → List Int × QueryState σ) :
    List Int × QueryState σ :=
  if rulers = [] then ([], state) else query rulers state

/-- The task of `QuerySecurityEvent`. -/
def handleQuerySecurityEvent (rulers : List SecurityEventRuler) (eventGroup : String) :
    QueryState σ :=
  match config.getEventGroupConfig eventGroup with
  | none => state
  | some group =>
      let classified := config.classifyRulers group rulers
      let guarded := state.unlessEmpty classified.securityGuardRulers
        fun rulers state => state.querySecurityGuardBatch env rulers
      let collected := guarded.2.unlessEmpty classified.securityCollectorRulers
        fun rulers state => state.querySecurityCollectorBatch env rulers
      let stored := queryDbRulers config env classified.dbRulers collected.2
      -- The task ends with one message, an error with all failed ids or the completion.
      let failedIds := classified.invalidEventIds ++ guarded.1 ++ collected.1 ++ stored.1
      if failedIds ≠ [] then stored.2.callback (.onError (errorMessage (errEventIds failedIds)))
      else stored.2.callback .onComplete

/-- Serve the queries of `QuerySecurityEventById` and return the ids that failed. -/
def queryEachById : List SecurityEventRuler → QueryState σ → List Int × QueryState σ
  | [], state => ([], state)
  | ruler :: rest, state =>
      if ruler.eventId ≠ queryProcInfoEventId then
        let later := queryEachById rest state
        (ruler.eventId :: later.1, later.2)
      else
        let asked := state.queryEventByRuler config env ruler
        let later := queryEachById rest asked.2
        (if asked.1 then later.1 else ruler.eventId :: later.1, later.2)

/-- The task of `QuerySecurityEventById`. -/
def handleQuerySecurityEventById (rulers : List SecurityEventRuler) : QueryState σ :=
  let asked := queryEachById config env rulers state
  let failed := errEventIds asked.1
  if failed ≠ "" then asked.2.callback (.onError (errorMessage failed))
  else asked.2.callback .onComplete

end QueryState

/-- A task that a query call submits. -/
inductive QueryTask where
  | handleQuerySecurityEvent (rulers : List SecurityEventRuler) (eventGroup : String)
  | handleQuerySecurityEventById (rulers : List SecurityEventRuler)
  deriving DecidableEq

/-- Run a submitted task. -/
def QueryTask.run {σ : Type} (config : ConfigData) (env : QueryCalls σ) (state : QueryState σ) :
    QueryTask → QueryState σ
  | .handleQuerySecurityEvent rulers eventGroup =>
      state.handleQuerySecurityEvent config env rulers eventGroup
  | .handleQuerySecurityEventById rulers => state.handleQuerySecurityEventById config env rulers

/-- A query call; the callback object is usable or not. -/
inductive QueryCall where
  | querySecurityEvent (rulers : List SecurityEventRuler) (usable : Bool) (eventGroup : String)
  | querySecurityEventById (rulers : List SecurityEventRuler) (usable : Bool)
      (eventGroup : String)
  deriving DecidableEq

namespace ConfigData

variable (config : ConfigData) (caller : Caller)

/-- Check a call of `QuerySecurityEvent` and submit its task. -/
def querySecurityEvent (rulers : List SecurityEventRuler) (usable : Bool) (eventGroup : String) :
    Code × Option QueryTask :=
  let code :=
    if eventGroup = "" then isCallerHasApiPermission caller .querySecurityEvent
    else config.isEventGroupHasPermission caller eventGroup []
  if code ≠ .success then (code, none)
  else if !usable then (.nullObject, none)
  else (.success, some (.handleQuerySecurityEvent rulers eventGroup))

/-- Check a call of `QuerySecurityEventById` and submit its task. -/
def querySecurityEventById (rulers : List SecurityEventRuler) (usable : Bool)
    (eventGroup : String) : Code × Option QueryTask :=
  let code := config.isEventGroupHasPublicPermission caller eventGroup []
  if code ≠ .success then (code, none)
  else if !usable then (.nullObject, none)
  else (.success, some (.handleQuerySecurityEventById rulers))

/-- Check a query call and submit its task. -/
def submitQuery : QueryCall → Code × Option QueryTask
  | .querySecurityEvent rulers usable eventGroup =>
      config.querySecurityEvent caller rulers usable eventGroup
  | .querySecurityEventById rulers usable eventGroup =>
      config.querySecurityEventById caller rulers usable eventGroup

end ConfigData

namespace QueryState

variable {σ : Type} (config : ConfigData) (env : QueryCalls σ) (state : QueryState σ)

theorem querySecurityEventCallBack_serves (events : List SecurityEvent) :
    Serves [] [] state (state.querySecurityEventCallBack events) := by
  have sends (pieces : List (List SecurityEvent)) : Serves [] [] state (state.onQueries pieces) :=
    ⟨⟨pieces, rfl⟩, [], by simp [onQueries], .refl [], rfl⟩
  rw [querySecurityEventCallBack]
  split_ifs
  · exact sends [events]
  · exact sends _
  · exact .refl state

theorem queryDatabase_serves (ruler : SecurityEventRuler) :
    Serves [] [] state (state.queryDatabase env ruler).2 := by
  rw [queryDatabase]
  split_ifs <;> exact .of_same rfl rfl

theorem queryCollector_serves (cfg : EventCfg) (ruler : SecurityEventRuler) :
    Serves [] [] state (state.queryCollector env cfg ruler).2 := by
  have started : Serves [] [] state state.fresh := .of_same rfl rfl
  rw [queryCollector]
  split_ifs
  · exact started.trans (queryCollection_serves env state.fresh [ruler])
  · exact started.trans (.of_same rfl rfl)

/-- The ids reported for a query, by whether it was answered. -/
def unanswered (ruler : SecurityEventRuler) : Bool → List Int
  | true => []
  | false => [ruler.eventId]

theorem queryEventByRuler_serves (ruler : SecurityEventRuler) :
    Serves [ruler] (unanswered ruler (state.queryEventByRuler config env ruler).1) state
      (state.queryEventByRuler config env ruler).2 := by
  rw [queryEventByRuler]
  cases config.getEventConfig ruler.eventId with
  | none => exact record_serves state [ruler] .failed [ruler.eventId]
  | some cfg =>
      have collected := queryCollector_serves env state cfg ruler
      have stored := queryDatabase_serves env state ruler
      dsimp only
      split_ifs
      · exact collected.trans (record_serves _ [ruler] _ [ruler.eventId])
      · exact (collected.trans (record_serves _ [ruler] _ [])).trans
          (querySecurityEventCallBack_serves _ _)
      · exact (stored.trans (record_serves _ [ruler] _ [])).trans
          (querySecurityEventCallBack_serves _ _)

variable {state} in
theorem Fills.replyBatch {rulers : List SecurityEventRuler} {after : QueryState σ}
    (fills : Fills rulers state.fresh after) :
    Serves rulers after.replyBatch.1 state after.replyBatch.2 := by
  obtain ⟨reported, serves, failed⟩ := fills
  have started : Serves [] [] state state.fresh := .of_same rfl rfl
  have answered := started.trans serves
  have same : after.failedEventIds = reported := failed
  rw [QueryState.replyBatch, same]
  dsimp only
  split_ifs
  · simpa using answered.trans (querySecurityEventCallBack_serves after after.events)
  · exact answered

theorem querySecurityGuardBatch_serves (rulers : List SecurityEventRuler) :
    let asked := state.querySecurityGuardBatch env rulers
    Serves rulers asked.1 state asked.2 :=
  (queryCollectionBatch_fills env state.fresh rulers).replyBatch

theorem querySecurityCollectorBatch_serves (rulers : List SecurityEventRuler) :
    let asked := state.querySecurityCollectorBatch env rulers
    Serves rulers asked.1 state asked.2 := by
  have called := call_fills state.fresh (env.querySecurityEventBatch rulers)
  exact (called.trans (receive_fills _ rulers _)).replyBatch

theorem queryDbRulers_serves (rulers : List SecurityEventRuler) :
    let asked := queryDbRulers config env rulers state
    Serves rulers asked.1 state asked.2 := by
  induction rulers generalizing state with
  | nil => exact .refl state
  | cons ruler rest ih =>
      have served := (queryEventByRuler_serves config env state ruler).trans (ih _)
      rw [queryDbRulers]
      dsimp only
      split_ifs with answered
      · simpa [answered, unanswered] using served
      · simpa [answered, unanswered] using served

variable {state} in
theorem unlessEmpty_serves {rulers : List SecurityEventRuler}
    (query : List SecurityEventRuler → QueryState σ → List Int × QueryState σ)
    (serves : Serves rulers (query rulers state).1 state (query rulers state).2) :
    let asked := state.unlessEmpty rulers query
    Serves rulers asked.1 state asked.2 := by
  rw [unlessEmpty]
  split_ifs with none
  · rw [none]
    exact .refl state
  · exact serves

/-- A task under a configured group sends events, serves the valid queries and ends with one
callback, `OnError` exactly if an id is invalid or reported. -/
theorem handleQuerySecurityEvent_serves {rulers : List SecurityEventRuler} {eventGroup : String}
    {group : EventGroupCfg} (configured : config.getEventGroupConfig eventGroup = some group) :
    ∃ reported served, let classified := config.classifyRulers group rulers
      let failedIds := classified.invalidEventIds ++ reported
      Serves (classified.securityGuardRulers ++ classified.securityCollectorRulers ++
        classified.dbRulers) reported state served ∧
      state.handleQuerySecurityEvent config env rulers eventGroup =
        served.callback (if failedIds ≠ [] then .onError (errorMessage (errEventIds failedIds))
          else .onComplete) := by
  rw [handleQuerySecurityEvent, configured]
  dsimp only
  have guarded := unlessEmpty_serves (fun rulers state => state.querySecurityGuardBatch env rulers)
    (querySecurityGuardBatch_serves env state
      (config.classifyRulers group rulers).securityGuardRulers)
  have collected := guarded.trans (unlessEmpty_serves
    (fun rulers state => state.querySecurityCollectorBatch env rulers)
    (querySecurityCollectorBatch_serves env _
      (config.classifyRulers group rulers).securityCollectorRulers))
  have stored := collected.trans (queryDbRulers_serves config env _
    (config.classifyRulers group rulers).dbRulers)
  refine ⟨_, _, stored, ?_⟩
  simp only [List.append_assoc]
  split_ifs <;> rfl

theorem queryEachById_serves (rulers : List SecurityEventRuler) :
    ∃ served reported, Serves served reported state (queryEachById config env rulers state).2 := by
  induction rulers generalizing state with
  | nil => exact ⟨[], [], .refl state⟩
  | cons ruler rest ih =>
      rw [queryEachById]
      split_ifs with foreign
      · exact ih state
      · obtain ⟨served, reported, serves⟩ := ih (state.queryEventByRuler config env ruler).2
        exact ⟨_, _, (queryEventByRuler_serves config env state ruler).trans serves⟩

end QueryState

end SecurityGuard
