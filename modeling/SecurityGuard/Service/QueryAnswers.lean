import SecurityGuard.Service.Query

/-!
# The answers that a query task gets

A task looks up the library of each of its queries, opens the libraries, and asks their collectors,
the collector service and the store.  The answers to these calls are listed here without the task,
from the calls alone.  The sub-queries of the task are these answers, one by one.
-/

namespace SecurityGuard

/-- What becomes of one message to the collector service. -/
inductive ServiceAnswer where
  | unloadable
  /-- There are more queries than a message takes. -/
  | refused
  | sent (code : Code) (parcel : QueryParcel)

/-- What the caller reads from an answer of the collector service. -/
def ServiceAnswer.reply : ServiceAnswer → QueryReply
  | .unloadable => { code := .nullObject }
  | .refused => { code := .badParam }
  | .sent code parcel => if code ≠ 0 then { code } else parcel.readQueryBatchReply

/-- An answer that settles some queries of a task. -/
inductive QueryAnswer where
  | noCollectorPath (ruler : SecurityEventRuler) (code : Code)
  | libNotLoaded (rulers : List SecurityEventRuler)
  | noCollector (rulers : List SecurityEventRuler)
  | batchQuery (rulers : List SecurityEventRuler) (reply : QueryReply)
  /-- The service is asked again if it died while it was asked first. -/
  | collectorService (rulers : List SecurityEventRuler) (first : ServiceAnswer)
      (second : Option ServiceAnswer)
  | database (ruler : SecurityEventRuler) (code : Code)

namespace QueryAnswer

/-- The queries that an answer settles. -/
def rulers : QueryAnswer → List SecurityEventRuler
  | .noCollectorPath ruler _ | .database ruler _ => [ruler]
  | .libNotLoaded rulers | .noCollector rulers | .batchQuery rulers _
  | .collectorService rulers _ _ => rulers

/-- The ids that are reported because of an answer: that of a query without a library, those of a
library without a collector, and those that a collector or the collector service lists. -/
def named : QueryAnswer → List Int
  | .noCollectorPath ruler _ => [ruler.eventId]
  | .noCollector rulers => rulers.map SecurityEventRuler.eventId
  | .batchQuery _ reply => reply.failedEventIds
  | .collectorService _ first second =>
      first.reply.failedEventIds ++ (second.map (·.reply.failedEventIds)).getD []
  | .libNotLoaded _ | .database _ _ => []

/-- A failure whose own queries nobody reports: a library that does not load, an error of
`BatchQuery`, a collector service that does not answer with success, an error of the store. -/
def IsSilentFailure : QueryAnswer → Prop
  | .libNotLoaded _ => True
  | .batchQuery _ reply => reply.code ≠ 0
  | .collectorService _ first second => (second.getD first).reply.code ≠ .success
  | .database _ code => code ≠ .success
  | .noCollectorPath _ _ | .noCollector _ => False

instance : ∀ answer : QueryAnswer, Decidable answer.IsSilentFailure
  | .libNotLoaded _ => isTrue trivial
  | .batchQuery _ reply => inferInstanceAs (Decidable (reply.code ≠ 0))
  | .collectorService _ first second =>
      inferInstanceAs (Decidable ((second.getD first).reply.code ≠ .success))
  | .database _ code => inferInstanceAs (Decidable (code ≠ .success))
  | .noCollectorPath _ _ | .noCollector _ => isFalse id

/-- The code of the sub-query that an answer ends. -/
def code : QueryAnswer → Code
  | .noCollectorPath _ code | .database _ code => code
  | .libNotLoaded _ | .noCollector _ => .failed
  | .batchQuery _ reply => reply.code
  | .collectorService _ first second => (second.getD first).reply.code

/-- The sub-query that an answer ends. -/
def subQuery (answer : QueryAnswer) : SubQuery where
  rulers := answer.rulers
  code := answer.code
  reported := answer.named

end QueryAnswer

namespace QueryCalls

variable {σ : Type} (env : QueryCalls σ)

/-- Look up the libraries of some queries: what is answered for those without one, and the groups
of the others. -/
def lookUp : List SecurityEventRuler → SortedMap String (List SecurityEventRuler) → σ →
    List QueryAnswer × SortedMap String (List SecurityEventRuler) × σ
  | [], groups, world => ([], groups, world)
  | ruler :: rest, groups, world =>
      let answer := env.getCollectorPath ruler.eventId world
      match answer.1 with
      | .error code =>
          let later := lookUp rest groups answer.2
          (.noCollectorPath ruler code :: later.1, later.2)
      | .ok path =>
          lookUp rest (groups.insert path ((groups.get? path).getD [] ++ [ruler])) answer.2

/-- Open a library and ask its collector. -/
def libraryAnswer (soPath : String) (rulers : List SecurityEventRuler) (world : σ) :
    QueryAnswer × σ :=
  let loaded := env.loadLib soPath world
  if loaded.1 ≠ .success then (.libNotLoaded rulers, loaded.2)
  else
    let got := env.callGetCollector soPath loaded.2
    if !got.1 then (.noCollector rulers, got.2)
    else
      let asked := env.batchQuery soPath rulers got.2
      (.batchQuery rulers asked.1, asked.2)

/-- Ask the collectors of several libraries. -/
def libraryAnswers : List (String × List SecurityEventRuler) → σ → List QueryAnswer × σ
  | [], world => ([], world)
  | group :: rest, world =>
      let answer := env.libraryAnswer group.1 group.2 world
      let later := libraryAnswers rest answer.2
      (answer.1 :: later.1, later.2)

/-- Ask the collectors of this process. -/
def guardAnswers (rulers : List SecurityEventRuler) (world : σ) : List QueryAnswer × σ :=
  if rulers = [] then ([], world)
  else
    let lookedUp := env.lookUp rulers .empty world
    let asked := env.libraryAnswers (env.order lookedUp.2.1 lookedUp.2.2) lookedUp.2.2
    (lookedUp.1 ++ asked.1, asked.2)

/-- Send one message to the collector service. -/
def serviceAnswer (rulers : List SecurityEventRuler) (world : σ) : ServiceAnswer × σ :=
  let loaded := env.loadCollectorService world
  if !loaded.1 then (.unloadable, loaded.2)
  else if maxQueryEventSize < rulers.length then (.refused, loaded.2)
  else
    let sent := env.sendQueryBatch rulers loaded.2
    (.sent sent.1.1 sent.1.2, sent.2)

/-- Ask the collector service. -/
def serviceAnswers (rulers : List SecurityEventRuler) (world : σ) : List QueryAnswer × σ :=
  if rulers = [] then ([], world)
  else
    let first := env.serviceAnswer rulers world
    if first.1.reply.code = brDeadReply then
      let second := env.serviceAnswer rulers first.2
      ([.collectorService rulers first.1 (some second.1)], second.2)
    else ([.collectorService rulers first.1 none], first.2)

/-- Ask the store for the events of a query. -/
def databaseAnswer (ruler : SecurityEventRuler) (world : σ) : (Code × List SecEvent) × σ :=
  if ruler.beginTime = "" ∧ ruler.endTime = "" then env.queryEventByEventId ruler.eventId world
  else
    env.queryEventByEventIdAndDate riskTable [ruler.eventId] ruler.beginTime ruler.endTime world

/-- Ask the store for the events of each query. -/
def databaseAnswers : List SecurityEventRuler → σ → List QueryAnswer × σ
  | [], world => ([], world)
  | ruler :: rest, world =>
      let asked := env.databaseAnswer ruler world
      let later := databaseAnswers rest asked.2
      (.database ruler asked.1.1 :: later.1, later.2)

/-- All answers to a task, which asks the collectors of this process, then the collector service
and last the store. -/
def taskAnswers (config : ConfigData) (group : EventGroupCfg) (rulers : List SecurityEventRuler)
    (world : σ) : List QueryAnswer :=
  let classified := config.classifyRulers group rulers
  let guarded := env.guardAnswers classified.securityGuardRulers world
  let collected := env.serviceAnswers classified.securityCollectorRulers guarded.2
  let stored := env.databaseAnswers classified.dbRulers collected.2
  guarded.1 ++ collected.1 ++ stored.1

end QueryCalls

namespace QueryState

variable {σ : Type} {before middle after : QueryState σ}

/-- The steps between two states got some answers, which left a world. -/
structure Gets (answers : List QueryAnswer) (world : σ) (before after : QueryState σ) : Prop where
  world : after.world = world
  subQueries : after.subQueries = before.subQueries ++ answers.map QueryAnswer.subQuery

namespace Gets

variable {answers later : List QueryAnswer} {world last : σ}

theorem nothing (sameWorld : after.world = world) (same : after.subQueries = before.subQueries) :
    Gets [] world before after :=
  ⟨sameWorld, by rw [same, List.map_nil, List.append_nil]⟩

theorem trans (first : Gets answers world before middle) (second : Gets later last middle after) :
    Gets (answers ++ later) last before after :=
  ⟨second.world, by rw [second.subQueries, first.subQueries, List.map_append, List.append_assoc]⟩

theorem same (gets : Gets answers world before middle) (sameWorld : after.world = middle.world)
    (same : after.subQueries = middle.subQueries) : Gets answers world before after :=
  ⟨sameWorld.trans gets.world, same.trans gets.subQueries⟩

end Gets

variable (config : ConfigData) (env : QueryCalls σ) (state : QueryState σ)

theorem keepLibs_same (soPath : String) (rulers : List SecurityEventRuler) :
    (rulers.foldl (·.keepLib soPath ·) state).world = state.world ∧
      (rulers.foldl (·.keepLib soPath ·) state).subQueries = state.subQueries := by
  induction rulers generalizing state with
  | nil => exact ⟨rfl, rfl⟩
  | cons ruler rest ih => exact ih (state.keepLib soPath ruler)

theorem loadAndQueryBySoPath_gets (soPath : String) (rulers : List SecurityEventRuler) :
    let answer := env.libraryAnswer soPath rulers state.world
    Gets [answer.1] answer.2 state (state.loadAndQueryBySoPath env soPath rulers).2 := by
  obtain ⟨world, subQueries⟩ :=
    keepLibs_same (state.call (env.loadLib soPath)).2 soPath rulers
  rw [QueryCalls.libraryAnswer, loadAndQueryBySoPath]
  dsimp only
  generalize rulers.foldl (·.keepLib soPath ·) (state.call (env.loadLib soPath)).2 = kept
    at world subQueries ⊢
  obtain ⟨collection, keptWorld, events, failedEventIds, callbacks, keptSubQueries⟩ := kept
  obtain rfl : keptWorld = (env.loadLib soPath state.world).2 := world
  obtain rfl : keptSubQueries = state.subQueries := subQueries
  by_cases opens : (env.loadLib soPath state.world).1 = .success
  · cases found : (env.callGetCollector soPath (env.loadLib soPath state.world).2).1 with
    | false =>
        simp [call, opens, found]
        exact ⟨rfl, rfl⟩
    | true =>
        simp [call, opens, found]
        split_ifs <;> exact ⟨rfl, rfl⟩
  · simp [call, opens]
    exact ⟨rfl, rfl⟩

theorem groupBySoPath_gets (rulers : List SecurityEventRuler)
    (groups : SortedMap String (List SecurityEventRuler)) :
    let lookedUp := env.lookUp rulers groups state.world
    (groupBySoPath env rulers groups state).1 = lookedUp.2.1 ∧
      Gets lookedUp.1 lookedUp.2.2 state (groupBySoPath env rulers groups state).2 := by
  induction rulers generalizing groups state with
  | nil => exact ⟨rfl, .nothing rfl rfl⟩
  | cons ruler rest ih =>
      rw [QueryCalls.lookUp, groupBySoPath]
      simp only [call]
      cases (env.getCollectorPath ruler.eventId state.world).1 with
      | error code =>
          obtain ⟨same, gets⟩ := ih (receive (state.call (env.getCollectorPath ruler.eventId)).2
            [ruler] { code, failedEventIds := [ruler.eventId] }) groups
          have refused : Gets [.noCollectorPath ruler code]
              (env.getCollectorPath ruler.eventId state.world).2 state
              (receive (state.call (env.getCollectorPath ruler.eventId)).2
                [ruler] { code, failedEventIds := [ruler.eventId] }) := ⟨rfl, rfl⟩
          exact ⟨same, refused.trans gets⟩
      | ok path =>
          obtain ⟨same, gets⟩ := ih (state.call (env.getCollectorPath ruler.eventId)).2
            (groups.insert path ((groups.get? path).getD [] ++ [ruler]))
          exact ⟨same, gets.world, gets.subQueries⟩

theorem queryGroups_gets (groups : List (String × List SecurityEventRuler)) :
    let asked := env.libraryAnswers groups state.world
    Gets asked.1 asked.2 state (queryGroups env groups state) := by
  induction groups generalizing state with
  | nil => exact .nothing rfl rfl
  | cons group rest ih =>
      have first := loadAndQueryBySoPath_gets env state group.1 group.2
      have later := ih (state.loadAndQueryBySoPath env group.1 group.2).2
      rw [first.world] at later
      exact first.trans later

theorem querySecurityEventCallBack_same (events : List SecurityEvent) :
    (state.querySecurityEventCallBack events).world = state.world ∧
      (state.querySecurityEventCallBack events).subQueries = state.subQueries := by
  rw [querySecurityEventCallBack]
  split_ifs <;> exact ⟨rfl, rfl⟩

variable {state} in
theorem Gets.replyBatch {answers : List QueryAnswer} {world : σ}
    (gets : Gets answers world state.fresh after) :
    Gets answers world state after.replyBatch.2 := by
  obtain ⟨sameWorld, same⟩ := querySecurityEventCallBack_same after after.events
  have started : Gets answers world state after := ⟨gets.world, gets.subQueries⟩
  rw [QueryState.replyBatch]
  dsimp only
  split_ifs
  · exact started.same sameWorld same
  · exact started

theorem guarded_gets (rulers : List SecurityEventRuler) :
    let asked := env.guardAnswers rulers state.world
    Gets asked.1 asked.2 state
      (state.unlessEmpty rulers fun rulers state =>
        state.querySecurityGuardBatch env rulers).2 := by
  rw [unlessEmpty, QueryCalls.guardAnswers]
  split_ifs with none
  · exact .nothing rfl rfl
  · obtain ⟨same, lookedUp⟩ := groupBySoPath_gets env state.fresh rulers .empty
    have asked := queryGroups_gets env (groupBySoPath env rulers .empty state.fresh).2
      (env.order (groupBySoPath env rulers .empty state.fresh).1
        (groupBySoPath env rulers .empty state.fresh).2.world)
    rw [same, lookedUp.world] at asked
    have batch := lookedUp.trans asked
    rw [querySecurityGuardBatch, queryCollectionBatch, if_neg none]
    dsimp only
    rw [same, lookedUp.world]
    exact batch.replyBatch

theorem querySecurityEventBatchImpl_eq (rulers : List SecurityEventRuler) (world : σ) :
    env.querySecurityEventBatchImpl rulers world =
      ((env.serviceAnswer rulers world).1.reply, (env.serviceAnswer rulers world).2) := by
  rw [QueryCalls.querySecurityEventBatchImpl, QueryCalls.askService, QueryCalls.serviceAnswer]
  dsimp only
  split_ifs with unloadable long accepted failed
  · rfl
  · rfl
  · exact absurd (by decide : Code.badParam ≠ 0) accepted
  · rw [ServiceAnswer.reply, if_pos failed]
  · rw [ServiceAnswer.reply, if_neg failed]

/-- The caller takes over what it reads from both messages. -/
theorem querySecurityEventBatch_gets {rulers : List SecurityEventRuler} (some : rulers ≠ [])
    (world : σ) :
    let asked := env.querySecurityEventBatch rulers world
    let answers := env.serviceAnswers rulers world
    asked.2 = answers.2 ∧
      [{ rulers, code := asked.1.code, reported := asked.1.failedEventIds }] =
        answers.1.map QueryAnswer.subQuery := by
  rw [QueryCalls.serviceAnswers, if_neg some, QueryCalls.querySecurityEventBatch, QueryCalls.retry]
  dsimp only
  rw [querySecurityEventBatchImpl_eq]
  dsimp only
  split_ifs
  · rw [querySecurityEventBatchImpl_eq]
    exact ⟨rfl, rfl⟩
  · exact ⟨rfl, by simp [QueryAnswer.subQuery, QueryAnswer.rulers, QueryAnswer.code,
      QueryAnswer.named]⟩

theorem collected_gets (rulers : List SecurityEventRuler) :
    let asked := env.serviceAnswers rulers state.world
    Gets asked.1 asked.2 state (state.unlessEmpty rulers
      fun rulers state => state.querySecurityCollectorBatch env rulers).2 := by
  rw [unlessEmpty]
  split_ifs with none
  · rw [none]
    exact .nothing rfl rfl
  · obtain ⟨world, subQueries⟩ := querySecurityEventBatch_gets env none state.world
    refine Gets.replyBatch ⟨world, ?_⟩
    rw [← subQueries]
    rfl

theorem queryDatabase_eq (ruler : SecurityEventRuler) :
    state.queryDatabase env ruler = state.call (env.databaseAnswer ruler) := by
  simp only [queryDatabase, call, QueryCalls.databaseAnswer]
  split_ifs <;> rfl

theorem queryEventByRuler_gets {ruler : SecurityEventRuler} {cfg : EventCfg}
    (found : config.getEventConfig ruler.eventId = some cfg)
    (stored : cfg.eventType ≠ .queryColl) :
    let asked := env.databaseAnswer ruler state.world
    Gets [.database ruler asked.1.1] asked.2 state
      (state.queryEventByRuler config env ruler).2 := by
  rw [queryEventByRuler, found]
  dsimp only
  rw [if_neg stored, queryDatabase_eq]
  have recorded : Gets [.database ruler (env.databaseAnswer ruler state.world).1.1]
      (env.databaseAnswer ruler state.world).2 state
      ((state.call (env.databaseAnswer ruler)).2.record [ruler]
        (env.databaseAnswer ruler state.world).1.1 []) := ⟨rfl, rfl⟩
  obtain ⟨sameWorld, same⟩ := querySecurityEventCallBack_same _ _
  exact recorded.same sameWorld same

theorem queryDbRulers_gets {rulers : List SecurityEventRuler}
    (stored : ∀ ruler ∈ rulers, ∃ cfg, config.getEventConfig ruler.eventId = some cfg ∧
      cfg.eventType ≠ .queryColl) :
    let asked := env.databaseAnswers rulers state.world
    Gets asked.1 asked.2 state (queryDbRulers config env rulers state).2 := by
  induction rulers generalizing state with
  | nil => exact .nothing rfl rfl
  | cons ruler rest ih =>
      obtain ⟨⟨cfg, found, stores⟩, stored⟩ := List.forall_mem_cons.mp stored
      have served := queryEventByRuler_gets config env state found stores
      have later := ih (state.queryEventByRuler config env ruler).2 stored
      rw [served.world] at later
      exact served.trans later

end QueryState

theorem ConfigData.classifyRulers_dbRulers (config : ConfigData) (group : EventGroupCfg)
    (rulers : List SecurityEventRuler) :
    ∀ ruler ∈ (config.classifyRulers group rulers).dbRulers,
      ∃ cfg, config.getEventConfig ruler.eventId = some cfg ∧ cfg.eventType ≠ .queryColl := by
  induction rulers with
  | nil => exact fun _ mem => absurd mem List.not_mem_nil
  | cons ruler rest ih =>
      rw [classifyRulers]
      split_ifs
      · exact ih
      · cases found : config.getEventConfig ruler.eventId with
        | none => exact ih
        | some cfg =>
            dsimp only
            split_ifs with queried
            · exact ih
            · exact ih
            · exact List.forall_mem_cons.mpr ⟨⟨cfg, found, queried⟩, ih⟩

/-- The sub-queries of a task are the answers to its calls. -/
theorem QueryState.handleQuerySecurityEvent_subQueries {σ : Type} (config : ConfigData)
    (env : QueryCalls σ) (state : QueryState σ) (rulers : List SecurityEventRuler)
    {eventGroup : String} {group : EventGroupCfg}
    (configured : config.getEventGroupConfig eventGroup = some group) :
    (state.handleQuerySecurityEvent config env rulers eventGroup).subQueries =
      state.subQueries ++
        (env.taskAnswers config group rulers state.world).map QueryAnswer.subQuery := by
  have guarded := guarded_gets env state (config.classifyRulers group rulers).securityGuardRulers
  have collected := collected_gets env
    (state.unlessEmpty (config.classifyRulers group rulers).securityGuardRulers
      fun rulers state => state.querySecurityGuardBatch env rulers).2
    (config.classifyRulers group rulers).securityCollectorRulers
  rw [guarded.world] at collected
  have asked := guarded.trans collected
  have stored := queryDbRulers_gets config env
    ((state.unlessEmpty (config.classifyRulers group rulers).securityGuardRulers
      fun rulers state => state.querySecurityGuardBatch env rulers).2.unlessEmpty
        (config.classifyRulers group rulers).securityCollectorRulers
          fun rulers state => state.querySecurityCollectorBatch env rulers).2
    (config.classifyRulers_dbRulers group rulers)
  rw [asked.world] at stored
  have whole := (asked.trans stored).subQueries
  rw [handleQuerySecurityEvent, configured]
  dsimp only
  split_ifs
  · exact whole
  · exact whole

end SecurityGuard
