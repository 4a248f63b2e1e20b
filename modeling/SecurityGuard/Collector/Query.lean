import SecurityGuard.Collector.DataCollection
import SecurityGuard.Event

/-!
# Queries to the collectors

A query goes to the collectors in the libraries of this process, grouped by library, or in one
message to the collector service.  Both answer into the same lists of events and failed event
ids.  Every sub-query is also written down in a history that no operation reads: which queries
it served, with which code, and which event ids it reported as failed.
-/

namespace SecurityGuard

/-- An answer to some queries: a code, events and the ids reported as failed. -/
structure QueryReply where
  code : Code
  events : List SecurityEvent := []
  failedEventIds : List Int := []
  deriving DecidableEq

/-- What the reads of a reply of the collector service yield, in the order in which it is read. -/
structure QueryParcel where
  result : Option Int := none
  eventSize : Option Nat := none
  events : Nat → Option SecurityEvent := fun _ => none
  failedSize : Option Nat := none
  failedEventIds : Nat → Option Int := fun _ => none

/-- The calls of a query that leave the code, as they answer and change the world. -/
structure QueryCalls (σ : Type) where
  getCollectorPath : Int → σ → Except Code String × σ
  loadLib : String → σ → Code × σ
  /-- Whether the library at a path returns a collector. -/
  callGetCollector : String → σ → Bool × σ
  query : String → SecurityEventRuler → σ → QueryReply × σ
  batchQuery : String → List SecurityEventRuler → σ → QueryReply × σ
  /-- Whether the collector service can be loaded. -/
  loadCollectorService : σ → Bool × σ
  /-- Write a request and send it; the code is that of the first write or call that fails. -/
  sendQuery : List SecurityEventRuler → σ → (Code × QueryParcel) × σ
  sendQueryBatch : List SecurityEventRuler → σ → (Code × QueryParcel) × σ
  queryEventByEventId : Int → σ → (Code × List SecEvent) × σ
  queryEventByEventIdAndDate : String → List Int → String → String → σ → (Code × List SecEvent) × σ
  /-- The order in which a loop visits the groups of a batch. -/
  order : SortedMap String (List SecurityEventRuler) → σ → List (String × List SecurityEventRuler)
  order_perm : ∀ groups world, (order groups world).Perm groups.entries

theorem QueryCalls.entries_perm {σ : Type} (groups : SortedMap String (List SecurityEventRuler))
    (_ : σ) : groups.entries.Perm groups.entries :=
  .refl groups.entries

/-- A sub-query as the history keeps it. -/
structure SubQuery where
  rulers : List SecurityEventRuler
  code : Code
  reported : List Int := []
  deriving DecidableEq

/-- The state of a query task.  The lists of events and failed ids are those that the sub-query
under way fills. -/
structure QueryState (σ : Type) where
  collection : DataCollection := {}
  world : σ
  events : List SecurityEvent := []
  failedEventIds : List Int := []
  callbacks : List QueryCallback := []
  /-- The history. -/
  subQueries : List SubQuery := []

def maxQueryEventSize : Nat := 1000

/-- The code of a transaction whose receiver died. -/
def brDeadReply : Code := 29189

namespace QueryState

variable {σ : Type} (env : QueryCalls σ) (state : QueryState σ)

/-- Make a call that leaves the code. -/
def call {α : Type} (outside : σ → α × σ) : α × QueryState σ :=
  ((outside state.world).1, { state with world := (outside state.world).2 })

/-- Write a sub-query down. -/
def record (rulers : List SecurityEventRuler) (code : Code) (reported : List Int) :
    QueryState σ :=
  { state with subQueries := state.subQueries ++ [{ rulers, code, reported }] }

/-- Take over an answer to some queries. -/
def receive (rulers : List SecurityEventRuler) (reply : QueryReply) : QueryState σ :=
  { state.record rulers reply.code reply.failedEventIds with
    events := state.events ++ reply.events
    failedEventIds := state.failedEventIds ++ reply.failedEventIds }

/-- Keep the library of a query until it is closed. -/
def keepLib (path : String) (ruler : SecurityEventRuler) : QueryState σ :=
  { state with
    collection :=
      { state.collection with
        needCloseLibMap :=
          DataCollection.emplace state.collection.needCloseLibMap ruler.eventId path } }

/-- `LoadCollector` for a query. -/
def loadCollector (path : String) (ruler : SecurityEventRuler) : Code × QueryState σ :=
  let loaded := state.call (env.loadLib path)
  if loaded.1 ≠ .success then (.failed, loaded.2)
  else
    let got := (loaded.2.keepLib path ruler).call (env.callGetCollector path)
    if !got.1 then (.failed, got.2)
    else
      let answer := got.2.call (env.query path ruler)
      -- What a collector wrote stays although it failed afterwards.
      let filled := { answer.2 with events := answer.2.events ++ answer.1.events }
      if answer.1.code ≠ 0 then (.failed, filled) else (.success, filled)

/-- Query a list one by one up to the first failure. -/
def queryEach : List SecurityEventRuler → QueryState σ → Code × QueryState σ
  | [], state => (.success, state)
  | ruler :: rest, state =>
      let answer := state.call (env.getCollectorPath ruler.eventId)
      match answer.1 with
      | .error _ => (.failed, answer.2)
      | .ok path =>
          let loaded := answer.2.loadCollector env path ruler
          if loaded.1 ≠ .success then (.failed, loaded.2) else queryEach rest loaded.2

/-- `DataCollection::QuerySecurityEvent`. -/
def queryCollection (rulers : List SecurityEventRuler) : Code × QueryState σ :=
  if rulers = [] then (.failed, state) else state.queryEach env rulers

/-- Query the collector of one library. -/
def loadAndQueryBySoPath (soPath : String) (rulers : List SecurityEventRuler) :
    Code × QueryState σ :=
  let loaded := state.call (env.loadLib soPath)
  if loaded.1 ≠ .success then (.failed, loaded.2.receive rulers { code := .failed })
  else
    let kept := rulers.foldl (·.keepLib soPath ·) loaded.2
    let got := kept.call (env.callGetCollector soPath)
    if !got.1 then
      (.failed,
        got.2.receive rulers
          { code := .failed, failedEventIds := rulers.map SecurityEventRuler.eventId })
    else
      let answer := got.2.call (env.batchQuery soPath rulers)
      let filled := answer.2.receive rulers answer.1
      if answer.1.code ≠ 0 then (answer.1.code, filled) else (.success, filled)

/-- Group queries by the libraries of their collectors. -/
def groupBySoPath :
    List SecurityEventRuler → SortedMap String (List SecurityEventRuler) → QueryState σ →
      SortedMap String (List SecurityEventRuler) × QueryState σ
  | [], soPathToRulers, state => (soPathToRulers, state)
  | ruler :: rest, soPathToRulers, state =>
      let answer := state.call (env.getCollectorPath ruler.eventId)
      match answer.1 with
      | .error code =>
          groupBySoPath rest soPathToRulers
            (answer.2.receive [ruler] { code, failedEventIds := [ruler.eventId] })
      | .ok path =>
          -- Queries of one library are asked together.
          let grouped := (soPathToRulers.get? path).getD [] ++ [ruler]
          groupBySoPath rest (soPathToRulers.insert path grouped) answer.2

/-- Query the libraries of some groups; a code is only logged. -/
def queryGroups : List (String × List SecurityEventRuler) → QueryState σ → QueryState σ
  | [], state => state
  | group :: rest, state => queryGroups rest (state.loadAndQueryBySoPath env group.1 group.2).2

/-- `DataCollection::QuerySecurityEventBatch`. -/
def queryCollectionBatch (rulers : List SecurityEventRuler) : Code × QueryState σ :=
  if rulers = [] then (.failed, state)
  else
    let grouped := state.groupBySoPath env rulers .empty
    (.success, grouped.2.queryGroups env (env.order grouped.1 grouped.2.world))

end QueryState

/-- Read items until one is missing, and say whether all were there. -/
def readItems {α : Type} (read : Nat → Option α) : Nat → Nat → List α × Bool
  | 0, _ => ([], true)
  | size + 1, index =>
      match read index with
      | none => ([], false)
      | some item =>
          let rest := readItems read size (index + 1)
          (item :: rest.1, rest.2)

namespace QueryParcel

variable (reply : QueryParcel)

/-- Read the events of a reply. -/
def readEvents : List SecurityEvent × Bool :=
  match reply.eventSize with
  | none => ([], false)
  | some size => if maxQueryEventSize < size then ([], false) else readItems reply.events size 0

/-- Read the failed event ids of a reply. -/
def readFailedEventIds : List Int × Bool :=
  match reply.failedSize with
  | none => ([], false)
  | some size =>
      if maxQueryEventSize < size then ([], false) else readItems reply.failedEventIds size 0

/-- The reply to a query, which carries no result and no failed ids. -/
def readQueryReply : QueryReply :=
  -- The events that were read before an error are kept.
  let read := reply.readEvents
  { code := if read.2 then .success else .badParam, events := read.1 }

/-- Read a reply up to the first part that is missing. -/
def readQueryBatchReply : QueryReply :=
  match reply.result with
  | none => { code := .failed }
  | some result =>
      let read := reply.readEvents
      if !read.2 then { code := .badParam, events := read.1 }
      else
        let ids := reply.readFailedEventIds
        if !ids.2 then { code := .badParam, events := read.1, failedEventIds := ids.1 }
        else { code := result, events := read.1, failedEventIds := ids.1 }

end QueryParcel

namespace QueryCalls

variable {σ : Type} (env : QueryCalls σ) (rulers : List SecurityEventRuler) (world : σ)

/-- Load the collector service and let it answer a message. -/
def askService (send : List SecurityEventRuler → σ → (Code × QueryParcel) × σ)
    (read : QueryParcel → QueryReply) : QueryReply × σ :=
  let loaded := env.loadCollectorService world
  if !loaded.1 then ({ code := .nullObject }, loaded.2)
  else
    let sent := send rulers loaded.2
    (if sent.1.1 ≠ 0 then { code := sent.1.1 } else read sent.1.2, sent.2)

/-- Ask the collector service once. -/
def querySecurityEventImpl : QueryReply × σ :=
  env.askService rulers world env.sendQuery QueryParcel.readQueryReply

/-- `WriteQueryBatchRequest` refuses a long list before anything is sent. -/
def querySecurityEventBatchImpl : QueryReply × σ :=
  env.askService rulers world
    (fun rulers world =>
      if maxQueryEventSize < rulers.length then ((.badParam, {}), world)
      else env.sendQueryBatch rulers world)
    QueryParcel.readQueryBatchReply

/-- Ask once more if the service died; both attempts fill the same lists. -/
def retry (ask : σ → QueryReply × σ) : QueryReply × σ :=
  let first := ask world
  if first.1.code = brDeadReply then
    let second := ask first.2
    -- The second answer goes into the lists that the first one has filled.
    ({ code := second.1.code
       events := first.1.events ++ second.1.events
       failedEventIds := first.1.failedEventIds ++ second.1.failedEventIds },
      second.2)
  else first

/-- `CollectorManager::QuerySecurityEvent`. -/
def querySecurityEvent : QueryReply × σ := retry world (env.querySecurityEventImpl rulers)

/-- `CollectorManager::QuerySecurityEventBatch`. -/
def querySecurityEventBatch : QueryReply × σ :=
  retry world (env.querySecurityEventBatchImpl rulers)

end QueryCalls

namespace QueryState

variable {σ : Type} {before middle after : QueryState σ}

/-- The steps between two states sent events only, and their sub-queries served the given queries
and reported the given ids. -/
structure Serves (rulers : List SecurityEventRuler) (reported : List Int)
    (before after : QueryState σ) : Prop where
  sent : ∃ pieces : List (List SecurityEvent),
    after.callbacks = before.callbacks ++ pieces.map .onQuery
  served : ∃ subQueries : List SubQuery, after.subQueries = before.subQueries ++ subQueries ∧
    (subQueries.flatMap SubQuery.rulers).Perm rulers ∧
      subQueries.flatMap SubQuery.reported = reported

namespace Serves

variable {rulers later : List SecurityEventRuler} {reported reportedLater : List Int}

theorem of_same (callbacks : after.callbacks = before.callbacks)
    (subQueries : after.subQueries = before.subQueries) : Serves [] [] before after :=
  ⟨⟨[], by simpa using callbacks⟩, [], by simpa using subQueries, .refl [], rfl⟩

theorem refl (state : QueryState σ) : Serves [] [] state state := of_same rfl rfl

theorem trans (first : Serves rulers reported before middle)
    (second : Serves later reportedLater middle after) :
    Serves (rulers ++ later) (reported ++ reportedLater) before after := by
  obtain ⟨⟨pieces, sent⟩, subQueries, history, perm, failed⟩ := first
  obtain ⟨⟨pieces', sent'⟩, subQueries', history', perm', failed'⟩ := second
  constructor
  · exact ⟨pieces ++ pieces', by rw [sent', sent, List.map_append, List.append_assoc]⟩
  · refine ⟨subQueries ++ subQueries', by rw [history', history, List.append_assoc], ?_, ?_⟩
    · rw [List.flatMap_append]
      exact perm.append perm'
    · rw [List.flatMap_append, failed, failed']

theorem perm (serves : Serves rulers reported before after) (same : rulers.Perm later) :
    Serves later reported before after := by
  obtain ⟨subQueries, history, served, failed⟩ := serves.served
  exact ⟨serves.sent, subQueries, history, served.trans same, failed⟩

end Serves

/-- The state served queries and put the ids they reported into the list of failed ids. -/
def Fills (rulers : List SecurityEventRuler) (before after : QueryState σ) : Prop :=
  ∃ reported, Serves rulers reported before after ∧
    after.failedEventIds = before.failedEventIds ++ reported

namespace Fills

variable {rulers later : List SecurityEventRuler}

theorem of_same (callbacks : after.callbacks = before.callbacks)
    (subQueries : after.subQueries = before.subQueries)
    (failedEventIds : after.failedEventIds = before.failedEventIds) : Fills [] before after :=
  ⟨[], .of_same callbacks subQueries, by simpa using failedEventIds⟩

theorem trans (first : Fills rulers before middle) (second : Fills later middle after) :
    Fills (rulers ++ later) before after := by
  obtain ⟨reported, served, failed⟩ := first
  obtain ⟨reported', served', failed'⟩ := second
  exact ⟨reported ++ reported', served.trans served', by rw [failed', failed, List.append_assoc]⟩

theorem perm (fills : Fills rulers before after) (same : rulers.Perm later) :
    Fills later before after := by
  obtain ⟨reported, served, failed⟩ := fills
  exact ⟨reported, served.perm same, failed⟩

end Fills

variable (env : QueryCalls σ) (state : QueryState σ)

theorem call_fills {α : Type} (outside : σ → α × σ) : Fills [] state (state.call outside).2 :=
  .of_same rfl rfl rfl

theorem record_serves (rulers : List SecurityEventRuler) (code : Code) (reported : List Int) :
    Serves rulers reported state (state.record rulers code reported) :=
  ⟨⟨[], by simp [record]⟩, [{ rulers, code, reported }], rfl, by simp, by simp⟩

theorem receive_fills (rulers : List SecurityEventRuler) (reply : QueryReply) :
    Fills rulers state (state.receive rulers reply) := by
  obtain ⟨sent, served⟩ := record_serves state rulers reply.code
    reply.failedEventIds
  exact ⟨reply.failedEventIds, ⟨sent, served⟩, rfl⟩

theorem keepLibs_fills (soPath : String) (rulers : List SecurityEventRuler) :
    Fills [] state (rulers.foldl (·.keepLib soPath ·) state) := by
  induction rulers generalizing state with
  | nil => exact .of_same rfl rfl rfl
  | cons ruler rest ih =>
      have kept : Fills [] state (state.keepLib soPath ruler) := .of_same rfl rfl rfl
      exact kept.trans (ih _)

theorem loadCollector_serves (path : String) (ruler : SecurityEventRuler) :
    Serves [] [] state (state.loadCollector env path ruler).2 := by
  rw [loadCollector]
  dsimp only
  split_ifs <;> exact .of_same rfl rfl

theorem queryEach_serves (rulers : List SecurityEventRuler) :
    Serves [] [] state (queryEach env rulers state).2 := by
  induction rulers generalizing state with
  | nil => exact .refl state
  | cons ruler rest ih =>
      rw [queryEach]
      dsimp only
      split
      · exact .of_same rfl rfl
      · next path _ =>
        have called : Serves [] [] state (state.call (env.getCollectorPath ruler.eventId)).2 :=
          .of_same rfl rfl
        have loaded := called.trans (loadCollector_serves env _ path ruler)
        split_ifs
        · exact loaded
        · exact loaded.trans (ih _)

theorem queryCollection_serves (rulers : List SecurityEventRuler) :
    Serves [] [] state (state.queryCollection env rulers).2 := by
  rw [queryCollection]
  split_ifs
  · exact .refl state
  · exact queryEach_serves env state rulers

theorem loadAndQueryBySoPath_fills (soPath : String) (rulers : List SecurityEventRuler) :
    Fills rulers state (state.loadAndQueryBySoPath env soPath rulers).2 := by
  have loaded : Fills [] state (state.call (env.loadLib soPath)).2 := call_fills state _
  have kept := loaded.trans (keepLibs_fills _ soPath rulers)
  have got := kept.trans (call_fills _ (env.callGetCollector soPath))
  have answered := got.trans (call_fills _ (env.batchQuery soPath rulers))
  rw [loadAndQueryBySoPath]
  dsimp only
  split_ifs
  · exact loaded.trans (receive_fills _ rulers _)
  · exact got.trans (receive_fills _ rulers _)
  · exact answered.trans (receive_fills _ rulers _)
  · exact answered.trans (receive_fills _ rulers _)

/-- Grouping serves the queries without a library; the others are in the groups. -/
theorem groupBySoPath_fills (rulers : List SecurityEventRuler)
    (groups : SortedMap String (List SecurityEventRuler)) :
    ∃ unserved, Fills unserved state (groupBySoPath env rulers groups state).2 ∧
      (unserved ++ (groupBySoPath env rulers groups state).1.entries.flatMap Prod.snd).Perm
        (groups.entries.flatMap Prod.snd ++ rulers) := by
  induction rulers generalizing groups state with
  | nil => exact ⟨[], .of_same rfl rfl rfl, by simp [groupBySoPath]⟩
  | cons ruler rest ih =>
      have called : Fills [] state (state.call (env.getCollectorPath ruler.eventId)).2 :=
        call_fills state _
      rw [groupBySoPath]
      dsimp only
      split
      · next code _ =>
        have refused := called.trans
          (receive_fills _ [ruler] { code, failedEventIds := [ruler.eventId] })
        obtain ⟨unserved, fills, perm⟩ := ih _ groups
        refine ⟨[ruler] ++ unserved, refused.trans fills, ?_⟩
        rw [List.append_assoc]
        have moved : (ruler :: (groups.entries.flatMap Prod.snd ++ rest)).Perm
            (groups.entries.flatMap Prod.snd ++ ruler :: rest) := List.perm_middle.symm
        exact (perm.append_left [ruler]).trans moved
      · next path _ =>
        obtain ⟨unserved, fills, perm⟩ :=
          ih _ (groups.insert path ((groups.get? path).getD [] ++ [ruler]))
        refine ⟨unserved, called.trans fills, perm.trans ?_⟩
        have grouped := (groups.group_perm path ruler).append_right rest
        rwa [List.append_assoc, List.singleton_append] at grouped

theorem queryGroups_fills (groups : List (String × List SecurityEventRuler)) :
    Fills (groups.flatMap Prod.snd) state (queryGroups env groups state) := by
  induction groups generalizing state with
  | nil => exact .of_same rfl rfl rfl
  | cons group rest ih => exact (loadAndQueryBySoPath_fills env state group.1 group.2).trans (ih _)

theorem queryCollectionBatch_fills (rulers : List SecurityEventRuler) :
    Fills rulers state (state.queryCollectionBatch env rulers).2 := by
  rw [queryCollectionBatch]
  split_ifs with none
  · rw [none]
    exact .of_same rfl rfl rfl
  · obtain ⟨unserved, fills, perm⟩ := groupBySoPath_fills env state rulers .empty
    have visited := (env.order_perm (groupBySoPath env rulers .empty state).1
      (groupBySoPath env rulers .empty state).2.world).flatMap_right Prod.snd
    exact (fills.trans (queryGroups_fills env _ _)).perm ((visited.append_left unserved).trans perm)

end QueryState

end SecurityGuard
