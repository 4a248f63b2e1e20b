import SecurityGuard.Collector.Query

/-!
# Operations of `DataCollection` in a world

The calls to libraries and collectors may answer differently every time, so here they change a
world, as those of a query do.  Where the answers do not depend on the world, the operations are
those of the bookkeeping.
-/

namespace SecurityGuard

/-- The calls to libraries and collectors. -/
structure CollectorCalls (σ : Type) extends QueryCalls σ where
  /-- `Subscribe` or `Start`, whichever the collector of an event uses. -/
  start : Int → σ → Int × σ
  /-- `Unsubscribe` or `Stop`. -/
  stop : Int → σ → Int × σ

namespace QueryState

variable {σ : Type} (env : CollectorCalls σ) (state : QueryState σ)

/-- `LoadCollector` for an event. -/
def loadCollectorOf (eventId : Int) (path : String) : Code × QueryState σ :=
  let loaded := state.call (env.loadLib path)
  if loaded.1 ≠ .success then (.failed, loaded.2)
  else
    let got := (loaded.2.keepLib path { eventId }).call (env.callGetCollector path)
    if !got.1 then (.failed, got.2)
    else
      let result := got.2.call (env.start eventId)
      if result.1 ≠ 0 then (result.1, result.2)
      else
        (.success,
          { result.2 with
            collection :=
              { result.2.collection with
                eventIdToLoaderMap :=
                  DataCollection.emplace result.2.collection.eventIdToLoaderMap eventId path } })

/-- `GetCollector`: ask the loader of an event for its collector. -/
def getCollector (eventId : Int) : Bool × QueryState σ :=
  match state.collection.eventIdToLoaderMap.get? eventId with
  | none => (false, state)
  | some path => state.call (env.callGetCollector path)

/-- Stop the collectors of a list and keep the last failure. -/
def stopEach : List Int → Code → QueryState σ → Code × QueryState σ
  | [], code, state => (code, state)
  | eventId :: rest, code, state =>
      let got := state.getCollector env eventId
      -- The code of the last failure is returned, and the loop goes on behind a failure.
      if !got.1 then stopEach rest .failed got.2
      else
        let result := got.2.call (env.stop eventId)
        stopEach rest (if result.1 ≠ 0 then result.1 else code)
          { result.2 with collection := result.2.collection.eraseLoader eventId }

/-- Release some events, and stop those that nobody subscribes any more. -/
def unsubscribeCollectorsLocked (eventIds : List Int) : Code × QueryState σ :=
  let released := DataCollection.releaseEach eventIds state.collection
  stopEach env released.1 .success { state with collection := released.2 }

/-- Stop the collectors of some events that run. -/
def stopCollectorsLocked (eventIds : List Int) : Bool × QueryState σ :=
  let toStop := eventIds.filter state.collection.isCollectorStarted
  let stopped := stopEach env toStop .success state
  (decide (stopped.1 = .success), stopped.2)

/-- Count a subscription of an event. -/
def incrementSubscribeCount (eventId : Int) : QueryState σ :=
  { state with collection := state.collection.incrementSubscribeCount eventId }

/-- Bind a collector that runs to another listener; a failure is only logged. -/
def rebindStickyCollector (eventId : Int) : QueryState σ :=
  let got := state.getCollector env eventId
  if !got.1 then got.2 else (got.2.call (env.start eventId)).2

/-- What the loops over the events of a call do beside loading collectors. -/
structure EventLoop (σ : Type) where
  enter : Int → QueryState σ → QueryState σ
  /-- What is done for an event whose collector runs. -/
  running : Int → QueryState σ → QueryState σ
  /-- Take back the events that were loaded. -/
  rollback : List Int → QueryState σ → QueryState σ

/-- Load the collectors of a list that do not run; a failure takes them back and gives its code. -/
def loadEach (loop : EventLoop σ) :
    List Int → List Int → QueryState σ → Option Code × QueryState σ
  | [], _, state => (none, state)
  | eventId :: rest, loadedEventIds, state =>
      let entered := loop.enter eventId state
      if entered.collection.isCollectorStarted eventId then
        loadEach loop rest loadedEventIds (loop.running eventId entered)
      else
        let answer := entered.call (env.getCollectorPath eventId)
        match answer.1 with
        | .error code => (some code, loop.rollback loadedEventIds answer.2)
        | .ok path =>
            let loaded := answer.2.loadCollectorOf env eventId path
            if loaded.1 ≠ .success then (some loaded.1, loop.rollback loadedEventIds loaded.2)
            else loadEach loop rest (loadedEventIds ++ [eventId]) loaded.2

/-- The loop of `SubscribeCollectors`. -/
def subscribing : EventLoop σ where
  enter eventId state := state.incrementSubscribeCount eventId
  running _ state := state
  rollback eventIds state := (state.unsubscribeCollectorsLocked env eventIds).2

/-- The loop of `SubscribeCollectorsBySticky`. -/
def subscribingBySticky : EventLoop σ :=
  { subscribing env with running eventId state := state.rebindStickyCollector env eventId }

/-- The loop of `StartCollectors`. -/
def starting : EventLoop σ where
  enter _ state := state
  running _ state := state
  rollback eventIds state := (state.stopCollectorsLocked env eventIds).2

/-- Start the collectors of some events, or none of them. -/
def subscribeCollectors (eventIds : List Int) : Code × QueryState σ :=
  if eventIds = [] then (.badParam, state)
  else
    let loaded := loadEach env (subscribing env) eventIds [] state
    (loaded.1.getD .success, loaded.2)

/-- Start the collectors of some events for their sticky report. -/
def subscribeCollectorsBySticky (eventIds : List Int) : Code × QueryState σ :=
  if eventIds = [] then (.badParam, state)
  else
    let loaded := loadEach env (subscribingBySticky env) eventIds [] state
    (loaded.1.getD .success, loaded.2)

/-- Start the collectors of some events without counting them. -/
def startCollectors (eventIds : List Int) : Bool × QueryState σ :=
  if eventIds = [] then (false, state)
  else
    let loaded := loadEach env (starting env) eventIds [] state
    (loaded.1.isNone, loaded.2)

/-- Close the libraries that were kept. -/
def closeLib : QueryState σ := { state with collection := state.collection.closeLib }

end QueryState

/-- The calls answer as fixed plugins do, in every world. -/
structure CollectorCalls.Follows {σ : Type} (env : CollectorCalls σ) (plugins : Plugins) :
    Prop where
  getCollectorPath : ∀ eventId world,
    (env.getCollectorPath eventId world).1 = plugins.getCollectorPath eventId
  loadLib : ∀ path world, (env.loadLib path world).1 = .success ↔ plugins.loadLib path = true
  callGetCollector : ∀ path world,
    (env.callGetCollector path world).1 = plugins.callGetCollector path
  start : ∀ eventId world, (env.start eventId world).1 = plugins.start eventId
  stop : ∀ eventId world, (env.stop eventId world).1 = plugins.stop eventId

namespace QueryState

variable {σ : Type} {env : CollectorCalls σ} {plugins : Plugins}

section Follows

variable (follows : env.Follows plugins)
include follows

theorem loadCollectorOf_eq (eventId : Int) (path : String) (state : QueryState σ) :
    (state.loadCollectorOf env eventId path).1 =
        (state.collection.loadCollector plugins eventId path).1 ∧
      (state.loadCollectorOf env eventId path).2.collection =
        (state.collection.loadCollector plugins eventId path).2 := by
  rw [loadCollectorOf, DataCollection.loadCollector]
  simp only [call, ne_eq, follows.loadLib, follows.callGetCollector, follows.start, keepLib,
    Bool.not_eq_true', Bool.not_eq_true]
  split_ifs <;> exact ⟨rfl, rfl⟩

theorem getCollector_eq (eventId : Int) (state : QueryState σ) :
    (state.getCollector env eventId).1 = state.collection.getCollector plugins eventId ∧
      (state.getCollector env eventId).2.collection = state.collection := by
  rw [getCollector, DataCollection.getCollector]
  cases state.collection.eventIdToLoaderMap.get? eventId with
  | none => exact ⟨rfl, rfl⟩
  | some path => exact ⟨follows.callGetCollector path state.world, rfl⟩

theorem stopEach_eq (events : List Int) (code : Code) (state : QueryState σ) :
    (stopEach env events code state).1 =
        (DataCollection.stopEach plugins events code state.collection).1 ∧
      (stopEach env events code state).2.collection =
        (DataCollection.stopEach plugins events code state.collection).2 := by
  induction events generalizing code state with
  | nil => exact ⟨rfl, rfl⟩
  | cons event rest ih =>
      obtain ⟨got, same⟩ := getCollector_eq follows event state
      rw [stopEach, DataCollection.stopEach]
      simp only [got, call, follows.stop]
      split_ifs
      · rw [← same]
        exact ih _ _
      · rw [← same]
        exact ih _ _
      · rw [← same]
        exact ih _ _

theorem unsubscribeCollectorsLocked_eq (eventIds : List Int) (state : QueryState σ) :
    (state.unsubscribeCollectorsLocked env eventIds).2.collection =
      (state.collection.unsubscribeCollectorsLocked plugins eventIds).2 :=
  (stopEach_eq follows _ _ _).2

theorem stopCollectorsLocked_eq (eventIds : List Int) (state : QueryState σ) :
    (state.stopCollectorsLocked env eventIds).2.collection =
      (state.collection.stopCollectorsLocked plugins eventIds).2 :=
  (stopEach_eq follows _ _ _).2

/-- The loop of a subscription is that of the bookkeeping. -/
theorem subscribeEach_eq (events loaded : List Int) (state : QueryState σ) :
    (loadEach env (subscribing env) events loaded state).1.getD .success =
        (DataCollection.subscribeEach plugins events loaded state.collection).1 ∧
      (loadEach env (subscribing env) events loaded state).2.collection =
        (DataCollection.subscribeEach plugins events loaded state.collection).2 := by
  induction events generalizing loaded state with
  | nil => exact ⟨rfl, rfl⟩
  | cons event rest ih =>
      rw [loadEach, DataCollection.subscribeEach]
      simp only [subscribing, incrementSubscribeCount, call, follows.getCollectorPath]
      split_ifs
      · exact ih _ _
      · cases plugins.getCollectorPath event with
        | error code => exact ⟨rfl, unsubscribeCollectorsLocked_eq follows _ _⟩
        | ok path =>
            dsimp only
            obtain ⟨code, same⟩ := loadCollectorOf_eq follows event path
              { state with
                collection := state.collection.incrementSubscribeCount event
                world := (env.getCollectorPath event state.world).2 }
            rw [code, ← same]
            split_ifs
            · exact ⟨rfl, unsubscribeCollectorsLocked_eq follows _ _⟩
            · exact ih _ _

/-- The loop of a start is that of the bookkeeping. -/
theorem startEach_eq (events loaded : List Int) (state : QueryState σ) :
    (loadEach env (starting env) events loaded state).1.isNone =
        (DataCollection.startEach plugins events loaded state.collection).1 ∧
      (loadEach env (starting env) events loaded state).2.collection =
        (DataCollection.startEach plugins events loaded state.collection).2 := by
  induction events generalizing loaded state with
  | nil => exact ⟨rfl, rfl⟩
  | cons event rest ih =>
      rw [loadEach, DataCollection.startEach]
      simp only [starting, call, follows.getCollectorPath]
      split_ifs
      · exact ih _ _
      · cases plugins.getCollectorPath event with
        | error code => exact ⟨rfl, stopCollectorsLocked_eq follows _ _⟩
        | ok path =>
            dsimp only
            obtain ⟨code, same⟩ := loadCollectorOf_eq follows event path
              { state with world := (env.getCollectorPath event state.world).2 }
            rw [code, ← same]
            split_ifs
            · exact ⟨rfl, stopCollectorsLocked_eq follows _ _⟩
            · exact ih _ _

theorem subscribeCollectors_eq (eventIds : List Int) (state : QueryState σ) :
    (state.subscribeCollectors env eventIds).1 =
        (state.collection.subscribeCollectors plugins eventIds).1 ∧
      (state.subscribeCollectors env eventIds).2.collection =
        (state.collection.subscribeCollectors plugins eventIds).2 := by
  rw [subscribeCollectors, DataCollection.subscribeCollectors]
  split_ifs
  · exact ⟨rfl, rfl⟩
  · exact subscribeEach_eq follows eventIds [] state

theorem startCollectors_eq (eventIds : List Int) (state : QueryState σ) :
    (state.startCollectors env eventIds).1 =
        (state.collection.startCollectors plugins eventIds).1 ∧
      (state.startCollectors env eventIds).2.collection =
        (state.collection.startCollectors plugins eventIds).2 := by
  rw [startCollectors, DataCollection.startCollectors]
  split_ifs
  · exact ⟨rfl, rfl⟩
  · exact startEach_eq follows eventIds [] state

end Follows

end QueryState

end SecurityGuard
