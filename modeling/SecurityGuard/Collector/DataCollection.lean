import Mathlib.Algebra.Order.Ring.Int
import SecurityGuard.Define
import SecurityGuard.Foundation.SortedMap

/-!
# Collectors and their subscribe counts

`DataCollection` keeps the loader of every collector it has started and counts the
subscriptions of each event.  `opMutex_` serialises its operations, so each is one function.
The configuration file, the library loader and the collectors are outside: `Plugins` says what
they answer during one operation.
-/

namespace SecurityGuard

/-- What the world outside answers during one operation. -/
structure Plugins where
  getCollectorPath : Int → Except Code String
  loadLib : String → Bool
  /-- Whether the library at a path returns a collector. -/
  callGetCollector : String → Bool
  /-- The result of `Subscribe` or `Start`, whichever the collector of an event uses. -/
  start : Int → Int
  /-- The result of `Unsubscribe` or `Stop`. -/
  stop : Int → Int

/-- Every library loads and every collector starts and stops; a path may be missing. -/
structure Plugins.Serve (plugins : Plugins) : Prop where
  loadLib : ∀ path, plugins.loadLib path = true
  callGetCollector : ∀ path, plugins.callGetCollector path = true
  start : ∀ eventId, plugins.start eventId = 0
  stop : ∀ eventId, plugins.stop eventId = 0

/-- Every collector is found, loads, starts and stops. -/
structure Plugins.Succeed (plugins : Plugins) : Prop where
  getCollectorPath : ∀ eventId, ∃ path, plugins.getCollectorPath eventId = .ok path
  loadLib : ∀ path, plugins.loadLib path = true
  callGetCollector : ∀ path, plugins.callGetCollector path = true
  start : ∀ eventId, plugins.start eventId = 0
  stop : ∀ eventId, plugins.stop eventId = 0

theorem Plugins.Succeed.serve {plugins : Plugins} (succeed : plugins.Succeed) : plugins.Serve :=
  ⟨succeed.loadLib, succeed.callGetCollector, succeed.start, succeed.stop⟩

/-- The bookkeeping of the collectors.  A loader is known by the path of its library. -/
structure DataCollection where
  eventIdToLoaderMap : SortedMap Int String := .empty
  needCloseLibMap : SortedMap Int String := .empty
  eventIdToSubscribeCount : SortedMap Int Nat := .empty
  deriving DecidableEq

namespace DataCollection

/-- The counts are 32 bits wide. -/
def countRange : Nat := 2 ^ 32

variable (plugins : Plugins) (collection : DataCollection)

/-- The collector of an event runs. -/
def isCollectorStarted (eventId : Int) : Bool := collection.eventIdToLoaderMap.contains eventId

/-- The subscribe count of an event, 0 when it has none. -/
def subscribeCount (eventId : Int) : Nat :=
  (collection.eventIdToSubscribeCount.get? eventId).getD 0

/-- Count a subscription of an event. -/
def incrementSubscribeCount (eventId : Int) : DataCollection :=
  match collection.eventIdToSubscribeCount.get? eventId with
  | none =>
      { collection with
        eventIdToSubscribeCount := collection.eventIdToSubscribeCount.insert eventId 1 }
  | some count =>
      { collection with
        eventIdToSubscribeCount :=
          collection.eventIdToSubscribeCount.insert eventId ((count + 1) % countRange) }

/-- Take one subscription off and say whether others remain. -/
def decrementSubscribeCount (eventId : Int) : Bool × DataCollection :=
  match collection.eventIdToSubscribeCount.get? eventId with
  | none => (false, collection)
  | some count =>
      -- The count is an unsigned number, which wraps around below zero.
      let curCount := if count = 0 then countRange - 1 else count - 1
      if 0 < curCount then
        (true,
          { collection with
            eventIdToSubscribeCount :=
              collection.eventIdToSubscribeCount.insert eventId curCount })
      else
        (false,
          { collection with
            eventIdToSubscribeCount := collection.eventIdToSubscribeCount.erase eventId })

/-- Forget the collector of an event. -/
def eraseLoader (eventId : Int) : DataCollection :=
  { collection with eventIdToLoaderMap := collection.eventIdToLoaderMap.erase eventId }

/-- Bind a key that is not bound, as `emplace` does. -/
def emplace {ν : Type} (map : SortedMap Int ν) (key : Int) (value : ν) : SortedMap Int ν :=
  if map.contains key then map else map.insert key value

/-- Open the library of an event and start its collector. -/
def loadCollector (eventId : Int) (path : String) : Code × DataCollection :=
  if !plugins.loadLib path then (.failed, collection)
  else
    -- `emplace` keeps the handle of a library that was opened for the event before.
    let kept :=
      { collection with needCloseLibMap := emplace collection.needCloseLibMap eventId path }
    if !plugins.callGetCollector path then (.failed, kept)
    else if plugins.start eventId ≠ 0 then (plugins.start eventId, kept)
    else
      (.success,
        { kept with eventIdToLoaderMap := emplace kept.eventIdToLoaderMap eventId path })

/-- Whether `GetCollector` finds the collector of an event. -/
def getCollector (eventId : Int) : Bool :=
  (collection.eventIdToLoaderMap.get? eventId).any plugins.callGetCollector

/-- Stop the collectors of a list and keep the last failure. -/
def stopEach : List Int → Code → DataCollection → Code × DataCollection
  | [], code, collection => (code, collection)
  | eventId :: rest, code, collection =>
      if !collection.getCollector plugins eventId then stopEach rest .failed collection
      else
        let result := plugins.stop eventId
        stopEach rest (if result ≠ 0 then result else code) (collection.eraseLoader eventId)

/-- Take one subscription off each event and collect those whose collectors have to stop. -/
def releaseEach : List Int → DataCollection → List Int × DataCollection
  | [], collection => ([], collection)
  | eventId :: rest, collection =>
      if !collection.isCollectorStarted eventId then releaseEach rest collection
      else
        let remaining := collection.decrementSubscribeCount eventId
        if remaining.1 then releaseEach rest remaining.2
        else
          let released := releaseEach rest remaining.2
          (eventId :: released.1, released.2)

/-- Release some events, and stop those that nobody subscribes any more. -/
def unsubscribeCollectorsLocked (eventIds : List Int) : Code × DataCollection :=
  let released := releaseEach eventIds collection
  stopEach plugins released.1 .success released.2

def unsubscribeCollectors (eventIds : List Int) : Code × DataCollection :=
  collection.unsubscribeCollectorsLocked plugins eventIds

/-- Subscribe the events of a list; a failure takes back those whose collectors it started. -/
def subscribeEach : List Int → List Int → DataCollection → Code × DataCollection
  | [], _, collection => (.success, collection)
  | eventId :: rest, loadedEventIds, collection =>
      -- The event is counted before it is known to load.
      let counted := collection.incrementSubscribeCount eventId
      if counted.isCollectorStarted eventId then subscribeEach rest loadedEventIds counted
      else
        match plugins.getCollectorPath eventId with
        -- The rollback takes back the events that this call has loaded; other counts stay raised.
        | .error code => (code, (counted.unsubscribeCollectorsLocked plugins loadedEventIds).2)
        | .ok path =>
            let loaded := counted.loadCollector plugins eventId path
            if loaded.1 ≠ .success then
              (loaded.1, (loaded.2.unsubscribeCollectorsLocked plugins loadedEventIds).2)
            else subscribeEach rest (loadedEventIds ++ [eventId]) loaded.2

/-- Start the collectors of some events, or none of them. -/
def subscribeCollectors (eventIds : List Int) : Code × DataCollection :=
  if eventIds = [] then (.badParam, collection)
  else subscribeEach plugins eventIds [] collection

/-- Like `subscribeCollectors`; a collector that runs already is bound to the new listener, which
the bookkeeping does not show. -/
def subscribeCollectorsBySticky (eventIds : List Int) : Code × DataCollection :=
  collection.subscribeCollectors plugins eventIds

/-- `StopCollectorsLocked`: stop the collectors that run, whoever needs them, and say whether all
of them stopped. -/
def stopCollectorsLocked (eventIds : List Int) : Bool × DataCollection :=
  let toStop := eventIds.filter collection.isCollectorStarted
  let stopped := stopEach plugins toStop .success collection
  (decide (stopped.1 = .success), stopped.2)

def stopCollectors (eventIds : List Int) : Bool × DataCollection :=
  collection.stopCollectorsLocked plugins eventIds

/-- Start the collectors of a list; a failure stops those it has started. -/
def startEach : List Int → List Int → DataCollection → Bool × DataCollection
  | [], _, collection => (true, collection)
  | eventId :: rest, loadedEventIds, collection =>
      if collection.isCollectorStarted eventId then startEach rest loadedEventIds collection
      else
        match plugins.getCollectorPath eventId with
        | .error _ => (false, (collection.stopCollectorsLocked plugins loadedEventIds).2)
        | .ok path =>
            let loaded := collection.loadCollector plugins eventId path
            if loaded.1 ≠ .success then
              (false, (loaded.2.stopCollectorsLocked plugins loadedEventIds).2)
            else startEach rest (loadedEventIds ++ [eventId]) loaded.2

/-- Start the collectors of some events without counting them. -/
def startCollectors (eventIds : List Int) : Bool × DataCollection :=
  if eventIds = [] then (false, collection) else startEach plugins eventIds [] collection

/-- Close the libraries that were kept. -/
def closeLib : DataCollection := { collection with needCloseLibMap := .empty }

section

variable {plugins collection} {eventId other : Int}

@[simp]
theorem isCollectorStarted_increment :
    (collection.incrementSubscribeCount eventId).isCollectorStarted other =
      collection.isCollectorStarted other := by
  rw [incrementSubscribeCount]
  split <;> rfl

@[simp]
theorem isCollectorStarted_eraseLoader :
    (collection.eraseLoader eventId).isCollectorStarted other =
      (!decide (other = eventId) && collection.isCollectorStarted other) := by
  simp [isCollectorStarted, eraseLoader]

theorem subscribeCount_increment (small : collection.subscribeCount eventId + 1 < countRange) :
    (collection.incrementSubscribeCount eventId).subscribeCount other =
      collection.subscribeCount other + if other = eventId then 1 else 0 := by
  rw [incrementSubscribeCount]
  cases found : collection.eventIdToSubscribeCount.get? eventId with
  | none => by_cases same : other = eventId <;> simp [subscribeCount, same, found]
  | some count =>
      have fits : (count + 1) % countRange = count + 1 :=
        Nat.mod_eq_of_lt (by simpa [subscribeCount, found] using small)
      by_cases same : other = eventId <;> simp [subscribeCount, same, found, fits]

variable (collection eventId) in
theorem loadCollector_success (serve : plugins.Serve) (path : String) :
    (collection.loadCollector plugins eventId path).1 = .success ∧
      (collection.loadCollector plugins eventId path).2.eventIdToSubscribeCount =
        collection.eventIdToSubscribeCount ∧
      ∀ other, (collection.loadCollector plugins eventId path).2.isCollectorStarted other =
        (decide (other = eventId) || collection.isCollectorStarted other) := by
  rw [loadCollector]
  simp only [serve.loadLib, serve.callGetCollector, serve.start]
  refine ⟨rfl, rfl, fun other => ?_⟩
  cases present : collection.eventIdToLoaderMap.contains eventId with
  | false => simp [isCollectorStarted, emplace, present]
  | true => by_cases same : other = eventId <;> simp [isCollectorStarted, emplace, present, same]

/-- Subscribing a list counts every occurrence and starts every collector that does not run. -/
theorem subscribeEach_success (loaded : List Int) (serve : plugins.Serve) {events : List Int}
    (found : ∀ event ∈ events, collection.isCollectorStarted event = true ∨
      ∃ path, plugins.getCollectorPath event = .ok path)
    (fits : ∀ event ∈ events, collection.subscribeCount event + events.count event < countRange) :
    (subscribeEach plugins events loaded collection).1 = .success ∧
      ∀ other,
        (subscribeEach plugins events loaded collection).2.subscribeCount other =
            collection.subscribeCount other + events.count other ∧
          (subscribeEach plugins events loaded collection).2.isCollectorStarted other =
            (decide (other ∈ events) || collection.isCollectorStarted other) := by
  induction events generalizing loaded collection with
  | nil => exact ⟨rfl, fun other => by simp [subscribeEach]⟩
  | cons event rest ih =>
      have total (other : Int) : (event :: rest).count other =
          rest.count other + if other = event then 1 else 0 := by
        by_cases same : other = event
        · simp [same]
        · simp [same, Ne.symm same]
      have counted (other : Int) : (collection.incrementSubscribeCount event).subscribeCount other =
          collection.subscribeCount other + if other = event then 1 else 0 := by
        refine subscribeCount_increment ?_
        have := fits event List.mem_cons_self
        rw [List.count_cons_self] at this
        omega
      have later {after : DataCollection}
          (same : after.eventIdToSubscribeCount =
            (collection.incrementSubscribeCount event).eventIdToSubscribeCount) (other : Int)
          (mem : other ∈ rest) : after.subscribeCount other + rest.count other < countRange := by
        have := fits other (List.mem_cons_of_mem event mem)
        rw [total] at this
        rw [subscribeCount, same, ← subscribeCount, counted]
        omega
      have founds := fun other mem => found other (List.mem_cons_of_mem event mem)
      rw [subscribeEach]
      dsimp only
      split_ifs with started
      · obtain ⟨code, spec⟩ := ih loaded
          (fun other mem => by rw [isCollectorStarted_increment]; exact founds other mem)
          (later rfl)
        refine ⟨code, fun other => ?_⟩
        obtain ⟨count, loads⟩ := spec other
        rw [count, loads, counted, total]
        rw [isCollectorStarted_increment] at started ⊢
        refine ⟨by omega, ?_⟩
        by_cases same : other = event <;> simp [same, started]
      · rw [isCollectorStarted_increment] at started
        obtain ⟨path, library⟩ := (found event List.mem_cons_self).resolve_left started
        obtain ⟨loadCode, sameCount, loads⟩ := loadCollector_success
          (collection.incrementSubscribeCount event) event serve path
        simp only [library, loadCode, ne_eq, not_true_eq_false, if_false]
        obtain ⟨code, spec⟩ := ih (loaded ++ [event])
          (fun other mem => by
            rw [loads, isCollectorStarted_increment]
            exact (founds other mem).imp_left fun runs => by simp [runs])
          (later sameCount)
        refine ⟨code, fun other => ?_⟩
        obtain ⟨count, starts⟩ := spec other
        rw [count, starts, loads, subscribeCount, sameCount,
          ← subscribeCount, counted, total, isCollectorStarted_increment]
        refine ⟨by omega, ?_⟩
        by_cases same : other = event <;> simp [same]

/-- The bookkeeping of an event is the same. -/
def SameEvent (other : Int) (before after : DataCollection) : Prop :=
  after.subscribeCount other = before.subscribeCount other ∧
    after.isCollectorStarted other = before.isCollectorStarted other

theorem SameEvent.trans {before middle after : DataCollection}
    (first : SameEvent other before middle) (second : SameEvent other middle after) :
    SameEvent other before after :=
  ⟨second.1.trans first.1, second.2.trans first.2⟩

theorem increment_sameEvent (ne : other ≠ eventId) :
    SameEvent other collection (collection.incrementSubscribeCount eventId) := by
  rw [incrementSubscribeCount]
  split <;> exact ⟨by simp [subscribeCount, ne], rfl⟩

variable (plugins) in
theorem loadCollector_sameEvent (path : String) (ne : other ≠ eventId) :
    SameEvent other collection (collection.loadCollector plugins eventId path).2 := by
  have loader : (emplace collection.eventIdToLoaderMap eventId path).contains other =
      collection.eventIdToLoaderMap.contains other := by
    rw [emplace]
    split_ifs
    · rfl
    · simp [ne]
  rw [loadCollector]
  dsimp only
  split_ifs
  · exact ⟨rfl, rfl⟩
  · exact ⟨rfl, rfl⟩
  · exact ⟨rfl, rfl⟩
  · exact ⟨rfl, loader⟩

variable (plugins collection) in
/-- Subscribing one event leaves the others alone, whatever the plugins answer. -/
theorem subscribeCollectors_sameEvent (ne : other ≠ eventId) :
    SameEvent other collection (collection.subscribeCollectors plugins [eventId]).2 := by
  have counted : SameEvent other collection (collection.incrementSubscribeCount eventId) :=
    increment_sameEvent ne
  rw [subscribeCollectors, if_neg (by simp), subscribeEach]
  dsimp only
  split_ifs
  · exact counted
  · cases plugins.getCollectorPath eventId with
    | error code => exact counted
    | ok path =>
        have loaded := counted.trans (loadCollector_sameEvent plugins path ne)
        dsimp only
        split_ifs
        · exact loaded
        · exact loaded

variable (plugins) in
/-- A subscription that fits counts its event once more and lets its collector run. -/
theorem subscribeCollectors_self (succeed : plugins.Succeed)
    (fits : collection.subscribeCount eventId + 1 < countRange) :
    (collection.subscribeCollectors plugins [eventId]).1 = .success ∧
      (collection.subscribeCollectors plugins [eventId]).2.subscribeCount eventId =
        collection.subscribeCount eventId + 1 ∧
      (collection.subscribeCollectors plugins [eventId]).2.isCollectorStarted eventId = true := by
  have single : ∀ event ∈ [eventId],
      collection.subscribeCount event + [eventId].count event < countRange := by
    intro event mem
    rw [List.mem_singleton.mp mem]
    simpa using fits
  obtain ⟨code, spec⟩ := subscribeEach_success [] succeed.serve
    (fun event _ => .inr (succeed.getCollectorPath event)) single
  obtain ⟨count, started⟩ := spec eventId
  rw [subscribeCollectors, if_neg (by simp)]
  exact ⟨code, by simpa using count, by simpa using started⟩

theorem decrement_sameEvent (ne : other ≠ eventId) :
    SameEvent other collection (collection.decrementSubscribeCount eventId).2 := by
  rw [decrementSubscribeCount]
  split
  · exact ⟨rfl, rfl⟩
  · dsimp only
    split_ifs <;> exact ⟨by simp [subscribeCount, ne], rfl⟩

theorem stopEach_counts (events : List Int) (code : Code) :
    (stopEach plugins events code collection).2.eventIdToSubscribeCount =
      collection.eventIdToSubscribeCount := by
  induction events generalizing code collection with
  | nil => rfl
  | cons event rest ih =>
      rw [stopEach]
      split_ifs
      · exact ih .failed
      · exact ih _

theorem stopEach_sameEvent {events : List Int} (code : Code) (absent : other ∉ events) :
    SameEvent other collection (stopEach plugins events code collection).2 := by
  induction events generalizing code collection with
  | nil => exact ⟨rfl, rfl⟩
  | cons event rest ih =>
      obtain ⟨ne, absent⟩ := not_or.mp (mt List.mem_cons.mpr absent)
      rw [stopEach]
      split_ifs
      · exact ih .failed absent
      · have erased : SameEvent other collection (collection.eraseLoader event) :=
          ⟨rfl, by simp [isCollectorStarted, eraseLoader, ne]⟩
        exact erased.trans (ih _ absent)

variable (plugins collection) in
theorem unsubscribeCollectors_sameEvent (ne : other ≠ eventId) :
    SameEvent other collection (collection.unsubscribeCollectors plugins [eventId]).2 := by
  have decremented : SameEvent other collection (collection.decrementSubscribeCount eventId).2 :=
    decrement_sameEvent ne
  rw [unsubscribeCollectors, unsubscribeCollectorsLocked, releaseEach]
  dsimp only
  split_ifs
  · exact ⟨rfl, rfl⟩
  · exact decremented
  · exact decremented.trans (stopEach_sameEvent .success (by simpa [releaseEach] using ne))

variable (plugins) in
/-- Taking one subscription off stops the collector when it was the last one. -/
theorem unsubscribeCollectors_self (succeed : plugins.Succeed)
    (started : collection.isCollectorStarted eventId = true)
    (positive : 0 < collection.subscribeCount eventId) :
    (collection.unsubscribeCollectors plugins [eventId]).1 = .success ∧
      (collection.unsubscribeCollectors plugins [eventId]).2.subscribeCount eventId =
        collection.subscribeCount eventId - 1 ∧
      (collection.unsubscribeCollectors plugins [eventId]).2.isCollectorStarted eventId =
        decide (1 < collection.subscribeCount eventId) := by
  obtain ⟨count, found⟩ :
      ∃ count, collection.eventIdToSubscribeCount.get? eventId = some count := by
    cases found : collection.eventIdToSubscribeCount.get? eventId with
    | none => simp [subscribeCount, found] at positive
    | some count => exact ⟨count, rfl⟩
  have same : collection.subscribeCount eventId = count := by simp [subscribeCount, found]
  rw [same] at positive ⊢
  obtain ⟨path, loader⟩ := SortedMap.contains_iff.mp started
  rw [unsubscribeCollectors, unsubscribeCollectorsLocked, releaseEach, started,
    decrementSubscribeCount, found]
  simp only [if_neg (Nat.pos_iff_ne_zero.mp positive)]
  by_cases last : count = 1
  · subst last
    simp [releaseEach, stopEach, getCollector, loader, succeed.callGetCollector, succeed.stop,
      subscribeCount, isCollectorStarted, eraseLoader]
  · have remain : 0 < count - 1 := by omega
    have several : 1 < count := by omega
    refine ⟨by simp [releaseEach, stopEach, remain], ?_, ?_⟩
    · simp [releaseEach, stopEach, remain, subscribeCount]
    · simpa [releaseEach, stopEach, remain, several, isCollectorStarted] using started

end

end DataCollection

end SecurityGuard
