import SecurityGuard.Collector.Subscribers
import SecurityGuard.Foundation.Execution

/-!
# The collector service and its reference count

`g_refCount` keeps the collector service loaded.  Calls add to it before they know whether they
succeed and take back what they added when they fail, so that it covers the calls in flight too.
Each access to the counter and each section of a manager is one step of an interleaving.
-/

namespace SecurityGuard

/-- A call of the collector service or the death of a callback. -/
inductive CollectorServiceCall where
  | subscribe (eventId : Int) (callback : Address)
  | unsubscribe (callback : Address)
  | collectorStart (eventId : Int)
  | collectorStop (eventId : Int)
  | querySecurityEvent
  | querySecurityEventBatch
  | onRemoteDied (remote : Address)
  deriving DecidableEq

/-- What the caller's token, the configuration and the data collection answer during one step. -/
structure CollectorAnswers where
  hasPermission : Code := .success
  setDeathRecipient : Bool := true
  getCollectorType : Except Code Int := .ok 1
  getAppName : String := notifyAppName
  subscribeCollectors : Code := .success
  startCollectors : Bool := true
  stopCollectors : Bool := true
  querySecurityEvent : Code := .success

/-- Where a call in flight stands. -/
inductive CollectorServiceStage where
  | subscribing (eventId : Int) (callback : Address)
  | unsubscribing (callback : Address)
  | starting (eventId : Int)
  | stopping (eventId : Int) (appName : String)
  | querying
  | dying (remote : Address)
  /-- A death that took a subscription away and has to read the counter. -/
  | removed
  /-- Before the decrement that ends the call with a code. -/
  | releasing (code : Code)
  deriving DecidableEq

/-- The type of a collector that can be started. -/
def collectorCanStart : Int := 1

/-- A 32-bit signed integer wraps around. -/
def int32 (value : Int) : Int := (value + 2147483648) % 4294967296 - 2147483648

/-- The collector service, with its calls under way. -/
structure CollectorService where
  refCount : Int := 0
  subscribers : SecurityCollectorSubscriberManager := {}
  starters : SecurityCollectorRunManager := {}
  /-- The address of the next object. -/
  nextAddress : Address := 0
  inFlight : SortedMap Nat CollectorServiceStage := .empty
  deriving DecidableEq

namespace CollectorService

variable (answers : CollectorAnswers) (state : CollectorService)

/-- Count a call, in 32 bits. -/
def fetchAdd : CollectorService := { state with refCount := int32 (state.refCount + 1) }

/-- Count a call as over, in 32 bits. -/
def fetchSub : CollectorService := { state with refCount := int32 (state.refCount - 1) }

/-- Make a subscriber or starter. -/
def newSubscriber (appName : String) (eventId : Int) (remote : Option Address) :
    SecurityCollectorSubscriber := ⟨state.nextAddress, appName, eventId, remote⟩

/-- The beginning of a call, up to its access to the counter. -/
def enter : CollectorServiceCall → CollectorService × Decision CollectorServiceStage
  | .subscribe eventId callback => (state.fetchAdd, .continues (.subscribing eventId callback))
  | .unsubscribe callback =>
      if answers.hasPermission ≠ .success then (state, .returns answers.hasPermission)
      else if state.refCount ≤ 0 then (state, .returns .failed)
      else (state, .continues (.unsubscribing callback))
  | .collectorStart eventId => (state.fetchAdd, .continues (.starting eventId))
  | .collectorStop eventId =>
      if answers.hasPermission ≠ .success then (state, .returns answers.hasPermission)
      else if state.refCount ≤ 0 then (state, .returns .failed)
      else if answers.getAppName = "" then (state, .returns .badParam)
      else (state, .continues (.stopping eventId answers.getAppName))
  | .querySecurityEvent | .querySecurityEventBatch => (state.fetchAdd, .continues .querying)
  | .onRemoteDied remote => (state, .continues (.dying remote))

/-- Take a callback object out of the subscribers. -/
def cleanSubscriber (remote : Address) : Bool × CollectorService :=
  let cleaned := state.subscribers.unsubscribeCollector remote
  (cleaned.1, { state with subscribers := cleaned.2.manager })

/-- The first section of `Subscribe`. -/
def subscribe (eventId : Int) (callback : Address) :
    CollectorService × Decision CollectorServiceStage :=
  if answers.hasPermission ≠ .success then
    -- Every failure takes back what the call has counted; a subscription that succeeds goes on
    -- counting.
    (state, .continues (.releasing answers.hasPermission))
  else if !answers.setDeathRecipient then (state, .continues (.releasing .nullObject))
  else
    let subscribed := state.subscribers.subscribeCollector answers.subscribeCollectors
      (state.newSubscriber notifyAppName eventId (some callback))
    let after :=
      { state with subscribers := subscribed.2, nextAddress := state.nextAddress + 1 }
    if !subscribed.1 then (after, .continues (.releasing .badParam))
    else (after, .returns .success)

/-- The first section of `Unsubscribe`. -/
def unsubscribe (callback : Address) : CollectorService × Decision CollectorServiceStage :=
  let cleaned := state.cleanSubscriber callback
  if !cleaned.1 then (cleaned.2, .returns .success)
  else (cleaned.2, .continues (.releasing .success))

/-- The first section of `CollectorStart`. -/
def collectorStart (eventId : Int) : CollectorService × Decision CollectorServiceStage :=
  if answers.hasPermission ≠ .success then
    (state, .continues (.releasing answers.hasPermission))
  else
    match answers.getCollectorType with
    | .error _ => (state, .continues (.releasing .badParam))
    | .ok collectorType =>
        if collectorType ≠ collectorCanStart then (state, .continues (.releasing .badParam))
        else if answers.getAppName = "" then (state, .continues (.releasing .badParam))
        else
          let started := state.starters.startCollector answers.startCollectors
            (state.newSubscriber answers.getAppName eventId none)
          let after := { state with starters := started.2, nextAddress := state.nextAddress + 1 }
          if !started.1 then (after, .continues (.releasing .badParam))
          else (after, .returns .success)

/-- The first section of `CollectorStop`. -/
def collectorStop (eventId : Int) (appName : String) :
    CollectorService × Decision CollectorServiceStage :=
  let stopped := state.starters.stopCollector answers.stopCollectors
    (state.newSubscriber appName eventId none)
  let after := { state with starters := stopped.2, nextAddress := state.nextAddress + 1 }
  if !stopped.1 then (after, .continues (.releasing .badParam))
  else (after, .continues (.releasing .success))

/-- Both queries hold the counter while they read. -/
def query : CollectorService × Decision CollectorServiceStage :=
  if answers.hasPermission ≠ .success then (state, .continues (.releasing .noPermission))
  else if answers.querySecurityEvent ≠ .success then (state, .continues (.releasing .readErr))
  else (state, .continues (.releasing .success))

/-- The first section of a death. -/
def onRemoteDied (remote : Address) : CollectorService × Decision CollectorServiceStage :=
  let cleaned := state.cleanSubscriber remote
  if cleaned.1 then (cleaned.2, .continues .removed) else (cleaned.2, .returns .success)

/-- The next step of a call in flight. -/
def resume : CollectorServiceStage → CollectorService × Decision CollectorServiceStage
  | .subscribing eventId callback => state.subscribe answers eventId callback
  | .unsubscribing callback => state.unsubscribe callback
  | .starting eventId => state.collectorStart answers eventId
  | .stopping eventId appName => state.collectorStop answers eventId appName
  | .querying => state.query answers
  | .dying remote => state.onRemoteDied remote
  | .removed =>
      -- The test and the decrement are two accesses, between which other calls may come.
      if state.refCount ≤ 0 then (state, .returns .success)
      else (state, .continues (.releasing .success))
  | .releasing code => (state.fetchSub, .returns code)

/-- The call goes on or ends. -/
def settle (id : Nat) (outcome : CollectorService × Decision CollectorServiceStage) :
    CollectorService :=
  match outcome.2 with
  | .returns _ => { outcome.1 with inFlight := outcome.1.inFlight.erase id }
  | .continues stage => { outcome.1 with inFlight := outcome.1.inFlight.insert id stage }

/-- A new call begins, or a call in flight takes its next step. -/
inductive Label where
  | begins (id : Nat) (call : CollectorServiceCall) (answers : CollectorAnswers)
  | continues (id : Nat) (answers : CollectorAnswers)

/-- A call begins, or one under way takes its next section. -/
def next : Transition CollectorService Label
  | state, .begins id call answers =>
      if state.inFlight.contains id then none else some (settle id (state.enter answers call))
  | state, .continues id answers =>
      (state.inFlight.get? id).map fun stage => settle id (state.resume answers stage)

/-- The unload loop finds nobody using the service. -/
def isIdle : Bool := state.refCount ≤ 0

/-- The subscriptions that are registered and the collectors that are started. -/
def inUse : Nat := state.subscribers.registered + state.starters.started

end CollectorService

end SecurityGuard
