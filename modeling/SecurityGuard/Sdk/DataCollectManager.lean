import Mathlib.Algebra.Order.Ring.Int
import SecurityGuard.Foundation.Execution
import SecurityGuard.Sdk.Service

/-!
# Subscribers in an application

The library keeps the subscribers of an application and has the service collect an event while
one of them is for it.  A call asks under the lock whether another subscriber is for the event,
calls the service outside of the lock, and enters its subscriber under the lock again.
-/

namespace SecurityGuard

/-- The name of a call. -/
abbrev CollectCallId := Nat

/-- The next section of a call. -/
inductive CollectStage where
  /-- The first section of `Subscribe`, which has found an object of the service. -/
  | register (object : Address)
  | askFirst
  | serverSubscribe
  | insert
  /-- The first section of `Unsubscribe`. -/
  | checkSubscribed
  | findService
  | erase
  | askLast
  | serverUnsubscribe
  /-- The service has refused to unsubscribe. -/
  | restore (code : Code)
  | finished (code : Code)
  deriving DecidableEq, Repr

/-- A call of the manager, with its next step. -/
structure CollectCall where
  subscriber : Address
  stage : CollectStage
  deriving DecidableEq, Repr

/-- What the section of a call learns from outside. -/
structure CollectAnswer where
  /-- Whether a death recipient can be allocated. -/
  allocated : Bool := true
  /-- Whether the object of the service takes a death recipient. -/
  alive : Bool := true
  search : ServiceSearch := .proxy 0
  /-- What the service returns. -/
  code : Code := .success
  deriving DecidableEq, Repr

/-- A call of the manager or its next step. -/
inductive CollectAction where
  | subscribe (id : CollectCallId) (subscriber : Option Address) (search : ServiceSearch)
  | unsubscribe (id : CollectCallId) (subscriber : Option Address)
  | proceed (id : CollectCallId) (answer : CollectAnswer)
  deriving DecidableEq, Repr

/-- The manager of the subscribers in one process. -/
structure DataCollectManager where
  /-- Whether `callback_` is set. -/
  callback : Bool := true
  deathRecipient : DeathWatch := {}
  subscribers : SortedSet Address := .empty

/-- The library, its calls in flight and the events for which the service has it subscribed. -/
structure CollectSystem where
  manager : DataCollectManager := {}
  server : SortedSet Int := .empty
  calls : SortedMap CollectCallId CollectCall := .empty

namespace DataCollectManager

/-- Some subscriber has the event of another one. -/
def isCurrentSubscriberEventIdExist (eventId : Address → Int) (manager : DataCollectManager)
    (sub : Address) : Bool :=
  manager.subscribers.keys.any fun subscriber => eventId subscriber = eventId sub

/-- Enter a subscriber. -/
def insert (manager : DataCollectManager) (subscriber : Address) : DataCollectManager :=
  { manager with subscribers := manager.subscribers.insert subscriber () }

/-- Take a subscriber out. -/
def erase (manager : DataCollectManager) (subscriber : Address) : DataCollectManager :=
  { manager with subscribers := manager.subscribers.erase subscriber }

/-- The first section of `Subscribe`. -/
def register (manager : DataCollectManager) (subscriber object : Address)
    (answer : CollectAnswer) : CollectStage × DataCollectManager :=
  if manager.callback = false then (.finished .nullObject, manager)
  else if manager.subscribers.contains subscriber then (.finished .badParam, manager)
  else
    let set :=
      manager.deathRecipient.setDeathRecipient .nullObject object answer.allocated answer.alive
    let stage := if set.1 = .success then .askFirst else .finished set.1
    (stage, { manager with deathRecipient := set.2 })

theorem register_spec (manager : DataCollectManager) (subscriber object : Address)
    (answer : CollectAnswer) :
    (manager.register subscriber object answer).2.subscribers = manager.subscribers ∧
      (manager.register subscriber object answer).1 ≠ .insert ∧
        ∀ code, (manager.register subscriber object answer).1 ≠ .restore code := by
  rw [register]
  split_ifs with unset known
  · exact ⟨rfl, by simp, by simp⟩
  · exact ⟨rfl, by simp, by simp⟩
  · refine ⟨rfl, ?_⟩
    dsimp only
    split_ifs <;> simp

/-- The first section of `Unsubscribe`. -/
def checkSubscribed (manager : DataCollectManager) (subscriber : Address) : CollectStage :=
  if manager.callback = false then .finished .nullObject
  else if manager.subscribers.contains subscriber then .findService
  else .finished .badParam

theorem checkSubscribed_spec (manager : DataCollectManager) (subscriber : Address) :
    manager.checkSubscribed subscriber ≠ .insert ∧
      ∀ code, manager.checkSubscribed subscriber ≠ .restore code := by
  rw [checkSubscribed]
  split_ifs <;> simp

end DataCollectManager

namespace CollectSystem

/-- One section of a call, with the section that follows it. -/
def section? (eventId : Address → Int) (system : CollectSystem) (call : CollectCall)
    (answer : CollectAnswer) : Option (CollectStage × CollectSystem) :=
  let event := eventId call.subscriber
  let manager := system.manager
  match call.stage with
  | .register object =>
      let registered := manager.register call.subscriber object answer
      some (registered.1, { system with manager := registered.2 })
  | .askFirst =>
      -- The set is read before the service is asked, and entered in a section of its own.
      let exist := manager.isCurrentSubscriberEventIdExist eventId call.subscriber
      some (if exist then .insert else .serverSubscribe, system)
  | .serverSubscribe =>
      if answer.code = .success then
        some (.insert, { system with server := system.server.insert event () })
      else some (.finished answer.code, system)
  | .insert =>
      some (.finished .success, { system with manager := manager.insert call.subscriber })
  | .checkSubscribed => some (manager.checkSubscribed call.subscriber, system)
  | .findService =>
      match answer.search with
      | .noRegistry | .noProxy => some (.finished .nullObject, system)
      | .proxy _ => some (.erase, system)
  -- The subscriber leaves the set before the service is asked, and comes back when it refuses.
  | .erase => some (.askLast, { system with manager := manager.erase call.subscriber })
  | .askLast =>
      let exist := manager.isCurrentSubscriberEventIdExist eventId call.subscriber
      some (if exist then .finished .success else .serverUnsubscribe, system)
  | .serverUnsubscribe =>
      if answer.code = .success then
        some (.finished .success, { system with server := system.server.erase event })
      else some (.restore answer.code, system)
  | .restore code =>
      some (.finished code, { system with manager := manager.insert call.subscriber })
  | .finished _ => none

/-- Move a call to a stage. -/
def withCall (system : CollectSystem) (id : CollectCallId) (subscriber : Address)
    (stage : CollectStage) : CollectSystem :=
  { system with calls := system.calls.insert id { subscriber, stage } }

/-- `Subscribe` up to its first section. -/
def subscribe (system : CollectSystem) (id : CollectCallId) (subscriber : Option Address)
    (search : ServiceSearch) : CollectSystem :=
  match subscriber, search with
  | none, _ => system.withCall id 0 (.finished .nullObject)
  | some subscriber, .proxy object => system.withCall id subscriber (.register object)
  | some subscriber, .noRegistry | some subscriber, .noProxy =>
      system.withCall id subscriber (.finished .nullObject)

/-- `Unsubscribe` up to its first section. -/
def unsubscribe (system : CollectSystem) (id : CollectCallId) (subscriber : Option Address) :
    CollectSystem :=
  match subscriber with
  | none => system.withCall id 0 (.finished .nullObject)
  | some subscriber => system.withCall id subscriber .checkSubscribed

/-- The state after a step that is possible. -/
def next (eventId : Address → Int) : Transition CollectSystem CollectAction :=
  fun system action =>
    match action with
    | .subscribe id subscriber search =>
        if system.calls.contains id then none
        else some (system.subscribe id subscriber search)
    | .unsubscribe id subscriber =>
        if system.calls.contains id then none else some (system.unsubscribe id subscriber)
    | .proceed id answer =>
        (system.calls.get? id).bind fun call =>
          (system.section? eventId call answer).map fun result =>
            result.2.withCall id call.subscriber result.1

end CollectSystem

end SecurityGuard
