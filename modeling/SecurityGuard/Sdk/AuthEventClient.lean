import Mathlib.Algebra.Order.Ring.Int
import SecurityGuard.Foundation.Execution
import SecurityGuard.Sdk.Service
import SecurityGuard.Sdk.SessionTable

/-!
# A subscriber of authorisation events in an application

The client holds the session that the service has made for it and the events it has subscribed.
Calls of the application, and a task for each death of the service that is noticed, run beside
each other.  A step is a critical section of `g_mutex_` or a call of the service, and a call that
meets a dead instance or a destroyed session does not succeed.
-/

namespace SecurityGuard

/-- The name of a call. -/
abbrev ClientCallId := Nat
abbrev ReconnectionId := Nat

/-- The client of authorisation events. -/
structure AuthEventSubscribeClient where
  sessionRemote : Option Address := none
  subscribedEventIds : SortedSet Int := .empty
  deathRecipient : DeathWatch := {}
  deleted : Bool := false

/-- What a call of the service comes to. -/
structure AuthEventAnswer where
  search : ServiceSearch := .noProxy
  code : Code := .success
  /-- The object of the session, as `CreatAuthEventClient` returns it. -/
  newSession : Option Address := none
  deriving DecidableEq, Repr

/-- The next section of `Subscribe` or `Unsubscribe`. -/
inductive UpdateStage where
  | readSession
  | callSession (session : Address)
  | record
  | returned (code : Code)
  deriving DecidableEq, Repr

/-- The next section of `Release`. -/
inductive ReleaseStage where
  | takeSession
  | destroy (session : Option Address)
  | removeDeathRecipient
  | returned
  deriving DecidableEq, Repr

/-- A call of the client, with its next step. -/
inductive AuthEventCall where
  /-- `Subscribe` when the event is to be a member afterwards, and `Unsubscribe` otherwise. -/
  | update (member : Bool) (eventId : Int) (stage : UpdateStage)
  | release (stage : ReleaseStage)
  deriving DecidableEq, Repr

/-- The next section of `HandleDeath` and the `RecoverSession` that it calls.  The loop over the
events has come to its end when none is left. -/
inductive ReconnectionStage where
  | snapshot
  | wake
  | search
  | addDeathRecipient (object : Address)
  | creatAuthEventClient (object : Address)
  | switchSessionRemote (newSession : Address)
  | subscribe (session : Address) (todo : List Int)
  | finished
  deriving DecidableEq, Repr

/-- A task that runs `HandleDeath`, with the delays still left and the events of its snapshot. -/
structure Reconnection where
  delays : List Nat := reconnectRetryDelaySeconds
  events : SortedSet Int := .empty
  stage : ReconnectionStage := .snapshot

namespace Reconnection

variable (task : Reconnection)

/-- Move a reconnection to a stage. -/
def moveTo (stage : ReconnectionStage) : Reconnection := { task with stage }

/-- The loop over the delays, when no attempt has succeeded so far. -/
def retry : Reconnection :=
  match task.delays with
  | [] => task.moveTo .finished
  | _ :: delays => { task with delays, stage := .wake }

end Reconnection

/-- The next section of `CreatClient`. -/
inductive CreatClientStage where
  | start
  | setDeathRecipient (object : Address)
  | returned
  deriving DecidableEq, Repr

/-- The client, the service and what is under way between them. -/
structure AuthEventSystem where
  client : AuthEventSubscribeClient := {}
  creation : CreatClientStage := .start
  /-- The object of the service, while it lives. -/
  service : Option Address := none
  /-- Every object that the service has had. -/
  started : SortedSet Address := .empty
  /-- The sessions that the service has made for the client. -/
  table : SessionTable := {}
  /-- The events of each session. -/
  eventIds : SortedMap Address (SortedSet Int) := .empty
  /-- The dead objects whose notice has not reached the recipient. -/
  notices : SortedSet Address := .empty
  calls : SortedMap ClientCallId AuthEventCall := .empty
  reconnections : SortedMap ReconnectionId Reconnection := .empty

/-- A step of the service, of the client or of a reconnection. -/
inductive AuthEventAction where
  | serviceStarts (object : Address)
  | serviceDies
  /-- `OnRemoteDied`, with whether the dead object can still be promoted. -/
  | remoteDied (object : Address) (id : ReconnectionId) (promoted : Bool)
  | creatClient (object session : Address)
  | setDeathRecipient (allocated : Bool)
  | subscribe (id : ClientCallId) (eventId : Int)
  | unsubscribe (id : ClientCallId) (eventId : Int)
  | deleteClient (id : ClientCallId)
  | proceed (id : ClientCallId) (answer : AuthEventAnswer)
  | reconnect (id : ReconnectionId) (answer : AuthEventAnswer)
  deriving DecidableEq, Repr

namespace AuthEventSystem

variable (system : AuthEventSystem)

/-- The events of a session. -/
def eventsOf (session : Address) : SortedSet Int := (system.eventIds.get? session).getD .empty

/-- The session enters an event among its own or removes it. -/
def applyAt (session : Address) (member : Bool) (eventId : Int) : AuthEventSystem :=
  let events := system.eventsOf session
  let changed := if member then events.insert eventId () else events.erase eventId
  { system with eventIds := system.eventIds.insert session changed }

/-- The client enters an event among its own or removes it. -/
def recordEvent (member : Bool) (eventId : Int) : AuthEventSystem :=
  let events := system.client.subscribedEventIds
  let subscribedEventIds := if member then events.insert eventId () else events.erase eventId
  { system with client := { system.client with subscribedEventIds } }

/-- Replace what the client watches. -/
def watched (watch : DeathWatch) : AuthEventSystem :=
  { system with client := { system.client with deathRecipient := watch } }

/-- A section of `Subscribe` or `Unsubscribe`. -/
def update (member : Bool) (eventId : Int) (answer : AuthEventAnswer) :
    UpdateStage → Option (UpdateStage × AuthEventSystem)
  | .readSession =>
      if system.client.deleted then some (.returned .badParam, system)
      else
        match system.client.sessionRemote with
        | none => some (.returned .nullObject, system)
        | some session => some (.callSession session, system)
  | .callSession session =>
      if answer.code = .success then
        -- A call on a session that is not open cannot succeed.
        if system.table.isOpen system.service session then
          some (.record, system.applyAt session member eventId)
        else none
      else some (.returned answer.code, system)
  | .record => some (.returned .success, system.recordEvent member eventId)
  | .returned _ => none

/-- A section of `Release`. -/
def release : ReleaseStage → Option (ReleaseStage × AuthEventSystem)
  | .takeSession =>
      -- The session is taken first, so that no other call finds it any more.
      let client := { system.client with deleted := true, sessionRemote := none }
      some (.destroy system.client.sessionRemote, { system with client })
  | .destroy none => some (.removeDeathRecipient, system)
  | .destroy (some session) =>
      let table := system.table.destroy system.service session
      some (.removeDeathRecipient, { system with table })
  | .removeDeathRecipient =>
      match system.service with
      | none => some (.returned, system)
      | some object => some (.returned, system.watched (system.client.deathRecipient.remove object))
  | .returned => none

/-- A section of a call. -/
def call (answer : AuthEventAnswer) : AuthEventCall → Option (AuthEventCall × AuthEventSystem)
  | .update member eventId stage =>
      (system.update member eventId answer stage).map fun result =>
        (.update member eventId result.1, result.2)
  | .release stage =>
      (system.release stage).map fun result => (.release result.1, result.2)

/-- A section of `HandleDeath`. -/
def handleDeath (task : Reconnection) (answer : AuthEventAnswer) :
    Option (Reconnection × AuthEventSystem) :=
  match task.stage with
  | .snapshot =>
      let taken := { task with events := system.client.subscribedEventIds }
      some (taken.retry, { system with client := { system.client with sessionRemote := none } })
  | .wake =>
      if system.client.deleted then some (task.moveTo .finished, system)
      else some (task.moveTo .search, system)
  | .search =>
      match answer.search with
      | .noRegistry | .noProxy => some (task.retry, system)
      | .proxy object =>
          if system.service = some object then
            some (task.moveTo (.addDeathRecipient object), system)
          else none
  | .addDeathRecipient object =>
      if system.client.deathRecipient.recipient && decide (system.service = some object) then
        some (task.moveTo (.creatAuthEventClient object),
          system.watched (system.client.deathRecipient.add object true))
      else some (task.retry, system)
  | .creatAuthEventClient object =>
      if answer.code = .success then
        match answer.newSession with
        | none => some (task.retry, system)
        | some session =>
            (system.table.create? system.service object session).map fun table =>
              (task.moveTo (.switchSessionRemote session),
                { system with table, eventIds := system.eventIds.insert session .empty })
      else some (task.retry, system)
  | .switchSessionRemote newSession =>
      if system.client.deleted then
        -- The client was deleted in the meantime, and its new session is given back.
        let table := system.table.destroy system.service newSession
        some (task.moveTo .finished, { system with table })
      else
        let client := { system.client with sessionRemote := some newSession }
        some (task.moveTo (.subscribe newSession task.events.keys), { system with client })
  | .subscribe session (eventId :: todo) =>
      if answer.code = .success then
        if system.table.isOpen system.service session then
          some (task.moveTo (.subscribe session todo), system.applyAt session true eventId)
        else none
      -- An event that cannot be subscribed again is passed over.
      else some (task.moveTo (.subscribe session todo), system)
  | .subscribe _ [] | .finished => none

/-- The service ends; it starts again with another object. -/
def serviceDies (object : Address) : AuthEventSystem :=
  { system with
    service := none
    notices :=
      if system.client.deathRecipient.registered.contains object then
        system.notices.insert object ()
      else system.notices }

/-- A death reaches the client, which starts a reconnection. -/
def remoteDied (object : Address) (id : ReconnectionId) (promoted : Bool) : AuthEventSystem :=
  let watch := system.client.deathRecipient
  let removed := system.watched (if promoted then watch.remove object else watch)
  { removed with
    notices := system.notices.erase object
    reconnections := system.reconnections.insert id {} }

/-- A call of a client that has been made. -/
def enter (id : ClientCallId) (call : AuthEventCall) : Option AuthEventSystem :=
  if system.creation = .returned ∧ system.calls.contains id = false then
    some { system with calls := system.calls.insert id call }
  else none

/-- The state after a step that is possible. -/
def next : Transition AuthEventSystem AuthEventAction := fun system action =>
  match action with
  | .serviceStarts object =>
      if system.service.isSome || system.started.contains object then none
      else
        let started := system.started.insert object ()
        some { system with service := some object, started }
  | .serviceDies => system.service.map system.serviceDies
  | .remoteDied object id promoted =>
      if system.notices.contains object && !system.reconnections.contains id then
        some (system.remoteDied object id promoted)
      else none
  | .creatClient object session =>
      if system.creation = .start then
        (system.table.create? system.service object session).map fun table =>
          { system with
            client := { system.client with sessionRemote := some session }
            creation := .setDeathRecipient object
            table
            eventIds := system.eventIds.insert session .empty }
      else none
  | .setDeathRecipient allocated =>
      match system.creation with
      | .setDeathRecipient object =>
          let set := system.client.deathRecipient.setDeathRecipient .nullObject object allocated
            (system.service = some object)
          some { system.watched set.2 with creation := .returned }
      | .start | .returned => none
  | .subscribe id eventId => system.enter id (.update true eventId .readSession)
  | .unsubscribe id eventId => system.enter id (.update false eventId .readSession)
  | .deleteClient id => system.enter id (.release .takeSession)
  | .proceed id answer =>
      (system.calls.get? id).bind fun call =>
        (system.call answer call).map fun result =>
          { result.2 with calls := system.calls.insert id result.1 }
  | .reconnect id answer =>
      (system.reconnections.get? id).bind fun task =>
        (system.handleDeath task answer).map fun result =>
          { result.2 with reconnections := system.reconnections.insert id result.1 }

end AuthEventSystem

end SecurityGuard
