import SecurityGuard.Sdk.AuthEventClient
import SecurityGuard.Subscribe.Manager

/-!
# A subscriber of events in an application

The client has an identifier under which the service keeps a session, and looks for the service
anew in every call.  What the service keeps ends with its instance; a recovery creates the session
anew and subscribes what a snapshot of the client holds.  A call that meets a dead instance, or one
that does not know the client, does not succeed.
-/

namespace SecurityGuard

/-- The client of security events. -/
structure EventSubscribeClient where
  subscribedEventIds : SortedSet Int := .empty
  filters : List EventMuteFilter := []
  deathRecipient : DeathWatch := {}

/-- What a call of the service comes to. -/
structure EventAnswer where
  search : ServiceSearch := .noProxy
  code : Code := .success
  deriving DecidableEq, Repr

/-- What a call of the client asks of the service. -/
inductive EventRequest where
  /-- `Subscribe` when the event is to be a member afterwards, and `Unsubscribe` otherwise. -/
  | update (member : Bool) (eventId : Int)
  /-- `AddFilter` or `RemoveFilter`. -/
  | mute (added : Bool) (filter : EventMuteFilter)
  deriving DecidableEq

namespace EventRequest

/-- What the service makes of the events of the session. -/
def serve (eventIds : SortedSet Int) : EventRequest → SortedSet Int
  | .update true eventId => eventIds.insert eventId ()
  | .update false eventId => eventIds.erase eventId
  | .mute _ _ => eventIds

/-- What the client records of a request that has succeeded. -/
def record (client : EventSubscribeClient) : EventRequest → EventSubscribeClient
  | .update true eventId =>
      { client with subscribedEventIds := client.subscribedEventIds.insert eventId () }
  | .update false eventId =>
      { client with subscribedEventIds := client.subscribedEventIds.erase eventId }
  | .mute true filter => { client with filters := client.filters ++ [filter] }
  | .mute false filter => { client with filters := client.filters.erase filter }

end EventRequest

/-- The next section of a request. -/
inductive EventCallStage where
  | search
  | callService (object : Address)
  | record
  | returned (code : Code)
  deriving DecidableEq

/-- A call of the client, with its next step. -/
structure EventCall where
  request : EventRequest
  stage : EventCallStage := .search
  deriving DecidableEq

/-- The next section of `HandleDeath`.  It has come to its end when no filter is left. -/
inductive EventReconnectionStage where
  | snapshot
  | wake
  | search
  | addDeathRecipient (object : Address)
  | creatClient (object : Address)
  | subscribe (object : Address) (todo : List Int)
  | addFilter (object : Address) (todo : List EventMuteFilter)
  | finished
  deriving DecidableEq

/-- A task that runs `HandleDeath`, with the delays still left and its snapshot. -/
structure EventReconnection where
  delays : List Nat := reconnectRetryDelaySeconds
  events : SortedSet Int := .empty
  filters : List EventMuteFilter := []
  stage : EventReconnectionStage := .snapshot

namespace EventReconnection

variable (task : EventReconnection)

/-- Move a reconnection to a stage. -/
def moveTo (stage : EventReconnectionStage) : EventReconnection := { task with stage }

/-- The loop over the delays, when no attempt has succeeded so far. -/
def retry : EventReconnection :=
  match task.delays with
  | [] => task.moveTo .finished
  | _ :: delays => { task with delays, stage := .wake }

end EventReconnection

/-- The client, the service and what is under way between them. -/
structure EventSystem where
  client : EventSubscribeClient := {}
  creation : CreatClientStage := .start
  /-- The object of the service, while it lives. -/
  service : Option Address := none
  /-- Every object that the service has had. -/
  started : SortedSet Address := .empty
  /-- The events of the session that the living instance keeps for the client. -/
  session : Option (SortedSet Int) := none
  /-- The dead objects whose notice has not reached the recipient. -/
  notices : SortedSet Address := .empty
  calls : SortedMap ClientCallId EventCall := .empty
  reconnections : SortedMap ReconnectionId EventReconnection := .empty

/-- A step of the service, of the client or of a reconnection. -/
inductive EventAction where
  | serviceStarts (object : Address)
  | serviceDies
  /-- `OnRemoteDied`, with whether the dead object can still be promoted. -/
  | remoteDied (object : Address) (id : ReconnectionId) (promoted : Bool)
  | creatClient (object : Address)
  | setDeathRecipient (allocated : Bool)
  | request (id : ClientCallId) (request : EventRequest)
  | proceed (id : ClientCallId) (answer : EventAnswer)
  | reconnect (id : ReconnectionId) (answer : EventAnswer)
  deriving DecidableEq

namespace EventSystem

variable (system : EventSystem)

/-- Replace what the client watches. -/
def watched (watch : DeathWatch) : EventSystem :=
  { system with client := { system.client with deathRecipient := watch } }

/-- The instance at an object serves a request, if it lives and knows the client. -/
def serve? (object : Address) (request : EventRequest) : Option EventSystem :=
  match system.session with
  | none => none
  | some eventIds =>
      if system.service = some object then
        some { system with session := some (request.serve eventIds) }
      else none

/-- The instance at an object creates the session, if it lives and does not know the client. -/
def create? (object : Address) : Option EventSystem :=
  if system.service = some object ∧ system.session = none then
    some { system with session := some .empty }
  else none

/-- A section of a request. -/
def call (current : EventCall) (answer : EventAnswer) : Option (EventCallStage × EventSystem) :=
  match current.stage with
  | .search =>
      match answer.search with
      | .noRegistry | .noProxy => some (.returned .nullObject, system)
      | .proxy object =>
          if system.service = some object then some (.callService object, system) else none
  | .callService object =>
      if answer.code = .success then
        (system.serve? object current.request).map fun served => (.record, served)
      else some (.returned answer.code, system)
  | .record =>
      -- The members change in a section of their own, after the service has answered.
      some (.returned .success, { system with client := current.request.record system.client })
  | .returned _ => none

/-- A section of `HandleDeath`. -/
def handleDeath (task : EventReconnection) (answer : EventAnswer) :
    Option (EventReconnection × EventSystem) :=
  match task.stage with
  | .snapshot =>
      let taken :=
        { task with events := system.client.subscribedEventIds, filters := system.client.filters }
      some (taken.retry, system)
  | .wake => some (task.moveTo .search, system)
  | .search =>
      match answer.search with
      | .noRegistry | .noProxy => some (task.retry, system)
      | .proxy object =>
          if system.service = some object then
            some (task.moveTo (.addDeathRecipient object), system)
          else none
  | .addDeathRecipient object =>
      -- Without a recipient, or when the object has died again, the task starts over.
      if system.client.deathRecipient.recipient && decide (system.service = some object) then
        some (task.moveTo (.creatClient object),
          system.watched (system.client.deathRecipient.add object true))
      else some (task.retry, system)
  | .creatClient object =>
      if answer.code = .success then
        (system.create? object).map fun created =>
          (task.moveTo (.subscribe object task.events.keys), created)
      else some (task.retry, system)
  | .subscribe object (eventId :: todo) =>
      if answer.code = .success then
        (system.serve? object (.update true eventId)).map fun served =>
          (task.moveTo (.subscribe object todo), served)
      -- A subscription that fails is passed over.
      else some (task.moveTo (.subscribe object todo), system)
  | .subscribe object [] => some (task.moveTo (.addFilter object task.filters), system)
  | .addFilter object (filter :: todo) =>
      if answer.code = .success then
        (system.serve? object (.mute true filter)).map fun served =>
          (task.moveTo (.addFilter object todo), served)
      else some (task.moveTo (.addFilter object todo), system)
  | .addFilter _ [] | .finished => none

/-- The service ends with all it has kept; it starts again with another object. -/
def serviceDies (object : Address) : EventSystem :=
  { system with
    service := none
    session := none
    notices :=
      if system.client.deathRecipient.registered.contains object then
        system.notices.insert object ()
      else system.notices }

/-- A death reaches the client, which starts a reconnection. -/
def remoteDied (object : Address) (id : ReconnectionId) (promoted : Bool) : EventSystem :=
  let watch := system.client.deathRecipient
  let removed := system.watched (if promoted then watch.remove object else watch)
  { removed with
    notices := system.notices.erase object
    reconnections := system.reconnections.insert id {} }

/-- The state after a step that is possible. -/
def next : Transition EventSystem EventAction := fun system action =>
  match action with
  | .serviceStarts object =>
      if system.service.isSome || system.started.contains object then none
      else
        let started := system.started.insert object ()
        some { system with service := some object, started }
  | .serviceDies => system.service.map system.serviceDies
  | .remoteDied object id promoted =>
      if system.notices.contains object && !system.reconnections.contains id then
        some (system.remoteDied object id promoted)
      else none
  | .creatClient object =>
      if system.creation = .start then
        (system.create? object).map fun created =>
          { created with creation := .setDeathRecipient object }
      else none
  | .setDeathRecipient allocated =>
      match system.creation with
      | .setDeathRecipient object =>
          let set := system.client.deathRecipient.setDeathRecipient .nullObject object allocated
            (system.service = some object)
          some { system.watched set.2 with creation := .returned }
      | .start | .returned => none
  | .request id request =>
      if system.creation = .returned ∧ system.calls.contains id = false then
        some { system with calls := system.calls.insert id { request } }
      else none
  | .proceed id answer =>
      (system.calls.get? id).bind fun current =>
        (system.call current answer).map fun result =>
          { result.2 with
            calls := system.calls.insert id { current with stage := result.1 } }
  | .reconnect id answer =>
      (system.reconnections.get? id).bind fun task =>
        (system.handleDeath task answer).map fun result =>
          { result.2 with reconnections := system.reconnections.insert id result.1 }

end EventSystem

end SecurityGuard
