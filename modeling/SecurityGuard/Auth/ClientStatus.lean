import SecurityGuard.Auth.Creation

/-!
# The client lists of the providers

Every change of the client sessions or of the providers starts a task that notes the callbacks
of the providers, collects the clients of each one's service and sends the list to it.  The
sessions are read one after the other and nothing is locked while a list is sent, so tasks
overlap with each other and with further changes.
-/

namespace SecurityGuard

/-- A client as it is shown to a provider. -/
structure AuthClientInfo where
  clientId : String
  bundleName : String := ""
  subscribedEvents : List Int
  defaultTimeoutStrategy : AuthStrategy
  defaultTimeoutMs : Int
  deriving DecidableEq, Repr

namespace AuthEventSessionService

variable (session : AuthEventSessionService)

/-- The service for which a client subscribed an event. -/
def getServiceIdForEvent (eventId : Int) : String :=
  (session.eventServiceMap.get? eventId).getD ""

/-- The entry of a session in the list of a service, unless it subscribes none of its events. -/
def clientInfo? (serviceId : String) : Option AuthClientInfo :=
  let matchedEvents := session.eventIds.keys.filter fun eventId =>
    session.getServiceIdForEvent eventId = serviceId
  if matchedEvents.isEmpty then none
  else
    some
      { clientId := session.clientId
        subscribedEvents := matchedEvents
        defaultTimeoutStrategy := session.defaultTimeoutStrategy
        defaultTimeoutMs := session.defaultTimeoutMs }

theorem clientInfo?_of_empty {session : AuthEventSessionService}
    (silent : session.eventIds = .empty) (serviceId : String) :
    session.clientInfo? serviceId = none := by
  rw [clientInfo?, silent]
  rfl

end AuthEventSessionService

namespace AuthEventSubscribeManager

variable (manager : AuthEventSubscribeManager)

/-- The sessions that are still valid. -/
def getAllSessions : List Address :=
  manager.sessions.keys.filter fun session =>
    (manager.sessionObjects.get? session).any fun object => object.valid

/-- What the session at an address adds to a list. -/
def clientInfoAt (serviceId : String) (session : Address) : Option AuthClientInfo :=
  (manager.sessionObjects.get? session).bind (·.clientInfo? serviceId)

/-- The list of a service when nothing comes between the sessions. -/
def collectClientInfos (serviceId : String) : List AuthClientInfo :=
  manager.getAllSessions.filterMap (manager.clientInfoAt serviceId)

end AuthEventSubscribeManager

/-- The callbacks and services of the valid providers. -/
def AuthCoordinator.providerCallbacks (coordinator : AuthCoordinator) : List (Address × String) :=
  coordinator.providerSessions.keys.filterMap fun provider =>
    (coordinator.providerObjects.get? provider).bind fun object =>
      if object.valid then some (object.callback, object.serviceId) else none

/-- A list of clients on its way to a callback. -/
structure ClientList where
  callback : Address
  serviceId : String
  /-- The number of collections that had begun when this one had. -/
  number : Nat
  infos : List AuthClientInfo := []
  deriving DecidableEq, Repr

/-- Where a task of `NotifyClientStatusChanged` is. -/
inductive NotifyStage where
  | providers
  | visit (todo : List (Address × String))
  | collect (list : ClientList) (sessions : List Address) (todo : List (Address × String))
  | send (list : ClientList) (todo : List (Address × String))
  deriving DecidableEq, Repr

/-- The name of a notification task. -/
abbrev NotifyId := Nat

/-- The sessions with the tasks and the lists sent so far, in their order. -/
structure ClientStatusSystem where
  sessions : SessionSystem := {}
  tasks : SortedMap NotifyId NotifyStage := .empty
  begun : Nat := 0
  sent : List ClientList := []

/-- A step of the sessions or of a task that notifies providers. -/
inductive ClientStatusAction where
  /-- A critical section of a call, with the task that it starts if it starts one. -/
  | session (action : SessionAction) (task : NotifyId)
  | task (task : NotifyId)
  deriving DecidableEq, Repr

namespace SessionSystem

variable (system : SessionSystem)

/-- Whether the creation of a session has not returned. -/
def inFlight (kind : SessionKind) (address : Address) : Bool :=
  system.creations.entries.any fun entry =>
    entry.2.kind = kind ∧ entry.2.session = some address ∧ entry.2.code = none

/-- A session is called through the object that its creation returns, and dies through the
recipient that its creation has added. -/
def handedOut : SessionAction → Bool
  | .subscribeAuthEvent session _ _ | .unsubscribeAuthEvent session _
  | .destroyAuthEventClient session | .removeSession session =>
      !system.inFlight .client session
  | .destroyAuthProvider provider | .removeProvider provider =>
      !system.inFlight .provider provider
  | _ => true

/-- Whether a critical section is followed by `NotifyClientStatusChanged`. -/
def notifies : SessionAction → Bool
  | .creatAuthEventClient .. | .createAuthProvider .. => false
  | .addDeathRecipient id added =>
      added && (system.creations.get? id).any fun creation => creation.kind = .provider
  | .subscribeAuthEvent session eventId serviceId =>
      (system.coordinator.manager.subscribeAuthEvent session eventId serviceId).1 = .success
  | .unsubscribeAuthEvent session eventId =>
      (system.coordinator.manager.unsubscribeAuthEvent session eventId).1 = .success
  | .destroyAuthEventClient _ | .removeSession _ | .removeProvider _ => true
  | .destroyAuthProvider provider => system.coordinator.providerSessions.contains provider

end SessionSystem

namespace ClientStatusSystem

variable (hash : String → Nat) (isProxy : Address → Bool) (system : ClientStatusSystem)

/-- The manager of the client sessions. -/
def manager : AuthEventSubscribeManager := system.sessions.coordinator.manager

/-- Move a task to a stage. -/
def withTask (id : NotifyId) (stage : NotifyStage) : ClientStatusSystem :=
  { system with tasks := system.tasks.insert id stage }

/-- The lists that a callback has received. -/
def sentTo (callback : Address) : List ClientList :=
  system.sent.filter fun list => list.callback = callback

/-- One step of a task.  A callback that is no provider callback is passed over. -/
def taskStep (id : NotifyId) : NotifyStage → ClientStatusSystem
  | .providers => system.withTask id (.visit system.sessions.coordinator.providerCallbacks)
  | .visit [] => { system with tasks := system.tasks.erase id }
  | .visit ((callback, serviceId) :: todo) =>
      -- A callback that is no proxy is passed over without a list.
      if isProxy callback then
        { system.withTask id
            (.collect { callback, serviceId, number := system.begun + 1 }
              system.manager.getAllSessions todo) with
          begun := system.begun + 1 }
      else system.withTask id (.visit todo)
  | .collect list (session :: rest) todo =>
      -- The session is read at this step, not when the task began.
      let found := system.manager.clientInfoAt list.serviceId session
      system.withTask id (.collect { list with infos := list.infos ++ found.toList } rest todo)
  | .collect list [] todo => system.withTask id (.send list todo)
  | .send list todo => { system.withTask id (.visit todo) with sent := system.sent ++ [list] }

/-- Enter what a critical section has led to. -/
def enter (sessions : SessionSystem) (notify : Option NotifyId) : ClientStatusSystem :=
  { system with
    sessions
    tasks :=
      match notify with
      | none => system.tasks
      | some task => system.tasks.insert task .providers }

/-- One critical section of a call, or one step of a task. -/
def next : Transition ClientStatusSystem ClientStatusAction := fun system action =>
  match action with
  | .session action task =>
      if !system.sessions.handedOut action ∨ system.tasks.contains task then none
      else
        (SessionSystem.next hash system.sessions action).map fun after =>
          system.enter after (if system.sessions.notifies action then some task else none)
  | .task task =>
      match system.tasks.get? task with
      | none => none
      | some stage => some (system.taskStep isProxy task stage)

/-- No list overtakes a later one and every list is for the service of its receiver: a list is
sent to a callback only when it was begun after those that the callback has received, and when
it was collected for the service of each provider that is registered with the callback. -/
def sendsInOrder (list : ClientList) : Bool :=
  ((system.sentTo list.callback).all fun earlier => earlier.number ≤ list.number) &&
    system.sessions.coordinator.providerSessions.keys.all fun provider =>
      (system.sessions.coordinator.providerObjects.get? provider).all fun object =>
        object.callback ≠ list.callback || object.serviceId = list.serviceId

/-- The condition on a step: a list that it sends is sent in order. -/
def inOrder : ClientStatusAction → Bool
  | .session _ _ => true
  | .task task =>
      match system.tasks.get? task with
      | some (.send list _) => system.sendsInOrder list
      | _ => true

/-- Everything has finished: no task is running and no creation is in flight. -/
def Quiet (system : ClientStatusSystem) : Prop :=
  system.tasks = .empty ∧
    ∀ id creation, system.sessions.creations.get? id = some creation → creation.code ≠ none

instance (system : ClientStatusSystem) : Decidable system.Quiet :=
  decidable_of_iff
    (system.tasks = .empty ∧
      ∀ entry ∈ system.sessions.creations.entries, entry.2.code ≠ none)
    (and_congr_right' ⟨fun all id creation found =>
      all (id, creation) (SortedMap.mem_entries_iff.mpr found), fun all entry mem =>
        all entry.1 entry.2 (SortedMap.mem_entries_iff.mp mem)⟩)

end ClientStatusSystem

end SecurityGuard
