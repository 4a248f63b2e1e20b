import SecurityGuard.Auth.Coordinator

/-!
# Steps of the coordinator

`taskStep` is one step of the task of a request, `answerStep` one critical section of a call
with which a client answers, and `next` one step of the whole service.  An interleaving is a
list of actions.  `TaskStep` names the cases of a task's step once, for all invariants.
-/

namespace SecurityGuard

namespace Request

variable (hash : String → Nat) (coordinator : AuthCoordinator) (id : RequestId)
  (request : Request)

/-- Push the event to a degraded client, which is neither counted nor routed. -/
def notifyDegradedClient (session : Address) (object : AuthEventSessionService)
    (todo : List Address) : AuthCoordinator × Request :=
  (coordinator.withManager (coordinator.manager.generateSeqnum session),
    { request with
      pushed := request.pushed ++
        [(object.callback, request.eventFor (object.seqnumCounter + 1))]
      stage := .dispatch todo })

/-- One statement of `RegisterNormalClient`. -/
def registerNormalClient (session : Address) (object : AuthEventSessionService)
    (todo : List Address) : RegisterPhase → AuthCoordinator × Request
  | .countSent =>
      (coordinator,
        { request with
          ctx := { request.ctx with sentClientCount := request.ctx.sentClientCount + 1 }
          stage := .register session .countDeny todo })
  | .countDeny =>
      let denies := if object.defaultTimeoutStrategy = .deny then 1 else 0
      (coordinator,
        { request with
          ctx := { request.ctx with defaultDenyCount := request.ctx.defaultDenyCount + denies }
          stage := .register session .generate todo })
  | .generate =>
      (coordinator.withManager (coordinator.manager.generateSeqnum session),
        request.withStage (.register session (.record (object.seqnumCounter + 1)) todo))
  | .record seqnum =>
      let info : ClientAppInfo := { pid := object.pid, uid := object.uid, seqnum }
      (coordinator,
        { request with
          ctx :=
            { request.ctx with
              clientAppInfos := request.ctx.clientAppInfos.insert object.clientId info }
          seqnums := request.seqnums ++ [seqnum]
          clientIds := request.clientIds ++ [object.clientId]
          stage := .register session (.context seqnum) todo })
  | .context seqnum =>
      (coordinator,
        { request with
          ctx := request.ctx.registerClient object.clientId object.defaultTimeoutStrategy
          stage := .register session (.route seqnum) todo })
  | .route seqnum =>
      -- The route is entered after the client is in the context, and the event is pushed after
      -- both.
      (coordinator.insertRoute hash (makeSeqnumKey object.clientId seqnum) id,
        { request with
          targets := request.targets ++ [(object.callback, object.defaultTimeoutStrategy)]
          stage := .dispatch todo })

/-- Push the event to every registered client. -/
def pushEventsToClients : Request :=
  { request with
    pushed := request.pushed ++ (request.targets.zip request.seqnums).map fun target =>
      (target.1.1, request.eventFor target.2)
    stage := .check }

/-- Notify the provider of a result. -/
def notifyAuthResult (result : AuthResult) : Request :=
  { request with
    notified := request.notified ++ [result]
    answered :=
      match request.resultCallback with
      | none => request.answered
      | some callback => request.answered ++ [(callback, result)]
    stage := .release }

/-- The context with which a task starts. -/
def openContext (now : Int) : Request :=
  { request with
    ctx :=
      { eventId := request.event.eventId
        beginTime := now
        eventContent := request.event.content }
    stage := .subscribed }

/-- One step of a request.  A task that moves on at `wait` while no result is promised has waited
until the timeout. -/
def taskStep (now : Int) : Option (AuthCoordinator × Request) :=
  match request.stage with
  | .requested =>
      match coordinator.tryIncrementActiveRequest request.provider with
      | none => some (coordinator, request.withStage .finished)
      | some counted => some (counted, request.withStage .lookup)
  | .lookup =>
      if coordinator.providerSessions.contains request.provider then
        some (coordinator, request.withStage .start)
      else
        some (coordinator.decrementActiveRequest request.provider, request.withStage .finished)
  | .start =>
      -- Without a valid provider no client is asked, and the result is ALLOW.
      if coordinator.providerValid request.provider then
        some (coordinator, request.openContext now)
      else some (coordinator, request.withStage (.notify { mergedAuthStrategy := .allow }))
  | .subscribed =>
      let sessions := coordinator.manager.getSubscribedSessions request.event.eventId
      some (coordinator, request.withStage (.dispatch sessions))
  | .dispatch [] => some (coordinator, request.withStage .push)
  | .dispatch (session :: todo) =>
      match coordinator.manager.sessionObjects.get? session with
      | none => none
      | some object =>
          -- The list of sessions was taken before, so that a session may have been removed by now.
          if !object.valid then some (coordinator, request.withStage (.dispatch todo))
          else if request.event.degraded object.clientId then
            some (request.notifyDegradedClient coordinator session object todo)
          else some (coordinator, request.withStage (.register session .countSent todo))
  | .register session phase todo =>
      match coordinator.manager.sessionObjects.get? session with
      | none => none
      | some object =>
          some (request.registerNormalClient hash coordinator id session object todo phase)
  | .push => some (coordinator, request.pushEventsToClients)
  | .check =>
      -- The count is of the answers still to come, so that it is zero also after an early ALLOW.
      if request.ctx.sentClientCount = 0 then some (coordinator, request.withStage .noClient)
      else some (coordinator, request.withStage .wait)
  | .noClient =>
      some (coordinator,
        { request with
          ctx := { request.ctx with mergedAuthStrategy := .allow }
          stage := .noClientResult })
  | .noClientResult =>
      some (coordinator, request.withStage (.notify request.ctx.buildAuthResult))
  | .wait =>
      -- The end of the wait is a step that can come at any time; with a promise set it is no
      -- timeout.
      if request.ctx.resultPromise = [] then
        some (coordinator, request.withStage .handleTimeout)
      else some (coordinator, request.withStage .build)
  | .handleTimeout =>
      some (coordinator.report request.ctx.handleTimeout.2,
        { request with
          ctx := request.ctx.handleTimeout.1
          timeoutHandled := true
          stage := .build })
  | .build =>
      some (coordinator,
        request.withStage (.clean request.routes request.ctx.buildAuthResult))
  | .clean [] result => some (coordinator, request.withStage (.notify result))
  | .clean ((clientId, seqnum) :: routes) result =>
      some (coordinator.eraseRoute hash (makeSeqnumKey clientId seqnum),
        request.withStage (.clean routes result))
  | .notify result => some (coordinator, request.notifyAuthResult result)
  | .release =>
      some (coordinator.decrementActiveRequest request.provider, request.withStage .finished)
  | .finished => none

end Request

/-- The coordinator, the requests and the answers in flight. -/
structure AuthSystem where
  coordinator : AuthCoordinator := {}
  requests : SortedMap RequestId Request := .empty
  answers : SortedMap AnswerId Answer := .empty

/-- One step of the service, with the arguments that decide it. -/
inductive AuthAction where
  | creatAuthEventClient (caller : Caller) (timeoutAllowFlag : Int) (callback : Option Address)
      (address : Address) (time : Nat)
  | subscribe (caller : Caller) (session : Address) (eventId : Int) (serviceId : Option String)
  | unsubscribe (caller : Caller) (session : Address) (eventId : Int)
  | destroyClient (caller : Caller) (session : Address)
  | removeSession (session : Address)
  | createAuthProvider (caller : Caller) (callback : Option Address) (serviceId : String)
      (address : Address)
  | destroyAuthProvider (caller : Caller) (provider : Address)
  | removeProvider (provider : Address)
  | requestAuthResult (caller : Caller) (provider : Address) (event : AuthEventInfo)
      (resultCallback : Option Address) (request : RequestId)
  | task (request : RequestId) (now : Int)
  | setAuthResult (caller : Caller) (session : Address) (event : AuthEvent) (allowFlag : Bool)
      (configured : Bool) (answer : AnswerId)
  | answer (answer : AnswerId)
  deriving DecidableEq, Repr

/-- The request whose task takes the step. -/
def AuthAction.task? : AuthAction → Option RequestId
  | .task request _ => some request
  | _ => none

/-- The call that takes the step. -/
def AuthAction.answer? : AuthAction → Option AnswerId
  | .answer answerId => some answerId
  | _ => none

namespace AuthSystem

variable (hash : String → Nat) (system : AuthSystem)

def withManager (manager : AuthEventSubscribeManager) : AuthSystem :=
  { system with coordinator := system.coordinator.withManager manager }

/-- The object of a session. -/
def sessionObject? (session : Address) : Option AuthEventSessionService :=
  system.coordinator.manager.sessionObjects.get? session

/-- The checks that the calls on a session object share. -/
def sessionCaller (caller : Caller) (object : AuthEventSessionService) : Bool :=
  isCallerAllowed caller = .success && object.valid && caller.pid = object.pid

/-- One critical section of a call that answers an event. -/
def answerStep (answerId : AnswerId) (answer : Answer) : Option AuthSystem :=
  match answer.stage with
  | .store =>
      let stored := system.coordinator.manager.setAuthResult answer.session answer.event
        answer.strategy
      -- The result is kept under the event id alone, whichever request it answers.
      if stored.1 = .success then
        some
          { system.withManager stored.2 with
            answers := system.answers.insert answerId { answer with stage := .find } }
      else some { system with answers := system.answers.erase answerId }
  | .find =>
      match system.coordinator.findRoutingContext hash answer.clientId answer.event.seqnum with
      | none => some { system with answers := system.answers.erase answerId }
      | some request =>
          some
            { system with
              answers := system.answers.insert answerId { answer with stage := .record request } }
  | .record requestId =>
      match system.requests.get? requestId with
      | none => none
      | some request =>
          let ctx := request.ctx.recordClientResult answer.clientId answer.strategy
          -- The denial is reported also when the answer was not recorded.
          let reports :=
            if answer.strategy = .deny then ctx.reportDenyResult answer.clientId else []
          some
            { coordinator := system.coordinator.report reports
              requests := system.requests.insert requestId { request with ctx }
              answers := system.answers.erase answerId }

/-- One step of the service.  A refused call leaves the state as it is. -/
def next : Transition AuthSystem AuthAction := fun system action =>
  let manager := system.coordinator.manager
  match action with
  | .creatAuthEventClient caller timeoutAllowFlag callback address time =>
      -- An address is used for one object in a run.
      if manager.sessionObjects.contains address then none
      else if isCallerAllowed caller ≠ .success then some system
      else
        let params : CreateClientParams :=
          { callerPid := caller.pid
            callerUid := caller.uid
            timeoutAllowFlag
            defaultTimeoutMs := authResultTimeoutMs
            callback }
        some (system.withManager (manager.creatAuthEventClient hash params address time).2)
  | .subscribe caller session eventId serviceId =>
      match system.sessionObject? session, serviceId with
      | some object, some serviceId =>
          if sessionCaller caller object && serviceId ≠ "" then
            some (system.withManager (manager.subscribeAuthEvent session eventId serviceId).2)
          else some system
      | _, _ => some system
  | .unsubscribe caller session eventId =>
      match system.sessionObject? session with
      | some object =>
          if sessionCaller caller object then
            some (system.withManager (manager.unsubscribeAuthEvent session eventId).2)
          else some system
      | none => some system
  | .destroyClient caller session =>
      match system.sessionObject? session with
      | some object =>
          if isCallerAllowed caller = .success ∧ caller.pid = object.pid then
            some (system.withManager (manager.removeSessionLocked session))
          else some system
      | none => some system
  | .removeSession session => some (system.withManager (manager.removeSessionLocked session))
  | .createAuthProvider caller callback serviceId address =>
      if system.coordinator.providerObjects.contains address then none
      else if isProviderAllowed caller ≠ .success then some system
      else
        let created :=
          system.coordinator.createAuthProvider caller callback serviceId address
        some { system with coordinator := created.2 }
  | .destroyAuthProvider caller provider =>
      match system.coordinator.providerObjects.get? provider with
      | some object =>
          if isProviderAllowed caller = .success ∧ caller.pid = object.pid then
            some { system with coordinator := system.coordinator.destroyAuthProvider provider }
          else some system
      | none => some system
  | .removeProvider provider =>
      some { system with coordinator := system.coordinator.removeProvider provider }
  | .requestAuthResult caller provider event resultCallback request =>
      if system.requests.contains request then none
      else
        match system.coordinator.providerObjects.get? provider with
        | some object =>
            if isProviderAllowed caller = .success ∧ object.valid ∧ caller.pid = object.pid then
              some
                { system with
                  requests := system.requests.insert request { provider, event, resultCallback } }
            else some system
        | none => some system
  | .task requestId now =>
      match system.requests.get? requestId with
      | none => none
      | some request =>
          match request.taskStep hash system.coordinator requestId now with
          | none => none
          | some (coordinator, request) =>
              some
                { system with
                  coordinator
                  requests := system.requests.insert requestId request }
  | .setAuthResult caller session event allowFlag configured answerId =>
      if system.answers.contains answerId then none
      else
        match system.sessionObject? session with
        | some object =>
            if sessionCaller caller object && configured then
              let answer : Answer :=
                { session, clientId := object.clientId, event, allowFlag }
              some { system with answers := system.answers.insert answerId answer }
            else some system
        | none => some system
  | .answer answerId =>
      match system.answers.get? answerId with
      | none => none
      | some answer => system.answerStep hash answerId answer

/-! ## A request with two clients

Short runs below start here: two clients subscribe event 5 and a provider asks for a decision.
-/

/-- A client that may subscribe events. -/
def clientCaller : Caller :=
  { pid := 10
    uid := 20010010
    tokenType := .hap
    permissions := [authAuditEventPermission]
    isSystemApp := false }

/-- A process that may be a provider. -/
def providerCaller : Caller :=
  { pid := 20, uid := 1000, tokenType := .native, permissions := [], isSystemApp := true }

/-- Create a client session and subscribe it to event 5. -/
def joinClient (session time : Nat) (timeoutAllowFlag : Int) : List AuthAction :=
  [.creatAuthEventClient clientCaller timeoutAllowFlag (some (100 + session)) session time,
    .subscribe clientCaller session 5 (some "service")]

/-- Create a provider that asks for a decision on event 5. -/
def askDecision : List AuthAction :=
  [.createAuthProvider providerCaller (some 200) "service" 50,
    .requestAuthResult providerCaller 50 { eventId := 5 } (some 300) 0]

/-- Let the task of the request take some steps. -/
def taskSteps (count : Nat) : List AuthAction := List.replicate count (.task 0 0)

/-- A client answers with its number and the call runs to its end. -/
def vote (session : Address) (seqnum : Int) (allowFlag : Bool) : List AuthAction :=
  [.setAuthResult clientCaller session { eventId := 5, seqnum } allowFlag true 0,
    .answer 0, .answer 0, .answer 0]

end AuthSystem

end SecurityGuard
