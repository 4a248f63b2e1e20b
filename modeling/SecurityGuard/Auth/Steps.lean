import SecurityGuard.Auth.Machine

/-!
# What a step of the coordinator can do

`TaskStep` lists the cases of one step of a task and `Step` those of one step of the service,
with what the invariants need to know of each.  `Request.taskStep_cases` and
`AuthSystem.next_cases` unfold the transition functions once for all of them.  What becomes of
a session object in a step follows for every relation that its changes respect.
-/

namespace SecurityGuard

/-- The sessions may have changed as sessions do, and no route has. -/
structure AuthCoordinator.Keeps (before after : AuthCoordinator) : Prop where
  manager : before.manager.Extends after.manager
  seqnumShards : after.seqnumShards = before.seqnumShards

theorem AuthCoordinator.Keeps.refl (coordinator : AuthCoordinator) :
    coordinator.Keeps coordinator :=
  ⟨.refl _, rfl⟩

/-- The sessions that a task has still to handle. -/
def Stage.sessions : Stage → List Address
  | .dispatch todo => todo
  | .register session _ todo => session :: todo
  | _ => []

/-- The steps of a request before its task opens a context. -/
def Stage.Early : Stage → Prop
  | .requested | .lookup | .start => True
  | _ => False

/-- The cases of one step of a task. -/
inductive TaskStep (hash : String → Nat) (coordinator : AuthCoordinator) (id : RequestId)
    (request : Request) : AuthCoordinator → Request → Prop
  | early {after : AuthCoordinator} {stage : Stage} (keeps : coordinator.Keeps after)
      (early : request.stage.Early) (later : stage.Early ∨ stage = .finished) :
      TaskStep hash coordinator id request after (request.withStage stage)
  | opened (now : Int) (stage : request.stage = .start) :
      TaskStep hash coordinator id request coordinator (request.openContext now)
  | fallback (stage : request.stage = .start) :
      TaskStep hash coordinator id request coordinator
        (request.withStage (.notify { mergedAuthStrategy := .allow }))
  | subscribed (stage : request.stage = .subscribed) :
      TaskStep hash coordinator id request coordinator (request.withStage
        (.dispatch (coordinator.manager.getSubscribedSessions request.event.eventId)))
  | dispatched (stage : request.stage = .dispatch []) :
      TaskStep hash coordinator id request coordinator (request.withStage .push)
  | skipped {session : Address} {object : AuthEventSessionService} {todo : List Address}
      (stage : request.stage = .dispatch (session :: todo))
      (found : coordinator.manager.sessionObjects.get? session = some object)
      (invalid : object.valid = false) :
      TaskStep hash coordinator id request coordinator (request.withStage (.dispatch todo))
  | degraded {session : Address} {object : AuthEventSessionService} {todo : List Address}
      (stage : request.stage = .dispatch (session :: todo))
      (found : coordinator.manager.sessionObjects.get? session = some object)
      (degraded : request.event.degraded object.clientId = true) :
      TaskStep hash coordinator id request
        (request.notifyDegradedClient coordinator session object todo).1
        (request.notifyDegradedClient coordinator session object todo).2
  | chosen {session : Address} {object : AuthEventSessionService} {todo : List Address}
      (stage : request.stage = .dispatch (session :: todo))
      (found : coordinator.manager.sessionObjects.get? session = some object)
      (valid : object.valid = true)
      (normal : request.event.degraded object.clientId = false) :
      TaskStep hash coordinator id request coordinator
        (request.withStage (.register session .countSent todo))
  | registered {session : Address} {object : AuthEventSessionService}
      {phase : RegisterPhase} {todo : List Address}
      (stage : request.stage = .register session phase todo)
      (found : coordinator.manager.sessionObjects.get? session = some object) :
      TaskStep hash coordinator id request
        (request.registerNormalClient hash coordinator id session object todo phase).1
        (request.registerNormalClient hash coordinator id session object todo phase).2
  | pushed (stage : request.stage = .push) :
      TaskStep hash coordinator id request coordinator request.pushEventsToClients
  | noneSent (stage : request.stage = .check) (none : request.ctx.sentClientCount = 0) :
      TaskStep hash coordinator id request coordinator (request.withStage .noClient)
  | someSent (stage : request.stage = .check) :
      TaskStep hash coordinator id request coordinator (request.withStage .wait)
  | noClient (stage : request.stage = .noClient) :
      TaskStep hash coordinator id request coordinator
        { request with
          ctx := { request.ctx with mergedAuthStrategy := .allow }
          stage := .noClientResult }
  | noClientResult (stage : request.stage = .noClientResult) :
      TaskStep hash coordinator id request coordinator
        (request.withStage (.notify request.ctx.buildAuthResult))
  | timedOut (stage : request.stage = .wait) (pending : request.ctx.resultPromise = []) :
      TaskStep hash coordinator id request coordinator (request.withStage .handleTimeout)
  | promised (stage : request.stage = .wait) (set : request.ctx.resultPromise ≠ []) :
      TaskStep hash coordinator id request coordinator (request.withStage .build)
  | timeoutHandled (stage : request.stage = .handleTimeout) :
      TaskStep hash coordinator id request (coordinator.report request.ctx.handleTimeout.2)
        { request with
          ctx := request.ctx.handleTimeout.1
          timeoutHandled := true
          stage := .build }
  | built (stage : request.stage = .build) :
      TaskStep hash coordinator id request coordinator
        (request.withStage (.clean request.routes request.ctx.buildAuthResult))
  | cleaned {clientId : String} {seqnum : Int} {routes : List (String × Int)}
      {result : AuthResult}
      (stage : request.stage = .clean ((clientId, seqnum) :: routes) result) :
      TaskStep hash coordinator id request
        (coordinator.eraseRoute hash (makeSeqnumKey clientId seqnum))
        (request.withStage (.clean routes result))
  | cleanedAll {result : AuthResult} (stage : request.stage = .clean [] result) :
      TaskStep hash coordinator id request coordinator (request.withStage (.notify result))
  | notified {result : AuthResult} (stage : request.stage = .notify result) :
      TaskStep hash coordinator id request coordinator (request.notifyAuthResult result)
  | released {after : AuthCoordinator} (keeps : coordinator.Keeps after)
      (stage : request.stage = .release) :
      TaskStep hash coordinator id request after (request.withStage .finished)

theorem AuthCoordinator.Keeps.tryIncrement {coordinator counted : AuthCoordinator}
    {provider : Address} (taken : coordinator.tryIncrementActiveRequest provider = some counted) :
    coordinator.Keeps counted := by
  simp only [AuthCoordinator.tryIncrementActiveRequest] at taken
  split at taken
  · cases taken
  · split at taken
    · cases taken
      exact ⟨.refl _, rfl⟩
    · cases taken

theorem AuthCoordinator.Keeps.decrement (coordinator : AuthCoordinator) (provider : Address) :
    coordinator.Keeps (coordinator.decrementActiveRequest provider) :=
  ⟨.refl _, rfl⟩

/-- Every step of a task is one of the cases. -/
theorem Request.taskStep_cases {hash : String → Nat} {coordinator after : AuthCoordinator}
    {id : RequestId} {request later : Request} {now : Int}
    (taken : request.taskStep hash coordinator id now = some (after, later)) :
    TaskStep hash coordinator id request after later := by
  have early (stage : request.stage.Early) {next : Stage} {kept : AuthCoordinator}
      (same : (kept, request.withStage next) = (after, later)) (keeps : coordinator.Keeps kept)
      (step : next.Early ∨ next = .finished) :
      TaskStep hash coordinator id request after later := by
    obtain ⟨rfl, rfl⟩ := Prod.mk.inj same
    exact .early keeps stage step
  unfold taskStep at taken
  split at taken
  case h_1 stage =>
    have start : request.stage.Early := by simp [stage, Stage.Early]
    split at taken
    · exact early start (Option.some.inj taken) (.refl _) (.inr rfl)
    · next counted increment =>
        exact early start (Option.some.inj taken) (.tryIncrement increment) (.inl trivial)
  case h_2 stage =>
    have start : request.stage.Early := by simp [stage, Stage.Early]
    split at taken
    · exact early start (Option.some.inj taken) (.refl _) (.inl trivial)
    · exact early start (Option.some.inj taken) (.decrement _ _) (.inr rfl)
  case h_3 stage =>
    split at taken
    · cases taken
      exact .opened now stage
    · cases taken
      exact .fallback stage
  case h_4 stage =>
    cases taken
    exact .subscribed stage
  case h_5 stage =>
    cases taken
    exact .dispatched stage
  case h_6 session todo stage =>
    split at taken
    · cases taken
    · next object found =>
        split_ifs at taken with invalid degraded
        · cases taken
          exact .skipped stage found (by simpa using invalid)
        · cases taken
          exact .degraded stage found degraded
        · cases taken
          exact .chosen stage found (by simpa using invalid) (by simpa using degraded)
  case h_7 session phase todo stage =>
    split at taken
    · cases taken
    · next object found =>
        have same := Option.some.inj taken
        have first := congrArg Prod.fst same
        have second := congrArg Prod.snd same
        subst first second
        exact .registered stage found
  case h_8 stage =>
    cases taken
    exact .pushed stage
  case h_9 stage =>
    split at taken
    · next none =>
        cases taken
        exact .noneSent stage none
    · cases taken
      exact .someSent stage
  case h_10 stage =>
    cases taken
    exact .noClient stage
  case h_11 stage =>
    cases taken
    exact .noClientResult stage
  case h_12 stage =>
    split at taken
    · next pending =>
        cases taken
        exact .timedOut stage pending
    · next set =>
        cases taken
        exact .promised stage set
  case h_13 stage =>
    cases taken
    exact .timeoutHandled stage
  case h_14 stage =>
    cases taken
    exact .built stage
  case h_15 result stage =>
    cases taken
    exact .cleanedAll stage
  case h_16 clientId seqnum routes result stage =>
    cases taken
    exact .cleaned stage
  case h_17 result stage =>
    cases taken
    exact .notified stage
  case h_18 stage =>
    cases taken
    exact .released (.decrement _ _) stage
  case h_19 stage => cases taken

/-! ## Steps of the service -/

/-- The cases of one step of the service. -/
inductive Step (hash : String → Nat) (before : AuthSystem) : AuthAction → AuthSystem → Prop
  | environment {action : AuthAction} {after : AuthSystem}
      (keeps : before.coordinator.Keeps after.coordinator)
      (requests : after.requests = before.requests)
      (answers : ∀ answerId answer, after.answers.get? answerId = some answer →
        before.answers.get? answerId = some answer ∨ ∀ id, answer.stage ≠ .record id) :
      Step hash before action after
  | requested {action : AuthAction} {provider : Address} {event : AuthEventInfo}
      {resultCallback : Option Address} {id : RequestId}
      (fresh : before.requests.get? id = none) :
      Step hash before action
        { before with
          requests := before.requests.insert id { provider, event, resultCallback } }
  | task {id : RequestId} {now : Int} {request later : Request} {coordinator : AuthCoordinator}
      (found : before.requests.get? id = some request)
      (taken : TaskStep hash before.coordinator id request coordinator later) :
      Step hash before (.task id now)
        { before with coordinator, requests := before.requests.insert id later }
  | routed {answerId : AnswerId} {answer : Answer} {id : RequestId}
      (found : before.answers.get? answerId = some answer)
      (route : before.coordinator.findRoutingContext hash answer.clientId answer.event.seqnum =
        some id) :
      Step hash before (.answer answerId)
        { before with
          answers := before.answers.insert answerId { answer with stage := .record id } }
  | recorded {answerId : AnswerId} {answer : Answer} {id : RequestId} {request : Request}
      {reports : List AuthBlockReport}
      (found : before.answers.get? answerId = some answer)
      (stage : answer.stage = .record id)
      (target : before.requests.get? id = some request) :
      Step hash before (.answer answerId)
        { coordinator := before.coordinator.report reports
          requests := before.requests.insert id
            { request with
              ctx := request.ctx.recordClientResult answer.clientId answer.strategy }
          answers := before.answers.erase answerId }

namespace AuthSystem

variable {hash : String → Nat} {before after : AuthSystem} {action : AuthAction}

theorem step_withManager {manager : AuthEventSubscribeManager}
    (grows : before.coordinator.manager.Extends manager) :
    Step hash before action (before.withManager manager) :=
  .environment ⟨grows, rfl⟩ rfl fun _ _ found => .inl found

theorem step_unchanged : Step hash before action before :=
  .environment (.refl _) rfl fun _ _ found => .inl found

theorem step_coordinator {coordinator : AuthCoordinator}
    (manager : coordinator.manager = before.coordinator.manager)
    (seqnumShards : coordinator.seqnumShards = before.coordinator.seqnumShards) :
    Step hash before action { before with coordinator } :=
  .environment ⟨manager ▸ .refl _, seqnumShards⟩ rfl fun _ _ found => .inl found

theorem step_answers {answerId : AnswerId} {answer : Answer}
    {manager : AuthEventSubscribeManager}
    (grows : before.coordinator.manager.Extends manager)
    (stage : ∀ id, answer.stage ≠ .record id) :
    Step hash before action
      { before.withManager manager with answers := before.answers.insert answerId answer } := by
  refine .environment ⟨grows, rfl⟩ rfl ?_
  intro other entry found
  rcases SortedMap.get?_insert_eq_some.mp found with ⟨-, rfl⟩ | ⟨-, found⟩
  · exact .inr stage
  · exact .inl found

theorem step_dropped {answerId : AnswerId} :
    Step hash before action { before with answers := before.answers.erase answerId } := by
  refine .environment (.refl _) rfl ?_
  intro other entry found
  exact .inl (SortedMap.get?_erase_eq_some.mp found).2

theorem createAuthProvider_manager (coordinator : AuthCoordinator) (caller : Caller)
    (callback : Option Address) (serviceId : String) (address : Address) :
    (coordinator.createAuthProvider caller callback serviceId address).2.manager =
        coordinator.manager ∧
      (coordinator.createAuthProvider caller callback serviceId address).2.seqnumShards =
        coordinator.seqnumShards := by
  simp only [AuthCoordinator.createAuthProvider]
  split
  · exact ⟨rfl, rfl⟩
  · split_ifs <;> exact ⟨rfl, rfl⟩

theorem answerStep_cases {answerId : AnswerId} {answer : Answer}
    (found : before.answers.get? answerId = some answer)
    (taken : before.answerStep hash answerId answer = some after) :
    Step hash before (.answer answerId) after := by
  simp only [answerStep] at taken
  split at taken
  · split at taken
    · cases taken
      exact step_answers (AuthEventSubscribeManager.setAuthResult_extends _ _ _ _)
        fun _ => AnswerStage.noConfusion
    · cases taken
      exact step_dropped
  · split at taken
    · cases taken
      exact step_dropped
    · next id route =>
        cases taken
        exact .routed found route
  · next id stage =>
      split at taken
      · cases taken
      · next request target =>
          cases taken
          exact .recorded found stage target

/-- Every step of the service is one of the cases. -/
theorem next_cases (taken : next hash before action = some after) :
    Step hash before action after := by
  cases action with
  | creatAuthEventClient caller timeoutAllowFlag callback address time =>
      simp only [next] at taken
      split_ifs at taken with used refused
      · cases taken
        exact step_unchanged
      · cases taken
        have fresh : before.coordinator.manager.sessionObjects.get? address = none := by
          simpa [SortedMap.contains] using used
        exact step_withManager (AuthEventSubscribeManager.creatAuthEventClient_extends fresh)
  | subscribe caller session eventId serviceId =>
      simp only [next] at taken
      split at taken
      · split at taken
        · cases taken
          exact step_withManager (AuthEventSubscribeManager.subscribeAuthEvent_extends _ _ _ _)
        · cases taken
          exact step_unchanged
      · cases taken
        exact step_unchanged
  | unsubscribe caller session eventId =>
      simp only [next] at taken
      split at taken
      · split at taken
        · cases taken
          exact step_withManager (AuthEventSubscribeManager.unsubscribeAuthEvent_extends _ _ _)
        · cases taken
          exact step_unchanged
      · cases taken
        exact step_unchanged
  | destroyClient caller session =>
      simp only [next] at taken
      split at taken
      · split at taken
        · cases taken
          exact step_withManager (AuthEventSubscribeManager.removeSessionLocked_extends _ _)
        · cases taken
          exact step_unchanged
      · cases taken
        exact step_unchanged
  | removeSession session =>
      cases taken
      exact step_withManager (AuthEventSubscribeManager.removeSessionLocked_extends _ _)
  | createAuthProvider caller callback serviceId address =>
      simp only [next] at taken
      split_ifs at taken with used refused
      · cases taken
        exact step_unchanged
      · cases taken
        obtain ⟨manager, shards⟩ := createAuthProvider_manager before.coordinator caller callback
          serviceId address
        exact step_coordinator manager shards
  | destroyAuthProvider caller provider =>
      simp only [next] at taken
      split at taken
      · split at taken
        · cases taken
          refine step_coordinator ?_ ?_ <;>
            simp only [AuthCoordinator.destroyAuthProvider] <;> split <;> rfl
        · cases taken
          exact step_unchanged
      · cases taken
        exact step_unchanged
  | removeProvider provider =>
      cases taken
      exact step_coordinator rfl rfl
  | requestAuthResult caller provider event resultCallback request =>
      simp only [next] at taken
      split at taken
      · cases taken
      · next fresh =>
          have unused : before.requests.get? request = none := by
            simpa [SortedMap.contains] using fresh
          split at taken
          · split at taken
            · cases taken
              exact .requested unused
            · cases taken
              exact step_unchanged
          · cases taken
            exact step_unchanged
  | task id now =>
      simp only [next] at taken
      split at taken
      · cases taken
      · next request found =>
          split at taken
          · cases taken
          · next coordinator later step =>
              cases taken
              exact .task found (Request.taskStep_cases step)
  | setAuthResult caller session event allowFlag configured answerId =>
      simp only [next] at taken
      split at taken
      · cases taken
      · split at taken
        · split at taken
          · cases taken
            exact step_answers (.refl _) fun _ => AnswerStage.noConfusion
          · cases taken
            exact step_unchanged
        · cases taken
          exact step_unchanged
  | answer answerId =>
      simp only [next] at taken
      split at taken
      · cases taken
      · next answer found => exact answerStep_cases found taken

theorem next_task {id : RequestId} {now : Int}
    (taken : next hash before (.task id now) = some after) :
    ∃ request coordinator later, before.requests.get? id = some request ∧
      request.taskStep hash before.coordinator id now = some (coordinator, later) ∧
        { before with coordinator, requests := before.requests.insert id later } = after := by
  simp only [next] at taken
  split at taken
  · cases taken
  · next request found =>
      split at taken
      · cases taken
      · next coordinator later step =>
          exact ⟨request, coordinator, later, found, step, Option.some.inj taken⟩

end AuthSystem

open AuthEventSubscribeManager

/-- The critical sections of the client sessions that one step of the service consists of. -/
inductive ManagerStep (hash : String → Nat) (before : AuthEventSubscribeManager) :
    AuthAction → AuthEventSubscribeManager → Prop
  | unchanged {action : AuthAction} : ManagerStep hash before action before
  | created {caller : Caller} {timeoutAllowFlag : Int} {callback : Option Address}
      {address : Address} {time : Nat} (params : CreateClientParams)
      (fresh : before.sessionObjects.get? address = none) :
      ManagerStep hash before
        (.creatAuthEventClient caller timeoutAllowFlag callback address time)
        (before.creatAuthEventClient hash params address time).2
  | subscribed {caller : Caller} {session : Address} {eventId : Int} {serviceId : String}
      (named : serviceId ≠ "") :
      ManagerStep hash before (.subscribe caller session eventId (some serviceId))
        (before.subscribeAuthEvent session eventId serviceId).2
  | unsubscribed {caller : Caller} {session : Address} {eventId : Int} :
      ManagerStep hash before (.unsubscribe caller session eventId)
        (before.unsubscribeAuthEvent session eventId).2
  | removed {action : AuthAction} (session : Address) :
      ManagerStep hash before action (before.removeSessionLocked session)
  | generated {id : RequestId} {now : Int} (session : Address) :
      ManagerStep hash before (.task id now) (before.generateSeqnum session)
  | stored {answerId : AnswerId} (session : Address) (event : AuthEvent)
      (strategy : AuthStrategy) :
      ManagerStep hash before (.answer answerId) (before.setAuthResult session event strategy).2

section ManagerStep

variable {hash : String → Nat}

/-- A task changes the sessions only by generating numbers. -/
theorem Request.taskStep_manager {coordinator after : AuthCoordinator} {id : RequestId}
    {request later : Request} {now : Int}
    (taken : request.taskStep hash coordinator id now = some (after, later)) :
    after.manager = coordinator.manager ∨
      ∃ session, after.manager = coordinator.manager.generateSeqnum session := by
  unfold taskStep at taken
  split at taken
  case h_1 =>
    split at taken
    · cases taken
      exact .inl rfl
    · next counted increment =>
        cases taken
        simp only [AuthCoordinator.tryIncrementActiveRequest] at increment
        split at increment
        · cases increment
        · split at increment
          · cases increment
            exact .inl rfl
          · cases increment
  case h_6 session todo _ =>
    split at taken
    · cases taken
    · split_ifs at taken
      · cases taken
        exact .inl rfl
      · cases taken
        exact .inr ⟨session, rfl⟩
      · cases taken
        exact .inl rfl
  case h_7 session phase todo _ =>
    split at taken
    · cases taken
    · cases phase with
      | generate =>
          cases taken
          exact .inr ⟨session, rfl⟩
      | countSent | countDeny | record | context | route =>
          cases taken
          exact .inl rfl
  case h_19 => cases taken
  all_goals
    try split at taken
    all_goals
      cases taken
      exact .inl rfl

namespace AuthSystem

variable {before after : AuthSystem} {action : AuthAction}

theorem answerStep_manager {answerId : AnswerId} {answer : Answer}
    (taken : before.answerStep hash answerId answer = some after) :
    after.coordinator.manager = before.coordinator.manager ∨
      after.coordinator.manager = (before.coordinator.manager.setAuthResult answer.session
        answer.event answer.strategy).2 := by
  simp only [answerStep] at taken
  split at taken
  · split at taken
    · cases taken
      exact .inr rfl
    · cases taken
      exact .inl rfl
  · split at taken
    all_goals
      cases taken
      exact .inl rfl
  · split at taken
    · cases taken
    · cases taken
      exact .inl rfl

/-- Every step of the service does one thing to the client sessions. -/
theorem next_manager (taken : next hash before action = some after) :
    ManagerStep hash before.coordinator.manager action after.coordinator.manager := by
  cases action with
  | creatAuthEventClient caller timeoutAllowFlag callback address time =>
      simp only [next] at taken
      split_ifs at taken with used refused
      · cases taken
        exact .unchanged
      · cases taken
        have fresh : before.coordinator.manager.sessionObjects.get? address = none := by
          simpa [SortedMap.contains] using used
        exact .created _ fresh
  | subscribe caller session eventId serviceId =>
      simp only [next] at taken
      split at taken
      · split at taken
        · next named =>
            cases taken
            rw [Bool.and_eq_true] at named
            exact .subscribed (of_decide_eq_true named.2)
        · cases taken
          exact .unchanged
      · cases taken
        exact .unchanged
  | unsubscribe caller session eventId =>
      simp only [next] at taken
      split at taken
      · split at taken
        · cases taken
          exact .unsubscribed
        · cases taken
          exact .unchanged
      · cases taken
        exact .unchanged
  | destroyClient caller session =>
      simp only [next] at taken
      split at taken
      · split at taken
        · cases taken
          exact .removed session
        · cases taken
          exact .unchanged
      · cases taken
        exact .unchanged
  | removeSession session =>
      cases taken
      exact .removed session
  | createAuthProvider caller callback serviceId address =>
      simp only [next] at taken
      split_ifs at taken with used refused
      · cases taken
        exact .unchanged
      · cases taken
        rw [(createAuthProvider_manager before.coordinator caller callback serviceId address).1]
        exact .unchanged
  | destroyAuthProvider caller provider =>
      simp only [next] at taken
      split at taken
      · split at taken
        · cases taken
          simp only [AuthCoordinator.destroyAuthProvider]
          split <;> exact .unchanged
        · cases taken
          exact .unchanged
      · cases taken
        exact .unchanged
  | removeProvider provider =>
      cases taken
      exact .unchanged
  | requestAuthResult caller provider event resultCallback request =>
      simp only [next] at taken
      split at taken
      · cases taken
      · split at taken
        · split at taken
          all_goals
            cases taken
            exact .unchanged
        · cases taken
          exact .unchanged
  | task id now =>
      simp only [next] at taken
      split at taken
      · cases taken
      · split at taken
        · cases taken
        · next step =>
            cases taken
            rcases Request.taskStep_manager step with same | ⟨session, generated⟩
            · rw [same]
              exact .unchanged
            · rw [generated]
              exact .generated session
  | setAuthResult caller session event allowFlag configured answerId =>
      simp only [next] at taken
      split at taken
      · cases taken
      · split at taken
        · split at taken
          all_goals
            cases taken
            exact .unchanged
        · cases taken
          exact .unchanged
  | answer answerId =>
      simp only [next] at taken
      split at taken
      · cases taken
      · rcases answerStep_manager taken with same | stored
        · rw [same]
          exact .unchanged
        · rw [stored]
          exact .stored _ _ _

end AuthSystem

end ManagerStep

section Versions

variable {version : AuthEventSessionService → AuthEventSessionService → Prop}
  {hash : String → Nat}

namespace AuthSystem

variable {before after : AuthSystem} {action : AuthAction}

/-- Every step of the service turns session objects into later versions. -/
theorem next_carries (versions : Versions version) (taken : next hash before action = some after) :
    before.coordinator.manager.Carries version after.coordinator.manager := by
  have step := next_manager taken
  generalize after.coordinator.manager = manager at step ⊢
  cases step with
  | unchanged => exact versions.carries_refl _
  | created params fresh => exact versions.creatAuthEventClient fresh
  | subscribed named => exact versions.subscribeAuthEvent _ _ _ _
  | unsubscribed => exact versions.unsubscribeAuthEvent _ _ _
  | removed session => exact versions.removeSessionLocked _ _
  | generated session => exact versions.generateSeqnum _ _
  | stored session event strategy => exact versions.setAuthResult _ _ _ _

end AuthSystem

end Versions

end SecurityGuard
