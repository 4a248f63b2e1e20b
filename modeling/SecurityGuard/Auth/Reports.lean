import SecurityGuard.Auth.Promises
import SecurityGuard.Auth.Vote

/-!
# Block reports

A denial is reported after it was recorded, and a client that did not answer is reported by the
timeout.  Recording skips a request that is completed, reporting does not.  The history of a run
therefore has one report for a client, with the decision that was taken, exactly as long as no
denial comes to a completed request.
-/

namespace SecurityGuard

/-- An answer that `RecordClientResult` enters among the results, or a call of
`ReportAuthBlockResult` for a client. -/
inductive BlockEvent where
  | recorded (request : RequestId) (clientId : String) (strategy : AuthStrategy)
  | reported (request : RequestId) (clientId : String) (report : AuthBlockReport)
  deriving DecidableEq

namespace BlockEvent

/-- The report of an event, if it is one. -/
def report? : BlockEvent → Option AuthBlockReport
  | recorded _ _ _ => none
  | reported _ _ report => some report

/-- The client that is reported, with its request. -/
def client? : BlockEvent → Option (RequestId × String)
  | recorded _ _ _ => none
  | reported request clientId _ => some (request, clientId)

end BlockEvent

/-- A client is reported with DENY after its denial was recorded, and with TIMEOUT only if it has
no recorded answer. -/
def BlockRule (earlier : List BlockEvent) : BlockEvent → Prop
  | .recorded _ _ _ => True
  | .reported request clientId report =>
      (report.authResult = "DENY" → .recorded request clientId .deny ∈ earlier) ∧
        (report.authResult = "TIMEOUT" →
          ∀ strategy, .recorded request clientId strategy ∉ earlier)

namespace RoutingContext

/-- The clients that the timeout answers for. -/
def unanswered (ctx : RoutingContext) : List String :=
  ctx.clientTimeoutStrategies.keys.filter fun clientId => !ctx.clientResults.contains clientId

/-- The reports on some clients. -/
def blockEvents (ctx : RoutingContext) (id : RequestId) (authResult : String)
    (clientIds : List String) : List BlockEvent :=
  clientIds.flatMap fun clientId =>
    (ctx.blockReport clientId authResult).map (.reported id clientId)

variable (ctx : RoutingContext)

theorem handleTimeoutClient_blockReport (clientId : String) (strategy : AuthStrategy)
    (other authResult : String) :
    (ctx.handleTimeoutClient clientId strategy).blockReport other authResult =
      ctx.blockReport other authResult := by
  simp only [blockReport, handleTimeoutClient, setClientPromise]
  split_ifs <;> rfl

theorem handleTimeoutClients_reports {entries : List (String × AuthStrategy)}
    (nodup : (entries.map Prod.fst).Nodup) :
    (handleTimeoutClients entries ctx).2 =
      ((entries.map Prod.fst).filter fun clientId =>
        !ctx.clientResults.contains clientId).flatMap ctx.notifyTimeoutResult := by
  induction entries generalizing ctx with
  | nil => rfl
  | cons entry rest ih =>
      obtain ⟨clientId, strategy⟩ := entry
      rw [List.map_cons, List.nodup_cons] at nodup
      obtain ⟨new, nodup⟩ := nodup
      rw [handleTimeoutClients]
      split_ifs with answered
      · rw [ih ctx nodup, List.map_cons, List.filter_cons_of_neg (by simp [answered])]
      · have others : ((rest.map Prod.fst).filter fun other =>
              !(ctx.handleTimeoutClient clientId strategy).clientResults.contains other) =
            (rest.map Prod.fst).filter fun other => !ctx.clientResults.contains other := by
          refine List.filter_congr fun other mem => ?_
          have differs : other ≠ clientId := fun same => new (same ▸ mem)
          rw [handleTimeoutClient_clientResults, SortedMap.contains_insert]
          simp [differs]
        have same : (ctx.handleTimeoutClient clientId strategy).notifyTimeoutResult =
            ctx.notifyTimeoutResult := by
          funext other
          exact ctx.handleTimeoutClient_blockReport clientId strategy other "TIMEOUT"
        dsimp only
        rw [List.map_cons, List.filter_cons_of_pos (by simpa using answered),
          List.flatMap_cons, ih _ nodup, others, same]

theorem handleTimeout_reports :
    ctx.handleTimeout.2 = ctx.unanswered.flatMap ctx.notifyTimeoutResult :=
  ctx.handleTimeoutClients_reports ctx.clientTimeoutStrategies.keys_nodup

theorem report?_blockEvents (id : RequestId) (authResult : String) (clientIds : List String) :
    (ctx.blockEvents id authResult clientIds).filterMap BlockEvent.report? =
      clientIds.flatMap fun clientId => ctx.blockReport clientId authResult := by
  induction clientIds with
  | nil => rfl
  | cons clientId clientIds ih =>
      rw [blockEvents, List.flatMap_cons, List.filterMap_append, List.flatMap_cons,
        ← ih, blockEvents, List.filterMap_map]
      congr 1
      exact List.filterMap_some

theorem client?_blockEvents (id : RequestId) (authResult : String) (clientIds : List String) :
    ((ctx.blockEvents id authResult clientIds).filterMap BlockEvent.client?).Sublist
      (clientIds.map (id, ·)) := by
  induction clientIds with
  | nil => exact .slnil
  | cons clientId clientIds ih =>
      rw [blockEvents] at ih ⊢
      rw [List.flatMap_cons, List.filterMap_append, List.map_cons]
      cases info : ctx.clientAppInfos.get? clientId with
      | none => simpa [blockReport, info] using ih.cons _
      | some info' => simpa [blockReport, info, BlockEvent.client?] using ih

variable {ctx}

/-- A known client is reported. -/
theorem blockEvents_single {clientId : String} {info : ClientAppInfo}
    (known : ctx.clientAppInfos.get? clientId = some info) (id : RequestId)
    (authResult : String) :
    ∃ report, ctx.blockEvents id authResult [clientId] = [.reported id clientId report] ∧
      report.authResult = authResult := by
  let report : AuthBlockReport :=
    { eventId := ctx.eventId
      callerUid := info.uid
      beginTime := ctx.beginTime
      seqnum := info.seqnum
      content := ctx.eventContent
      authResult }
  refine ⟨report, ?_, rfl⟩
  rw [blockEvents, List.flatMap_singleton, blockReport, known]
  rfl

theorem mem_blockEvents {id : RequestId} {authResult : String} {clientIds : List String}
    {event : BlockEvent} (mem : event ∈ ctx.blockEvents id authResult clientIds) :
    ∃ clientId report, event = .reported id clientId report ∧ clientId ∈ clientIds ∧
      report.authResult = authResult := by
  obtain ⟨clientId, listed, mem⟩ := List.mem_flatMap.mp mem
  obtain ⟨report, made, rfl⟩ := List.mem_map.mp mem
  refine ⟨clientId, report, rfl, listed, ?_⟩
  rw [blockReport] at made
  split at made
  · cases made
  · rw [List.mem_singleton.mp made]

theorem recordClientResult_clientAppInfos (clientId : String) (strategy : AuthStrategy) :
    (ctx.recordClientResult clientId strategy).clientAppInfos = ctx.clientAppInfos := by
  simp only [recordClientResult, setClientPromise, decrementCounters, evaluateStrictPolicy,
    complete, satisfyResultPromise]
  split_ifs <;> rfl

theorem handleTimeout_clientAppInfos :
    ctx.handleTimeout.1.clientAppInfos = ctx.clientAppInfos := by
  refine handleTimeout_invariant
    (motive := fun current => current.clientAppInfos = ctx.clientAppInfos) ?_ ?_ ?_ rfl
  · intro current clientId strategy _ _ same
    rw [← same]
    simp only [handleTimeoutClient, setClientPromise]
    split_ifs <;> rfl
  · intro current _ same
    exact same
  · intro current same
    rw [← same]
    simp only [satisfyResultPromise]
    split_ifs <;> rfl

end RoutingContext

/-- A request whose task has opened its context keeps its results and its decision. -/
structure Request.Follows (request later : Request) : Prop where
  late : ¬request.stage.Early → ¬later.stage.Early
  answered : ¬request.stage.Early → ∀ clientId,
    request.ctx.clientResults.contains clientId = true →
      later.ctx.clientResults.contains clientId = true
  completed : ¬request.stage.Early → request.ctx.completed = true → later.ctx.completed = true
  handled : request.timeoutHandled = true → later.timeoutHandled = true

/-- Everything is known of the clients of a request. -/
def Request.Introduced (request : Request) : Prop :=
  ∀ clientId ∈ request.clientIds, request.ctx.clientAppInfos.contains clientId = true

namespace Request

theorem Follows.refl (request : Request) : request.Follows request :=
  ⟨id, fun _ _ => id, fun _ => id, id⟩

theorem Follows.of_early {request later : Request} (early : request.stage.Early)
    (handled : request.timeoutHandled = true → later.timeoutHandled = true) :
    request.Follows later :=
  ⟨fun late => absurd early late, fun late => absurd early late,
    fun late => absurd early late, handled⟩

theorem Follows.of_same {request later : Request} (late : ¬later.stage.Early)
    (results : later.ctx.clientResults = request.ctx.clientResults)
    (completed : later.ctx.completed = request.ctx.completed)
    (handled : later.timeoutHandled = request.timeoutHandled) : request.Follows later where
  late := fun _ => late
  answered := fun _ _ => results ▸ id
  completed := fun _ => completed ▸ id
  handled := handled ▸ id

theorem Follows.recorded (request : Request) (clientId : String) (strategy : AuthStrategy) :
    request.Follows
      { request with ctx := request.ctx.recordClientResult clientId strategy } where
  late := id
  answered := by
    intro _ other held
    cases completed : request.ctx.completed with
    | true => rwa [RoutingContext.recordClientResult_of_completed _ _ completed]
    | false =>
        rw [RoutingContext.recordClientResult_clientResults _ _ completed,
          SortedMap.contains_insert, held, Bool.or_true]
  completed := fun _ done => (RoutingContext.settles_recordClientResult _ _ _ done).1
  handled := id

theorem Follows.timeoutHandled (request : Request) :
    request.Follows
      { request with
        ctx := request.ctx.handleTimeout.1
        timeoutHandled := true
        stage := .build } where
  late := fun _ => id
  answered := by
    intro _ clientId held
    obtain ⟨strategy, found⟩ := SortedMap.contains_iff.mp held
    exact SortedMap.contains_iff.mpr
      ⟨strategy, RoutingContext.handleTimeout_keeps_result found⟩
  completed := fun _ _ => RoutingContext.handleTimeout_completed _
  handled := fun _ => rfl

end Request

namespace TaskStep

variable {hash : String → Nat} {coordinator after : AuthCoordinator} {id : RequestId}
  {request later : Request}

theorem follows (taken : TaskStep hash coordinator id request after later) :
    request.Follows later := by
  cases taken with
  | early keeps early later => exact .of_early early fun handled => handled
  | opened now stage => exact .of_early (by simp [stage, Stage.Early]) fun handled => handled
  | fallback stage => exact .of_early (by simp [stage, Stage.Early]) fun handled => handled
  | @registered session object phase todo stage found =>
      cases phase <;> exact .of_same False.elim rfl rfl rfl
  | timeoutHandled stage => exact .timeoutHandled request
  | _ => exact .of_same False.elim rfl rfl rfl

theorem keeps_introduced (taken : TaskStep hash coordinator id request after later)
    (registered : request.Registered coordinator.manager) (introduced : request.Introduced) :
    later.Introduced := by
  cases taken with
  | opened now stage =>
      intro clientId mem
      have none : request.clientIds = [] := registered.early (by simp [stage, Stage.Early])
      rw [show (request.openContext now).clientIds = request.clientIds from rfl, none] at mem
      cases mem
  | @registered session object phase todo stage found =>
      cases phase with
      | record seqnum =>
          intro clientId mem
          rcases List.mem_append.mp mem with mem | mem
          · simp [Request.registerNormalClient, introduced clientId mem]
          · simp [Request.registerNormalClient, List.mem_singleton.mp mem]
      | _ => exact introduced
  | timeoutHandled stage =>
      intro clientId mem
      rw [RoutingContext.handleTimeout_clientAppInfos]
      exact introduced clientId mem
  | _ => exact introduced

end TaskStep

/-! ## What a step records and reports -/

/-- The last critical section of a call of `SetAuthResult`. -/
def Request.answerEvents (request : Request) (id : RequestId) (answer : Answer) :
    List BlockEvent :=
  let ctx := request.ctx.recordClientResult answer.clientId answer.strategy
  (if request.ctx.completed then [] else [.recorded id answer.clientId answer.strategy]) ++
    if answer.strategy = .deny then ctx.blockEvents id "DENY" [answer.clientId] else []

/-- The timeout of a request. -/
def Request.timeoutEvents (request : Request) (id : RequestId) : List BlockEvent :=
  request.ctx.blockEvents id "TIMEOUT" request.ctx.unanswered

namespace AuthSystem

variable {hash : String → Nat} {before after system : AuthSystem} {action : AuthAction}

/-- The answers that a step records and the reports that it makes, in their order. -/
def blockEvents (system : AuthSystem) : AuthAction → List BlockEvent
  | .task id _ =>
      match system.requests.get? id with
      | none => []
      | some request => if request.stage = .handleTimeout then request.timeoutEvents id else []
  | .answer answerId =>
      match system.answers.get? answerId with
      | none => []
      | some answer =>
          match answer.target? with
          | none => []
          | some id =>
              match system.requests.get? id with
              | none => []
              | some request => request.answerEvents id answer
  | _ => []

/-- A step that records or reports, with its events and the reports of the coordinator. -/
inductive BlockStep (before after : AuthSystem) : AuthAction → Prop
  | silent {action : AuthAction} (events : before.blockEvents action = [])
      (reports : after.coordinator.reports = before.coordinator.reports) :
      BlockStep before after action
  | timedOut {id : RequestId} {now : Int} {request : Request}
      (found : before.requests.get? id = some request) (stage : request.stage = .handleTimeout)
      (events : before.blockEvents (.task id now) = request.timeoutEvents id)
      (later : after.requests.get? id = some
        { request with
          ctx := request.ctx.handleTimeout.1
          timeoutHandled := true
          stage := .build })
      (reports : after.coordinator.reports =
        before.coordinator.reports ++ request.ctx.handleTimeout.2) :
      BlockStep before after (.task id now)
  | answered {answerId : AnswerId} {answer : Answer} {id : RequestId} {request : Request}
      (calling : before.answers.get? answerId = some answer)
      (stage : answer.stage = .record id) (found : before.requests.get? id = some request)
      (events : before.blockEvents (.answer answerId) = request.answerEvents id answer)
      (later : after.requests.get? id = some
        { request with
          ctx := request.ctx.recordClientResult answer.clientId answer.strategy })
      (reports : after.coordinator.reports = before.coordinator.reports ++
        if answer.strategy = .deny then
          (request.ctx.recordClientResult answer.clientId answer.strategy).reportDenyResult
            answer.clientId
        else []) :
      BlockStep before after (.answer answerId)

/-- A task reports nothing except by its timeout. -/
theorem taskStep_reports {coordinator coordinator' : AuthCoordinator} {id : RequestId}
    {request later : Request} {now : Int} (stage : request.stage ≠ .handleTimeout)
    (taken : request.taskStep hash coordinator id now = some (coordinator', later)) :
    coordinator'.reports = coordinator.reports := by
  unfold Request.taskStep at taken
  split at taken
  case h_1 =>
    split at taken
    · cases taken
      rfl
    · next counted increment =>
        cases taken
        simp only [AuthCoordinator.tryIncrementActiveRequest] at increment
        split at increment
        · cases increment
        · split at increment
          · cases increment
            rfl
          · cases increment
  case h_6 =>
    split at taken
    · cases taken
    · split_ifs at taken <;>
        (cases taken
         rfl)
  case h_7 session phase todo _ =>
    split at taken
    · cases taken
    · cases phase <;>
        (cases taken
         rfl)
  case h_13 timeout => exact absurd timeout stage
  case h_19 => cases taken
  all_goals
    try split at taken
    all_goals
      cases taken
      rfl

theorem task_blocks {id : RequestId} {now : Int}
    (taken : next hash before (.task id now) = some after) :
    BlockStep before after (.task id now) := by
  obtain ⟨request, coordinator, later, found, step, rfl⟩ := next_task taken
  by_cases stage : request.stage = .handleTimeout
  · have events : before.blockEvents (.task id now) = request.timeoutEvents id := by
      simp [blockEvents, found, stage]
    rw [Request.taskStep, stage] at step
    cases step
    exact .timedOut found stage events (SortedMap.get?_insert_self _ _ _) rfl
  · have events : before.blockEvents (.task id now) = [] := by
      simp [blockEvents, found, stage]
    exact .silent events (taskStep_reports stage step)

theorem answer_blocks {answerId : AnswerId}
    (taken : next hash before (.answer answerId) = some after) :
    BlockStep before after (.answer answerId) := by
  simp only [next] at taken
  split at taken
  · cases taken
  · next answer calling =>
      simp only [answerStep] at taken
      split at taken
      · next stage =>
          have events : before.blockEvents (.answer answerId) = [] := by
            simp [blockEvents, calling, Answer.target?, stage]
          split at taken <;>
            (cases taken
             exact .silent events rfl)
      · next stage =>
          have events : before.blockEvents (.answer answerId) = [] := by
            simp [blockEvents, calling, Answer.target?, stage]
          split at taken <;>
            (cases taken
             exact .silent events rfl)
      · next id stage =>
          split at taken
          · cases taken
          · next request found =>
              have events : before.blockEvents (.answer answerId) =
                  request.answerEvents id answer := by
                simp [blockEvents, calling, Answer.target?, stage, found]
              cases taken
              exact .answered calling stage found events (SortedMap.get?_insert_self _ _ _) rfl

/-- Every step is silent, a timeout or an answer. -/
theorem next_blocks (taken : next hash before action = some after) :
    BlockStep before after action := by
  cases action with
  | task id now => exact task_blocks taken
  | answer answerId => exact answer_blocks taken
  | createAuthProvider caller callback serviceId address =>
      simp only [next] at taken
      split_ifs at taken
      · cases taken
        exact .silent rfl rfl
      · cases taken
        refine .silent rfl ?_
        simp only [AuthCoordinator.createAuthProvider]
        split
        · rfl
        · split_ifs <;> rfl
  | destroyAuthProvider caller provider =>
      simp only [next] at taken
      split at taken
      · split at taken
        · cases taken
          refine .silent rfl ?_
          simp only [AuthCoordinator.destroyAuthProvider]
          split <;> rfl
        · cases taken
          exact .silent rfl rfl
      · cases taken
        exact .silent rfl rfl
  | removeSession session | removeProvider provider =>
      cases taken
      exact .silent rfl rfl
  | _ =>
      simp only [next] at taken
      repeat' split at taken
      all_goals cases taken <;> exact .silent rfl rfl

/-- Every request is followed by a later version of itself. -/
theorem next_follows (taken : next hash before action = some after) {id : RequestId}
    {request : Request} (found : before.requests.get? id = some request) :
    ∃ later, after.requests.get? id = some later ∧ request.Follows later := by
  cases next_cases taken with
  | environment keeps requests => exact ⟨request, requests ▸ found, .refl request⟩
  | requested fresh => exact exists_insert_fresh fresh ⟨request, found, .refl request⟩
  | routed => exact ⟨request, found, .refl request⟩
  | @task owner now own later coordinator foundOwn step =>
      by_cases same : id = owner
      · subst same
        cases found.symm.trans foundOwn
        exact ⟨later, SortedMap.get?_insert_self _ _ _, step.follows⟩
      · exact ⟨request, by simp [same, found], .refl request⟩
  | @recorded _ answer owner own _ _ _ foundOwn =>
      by_cases same : id = owner
      · subst same
        cases found.symm.trans foundOwn
        exact ⟨_, SortedMap.get?_insert_self _ _ _, .recorded request _ _⟩
      · exact ⟨request, by simp [same, found], .refl request⟩

/-- Every request of the service is introduced. -/
def Introduced (system : AuthSystem) : Prop :=
  ∀ id request, system.requests.get? id = some request → request.Introduced

theorem Introduced.step (introduced : before.Introduced) (registered : before.Registered)
    (taken : next hash before action = some after) : after.Introduced := by
  intro target entry found
  cases next_cases taken with
  | environment _ requests => exact introduced target entry (requests ▸ found)
  | requested =>
      rcases SortedMap.get?_insert_eq_some.mp found with ⟨_, rfl⟩ | ⟨_, found⟩
      · exact fun _ mem => nomatch mem
      · exact introduced target entry found
  | @task id now request later coordinator owner step =>
      rcases SortedMap.get?_insert_eq_some.mp found with ⟨_, rfl⟩ | ⟨_, found⟩
      · exact step.keeps_introduced (registered.requests id request owner)
          (introduced id request owner)
      · exact introduced target entry found
  | routed => exact introduced target entry found
  | @recorded _ _ id request _ _ _ owner =>
      rcases SortedMap.get?_insert_eq_some.mp found with ⟨_, rfl⟩ | ⟨_, found⟩
      · intro clientId mem
        rw [RoutingContext.recordClientResult_clientAppInfos]
        exact introduced id request owner clientId mem
      · exact introduced target entry found

/-! ## The history of a run -/

/-- A client of a request has a recorded answer, which decides if it is a denial. -/
def AnsweredIn (system : AuthSystem) (id : RequestId) (clientId : String)
    (strategy : AuthStrategy) : Prop :=
  ∃ request, system.requests.get? id = some request ∧ ¬request.stage.Early ∧
    request.ctx.clientResults.contains clientId = true ∧
      (strategy = .deny → request.ctx.completed = true)

/-- The timeout of a request has run. -/
def TimedOut (system : AuthSystem) (id : RequestId) : Prop :=
  ∃ request, system.requests.get? id = some request ∧ ¬request.stage.Early ∧
    request.timeoutHandled = true ∧ request.ctx.completed = true

theorem AnsweredIn.next {id : RequestId} {clientId : String} {strategy : AuthStrategy}
    (answered : before.AnsweredIn id clientId strategy)
    (taken : AuthSystem.next hash before action = some after) :
    after.AnsweredIn id clientId strategy := by
  obtain ⟨request, found, late, held, decided⟩ := answered
  obtain ⟨later, foundLater, follows⟩ := next_follows taken found
  exact ⟨later, foundLater, follows.late late, follows.answered late clientId held,
    fun deny => follows.completed late (decided deny)⟩

theorem TimedOut.next {id : RequestId} (timedOut : before.TimedOut id)
    (taken : AuthSystem.next hash before action = some after) : after.TimedOut id := by
  obtain ⟨request, found, late, handled, completed⟩ := timedOut
  obtain ⟨later, foundLater, follows⟩ := next_follows taken found
  exact ⟨later, foundLater, follows.late late, follows.handled handled,
    follows.completed late completed⟩

/-- The history is that of the reports, and what it says of a request has become of it. -/
structure Traced (recorded : AuthSystem × List BlockEvent) : Prop where
  registered : recorded.1.Registered
  prompt : recorded.1.Prompt
  introduced : recorded.1.Introduced
  reports : recorded.1.coordinator.reports = recorded.2.filterMap BlockEvent.report?
  answered : ∀ id clientId strategy, .recorded id clientId strategy ∈ recorded.2 →
    recorded.1.AnsweredIn id clientId strategy
  echoed : ∀ id clientId, .recorded id clientId .deny ∈ recorded.2 →
    (id, clientId) ∈ recorded.2.filterMap BlockEvent.client?
  reported : ∀ id clientId report, .reported id clientId report ∈ recorded.2 →
    report.authResult = "DENY" ∨ report.authResult = "TIMEOUT" ∧ recorded.1.TimedOut id

theorem traced_initial : Traced ({}, []) where
  registered := registered_initial
  prompt := prompt_initial
  introduced := fun _ _ found => nomatch found
  reports := rfl
  answered := fun _ _ _ mem => nomatch mem
  echoed := fun _ _ mem => nomatch mem
  reported := fun _ _ _ mem => nomatch mem

theorem known_client {answerId : AnswerId} {answer : Answer} {id : RequestId}
    {request : Request} (registered : system.Registered) (introduced : system.Introduced)
    (calling : system.answers.get? answerId = some answer) (stage : answer.stage = .record id)
    (found : system.requests.get? id = some request) :
    ¬request.stage.Early ∧ ∃ info, request.ctx.clientAppInfos.get? answer.clientId = some info := by
  obtain ⟨own, foundOwn, mem⟩ := registered.answers answerId answer id calling stage
  cases found.symm.trans foundOwn
  refine ⟨fun early => ?_, SortedMap.contains_iff.mp (introduced id request found _ mem)⟩
  rw [(registered.requests id request found).early early] at mem
  cases mem

theorem mem_answerEvents {request : Request} {id : RequestId} {answer : Answer}
    {event : BlockEvent} (mem : event ∈ request.answerEvents id answer) :
    event = .recorded id answer.clientId answer.strategy ∧ request.ctx.completed = false ∨
      answer.strategy = .deny ∧
        ∃ report, event = .reported id answer.clientId report ∧ report.authResult = "DENY" := by
  rcases List.mem_append.mp mem with mem | mem
  · split_ifs at mem with completed
    · cases mem
    · exact .inl ⟨List.mem_singleton.mp mem, by simpa using completed⟩
  · split_ifs at mem with deny
    · obtain ⟨clientId, report, rfl, listed, text⟩ := RoutingContext.mem_blockEvents mem
      rw [List.mem_singleton.mp listed]
      exact .inr ⟨deny, report, rfl, text⟩
    · cases mem

theorem report?_answerEvents (request : Request) (id : RequestId) (answer : Answer) :
    (request.answerEvents id answer).filterMap BlockEvent.report? =
      if answer.strategy = .deny then
        (request.ctx.recordClientResult answer.clientId answer.strategy).reportDenyResult
          answer.clientId
      else [] := by
  have silent : (if request.ctx.completed then []
      else [BlockEvent.recorded id answer.clientId answer.strategy]).filterMap
        BlockEvent.report? = [] := by
    split_ifs <;> rfl
  rw [Request.answerEvents, List.filterMap_append, silent, List.nil_append]
  split_ifs
  · rw [RoutingContext.report?_blockEvents, List.flatMap_singleton,
      RoutingContext.reportDenyResult]
  · rfl

theorem client?_answerEvents {request : Request} {id : RequestId} {answer : Answer}
    {info : ClientAppInfo} (known : request.ctx.clientAppInfos.get? answer.clientId = some info) :
    (request.answerEvents id answer).filterMap BlockEvent.client? =
      if answer.strategy = .deny then [(id, answer.clientId)] else [] := by
  have silent : (if request.ctx.completed then []
      else [BlockEvent.recorded id answer.clientId answer.strategy]).filterMap
        BlockEvent.client? = [] := by
    split_ifs <;> rfl
  rw [← RoutingContext.recordClientResult_clientAppInfos answer.clientId answer.strategy] at known
  obtain ⟨report, made, -⟩ := RoutingContext.blockEvents_single known id "DENY"
  rw [Request.answerEvents, List.filterMap_append, silent, List.nil_append, made]
  split_ifs <;> rfl

/-- The events of a step extend a history when they say what the step does. -/
theorem Traced.extend {history events : List BlockEvent} (traced : Traced (before, history))
    (stepped : next hash before action = some after)
    (reports : after.coordinator.reports =
      before.coordinator.reports ++ events.filterMap BlockEvent.report?)
    (answered : ∀ id clientId strategy, .recorded id clientId strategy ∈ events →
      after.AnsweredIn id clientId strategy)
    (echoed : ∀ id clientId, .recorded id clientId .deny ∈ events →
      (id, clientId) ∈ events.filterMap BlockEvent.client?)
    (reported : ∀ id clientId report, .reported id clientId report ∈ events →
      report.authResult = "DENY" ∨ report.authResult = "TIMEOUT" ∧ after.TimedOut id) :
    Traced (after, history ++ events) where
  registered := traced.registered.step (next_cases stepped)
  prompt := traced.prompt.step (next_cases stepped)
  introduced := traced.introduced.step traced.registered stepped
  reports := by rw [reports, traced.reports, List.filterMap_append]
  answered := by
    intro id clientId strategy mem
    rcases List.mem_append.mp mem with mem | mem
    · exact (traced.answered id clientId strategy mem).next stepped
    · exact answered id clientId strategy mem
  echoed := by
    intro id clientId mem
    rw [List.filterMap_append]
    rcases List.mem_append.mp mem with mem | mem
    · exact List.mem_append_left _ (traced.echoed id clientId mem)
    · exact List.mem_append_right _ (echoed id clientId mem)
  reported := by
    intro id clientId report mem
    rcases List.mem_append.mp mem with mem | mem
    · rcases traced.reported id clientId report mem with text | ⟨text, timedOut⟩
      · exact .inl text
      · exact .inr ⟨text, timedOut.next stepped⟩
    · exact reported id clientId report mem

theorem Traced.step {recorded later : AuthSystem × List BlockEvent} (traced : Traced recorded)
    (taken : Transition.recording (next hash) blockEvents recorded action = some later) :
    Traced later := by
  obtain ⟨after, stepped, rfl⟩ := Transition.recording_eq_some.mp taken
  obtain ⟨before, history⟩ := recorded
  dsimp only at stepped ⊢
  cases next_blocks stepped with
  | silent events reports =>
      rw [events]
      refine traced.extend stepped (by simpa using reports) ?_ ?_ ?_
      · exact fun _ _ _ mem => nomatch mem
      · exact fun _ _ mem => nomatch mem
      · exact fun _ _ _ mem => nomatch mem
  | @timedOut id now request found stage events foundLater reports =>
      have timedOut : after.TimedOut id :=
        ⟨_, foundLater, False.elim, rfl, RoutingContext.handleTimeout_completed _⟩
      have noAnswer : ∀ target clientId strategy,
          .recorded target clientId strategy ∉ request.timeoutEvents id := by
        intro target clientId strategy mem
        obtain ⟨_, _, wrong, _⟩ := RoutingContext.mem_blockEvents mem
        cases wrong
      rw [events]
      refine traced.extend stepped ?_ ?_ ?_ ?_
      · rw [reports, Request.timeoutEvents, RoutingContext.report?_blockEvents,
          RoutingContext.handleTimeout_reports]
        rfl
      · exact fun target clientId strategy mem => absurd mem (noAnswer target clientId strategy)
      · exact fun target clientId mem => absurd mem (noAnswer target clientId .deny)
      · intro target clientId report mem
        obtain ⟨_, _, same, _, text⟩ := RoutingContext.mem_blockEvents mem
        cases same
        exact .inr ⟨text, timedOut⟩
  | @answered answerId answer id request calling stage found events foundLater reports =>
      obtain ⟨late, info, known⟩ :=
        known_client traced.registered traced.introduced calling stage found
      rw [events]
      refine traced.extend stepped (by rw [reports, report?_answerEvents]) ?_ ?_ ?_
      · intro target clientId strategy mem
        rcases mem_answerEvents mem with ⟨same, pending⟩ | ⟨-, report, wrong, -⟩
        · cases same
          refine ⟨_, foundLater, late, ?_, fun deny => ?_⟩
          · rw [RoutingContext.recordClientResult_clientResults _ _ pending,
              SortedMap.contains_insert]
            simp
          · rw [deny]
            exact (RoutingContext.recordClientResult_deny pending).1
        · cases wrong
      · intro target clientId mem
        rcases mem_answerEvents mem with ⟨same, -⟩ | ⟨-, report, wrong, -⟩
        · injection same with target client deny
          rw [client?_answerEvents known, if_pos deny.symm, target, client]
          exact List.mem_cons_self
        · cases wrong
      · intro target clientId report mem
        rcases mem_answerEvents mem with ⟨wrong, -⟩ | ⟨-, _, same, text⟩
        · cases wrong
        · cases same
          exact .inl text

/-- The reports made so far are those of the history, none is on the same client of a request as
another, and each says what was decided. -/
structure BlocksMatch (recorded : AuthSystem × List BlockEvent) : Prop where
  reports : recorded.1.coordinator.reports = recorded.2.filterMap BlockEvent.report?
  once : (recorded.2.filterMap BlockEvent.client?).Nodup
  rule : Transition.Obeys BlockRule recorded.2

/-- The condition on a step: a denial that comes to its request finds it not completed. -/
def DeniesInTime (system : AuthSystem) (action : AuthAction) : Prop :=
  ∀ answerId ∈ action.answer?, ∀ answer ∈ system.answers.get? answerId,
    ∀ id ∈ answer.target?, ∀ request ∈ system.requests.get? id,
      answer.strategy = .deny → request.ctx.completed = false

instance (system : AuthSystem) (action : AuthAction) :
    Decidable (DeniesInTime system action) :=
  inferInstanceAs (Decidable (∀ answerId ∈ action.answer?,
    ∀ answer ∈ system.answers.get? answerId, ∀ id ∈ answer.target?,
      ∀ request ∈ system.requests.get? id, _))

/-- A denial that comes too late is reported and not recorded. -/
theorem late_denial {recorded : AuthSystem × List BlockEvent} (traced : Traced recorded)
    (late : ¬DeniesInTime recorded.1 action) :
    ∃ id clientId report, recorded.1.blockEvents action = [.reported id clientId report] ∧
      report.authResult = "DENY" := by
  simp only [DeniesInTime, not_forall] at late
  obtain ⟨answerId, mem, answer, calling, id, target, request, found, deny, completed⟩ := late
  rw [Bool.not_eq_false] at completed
  have stage : answer.stage = .record id := by
    rw [Answer.target?] at target
    split at target
    · next other stage =>
        cases target
        exact stage
    · cases target
  obtain ⟨-, info, known⟩ :=
    known_client traced.registered traced.introduced calling stage found
  cases action with
  | answer stepping =>
      obtain rfl : stepping = answerId := Option.some.inj mem
      obtain ⟨report, made, text⟩ := RoutingContext.blockEvents_single known id "DENY"
      refine ⟨id, answer.clientId, report, ?_, text⟩
      rw [Option.mem_def] at calling target found
      simp only [blockEvents, calling, target, found, Request.answerEvents, deny, completed,
        if_true, RoutingContext.recordClientResult_of_completed _ _ completed, List.nil_append]
      exact made
  | _ => cases mem

/-- A client that was reported has answered or has been timed out. -/
theorem Traced.decided {history : List BlockEvent} (traced : Traced (system, history))
    (rule : Transition.Obeys BlockRule history) {id : RequestId} {clientId : String}
    (mem : (id, clientId) ∈ history.filterMap BlockEvent.client?) :
    ∃ request, system.requests.get? id = some request ∧ request.ctx.completed = true ∧
      (request.ctx.clientResults.contains clientId = true ∨ request.timeoutHandled = true) := by
  obtain ⟨event, mem, client⟩ := List.mem_filterMap.mp mem
  cases event with
  | recorded => cases client
  | reported owner other report =>
      cases client
      rcases traced.reported id clientId report mem with deny | ⟨-, timedOut⟩
      · obtain ⟨front, back, split⟩ := List.append_of_mem mem
        have earlier := (rule front _ back split).1 deny
        have recorded : .recorded id clientId .deny ∈ history :=
          split ▸ List.mem_append_left _ earlier
        obtain ⟨request, found, -, held, decided⟩ :=
          traced.answered id clientId .deny recorded
        exact ⟨request, found, decided rfl, .inl held⟩
      · obtain ⟨request, found, -, handled, completed⟩ := timedOut
        exact ⟨request, found, completed, .inr handled⟩

/-- The reports of a timeout are the first on their clients and agree with the decisions. -/
theorem BlocksMatch.timedOut {history : List BlockEvent} (traced : Traced (before, history))
    (matching : BlocksMatch (before, history)) {id : RequestId} {request : Request}
    (found : before.requests.get? id = some request) (stage : request.stage = .handleTimeout) :
    ((history ++ request.timeoutEvents id).filterMap BlockEvent.client?).Nodup ∧
      Transition.Obeys BlockRule (history ++ request.timeoutEvents id) := by
  have unheard {clientId : String} (mem : clientId ∈ request.ctx.unanswered) :
      request.ctx.clientResults.contains clientId = false := by
    simpa using (List.mem_filter.mp mem).2
  have sublist := request.ctx.client?_blockEvents id "TIMEOUT" request.ctx.unanswered
  constructor
  · rw [List.filterMap_append, List.nodup_append]
    refine ⟨matching.once, ?_, ?_⟩
    · refine sublist.nodup (List.Nodup.map ?_ ?_)
      · exact fun _ _ same => (Prod.mk.inj same).2
      · exact request.ctx.clientTimeoutStrategies.keys_nodup.filter _
    · rintro ⟨owner, clientId⟩ earlier _ mem rfl
      obtain ⟨unansweredId, listed, same⟩ := List.mem_map.mp (sublist.subset mem)
      cases same
      obtain ⟨own, foundOwn, -, held | handled⟩ := traced.decided matching.rule earlier
      · cases found.symm.trans foundOwn
        rw [unheard listed] at held
        cases held
      · cases found.symm.trans foundOwn
        have unhandled := (traced.prompt id request found).unhandled (by simp [stage, Stage.Ending])
        rw [unhandled] at handled
        cases handled
  · refine Transition.obeys_append.mpr ⟨matching.rule, fun front event back split => ?_⟩
    have part {earlier : BlockEvent} (mem : earlier ∈ front) :
        earlier ∈ request.timeoutEvents id := split ▸ List.mem_append_left _ mem
    obtain ⟨clientId, report, rfl, listed, text⟩ := RoutingContext.mem_blockEvents
      (split ▸ List.mem_append_right front List.mem_cons_self : event ∈ request.timeoutEvents id)
    refine ⟨fun deny => ?_, fun _ strategy mem => ?_⟩
    · rw [text] at deny
      exact absurd deny (by decide)
    · rcases List.mem_append.mp mem with mem | mem
      · obtain ⟨own, foundOwn, -, held, -⟩ := traced.answered id clientId strategy mem
        cases found.symm.trans foundOwn
        rw [unheard listed] at held
        cases held
      · obtain ⟨_, _, wrong, -⟩ := RoutingContext.mem_blockEvents (part mem)
        cases wrong

/-- An answer that does not deny too late is recorded before it is reported. -/
theorem BlocksMatch.answered {history : List BlockEvent} (traced : Traced (before, history))
    (matching : BlocksMatch (before, history)) {answerId : AnswerId} {answer : Answer}
    {id : RequestId} {request : Request}
    (calling : before.answers.get? answerId = some answer) (stage : answer.stage = .record id)
    (found : before.requests.get? id = some request)
    (inTime : answer.strategy = .deny → request.ctx.completed = false) :
    ((history ++ request.answerEvents id answer).filterMap BlockEvent.client?).Nodup ∧
      Transition.Obeys BlockRule (history ++ request.answerEvents id answer) := by
  obtain ⟨-, info, known⟩ := known_client traced.registered traced.introduced calling stage found
  rw [List.filterMap_append, client?_answerEvents known]
  by_cases deny : answer.strategy = .deny
  · have pending := inTime deny
    have first : (id, answer.clientId) ∉ history.filterMap BlockEvent.client? := by
      intro mem
      obtain ⟨own, foundOwn, completed, -⟩ := traced.decided matching.rule mem
      cases found.symm.trans foundOwn
      rw [pending] at completed
      cases completed
    rw [← RoutingContext.recordClientResult_clientAppInfos answer.clientId answer.strategy]
      at known
    obtain ⟨report, made, text⟩ := RoutingContext.blockEvents_single known id "DENY"
    have events : request.answerEvents id answer =
        [.recorded id answer.clientId .deny] ++ [.reported id answer.clientId report] := by
      rw [Request.answerEvents, pending, made, deny]
      rfl
    refine ⟨?_, ?_⟩
    · rw [if_pos deny, List.nodup_append]
      refine ⟨matching.once, List.nodup_singleton _, ?_⟩
      rintro client mem other listed rfl
      exact first (List.mem_singleton.mp listed ▸ mem)
    · rw [events, ← List.append_assoc, Transition.obeys_concat, Transition.obeys_concat]
      refine ⟨⟨matching.rule, trivial⟩, fun _ => ?_, fun timeout => ?_⟩
      · exact List.mem_append_right _ List.mem_cons_self
      · rw [text] at timeout
        exact absurd timeout (by decide)
  · rw [if_neg deny, List.append_nil]
    refine ⟨matching.once, Transition.obeys_append.mpr ⟨matching.rule, ?_⟩⟩
    intro front event back split
    rcases mem_answerEvents
      (split ▸ List.mem_append_right front List.mem_cons_self :
        event ∈ request.answerEvents id answer) with ⟨rfl, -⟩ | ⟨denies, -⟩
    · trivial
    · exact absurd denies deny

/-- A step reports in agreement with the decisions exactly when no denial comes too late. -/
theorem blocksMatch_step {recorded later : AuthSystem × List BlockEvent}
    (traced : Traced recorded) (matching : BlocksMatch recorded)
    (taken : Transition.recording (next hash) blockEvents recorded action = some later) :
    BlocksMatch later ↔ DeniesInTime recorded.1 action := by
  have traced_later := traced.step taken
  obtain ⟨after, stepped, rfl⟩ := Transition.recording_eq_some.mp taken
  obtain ⟨before, history⟩ := recorded
  dsimp only at stepped traced_later ⊢
  constructor
  · intro matching_later
    by_contra late
    obtain ⟨id, clientId, report, events, text⟩ := late_denial traced late
    have once := matching_later.once
    have rule := matching_later.rule
    dsimp only at events once rule
    rw [events] at once rule
    have recorded := ((Transition.obeys_concat.mp rule).2).1 text
    have reported := traced.echoed id clientId recorded
    rw [List.filterMap_append, List.nodup_append] at once
    exact once.2.2 _ reported _ (by simp [BlockEvent.client?]) rfl
  · intro inTime
    cases next_blocks stepped with
    | silent events =>
        rw [events, List.append_nil] at traced_later ⊢
        exact ⟨traced_later.reports, matching.once, matching.rule⟩
    | timedOut found stage events =>
        rw [events] at traced_later ⊢
        obtain ⟨once, rule⟩ := matching.timedOut traced found stage
        exact ⟨traced_later.reports, once, rule⟩
    | @answered answerId answer id request calling stage found events =>
        rw [events] at traced_later ⊢
        have denies := inTime answerId rfl answer calling id
          (by simp [Answer.target?, stage]) request found
        obtain ⟨once, rule⟩ := matching.answered traced calling stage found denies
        exact ⟨traced_later.reports, once, rule⟩

theorem deniesInTime_of_refused (refused : next hash system action = none) :
    DeniesInTime system action := by
  intro answerId mem answer calling id target request found
  cases action with
  | answer stepping =>
      obtain rfl : stepping = answerId := Option.some.inj mem
      rw [Answer.target?] at target
      split at target
      · next other stage =>
          cases target
          rw [Option.mem_def] at calling found
          simp [next, calling, answerStep, stage, found] at refused
      · cases target
  | _ => cases mem

/-- The reports of a run match its decisions in every state exactly when no denial comes to a
completed request. -/
theorem blocksMatch_iff (hash : String → Nat) (actions : List AuthAction) :
    Transition.Visits (Transition.recording (next hash) blockEvents) BlocksMatch ({}, [])
        actions ↔
      Transition.Along (Transition.recording (next hash) blockEvents)
        (fun recorded => DeniesInTime recorded.1) ({}, []) actions := by
  have start : Traced ({}, []) ∧ BlocksMatch ({}, []) :=
    ⟨traced_initial, rfl, List.nodup_nil, Transition.obeys_nil _⟩
  have refused {recorded : AuthSystem × List BlockEvent} {action : AuthAction}
      (none : Transition.recording (next hash) blockEvents recorded action = none) :
      DeniesInTime recorded.1 action :=
    deniesInTime_of_refused (Option.map_eq_none_iff.mp none)
  have exact_step {recorded later : AuthSystem × List BlockEvent} {action : AuthAction}
      (both : Traced recorded ∧ BlocksMatch recorded)
      (taken : Transition.recording (next hash) blockEvents recorded action = some later) :
      BlocksMatch later ↔ DeniesInTime recorded.1 action :=
    blocksMatch_step both.1 both.2 taken
  have step {recorded later : AuthSystem × List BlockEvent} {action : AuthAction}
      (both : Traced recorded ∧ BlocksMatch recorded) (inTime : DeniesInTime recorded.1 action)
      (taken : Transition.recording (next hash) blockEvents recorded action = some later) :
      Traced later ∧ BlocksMatch later :=
    ⟨both.1.step taken, (exact_step both taken).mpr inTime⟩
  exact Transition.visits_iff_along_of_refused refused step exact_step (fun _ both => both.2) start

/-- The second client denies after the denial of the first one. -/
def secondDenial : List AuthAction := bothRegistered ++ vote 1 1 false ++ vote 2 1 false

/-- The second denial is reported although it was never recorded. -/
theorem late_denial_is_reported :
    ∃ system history report,
      Transition.run (Transition.recording (next String.length) blockEvents) ({}, [])
          secondDenial = some (system, history) ∧
        .reported 0 "5" report ∈ history ∧ report.authResult = "DENY" ∧
          .recorded 0 "5" .deny ∉ history ∧ ¬BlocksMatch (system, history) := by
  let denial : AuthBlockReport :=
    { eventId := 5
      callerUid := 20010010
      beginTime := 0
      seqnum := 1
      content := ""
      authResult := "DENY" }
  have evaluated : (Transition.run (Transition.recording (next String.length) blockEvents)
      ({}, []) secondDenial).any (fun recorded =>
        .reported 0 "5" denial ∈ recorded.2 ∧ .recorded 0 "5" .deny ∉ recorded.2) = true := by
    decide +kernel
  obtain ⟨⟨system, history⟩, reach, rest⟩ := (Option.any_eq_true _ _).mp evaluated
  obtain ⟨reported, unrecorded⟩ := of_decide_eq_true rest
  refine ⟨system, history, denial, reach, reported, rfl, unrecorded, fun matching => ?_⟩
  obtain ⟨front, back, split⟩ := List.append_of_mem reported
  have recorded := (matching.rule front _ back split).1 rfl
  exact unrecorded (split ▸ List.mem_append_left _ recorded)

end AuthSystem

end SecurityGuard
