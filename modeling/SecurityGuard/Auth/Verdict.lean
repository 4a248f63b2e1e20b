import SecurityGuard.Auth.Invariant

/-!
# A denial decides the request

Under the strict policy one denial blocks the event.  The task of a request tests whether it
sent the event to no client by reading the counter that the answers decrement, so the test can
mistake a request whose clients have all answered for one without clients.  The decision is
kept in every run in which that test is not mistaken, and a short run shows that it is lost
otherwise.
-/

namespace SecurityGuard

/-- A result agrees with the request, or no client was registered. -/
def Request.Covers (request : Request) (result : AuthResult) : Prop :=
  request.clientIds = [] ∨
    request.ctx.completed = true ∧ result.mergedAuthStrategy = request.ctx.mergedAuthStrategy

/-- What is decided when a request has come to its current stage. -/
def Request.Settled (request : Request) : Prop :=
  match request.stage with
  | .noClient =>
      request.clientIds = [] ∨
        request.ctx.completed = true ∧ request.ctx.mergedAuthStrategy = .allow
  | .noClientResult => request.clientIds = [] ∨ request.ctx.completed = true
  | .build => request.ctx.completed = true
  | .clean _ result | .notify result => request.Covers result
  | _ => True

/-- Denials decide, and what is notified is the decision. -/
structure Request.Verdict (request : Request) : Prop where
  denied : ∀ clientId, request.ctx.clientResults.get? clientId = some .deny →
    request.ctx.completed = true ∧ request.ctx.mergedAuthStrategy = .deny
  promised : request.ctx.resultPromise ≠ [] → request.ctx.completed = true
  settled : request.Settled
  notified : ∀ result ∈ request.notified, request.Covers result
  ended : request.notified ≠ [] → request.stage = .release ∨ request.stage = .finished

namespace RoutingContext

theorem recordClientResult_promised {ctx : RoutingContext} {clientId : String}
    {strategy : AuthStrategy} (promised : ctx.resultPromise ≠ [] → ctx.completed = true)
    (set : (ctx.recordClientResult clientId strategy).resultPromise ≠ []) :
    (ctx.recordClientResult clientId strategy).completed = true := by
  simp only [recordClientResult, evaluateStrictPolicy, complete] at set ⊢
  split_ifs at set ⊢ with completed
  · exact completed
  · simp
  · simp
  · have same : ctx.resultPromise ≠ [] := by simpa [decrementCounters] using set
    exact absurd (promised same) completed

/-- After an answer a denial among the results has decided. -/
theorem recordClientResult_denied {ctx : RoutingContext} {clientId other : String}
    {strategy : AuthStrategy}
    (denied : ∀ clientId, ctx.clientResults.get? clientId = some .deny →
      ctx.completed = true ∧ ctx.mergedAuthStrategy = .deny)
    (recorded : (ctx.recordClientResult clientId strategy).clientResults.get? other =
      some .deny) :
    (ctx.recordClientResult clientId strategy).completed = true ∧
      (ctx.recordClientResult clientId strategy).mergedAuthStrategy = .deny := by
  cases completed : ctx.completed with
  | true =>
      rw [recordClientResult_of_completed _ _ completed] at recorded ⊢
      exact denied other recorded
  | false =>
      rw [recordClientResult_clientResults _ _ completed, SortedMap.get?_insert] at recorded
      split_ifs at recorded
      · cases recorded
        exact recordClientResult_deny completed
      · simp [denied other recorded] at completed

/-- The default decision of a client that did not answer decides as well. -/
theorem handleTimeout_denied {ctx : RoutingContext}
    (denied : ∀ clientId, ctx.clientResults.get? clientId = some .deny →
      ctx.completed = true ∧ ctx.mergedAuthStrategy = .deny) (clientId : String)
    (recorded : ctx.handleTimeout.1.clientResults.get? clientId = some .deny) :
    ctx.handleTimeout.1.completed = true ∧ ctx.handleTimeout.1.mergedAuthStrategy = .deny := by
  refine handleTimeout_invariant
    (motive := fun current => ∀ clientId, current.clientResults.get? clientId = some .deny →
      current.completed = true ∧ current.mergedAuthStrategy = .deny)
    ?_ ?_ ?_ denied clientId recorded
  · intro current client strategy _ _ kept other found
    have decision := handleTimeoutClient_decision current client strategy
    rw [handleTimeoutClient_clientResults, SortedMap.get?_insert] at found
    by_cases denies : strategy = .deny
    · rw [if_pos denies] at decision
      exact Prod.mk.inj decision
    · rw [if_neg denies] at decision found
      obtain ⟨completed, merged⟩ := Prod.mk.inj decision
      rw [completed, merged]
      split_ifs at found
      · cases found
      · exact kept other found
  · intro current pending kept other found
    simp [kept other found] at pending
  · intro current kept other found
    simpa using kept other (by simpa using found)

/-- The timeout keeps a denial. -/
theorem handleTimeout_keeps_deny {ctx : RoutingContext} (completed : ctx.completed = true)
    (merged : ctx.mergedAuthStrategy = .deny) :
    ctx.handleTimeout.1.completed = true ∧ ctx.handleTimeout.1.mergedAuthStrategy = .deny := by
  refine handleTimeout_invariant
    (motive := fun current => current.completed = true ∧ current.mergedAuthStrategy = .deny)
    ?_ ?_ ?_ ⟨completed, merged⟩
  · intro current client strategy _ _ kept
    have decision := handleTimeoutClient_decision current client strategy
    split_ifs at decision
    · exact Prod.mk.inj decision
    · obtain ⟨completed, merged⟩ := Prod.mk.inj decision
      exact ⟨completed.trans kept.1, merged.trans kept.2⟩
  · intro current pending kept
    simp [kept.1] at pending
  · intro current kept
    simpa using kept

end RoutingContext

namespace Request

theorem verdict_requested (provider : Address) (event : AuthEventInfo)
    (resultCallback : Option Address) : Request.Verdict { provider, event, resultCallback } where
  denied := fun _ found => nomatch found
  promised := fun set => absurd rfl set
  settled := trivial
  notified := fun _ mem => absurd mem List.not_mem_nil
  ended := fun some_ => absurd rfl some_

theorem Verdict.not_notified {request : Request} (verdict : request.Verdict)
    (running : request.stage ≠ .release ∧ request.stage ≠ .finished) :
    request.notified = [] := by
  by_contra some_
  rcases verdict.ended some_ with stage | stage
  · exact running.1 stage
  · exact running.2 stage

/-- Before the notification a step that leaves the decision needs only its stage to be settled. -/
theorem Verdict.of_open {request later : Request} (verdict : request.Verdict)
    (running : request.stage ≠ .release ∧ request.stage ≠ .finished)
    (notified : later.notified = request.notified)
    (results : later.ctx.clientResults = request.ctx.clientResults)
    (completed : later.ctx.completed = request.ctx.completed)
    (merged : later.ctx.mergedAuthStrategy = request.ctx.mergedAuthStrategy)
    (promise : later.ctx.resultPromise = request.ctx.resultPromise)
    (settled : later.Settled) : later.Verdict := by
  have none : later.notified = [] := notified.trans (verdict.not_notified running)
  refine ⟨?_, ?_, settled, ?_, fun some_ => absurd none some_⟩
  · rw [results, completed, merged]
    exact verdict.denied
  · rw [promise, completed]
    exact verdict.promised
  · simp [none]

/-- An answer of a registered client keeps the verdict. -/
theorem Verdict.recorded {request : Request} (verdict : request.Verdict) {clientId : String}
    (mem : clientId ∈ request.clientIds) (strategy : AuthStrategy) :
    Verdict { request with ctx := request.ctx.recordClientResult clientId strategy } := by
  cases completed : request.ctx.completed with
  | true =>
      rw [RoutingContext.recordClientResult_of_completed _ _ completed]
      exact verdict
  | false =>
      have clients : request.clientIds ≠ [] := List.ne_nil_of_mem mem
      have uncovered (result : AuthResult) : ¬ request.Covers result := by
        simp [Covers, clients, completed]
      refine
        { denied := fun _ => RoutingContext.recordClientResult_denied verdict.denied
          promised := RoutingContext.recordClientResult_promised verdict.promised
          settled := ?_
          notified := fun result found => absurd (verdict.notified result found) (uncovered _)
          ended := verdict.ended }
      have settled := verdict.settled
      simp only [Settled] at settled ⊢
      split <;> simp_all

end Request

/-- The test for a request without clients finds one: whenever the counter is zero, no client was
registered or the request is already completed with ALLOW. -/
def ZeroCountMeansNoClient (system : AuthSystem) (action : AuthAction) : Prop :=
  ∀ id ∈ action.task?, ∀ request ∈ system.requests.get? id,
    request.stage = .check → request.ctx.sentClientCount = 0 →
      request.clientIds = [] ∨
        request.ctx.completed = true ∧ request.ctx.mergedAuthStrategy = .allow

instance (system : AuthSystem) (action : AuthAction) :
    Decidable (ZeroCountMeansNoClient system action) :=
  inferInstanceAs (Decidable (∀ id ∈ action.task?, ∀ request ∈ system.requests.get? id, _))

namespace TaskStep

variable {hash : String → Nat} {coordinator after : AuthCoordinator} {id : RequestId}
  {request later : Request}

/-- A task's step keeps the verdict unless its test is mistaken. -/
theorem keeps_verdict (taken : TaskStep hash coordinator id request after later)
    (registered : request.Registered coordinator.manager) (verdict : request.Verdict)
    (test : request.stage = .check → request.ctx.sentClientCount = 0 →
      request.clientIds = [] ∨
        request.ctx.completed = true ∧ request.ctx.mergedAuthStrategy = .allow) :
    later.Verdict := by
  have settled := verdict.settled
  cases taken with
  | @early _ stage _ early later =>
      refine verdict.of_open ?_ rfl rfl rfl rfl rfl ?_
      · constructor <;> intro stage <;> simp [stage, Stage.Early] at early
      · simp only [Request.Settled, Request.withStage]
        rcases later with later | rfl
        · cases stage <;> trivial
        · trivial
  | opened now stage =>
      have none : request.notified = [] := verdict.not_notified (by simp [stage])
      exact
        { denied := fun _ found => absurd found (by simp [Request.openContext])
          promised := fun set => absurd rfl set
          settled := trivial
          notified := by simp [Request.openContext, none]
          ended := by simp [Request.openContext, none] }
  | fallback stage =>
      have noClients : request.clientIds = [] := registered.early (by simp [stage, Stage.Early])
      exact verdict.of_open (by simp [stage]) rfl rfl rfl rfl rfl (.inl noClients)
  -- `test` is what the code may get wrong here: the count may be zero with clients registered.
  | noneSent stage none =>
      exact verdict.of_open (by simp [stage]) rfl rfl rfl rfl rfl (test stage none)
  -- The merged strategy is overwritten by ALLOW, which is right as nobody has denied.
  | noClient stage =>
      simp only [Request.Settled, stage] at settled
      have noDenial (clientId : String) :
          request.ctx.clientResults.get? clientId ≠ some .deny := by
        intro denial
        rcases settled with noClients | ⟨-, merged⟩
        · have mem := registered.resultKeys clientId (SortedMap.contains_iff.mpr ⟨_, denial⟩)
          simp [noClients] at mem
        · exact absurd (verdict.denied clientId denial).2 (by simp [merged])
      have none : request.notified = [] := verdict.not_notified (by simp [stage])
      exact
        { denied := fun clientId denial => absurd denial (noDenial clientId)
          promised := verdict.promised
          settled := settled.imp_right And.left
          notified := by simp [none]
          ended := by simp [none] }
  | noClientResult stage =>
      simp only [Request.Settled, stage] at settled
      refine verdict.of_open (by simp [stage]) rfl rfl rfl rfl rfl ?_
      exact settled.imp_right fun completed => ⟨completed, rfl⟩
  | promised stage set =>
      exact verdict.of_open (by simp [stage]) rfl rfl rfl rfl rfl (verdict.promised set)
  -- The timeout decides the request, and a client that denies by default denies it.
  | timeoutHandled stage =>
      have none : request.notified = [] := verdict.not_notified (by simp [stage])
      exact
        { denied := RoutingContext.handleTimeout_denied verdict.denied
          promised := fun _ => RoutingContext.handleTimeout_completed _
          settled := RoutingContext.handleTimeout_completed _
          notified := by simp [none]
          ended := by simp [none] }
  | built stage =>
      simp only [Request.Settled, stage] at settled
      exact verdict.of_open (by simp [stage]) rfl rfl rfl rfl rfl (.inr ⟨settled, rfl⟩)
  | cleaned stage =>
      simp only [Request.Settled, stage] at settled
      exact verdict.of_open (by simp [stage]) rfl rfl rfl rfl rfl settled
  | cleanedAll stage =>
      simp only [Request.Settled, stage] at settled
      exact verdict.of_open (by simp [stage]) rfl rfl rfl rfl rfl settled
  | @notified result stage =>
      simp only [Request.Settled, stage] at settled
      have none : request.notified = [] := verdict.not_notified (by simp [stage])
      refine
        { denied := verdict.denied
          promised := verdict.promised
          settled := trivial
          notified := ?_
          ended := fun _ => .inl rfl }
      intro other mem
      have same : other = result := by simpa [Request.notifyAuthResult, none] using mem
      exact same ▸ settled
  | released keeps stage =>
      exact
        { denied := verdict.denied
          promised := verdict.promised
          settled := trivial
          notified := verdict.notified
          ended := fun _ => .inr rfl }
  | @registered _ _ phase _ stage found =>
      cases phase <;> exact verdict.of_open (by simp [stage]) rfl rfl rfl rfl rfl trivial
  | subscribed stage | dispatched stage | skipped stage | degraded stage | chosen stage
  | pushed stage | someSent stage | timedOut stage =>
      exact verdict.of_open (by simp [stage]) rfl rfl rfl rfl rfl trivial

theorem keeps_denial (taken : TaskStep hash coordinator id request after later)
    (registered : request.Registered coordinator.manager) (verdict : request.Verdict)
    {clientId : String} (mem : clientId ∈ request.clientIds)
    (completed : request.ctx.completed = true) (merged : request.ctx.mergedAuthStrategy = .deny) :
    later.ctx.completed = true ∧ later.ctx.mergedAuthStrategy = .deny := by
  have clients : request.clientIds ≠ [] := List.ne_nil_of_mem mem
  cases taken with
  | opened now stage => exact absurd (registered.early (by simp [stage, Stage.Early])) clients
  | noClient stage =>
      have settled := verdict.settled
      simp [Request.Settled, stage, clients, merged] at settled
  | timeoutHandled => exact RoutingContext.handleTimeout_keeps_deny completed merged
  | @registered _ _ phase => cases phase <;> exact ⟨completed, merged⟩
  | _ => exact ⟨completed, merged⟩

end TaskStep

namespace AuthSystem

variable {hash : String → Nat} {before after : AuthSystem} {action : AuthAction}

/-- Every request has a verdict, and its clients are registered. -/
structure Decided (system : AuthSystem) : Prop where
  registered : system.Registered
  verdicts : ∀ id request, system.requests.get? id = some request → request.Verdict

theorem decided_initial : Decided {} where
  registered := registered_initial
  verdicts := fun _ _ found => nomatch found

theorem Decided.step (decided : before.Decided) (test : ZeroCountMeansNoClient before action)
    (step : Step hash before action after) : after.Decided := by
  refine ⟨decided.registered.step step, ?_⟩
  intro target entry foundEntry
  cases step with
  | environment keeps requests => exact decided.verdicts target entry (requests ▸ foundEntry)
  | @requested _ provider event resultCallback =>
      rw [SortedMap.get?_insert] at foundEntry
      split_ifs at foundEntry
      · cases foundEntry
        exact Request.verdict_requested provider event resultCallback
      · exact decided.verdicts target entry foundEntry
  | @task id now request later coordinator found taken =>
      rw [SortedMap.get?_insert] at foundEntry
      split_ifs at foundEntry
      · cases foundEntry
        exact taken.keeps_verdict (decided.registered.requests id request found)
          (decided.verdicts id request found) (test id rfl request found)
      · exact decided.verdicts target entry foundEntry
  | routed => exact decided.verdicts target entry foundEntry
  | @recorded answerId answer id request reports found stage owner =>
      rw [SortedMap.get?_insert] at foundEntry
      split_ifs at foundEntry
      · cases foundEntry
        obtain ⟨holder, foundHolder, mem⟩ :=
          decided.registered.answers answerId answer id found stage
        cases owner.symm.trans foundHolder
        exact (decided.verdicts id request owner).recorded mem answer.strategy
      · exact decided.verdicts target entry foundEntry

/-- The request has a registered client and is decided by a denial. -/
def Denied (system : AuthSystem) (id : RequestId) (clientId : String) : Prop :=
  ∃ request, system.requests.get? id = some request ∧ clientId ∈ request.clientIds ∧
    request.ctx.completed = true ∧ request.ctx.mergedAuthStrategy = .deny

theorem Denied.step (decided : before.Decided) {id : RequestId} {clientId : String}
    (denied : before.Denied id clientId) (step : Step hash before action after) :
    after.Denied id clientId := by
  cases step with
  | environment keeps requests =>
      obtain ⟨request, found, denial⟩ := denied
      exact ⟨request, requests ▸ found, denial⟩
  | requested fresh => exact exists_insert_fresh fresh denied
  | @task owner now request later coordinator found taken =>
      have own := decided.registered.requests owner request found
      refine exists_insert found ?_ denied
      rintro ⟨mem, completed, merged⟩
      exact ⟨(taken.routes_subset own).2 mem,
        taken.keeps_denial own (decided.verdicts owner request found) mem completed merged⟩
  | routed => exact denied
  | @recorded answerId answer owner request reports found stage target =>
      refine exists_insert target ?_ denied
      rintro ⟨mem, completed, merged⟩
      rw [RoutingContext.recordClientResult_of_completed _ _ completed]
      exact ⟨mem, completed, merged⟩

theorem decided_of_run {final : AuthSystem} {actions : List AuthAction}
    (permitted : Transition.Along (next hash) ZeroCountMeansNoClient {} actions)
    (reach : Transition.run (next hash) {} actions = some final) : final.Decided :=
  Transition.run_invariant (fun decided test taken => decided.step test (next_cases taken))
    decided_initial permitted reach

theorem Decided.denied {system : AuthSystem} (decided : system.Decided) {id : RequestId}
    {request : Request} {clientId : String} (found : system.requests.get? id = some request)
    (denial : request.ctx.clientResults.get? clientId = some .deny) :
    system.Denied id clientId := by
  have mem := (decided.registered.requests id request found).resultKeys clientId
    (SortedMap.contains_iff.mpr ⟨_, denial⟩)
  exact ⟨request, found, mem, (decided.verdicts id request found).denied clientId denial⟩

theorem Denied.notified {system : AuthSystem} (decided : system.Decided) {id : RequestId}
    {clientId : String} (denied : system.Denied id clientId) {request : Request}
    (found : system.requests.get? id = some request) {result : AuthResult}
    (mem : result ∈ request.notified) : result.mergedAuthStrategy = .deny := by
  obtain ⟨holder, foundHolder, client, -, merged⟩ := denied
  cases found.symm.trans foundHolder
  rcases (decided.verdicts id request found).notified result mem with noClients | ⟨-, same⟩
  · simp [noClients] at client
  · exact same.trans merged

/-- Deny dominance: once a denial of some client is recorded, by its answer or by the timeout,
every result that its request ever notifies is a denial, in every run in which the test for a
request without clients is not mistaken. -/
theorem denial_is_notified {actions later : List AuthAction} {middle final : AuthSystem}
    {id : RequestId} {request ending : Request} {clientId : String} {result : AuthResult}
    (permitted : Transition.Along (next hash) ZeroCountMeansNoClient {} (actions ++ later))
    (reach : Transition.run (next hash) {} actions = some middle)
    (continues : Transition.run (next hash) middle later = some final)
    (found : middle.requests.get? id = some request)
    (denial : request.ctx.clientResults.get? clientId = some .deny)
    (foundEnding : final.requests.get? id = some ending) (notified : result ∈ ending.notified) :
    result.mergedAuthStrategy = .deny := by
  obtain ⟨before, after⟩ := (Transition.along_append reach).mp permitted
  have decided : middle.Decided := decided_of_run before reach
  have step {before after : AuthSystem} {action : AuthAction}
      (both : before.Decided ∧ before.Denied id clientId)
      (test : ZeroCountMeansNoClient before action)
      (taken : next hash before action = some after) :
      after.Decided ∧ after.Denied id clientId :=
    ⟨both.1.step test (next_cases taken), both.2.step both.1 (next_cases taken)⟩
  have kept := Transition.run_invariant step ⟨decided, decided.denied found denial⟩ after continues
  exact kept.2.notified kept.1 foundEnding notified

/-- The only client denies before the task tests its counter. -/
def earlyDenial : List AuthAction :=
  joinClient 1 7 1 ++ askDecision ++ taskSteps 13 ++ vote 1 1 false ++ taskSteps 5

/-- Without the condition the denial is lost: the request of `earlyDenial` notifies ALLOW. -/
theorem denial_is_lost :
    ¬ ∀ (actions later : List AuthAction) (middle final : AuthSystem) (id : RequestId)
        (request ending : Request) (clientId : String) (result : AuthResult),
      Transition.run (next String.length) {} actions = some middle →
      Transition.run (next String.length) middle later = some final →
      middle.requests.get? id = some request →
      request.ctx.clientResults.get? clientId = some .deny →
      final.requests.get? id = some ending → result ∈ ending.notified →
        result.mergedAuthStrategy = .deny := by
  intro dominance
  have evaluated : (Transition.run (next String.length) {} earlyDenial).any (fun final =>
      (final.requests.get? 0).any fun request =>
        request.ctx.clientResults.get? "4" = some .deny ∧
          ({ clientAuthResults := [("4", .deny)] } : AuthResult) ∈ request.notified) = true := by
    decide +kernel
  obtain ⟨final, reach, found⟩ := (Option.any_eq_true _ _).mp evaluated
  obtain ⟨request, foundRequest, lost⟩ := (Option.any_eq_true _ _).mp found
  obtain ⟨denial, notified⟩ := of_decide_eq_true lost
  have wrong := dominance earlyDenial [] final final 0 request request "4" _ reach rfl foundRequest
    denial foundRequest notified
  exact AuthStrategy.noConfusion wrong

/-- The only client denies after the task has begun to wait. -/
def timelyDenial : List AuthAction :=
  joinClient 1 7 1 ++ askDecision ++ taskSteps 14 ++ vote 1 1 false

/-- Deny dominance for `timelyDenial`, followed by the rest of its task. -/
theorem denial_is_notified_timely :
    ∃ (middle final : AuthSystem) (request ending : Request) (result : AuthResult),
      Transition.run (next String.length) {} timelyDenial = some middle ∧
        Transition.run (next String.length) middle (taskSteps 6) = some final ∧
        middle.requests.get? 0 = some request ∧ final.requests.get? 0 = some ending ∧
        result ∈ ending.notified ∧ result.mergedAuthStrategy = .deny := by
  have evaluated : (Transition.run (next String.length) {} timelyDenial).any (fun middle =>
      (middle.requests.get? 0).any fun request =>
        request.ctx.clientResults.get? "4" = some .deny ∧
          (Transition.run (next String.length) middle (taskSteps 6)).any fun final =>
            (final.requests.get? 0).any fun ending => ending.notified ≠ []) = true := by
    decide +kernel
  have permitted : Transition.Along (next String.length) ZeroCountMeansNoClient {}
      (timelyDenial ++ taskSteps 6) := by
    decide +kernel
  obtain ⟨middle, reach, found⟩ := (Option.any_eq_true _ _).mp evaluated
  obtain ⟨request, foundRequest, rest⟩ := (Option.any_eq_true _ _).mp found
  obtain ⟨denial, continues⟩ := of_decide_eq_true rest
  obtain ⟨final, continues, found⟩ := (Option.any_eq_true _ _).mp continues
  obtain ⟨ending, foundEnding, some_⟩ := (Option.any_eq_true _ _).mp found
  obtain ⟨result, notified⟩ := List.exists_mem_of_ne_nil _ (of_decide_eq_true some_)
  exact ⟨middle, final, request, ending, result, reach, continues, foundRequest, foundEnding,
    notified, denial_is_notified permitted reach continues foundRequest denial foundEnding
      notified⟩

end AuthSystem

end SecurityGuard
