import SecurityGuard.Auth.Verdict

/-!
# Promises are set once and a decision stays

The answers of the clients, the last answer and the timeout set the same promises.  Each of them
looks first whether the promise was set.  A task that waits for its result ends after a bounded
number of its own steps with one notification, and what was decided by then is not decided
again.
-/

namespace SecurityGuard

namespace RoutingContext

/-- Set promises are marked, none is set twice, and a denial has decided the request. -/
structure Disciplined (ctx : RoutingContext) : Prop where
  once : ∀ clientId promise, ctx.clientPromises.get? clientId = some promise →
    promise.length ≤ 1
  marked : ∀ clientId promise, ctx.clientPromises.get? clientId = some promise →
    promise ≠ [] → ctx.satisfiedClientIds.contains clientId = true
  resultOnce : ctx.resultPromise.length ≤ 1
  resultMarked : ctx.resultPromise ≠ [] → ctx.resultPromiseSatisfied = true
  decided : ctx.mergedAuthStrategy = .deny → ctx.completed = true

theorem disciplined_initial (eventId beginTime : Int) (eventContent : String) :
    Disciplined { eventId, beginTime, eventContent } where
  once := fun _ _ found => nomatch found
  marked := fun _ _ found => nomatch found
  resultOnce := Nat.zero_le _
  resultMarked := fun set => absurd rfl set
  decided := fun denies => nomatch denies

section Disciplined

variable {ctx : RoutingContext} (disciplined : ctx.Disciplined)

include disciplined

theorem Disciplined.registerClient (clientId : String) (strategy : AuthStrategy) :
    (ctx.registerClient clientId strategy).Disciplined where
  once := by
    intro other promise found
    simp only [RoutingContext.registerClient, SortedMap.get?_insert] at found
    split_ifs at found
    · cases found
      exact Nat.zero_le _
    · exact disciplined.once other promise found
  marked := by
    intro other promise found set
    simp only [RoutingContext.registerClient, SortedMap.get?_insert] at found
    split_ifs at found
    · cases found
      exact absurd rfl set
    · exact disciplined.marked other promise found set
  resultOnce := disciplined.resultOnce
  resultMarked := disciplined.resultMarked
  decided := disciplined.decided

/-- The mark is looked at before the promise of a client is set. -/
theorem Disciplined.setClientPromise (clientId : String) (strategy : AuthStrategy) :
    (ctx.setClientPromise clientId strategy).Disciplined := by
  unfold RoutingContext.setClientPromise
  split
  · next unset =>
      have unmarked : ctx.satisfiedClientIds.contains clientId = false := by
        simpa using unset.2
      refine
        { once := ?_
          marked := ?_
          resultOnce := disciplined.resultOnce
          resultMarked := disciplined.resultMarked
          decided := disciplined.decided }
      · intro other promise found
        rw [SortedMap.get?_modify] at found
        split_ifs at found with same
        · obtain ⟨earlier, foundEarlier, rfl⟩ := Option.map_eq_some_iff.mp found
          have fresh : earlier = [] := by
            by_contra set
            rw [disciplined.marked clientId earlier foundEarlier set] at unmarked
            exact Bool.noConfusion unmarked
          simp [fresh]
        · exact disciplined.once other promise found
      · intro other promise found set
        rw [SortedMap.get?_modify] at found
        split_ifs at found with same
        · simp [same]
        · simp [disciplined.marked other promise found set]
  · exact disciplined

theorem Disciplined.satisfyResultPromise : ctx.satisfyResultPromise.Disciplined := by
  unfold RoutingContext.satisfyResultPromise
  split
  · exact disciplined
  · next unmarked =>
      have unset : ctx.resultPromise = [] := by
        by_contra set
        exact unmarked (disciplined.resultMarked set)
      exact
        { once := disciplined.once
          marked := disciplined.marked
          resultOnce := by simp [unset]
          resultMarked := fun _ => rfl
          decided := disciplined.decided }

theorem Disciplined.decide {strategy : AuthStrategy} {completed : Bool}
    (denies : strategy = .deny → completed = true) :
    Disciplined { ctx with mergedAuthStrategy := strategy, completed } where
  once := disciplined.once
  marked := disciplined.marked
  resultOnce := disciplined.resultOnce
  resultMarked := disciplined.resultMarked
  decided := denies

theorem Disciplined.record (clientResults : SortedMap String AuthStrategy) :
    Disciplined { ctx with clientResults } where
  once := disciplined.once
  marked := disciplined.marked
  resultOnce := disciplined.resultOnce
  resultMarked := disciplined.resultMarked
  decided := disciplined.decided

theorem Disciplined.decrementCounters (clientId : String) :
    (ctx.decrementCounters clientId).Disciplined where
  once := disciplined.once
  marked := disciplined.marked
  resultOnce := disciplined.resultOnce
  resultMarked := disciplined.resultMarked
  decided := disciplined.decided

theorem Disciplined.evaluateStrictPolicy (strategy : AuthStrategy) :
    (ctx.evaluateStrictPolicy strategy).Disciplined := by
  unfold RoutingContext.evaluateStrictPolicy
  split_ifs
  · exact (disciplined.decide fun _ => rfl).satisfyResultPromise
  · exact (disciplined.decide fun _ => rfl).satisfyResultPromise
  · exact disciplined

theorem Disciplined.recordClientResult (clientId : String) (strategy : AuthStrategy) :
    (ctx.recordClientResult clientId strategy).Disciplined := by
  unfold RoutingContext.recordClientResult
  split
  · exact disciplined
  · exact (((disciplined.record _).setClientPromise clientId strategy).decrementCounters
      clientId).evaluateStrictPolicy strategy

theorem Disciplined.handleTimeoutClient (clientId : String) (strategy : AuthStrategy) :
    (ctx.handleTimeoutClient clientId strategy).Disciplined := by
  unfold RoutingContext.handleTimeoutClient
  split
  · have recorded := disciplined.record (ctx.clientResults.insert clientId .deny)
    have decided := recorded.decide fun _ : AuthStrategy.deny = .deny => rfl
    exact decided.setClientPromise clientId strategy
  · exact (disciplined.record _).setClientPromise clientId strategy

theorem Disciplined.handleTimeout : ctx.handleTimeout.1.Disciplined :=
  handleTimeout_invariant
    (fun _ clientId strategy _ _ kept => kept.handleTimeoutClient clientId strategy)
    (fun _ _ kept => kept.decide fun _ => rfl)
    (fun _ kept => kept.satisfyResultPromise) disciplined

end Disciplined

/-- What was decided and answered stays. -/
def Settles (before after : RoutingContext) : Prop :=
  before.completed = true →
    after.completed = true ∧
      (before.mergedAuthStrategy = .deny → after.mergedAuthStrategy = .deny) ∧
        ∀ clientId strategy, before.clientResults.get? clientId = some strategy →
          after.clientResults.get? clientId = some strategy

theorem Settles.refl (ctx : RoutingContext) : ctx.Settles ctx :=
  fun completed => ⟨completed, id, fun _ _ found => found⟩

theorem Settles.trans {first second third : RoutingContext} (left : first.Settles second)
    (right : second.Settles third) : first.Settles third := by
  intro completed
  obtain ⟨completed, denies, results⟩ := left completed
  obtain ⟨completed, denies', results'⟩ := right completed
  exact ⟨completed, fun denied => denies' (denies denied),
    fun clientId strategy found => results' clientId strategy (results clientId strategy found)⟩

theorem settles_recordClientResult (ctx : RoutingContext) (clientId : String)
    (strategy : AuthStrategy) : ctx.Settles (ctx.recordClientResult clientId strategy) := by
  intro completed
  rw [recordClientResult_of_completed clientId strategy completed]
  exact Settles.refl ctx completed

theorem settles_handleTimeout (ctx : RoutingContext) : ctx.Settles ctx.handleTimeout.1 :=
  fun completed => ⟨handleTimeout_completed ctx,
    fun denies => (handleTimeout_keeps_deny completed denies).2,
    fun _ _ found => handleTimeout_keeps_result found⟩

end RoutingContext

/-- The steps of a task from the beginning of its wait. -/
def Stage.Waited : Stage → Prop
  | .wait | .handleTimeout | .build | .clean _ _ | .notify _ | .release | .finished => True
  | _ => False

/-- The steps of a task that has its result. -/
def Stage.Ending : Stage → Prop
  | .build | .clean _ _ | .notify _ | .release | .finished => True
  | _ => False

theorem Stage.Ending.waited {stage : Stage} (ending : stage.Ending) : stage.Waited := by
  cases stage <;> trivial

theorem Stage.Early.not_waited {stage : Stage} (early : stage.Early) : ¬ stage.Waited := by
  cases stage <;> first | exact early.elim | exact False.elim

/-- How often a task that has waited has notified. -/
def Stage.notices : Stage → Nat
  | .release | .finished => 1
  | _ => 0

/-- How many steps a task that has waited takes at most. -/
def Request.stepsLeft (request : Request) : Nat :=
  match request.stage with
  | .wait => request.routes.length + 6
  | .handleTimeout => request.routes.length + 5
  | .build => request.routes.length + 4
  | .clean routes _ => routes.length + 3
  | .notify _ => 2
  | .release => 1
  | _ => 0

/-- What holds of a request before it is decided. -/
structure Request.Prompt (request : Request) : Prop where
  disciplined : request.ctx.Disciplined
  unnotified : request.stage ≠ .release → request.stage ≠ .finished → request.notified = []
  unhandled : ¬ request.stage.Ending → request.timeoutHandled = false

/-- The course of a request that has waited, over some steps of its task. -/
structure Request.Continues (steps : Nat) (request later : Request) : Prop where
  waited : later.stage.Waited
  settles : request.ctx.Settles later.ctx
  handled : request.timeoutHandled = true → later.timeoutHandled = true
  results : later.timeoutHandled = request.timeoutHandled → request.ctx.completed = true →
    later.ctx.clientResults = request.ctx.clientResults
  budget : steps + later.stepsLeft ≤ request.stepsLeft
  notices : request.notified.length = request.stage.notices →
    later.notified.length = later.stage.notices

namespace Request

theorem Continues.refl {request : Request} (waited : request.stage.Waited) :
    request.Continues 0 request where
  waited := waited
  settles := .refl _
  handled := id
  results := fun _ _ => rfl
  budget := by omega
  notices := id

theorem Continues.trans {first second third : Request} {steps more : Nat}
    (left : first.Continues steps second) (right : second.Continues more third) :
    first.Continues (steps + more) third where
  waited := right.waited
  settles := left.settles.trans right.settles
  handled := fun handled => right.handled (left.handled handled)
  results := by
    intro same completed
    have middle : second.timeoutHandled = first.timeoutHandled := by
      cases start : first.timeoutHandled with
      | true => exact left.handled start
      | false =>
          by_contra changed
          rw [Bool.not_eq_false] at changed
          rw [right.handled changed, start] at same
          exact Bool.noConfusion same
    have last := right.results (same.trans middle.symm) (left.settles completed).1
    exact last.trans (left.results middle completed)
  budget := by
    have := left.budget
    have := right.budget
    omega
  notices := fun once => right.notices (left.notices once)

theorem Continues.recorded {request : Request} (waited : request.stage.Waited)
    (clientId : String) (strategy : AuthStrategy) :
    request.Continues 0
      { request with ctx := request.ctx.recordClientResult clientId strategy } where
  waited := waited
  settles := RoutingContext.settles_recordClientResult _ _ _
  handled := id
  results := by
    intro _ completed
    rw [RoutingContext.recordClientResult_of_completed clientId strategy completed]
  budget := by
    rw [Nat.zero_add]
    exact Nat.le_refl _
  notices := id

theorem Continues.of_same {request later : Request} (ctx : later.ctx = request.ctx)
    (handled : later.timeoutHandled = request.timeoutHandled) (waited : later.stage.Waited)
    (budget : later.stepsLeft + 1 ≤ request.stepsLeft)
    (notices : request.notified.length = request.stage.notices →
      later.notified.length = later.stage.notices) : request.Continues 1 later where
  waited := waited
  settles := ctx ▸ .refl _
  handled := fun before => handled.trans before
  results := fun _ _ => by rw [ctx]
  budget := by omega
  notices := notices

theorem prompt_requested (provider : Address) (event : AuthEventInfo)
    (resultCallback : Option Address) : Request.Prompt { provider, event, resultCallback } where
  disciplined := RoutingContext.disciplined_initial 0 0 ""
  unnotified := fun _ _ => rfl
  unhandled := fun _ => rfl

theorem Prompt.of_open {request later : Request} (prompt : request.Prompt)
    (waiting : ¬ request.stage.Ending) (disciplined : later.ctx.Disciplined)
    (notified : later.notified = request.notified)
    (handled : later.timeoutHandled = request.timeoutHandled) : later.Prompt where
  disciplined := disciplined
  unnotified := by
    intro _ _
    rw [notified]
    refine prompt.unnotified ?_ ?_
    · intro stage
      exact waiting (by simp [stage, Stage.Ending])
    · intro stage
      exact waiting (by simp [stage, Stage.Ending])
  unhandled := fun _ => handled.trans (prompt.unhandled waiting)

theorem disciplined_registerNormalClient {hash : String → Nat} {coordinator : AuthCoordinator}
    {id : RequestId} {request : Request} {session : Address} {object : AuthEventSessionService}
    {todo : List Address} {phase : RegisterPhase} (disciplined : request.ctx.Disciplined) :
    (request.registerNormalClient hash coordinator id session object todo phase).2.ctx.Disciplined
    := by
  cases phase with
  | context seqnum => exact disciplined.registerClient _ _
  | countSent | countDeny | record =>
      exact ⟨disciplined.once, disciplined.marked, disciplined.resultOnce,
        disciplined.resultMarked, disciplined.decided⟩
  | generate | route => exact disciplined

end Request

namespace TaskStep

variable {hash : String → Nat} {coordinator after : AuthCoordinator} {id : RequestId}
  {request later : Request}

theorem keeps_prompt (taken : TaskStep hash coordinator id request after later)
    (prompt : request.Prompt) : later.Prompt := by
  have waiting {stage : Stage} (same : request.stage = stage) (notEnding : ¬ stage.Ending) :
      ¬ request.stage.Ending := same ▸ notEnding
  cases taken with
  | early _ start =>
      exact prompt.of_open (fun ending => start.not_waited ending.waited) prompt.disciplined rfl rfl
  | opened now stage =>
      exact prompt.of_open (waiting stage False.elim)
        (RoutingContext.disciplined_initial _ _ _) rfl rfl
  | fallback stage | subscribed stage | dispatched stage | skipped stage | degraded stage
  | chosen stage | pushed stage | noneSent stage | someSent stage | timedOut stage
  | promised stage | noClientResult stage =>
      exact prompt.of_open (waiting stage False.elim) prompt.disciplined rfl rfl
  | @registered _ _ phase _ stage =>
      refine prompt.of_open (waiting stage False.elim)
        (Request.disciplined_registerNormalClient prompt.disciplined) ?_ ?_
      · cases phase <;> rfl
      · cases phase <;> rfl
  | noClient stage =>
      have kept : RoutingContext.Disciplined { request.ctx with mergedAuthStrategy := .allow } :=
        prompt.disciplined.decide fun denies => nomatch denies
      exact prompt.of_open (waiting stage False.elim) kept rfl rfl
  | timeoutHandled stage =>
      refine ⟨prompt.disciplined.handleTimeout, ?_, fun open_ => absurd trivial open_⟩
      intro _ _
      exact prompt.unnotified (by simp [stage]) (by simp [stage])
  | built stage | cleaned stage | cleanedAll stage =>
      refine ⟨prompt.disciplined, ?_, fun open_ => absurd trivial open_⟩
      intro _ _
      exact prompt.unnotified (by simp [stage]) (by simp [stage])
  | notified | released =>
      exact ⟨prompt.disciplined, by simp [Request.withStage, Request.notifyAuthResult],
        fun open_ => absurd trivial open_⟩

/-- One step of a task that has waited. -/
theorem continues (taken : TaskStep hash coordinator id request after later)
    (prompt : request.Prompt) (waited : request.stage.Waited) : request.Continues 1 later := by
  have left {stage : Stage} (same : request.stage = stage) (other : ¬ stage.Waited) : False :=
    other (same ▸ waited)
  cases taken with
  | early _ start => exact absurd waited start.not_waited
  | opened _ stage | fallback stage | subscribed stage | dispatched stage | skipped stage
  | degraded stage | chosen stage | registered stage | pushed stage | noneSent stage
  | someSent stage | noClient stage | noClientResult stage => exact (left stage False.elim).elim
  | timedOut stage =>
      refine .of_same rfl rfl trivial ?_ ?_
      · simp [Request.stepsLeft, stage, Request.withStage, Request.routes]
      · simp [stage, Request.withStage, Stage.notices]
  | promised stage =>
      refine .of_same rfl rfl trivial ?_ ?_
      · simp [Request.stepsLeft, stage, Request.withStage, Request.routes]
      · simp [stage, Request.withStage, Stage.notices]
  | timeoutHandled stage =>
      have before : request.timeoutHandled = false :=
        prompt.unhandled (by simp [stage, Stage.Ending])
      exact
        { waited := trivial
          settles := RoutingContext.settles_handleTimeout _
          handled := fun _ => rfl
          results := by
            intro same _
            have clash : false = true := before.symm.trans same.symm
            exact Bool.noConfusion clash
          budget := by
            simp only [Request.stepsLeft, stage, Request.routes]
            omega
          notices := by simp [stage, Stage.notices] }
  | built stage =>
      refine .of_same rfl rfl trivial ?_ ?_
      · simp [Request.stepsLeft, stage, Request.withStage]
      · simp [stage, Request.withStage, Stage.notices]
  | cleaned stage =>
      refine .of_same rfl rfl trivial ?_ ?_
      · simp only [Request.stepsLeft, stage, Request.withStage, List.length_cons]
        omega
      · simp [stage, Request.withStage, Stage.notices]
  | cleanedAll stage =>
      refine .of_same rfl rfl trivial ?_ ?_
      · simp [Request.stepsLeft, stage, Request.withStage]
      · simp [stage, Request.withStage, Stage.notices]
  | notified stage =>
      refine .of_same rfl rfl trivial ?_ ?_
      · simp [Request.stepsLeft, stage, Request.notifyAuthResult]
      · simp [stage, Request.notifyAuthResult, Stage.notices]
  | released _ stage =>
      refine .of_same rfl rfl trivial ?_ ?_
      · simp [Request.stepsLeft, stage, Request.withStage]
      · simp [stage, Request.withStage, Stage.notices]

end TaskStep

/-! ## Runs -/

namespace AuthSystem

variable {hash : String → Nat} {before after : AuthSystem} {action : AuthAction}

/-- Every request is prompt. -/
def Prompt (system : AuthSystem) : Prop :=
  ∀ id request, system.requests.get? id = some request → request.Prompt

theorem prompt_initial : Prompt {} := by
  intro id request found
  cases found

theorem Prompt.step (prompt : before.Prompt) (step : Step hash before action after) :
    after.Prompt := by
  intro target entry found
  cases step with
  | environment _ requests => exact prompt target entry (requests ▸ found)
  | requested =>
      rcases SortedMap.get?_insert_eq_some.mp found with ⟨_, rfl⟩ | ⟨_, found⟩
      · exact Request.prompt_requested _ _ _
      · exact prompt target entry found
  | @task id now request later coordinator owner taken =>
      rcases SortedMap.get?_insert_eq_some.mp found with ⟨_, rfl⟩ | ⟨_, found⟩
      · exact taken.keeps_prompt (prompt id request owner)
      · exact prompt target entry found
  | routed => exact prompt target entry found
  | @recorded _ _ id request _ _ _ owner =>
      rcases SortedMap.get?_insert_eq_some.mp found with ⟨_, rfl⟩ | ⟨_, found⟩
      · have kept := prompt id request owner
        exact ⟨kept.disciplined.recordClientResult _ _, kept.unnotified, kept.unhandled⟩
      · exact prompt target entry found

theorem prompt_of_run {final : AuthSystem} {actions : List AuthAction}
    (reach : Transition.run (next hash) {} actions = some final) : final.Prompt :=
  Transition.run_stable (fun prompt taken => prompt.step (next_cases taken)) prompt_initial reach

/-- One step of the service continues every request that has waited. -/
theorem continues_of_next (prompt : before.Prompt) (taken : next hash before action = some after)
    {id : RequestId} {request : Request} (found : before.requests.get? id = some request)
    (waited : request.stage.Waited) :
    ∃ later, after.requests.get? id = some later ∧
      request.Continues (if action.task? = some id then 1 else 0) later := by
  have kept : request.Continues 0 request := .refl waited
  by_cases task : ∃ owner now, action = .task owner now
  · obtain ⟨owner, now, rfl⟩ := task
    obtain ⟨own, coordinator, later, foundOwn, body, rfl⟩ := next_task taken
    by_cases same : id = owner
    · subst same
      cases found.symm.trans foundOwn
      refine ⟨later, by simp, ?_⟩
      have mine : (AuthAction.task id now).task? = some id := rfl
      rw [if_pos mine]
      exact (Request.taskStep_cases body).continues (prompt id request found) waited
    · refine ⟨request, by simp [same, found], ?_⟩
      have others : (AuthAction.task owner now).task? ≠ some id :=
        fun equal => same (Option.some.inj equal).symm
      rw [if_neg others]
      exact kept
  · have other : action.task? ≠ some id := by
      intro equal
      cases action with
      | task owner now => exact task ⟨owner, now, rfl⟩
      | _ => cases equal
    rw [if_neg other]
    cases next_cases taken with
    | environment _ requests => exact ⟨request, requests ▸ found, kept⟩
    | requested fresh =>
        refine ⟨request, ?_, kept⟩
        rw [SortedMap.get?_insert, if_neg]
        · exact found
        · rintro rfl
          rw [fresh] at found
          cases found
    | task => exact absurd ⟨_, _, rfl⟩ task
    | routed => exact ⟨request, found, kept⟩
    | @recorded _ answer owner target _ _ _ foundTarget =>
        by_cases same : id = owner
        · subst same
          cases found.symm.trans foundTarget
          exact ⟨_, SortedMap.get?_insert_self _ _ _, .recorded waited _ _⟩
        · exact ⟨request, by simp [same, found], kept⟩

/-- A run continues every request that has waited. -/
theorem continues_of_run {id : RequestId} {actions : List AuthAction} {final : AuthSystem}
    (prompt : before.Prompt) (reach : Transition.run (next hash) before actions = some final)
    {request : Request} (found : before.requests.get? id = some request)
    (waited : request.stage.Waited) :
    ∃ ending, final.requests.get? id = some ending ∧
      request.Continues (actions.countP fun action => action.task? = some id) ending := by
  induction actions generalizing before request with
  | nil =>
      obtain rfl : before = final := Option.some.inj reach
      exact ⟨request, found, .refl waited⟩
  | cons action actions ih =>
      obtain ⟨middle, taken, rest⟩ := Transition.run_cons_eq_some.mp reach
      obtain ⟨later, foundLater, first⟩ := continues_of_next prompt taken found waited
      obtain ⟨ending, foundEnding, others⟩ :=
        ih (prompt.step (next_cases taken)) rest foundLater first.waited
      refine ⟨ending, foundEnding, ?_⟩
      have both := first.trans others
      rw [Nat.add_comm] at both
      simpa [List.countP_cons] using both

/-- A task that has waited and not finished can take its next step. -/
theorem waited_enabled {id : RequestId} {request : Request}
    (found : before.requests.get? id = some request) (waited : request.stage.Waited)
    (unfinished : request.stage ≠ .finished) (now : Int) :
    (next hash before (.task id now)).isSome = true := by
  have enabled : (request.taskStep hash before.coordinator id now).isSome = true := by
    unfold Request.taskStep
    cases stage : request.stage with
    | wait => simp only; split <;> rfl
    | clean routes result => cases routes <;> rfl
    | handleTimeout | build | notify | release => rfl
    | finished => exact absurd stage unfinished
    | _ =>
        rw [stage] at waited
        exact waited.elim
  obtain ⟨⟨coordinator, later⟩, step⟩ := Option.isSome_iff_exists.mp enabled
  simp [next, found, step]

/-- What the course of a request from the beginning of its wait comes to. -/
structure KeepsPromises (id : RequestId) (waiting current ending : Request)
    (actions : List AuthAction) : Prop where
  clientPromises : ∀ clientId promise,
    ending.ctx.clientPromises.get? clientId = some promise → promise.length ≤ 1
  resultPromise : ending.ctx.resultPromise.length ≤ 1
  notifiedOnce : ending.notified.length ≤ 1
  notified : ending.stage = .finished → ending.notified.length = 1
  ends : (actions.countP fun action => action.task? = some id) ≤ waiting.routes.length + 6
  denied : current.ctx.mergedAuthStrategy = .deny → ending.ctx.mergedAuthStrategy = .deny
  results : current.ctx.completed = true → ∀ clientId strategy,
    current.ctx.clientResults.get? clientId = some strategy →
      ending.ctx.clientResults.get? clientId = some strategy
  frozen : current.ctx.completed = true → ending.timeoutHandled = current.timeoutHandled →
    ending.ctx.clientResults = current.ctx.clientResults

/-- Promise discipline and frozen verdict: from the moment a request waits, in every run, no
promise is set twice, its task ends after a bounded number of steps, each of which is enabled,
with one notification, a denial stays, and the results of a completed request stay except that
the timeout adds results of clients without one. -/
theorem promises_are_kept {front first second : List AuthAction}
    {waiting middle final : AuthSystem} {id : RequestId} {request current ending : Request}
    (reach : Transition.run (next hash) {} front = some waiting)
    (found : waiting.requests.get? id = some request) (waits : request.stage = .wait)
    (continues : Transition.run (next hash) waiting first = some middle)
    (foundCurrent : middle.requests.get? id = some current)
    (ends : Transition.run (next hash) middle second = some final)
    (foundEnding : final.requests.get? id = some ending) :
    KeepsPromises id request current ending (first ++ second) ∧
      (ending.stage ≠ .finished → ∀ now, (next hash final (.task id now)).isSome = true) := by
  have prompt : waiting.Prompt := prompt_of_run reach
  have waited : request.stage.Waited := by rw [waits]; trivial
  have unnotified : request.notified.length = request.stage.notices := by
    have none := (prompt id request found).unnotified (by simp [waits]) (by simp [waits])
    simp [none, waits, Stage.notices]
  have promptMiddle : middle.Prompt :=
    Transition.run_stable (fun prompt taken => prompt.step (next_cases taken)) prompt continues
  have promptFinal : final.Prompt :=
    Transition.run_stable (fun prompt taken => prompt.step (next_cases taken)) promptMiddle ends
  obtain ⟨later, foundLater, earlier⟩ := continues_of_run prompt continues found waited
  cases foundCurrent.symm.trans foundLater
  obtain ⟨later, foundLater, last⟩ :=
    continues_of_run promptMiddle ends foundCurrent earlier.waited
  cases foundEnding.symm.trans foundLater
  have whole := earlier.trans last
  have disciplined := (promptFinal id ending foundEnding).disciplined
  have notices : ending.notified.length = ending.stage.notices := whole.notices unnotified
  have completed := (promptMiddle id current foundCurrent).disciplined.decided
  refine ⟨?_, fun unfinished now => waited_enabled foundEnding last.waited unfinished now⟩
  exact
    { clientPromises := disciplined.once
      resultPromise := disciplined.resultOnce
      notifiedOnce := by
        rw [notices]
        cases ending.stage <;> simp [Stage.notices]
      notified := by
        intro finished
        rw [notices, finished, Stage.notices]
      ends := by
        have budget := whole.budget
        simp only [Request.stepsLeft, waits] at budget
        rw [List.countP_append]
        omega
      denied := fun denies => (last.settles (completed denies)).2.1 denies
      results := fun completed => (last.settles completed).2.2
      frozen := fun completed same => last.results same completed }

/-- A request waits, times out while its only client answers, and ends. -/
def lateAnswer : List AuthAction := vote 1 1 true ++ taskSteps 6

/-- The promises are kept when the last answer overtakes the timeout. -/
theorem promises_are_kept_late :
    ∃ waiting middle final request current ending,
      Transition.run (next String.length) {} (joinClient 1 7 1 ++ askDecision ++ taskSteps 14) =
          some waiting ∧
        waiting.requests.get? 0 = some request ∧
          Transition.run (next String.length) waiting (taskSteps 1) = some middle ∧
            middle.requests.get? 0 = some current ∧
              Transition.run (next String.length) middle lateAnswer = some final ∧
                final.requests.get? 0 = some ending ∧ ending.stage = .finished ∧
                  KeepsPromises 0 request current ending (taskSteps 1 ++ lateAnswer) := by
  have evaluated : (Transition.run (next String.length) {}
      (joinClient 1 7 1 ++ askDecision ++ taskSteps 14)).any (fun waiting =>
        (waiting.requests.get? 0).any fun request => request.stage = .wait ∧
          (Transition.run (next String.length) waiting (taskSteps 1)).any fun middle =>
            (middle.requests.get? 0).any fun _ =>
              (Transition.run (next String.length) middle lateAnswer).any fun final =>
                (final.requests.get? 0).any fun ending => ending.stage = .finished) = true := by
    decide +kernel
  obtain ⟨waiting, reach, found⟩ := (Option.any_eq_true _ _).mp evaluated
  obtain ⟨request, foundRequest, found⟩ := (Option.any_eq_true _ _).mp found
  obtain ⟨waits, found⟩ := of_decide_eq_true found
  obtain ⟨middle, continues, found⟩ := (Option.any_eq_true _ _).mp found
  obtain ⟨current, foundCurrent, found⟩ := (Option.any_eq_true _ _).mp found
  obtain ⟨final, ends, found⟩ := (Option.any_eq_true _ _).mp found
  obtain ⟨ending, foundEnding, finished⟩ := (Option.any_eq_true _ _).mp found
  exact ⟨waiting, middle, final, request, current, ending, reach, foundRequest, continues,
    foundCurrent, ends, foundEnding, of_decide_eq_true finished,
    (promises_are_kept reach foundRequest waits continues foundCurrent ends foundEnding).1⟩

end AuthSystem

end SecurityGuard
