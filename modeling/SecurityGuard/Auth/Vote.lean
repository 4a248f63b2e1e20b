import SecurityGuard.Auth.Invariant

/-!
# ALLOW needs every vote

A request is allowed when its counter of outstanding answers reaches zero.  The counter stands
for the clients without a result only as long as each client moves it once and no answer comes
while clients are still being registered.  In every run whose answers do so, a request that is
allowed before its timeout has the ALLOW of every client that is ever registered for it.
-/

namespace SecurityGuard

/-- Before or inside the registration of a client. -/
def Stage.registering : Stage → Bool
  | .requested | .lookup | .start | .subscribed | .register _ _ _ => true
  | _ => false

/-- A client that is counted and not yet recorded. -/
def Stage.uncounted : Stage → Nat
  | .register _ .countDeny _ | .register _ .generate _ | .register _ (.record _) _ => 1
  | _ => 0

/-- No client will be registered any more: those left are degraded or no longer valid. -/
def Request.RegistrationOver (manager : AuthEventSubscribeManager) (request : Request) : Prop :=
  request.stage.registering = false ∧
    ∀ session ∈ request.stage.sessions, ∀ object ∈ manager.sessionObjects.get? session,
      object.valid = false ∨ request.event.degraded object.clientId = true

instance (manager : AuthEventSubscribeManager) (request : Request) :
    Decidable (request.RegistrationOver manager) :=
  inferInstanceAs (Decidable (_ ∧ ∀ session ∈ request.stage.sessions,
    ∀ object ∈ manager.sessionObjects.get? session, _))

/-- An ALLOW for a request that is not completed is the first answer of its client, and the last
one outstanding comes when the registration is over. -/
def Answer.OnceAndInTime (manager : AuthEventSubscribeManager) (request : Request)
    (answer : Answer) : Prop :=
  answer.strategy = .allow → request.ctx.completed = false →
    request.ctx.clientResults.contains answer.clientId = false ∧
      (request.ctx.sentClientCount ≤ 1 → request.RegistrationOver manager)

instance (manager : AuthEventSubscribeManager) (request : Request) (answer : Answer) :
    Decidable (answer.OnceAndInTime manager request) :=
  inferInstanceAs (Decidable (_ → _ → _ ∧ (_ → request.RegistrationOver manager)))

/-- Every answer that is recorded comes once and in time. -/
def AnswersOnceAndInTime (system : AuthSystem) (action : AuthAction) : Prop :=
  ∀ answerId ∈ action.answer?, ∀ answer ∈ system.answers.get? answerId,
    ∀ id ∈ answer.target?, ∀ request ∈ system.requests.get? id,
      answer.OnceAndInTime system.coordinator.manager request

instance (system : AuthSystem) (action : AuthAction) :
    Decidable (AnswersOnceAndInTime system action) :=
  inferInstanceAs (Decidable (∀ answerId ∈ action.answer?,
    ∀ answer ∈ system.answers.get? answerId, ∀ id ∈ answer.target?,
      ∀ request ∈ system.requests.get? id, _))

/-- Until the request is completed the counter stands for the clients without a result. -/
structure Request.Counted (request : Request) : Prop where
  counts : request.ctx.completed = false →
    request.ctx.sentClientCount + request.ctx.clientResults.size =
      request.clientIds.length + request.stage.uncounted
  allowed : request.ctx.completed = false → ∀ clientId strategy,
    request.ctx.clientResults.get? clientId = some strategy → strategy = .allow

theorem Answer.strategy_cases (answer : Answer) :
    answer.strategy = .allow ∨ answer.strategy = .deny := by
  simp only [Answer.strategy]
  split
  · exact .inl rfl
  · exact .inr rfl

namespace Request

theorem counted_requested (provider : Address) (event : AuthEventInfo)
    (resultCallback : Option Address) :
    Request.Counted { provider, event, resultCallback } where
  counts := fun _ => rfl
  allowed := fun _ _ _ found => absurd found (by simp)

theorem Counted.of_same {request later : Request} (counted : request.Counted)
    (sent : later.ctx.sentClientCount = request.ctx.sentClientCount)
    (results : later.ctx.clientResults = request.ctx.clientResults)
    (completed : later.ctx.completed = request.ctx.completed)
    (clientIds : later.clientIds = request.clientIds)
    (uncounted : later.stage.uncounted = request.stage.uncounted) : later.Counted where
  counts := by
    rw [sent, results, completed, clientIds, uncounted]
    exact counted.counts
  allowed := by
    rw [results, completed]
    exact counted.allowed

theorem counted_of_completed {request : Request} (completed : request.ctx.completed = true) :
    request.Counted where
  counts := by simp [completed]
  allowed := by simp [completed]

/-- Each statement of a registration keeps the count. -/
theorem Counted.registerNormalClient {hash : String → Nat} {coordinator : AuthCoordinator}
    {id : RequestId} {request : Request} {session : Address} {object : AuthEventSessionService}
    {phase : RegisterPhase} {todo : List Address} (counted : request.Counted)
    (stage : request.stage = .register session phase todo) :
    (request.registerNormalClient hash coordinator id session object todo phase).2.Counted := by
  cases phase with
  | countSent =>
      refine ⟨fun pending => ?_, counted.allowed⟩
      have counts := counted.counts pending
      simp only [stage, Stage.uncounted] at counts
      simp only [Request.registerNormalClient, Stage.uncounted]
      omega
  | record seqnum =>
      refine ⟨fun pending => ?_, counted.allowed⟩
      have counts := counted.counts pending
      simp only [stage, Stage.uncounted] at counts
      simp only [Request.registerNormalClient, Stage.uncounted, List.length_append,
        List.length_singleton]
      omega
  | countDeny | generate | context | route =>
      exact counted.of_same rfl rfl rfl rfl (by simp [stage]; rfl)

/-- One more result of a registered client still fits among the clients. -/
theorem size_lt_of_pending {manager : AuthEventSubscribeManager} {request : Request}
    (registered : request.Registered manager) {clientId : String}
    (mem : clientId ∈ request.clientIds)
    (first : request.ctx.clientResults.contains clientId = false) :
    request.ctx.clientResults.size < request.clientIds.length := by
  have within (key : String)
      (bound : (request.ctx.clientResults.insert clientId .allow).contains key = true) :
      key ∈ request.clientIds := by
    rw [SortedMap.contains_insert, Bool.or_eq_true, decide_eq_true_iff] at bound
    rcases bound with rfl | bound
    · exact mem
    · exact registered.resultKeys key bound
  have size := SortedMap.size_le_of_keys_subset within
  rw [SortedMap.size_insert_of_fresh _ first] at size
  exact size

/-- A first answer in time keeps the count. -/
theorem Counted.recorded {manager : AuthEventSubscribeManager} {request : Request}
    (counted : request.Counted) (registered : request.Registered manager) {answer : Answer}
    (mem : answer.clientId ∈ request.clientIds) (once : answer.OnceAndInTime manager request) :
    Counted
      { request with
        ctx := request.ctx.recordClientResult answer.clientId answer.strategy } := by
  cases completed : request.ctx.completed with
  | true =>
      rw [RoutingContext.recordClientResult_of_completed _ _ completed]
      exact counted
  | false =>
      rcases answer.strategy_cases with allow | deny
      · obtain ⟨first, -⟩ := once allow completed
        have fits := size_lt_of_pending registered mem first
        have counts := counted.counts completed
        refine ⟨fun _ => ?_, fun _ clientId strategy found => ?_⟩
        · rw [RoutingContext.recordClientResult_sentClientCount _ _ completed,
            RoutingContext.recordClientResult_clientResults _ _ completed,
            SortedMap.size_insert_of_fresh _ first]
          change _ = request.clientIds.length + request.stage.uncounted
          omega
        · rw [RoutingContext.recordClientResult_clientResults _ _ completed,
            SortedMap.get?_insert] at found
          split_ifs at found
          · exact (Option.some.inj found).symm.trans allow
          · exact counted.allowed completed clientId strategy found
      · exact counted_of_completed (deny ▸ (RoutingContext.recordClientResult_deny completed).1)

/-- No client will be registered any more and all that are have answered ALLOW. -/
structure AllowedByAll (manager : AuthEventSubscribeManager) (request : Request) : Prop where
  completed : request.ctx.completed = true
  closed : request.RegistrationOver manager
  allowed : ∀ clientId ∈ request.clientIds,
    request.ctx.clientResults.get? clientId = some .allow

/-- The ALLOW that completes a request is the last one. -/
theorem Counted.allowedByAll {manager : AuthEventSubscribeManager} {request : Request}
    (counted : request.Counted) (registered : request.Registered manager) {answer : Answer}
    (mem : answer.clientId ∈ request.clientIds) (once : answer.OnceAndInTime manager request)
    (pending : request.ctx.completed = false) (allow : answer.strategy = .allow)
    (completes :
      (request.ctx.recordClientResult answer.clientId answer.strategy).completed = true) :
    AllowedByAll manager
      { request with
        ctx := request.ctx.recordClientResult answer.clientId answer.strategy } := by
  obtain ⟨first, last⟩ := once allow pending
  have one : request.ctx.sentClientCount ≤ 1 :=
    RoutingContext.recordClientResult_completes pending (by simp [allow]) completes
  have closed := last one
  have recorded := RoutingContext.recordClientResult_clientResults answer.clientId answer.strategy
    pending
  have full : request.clientIds.length ≤
      (request.ctx.clientResults.insert answer.clientId answer.strategy).size := by
    have counts := counted.counts pending
    rw [SortedMap.size_insert_of_fresh _ first]
    omega
  have within (key : String)
      (bound : (request.ctx.clientResults.insert answer.clientId answer.strategy).contains key =
        true) : key ∈ request.clientIds := by
    rw [SortedMap.contains_insert, Bool.or_eq_true, decide_eq_true_iff] at bound
    rcases bound with rfl | bound
    · exact mem
    · exact registered.resultKeys key bound
  refine ⟨completes, closed, fun clientId client => ?_⟩
  obtain ⟨strategy, found⟩ :=
    SortedMap.contains_iff.mp (SortedMap.contains_of_length_le within full client)
  rw [recorded, found]
  rw [SortedMap.get?_insert] at found
  split_ifs at found
  · exact found ▸ congrArg some allow
  · exact congrArg some (counted.allowed pending clientId strategy found)

theorem RegistrationOver.mono {before after : AuthEventSubscribeManager} {request : Request}
    (closed : request.RegistrationOver before) (registered : request.Registered before)
    (grows : before.Extends after) : request.RegistrationOver after := by
  refine ⟨closed.1, fun session mem later foundLater => ?_⟩
  obtain ⟨object, found⟩ := registered.known session mem
  obtain ⟨holder, foundHolder, same, fades⟩ := grows session object found
  obtain rfl : holder = later := Option.some.inj (foundHolder.symm.trans foundLater)
  rw [same]
  refine (closed.2 session mem object found).imp_left fun invalid => ?_
  cases valid : holder.valid with
  | false => rfl
  | true => exact absurd (fades valid) (by simp [invalid])

theorem AllowedByAll.mono {before after : AuthEventSubscribeManager} {request : Request}
    (allowed : request.AllowedByAll before) (registered : request.Registered before)
    (grows : before.Extends after) : request.AllowedByAll after :=
  ⟨allowed.completed, allowed.closed.mono registered grows, allowed.allowed⟩

theorem RegistrationOver.of_subset {manager : AuthEventSubscribeManager} {request later : Request}
    (closed : request.RegistrationOver manager) (event : later.event = request.event)
    (registering : later.stage.registering = false)
    (fewer : ∀ session ∈ later.stage.sessions, session ∈ request.stage.sessions) :
    later.RegistrationOver manager := by
  refine ⟨registering, fun session mem object found => ?_⟩
  rw [event]
  exact closed.2 session (fewer session mem) object found

end Request

namespace TaskStep

variable {hash : String → Nat} {coordinator after : AuthCoordinator} {id : RequestId}
  {request later : Request}

/-- A task's step keeps the count. -/
theorem keeps_counted (taken : TaskStep hash coordinator id request after later)
    (registered : request.Registered coordinator.manager) (counted : request.Counted) :
    later.Counted := by
  cases taken with
  | @early _ stage _ early later =>
      refine counted.of_same rfl rfl rfl rfl ?_
      have none (stage : Stage) (quiet : stage.Early ∨ stage = .finished) :
          stage.uncounted = 0 := by
        rcases quiet with quiet | rfl
        · cases stage <;> first | rfl | exact quiet.elim
        · rfl
      exact (none stage later).trans (none request.stage (.inl early)).symm
  | opened now stage =>
      have noClients : request.clientIds = [] := registered.early (by simp [stage, Stage.Early])
      exact
        { counts := fun _ => by simp [Request.openContext, noClients, Stage.uncounted]
          allowed := fun _ _ _ found => absurd found (by simp [Request.openContext]) }
  | registered stage found => exact counted.registerNormalClient stage
  | timeoutHandled => exact Request.counted_of_completed (RoutingContext.handleTimeout_completed _)
  | fallback stage | subscribed stage | dispatched stage | skipped stage | degraded stage
  | chosen stage | pushed stage | noneSent stage | someSent stage | noClient stage
  | noClientResult stage | timedOut stage | promised stage | built stage | cleaned stage
  | cleanedAll stage | notified stage | released _ stage =>
      exact counted.of_same rfl rfl rfl rfl (by rw [stage]; rfl)

theorem completes (taken : TaskStep hash coordinator id request after later)
    (pending : request.ctx.completed = false) (completed : later.ctx.completed = true) :
    later.timeoutHandled = true := by
  cases taken with
  | timeoutHandled => rfl
  | opened => exact Bool.noConfusion completed
  | @registered _ _ phase =>
      cases phase <;> exact absurd (pending.symm.trans completed) Bool.noConfusion
  | _ => exact absurd (pending.symm.trans completed) Bool.noConfusion

/-- A task's step keeps the answers of all clients. -/
theorem keeps_allowed (taken : TaskStep hash coordinator id request after later)
    (registered : request.Registered coordinator.manager)
    (allowed : request.AllowedByAll coordinator.manager) :
    later.AllowedByAll after.manager := by
  refine Request.AllowedByAll.mono ?_ (taken.keeps_clients registered) taken.manager
  have closed := allowed.closed
  -- A step after the registration with the same results only has to move its stage.
  have moved {later : Request} (event : later.event = request.event)
      (completed : later.ctx.completed = true)
      (results : later.ctx.clientResults = request.ctx.clientResults)
      (clientIds : later.clientIds = request.clientIds)
      (registering : later.stage.registering = false)
      (fewer : ∀ session ∈ later.stage.sessions, session ∈ request.stage.sessions) :
      later.AllowedByAll coordinator.manager :=
    ⟨completed, closed.of_subset event registering fewer,
      by rw [results, clientIds]; exact allowed.allowed⟩
  have left {todo : List Address} {session : Address}
      (stage : request.stage = .dispatch (session :: todo)) :
      ∀ other ∈ todo, other ∈ request.stage.sessions := by
    rw [stage]
    exact fun other mem => List.mem_cons_of_mem _ mem
  have none : ∀ other ∈ ([] : List Address), other ∈ request.stage.sessions :=
    fun _ mem => absurd mem List.not_mem_nil
  cases taken with
  | early _ early =>
      cases stage : request.stage <;> simp [stage, Stage.Early] at early <;>
        simp [Request.RegistrationOver, stage, Stage.registering] at closed
  | opened _ stage | fallback stage | subscribed stage | registered stage =>
      simp [Request.RegistrationOver, stage, Stage.registering] at closed
  | chosen stage found valid normal =>
      have skipped := closed.2 _ (by simp [stage, Stage.sessions]) _ found
      simp [valid, normal] at skipped
  | skipped stage => exact moved rfl allowed.completed rfl rfl rfl (left stage)
  | degraded stage => exact moved rfl allowed.completed rfl rfl rfl (left stage)
  | timeoutHandled =>
      exact
        { completed := RoutingContext.handleTimeout_completed _
          closed := closed.of_subset rfl rfl none
          allowed := fun clientId mem =>
            RoutingContext.handleTimeout_keeps_result (allowed.allowed clientId mem) }
  | _ => exact moved rfl allowed.completed rfl rfl rfl none

end TaskStep

namespace AuthSystem

variable {hash : String → Nat} {before after : AuthSystem} {action : AuthAction}

/-- Every request counts its clients, and its clients are registered. -/
structure Tallied (system : AuthSystem) : Prop where
  registered : system.Registered
  counted : ∀ id request, system.requests.get? id = some request → request.Counted

theorem tallied_initial : Tallied {} where
  registered := registered_initial
  counted := fun _ _ found => nomatch found

theorem Registered.client_mem {system : AuthSystem} (registered : system.Registered)
    {answerId : AnswerId} {answer : Answer} {id : RequestId} {request : Request}
    (found : system.answers.get? answerId = some answer) (stage : answer.stage = .record id)
    (target : system.requests.get? id = some request) :
    answer.clientId ∈ request.clientIds := by
  obtain ⟨holder, foundHolder, mem⟩ := registered.answers answerId answer id found stage
  cases target.symm.trans foundHolder
  exact mem

theorem once_of_guard {answerId : AnswerId} {answer : Answer} {id : RequestId}
    {request : Request} (guard : AnswersOnceAndInTime before (.answer answerId))
    (found : before.answers.get? answerId = some answer) (stage : answer.stage = .record id)
    (target : before.requests.get? id = some request) :
    answer.OnceAndInTime before.coordinator.manager request :=
  guard answerId rfl answer found id (by simp [Answer.target?, stage]) request target

theorem Tallied.step (tallied : before.Tallied) (guard : AnswersOnceAndInTime before action)
    (step : Step hash before action after) : after.Tallied := by
  refine ⟨tallied.registered.step step, ?_⟩
  intro target entry foundEntry
  cases step with
  | environment keeps requests => exact tallied.counted target entry (requests ▸ foundEntry)
  | @requested _ provider event resultCallback =>
      rw [SortedMap.get?_insert] at foundEntry
      split_ifs at foundEntry
      · cases foundEntry
        exact Request.counted_requested provider event resultCallback
      · exact tallied.counted target entry foundEntry
  | @task id now request later coordinator found taken =>
      rw [SortedMap.get?_insert] at foundEntry
      split_ifs at foundEntry
      · cases foundEntry
        exact taken.keeps_counted (tallied.registered.requests id request found)
          (tallied.counted id request found)
      · exact tallied.counted target entry foundEntry
  | routed => exact tallied.counted target entry foundEntry
  | @recorded answerId answer id request reports found stage owner =>
      rw [SortedMap.get?_insert] at foundEntry
      split_ifs at foundEntry
      · cases foundEntry
        exact (tallied.counted id request owner).recorded
          (tallied.registered.requests id request owner)
          (tallied.registered.client_mem found stage owner)
          (once_of_guard guard found stage owner)
      · exact tallied.counted target entry foundEntry

/-- A request of the service is allowed by all its clients. -/
def AllowedByAll (system : AuthSystem) (id : RequestId) : Prop :=
  ∃ request, system.requests.get? id = some request ∧
    request.AllowedByAll system.coordinator.manager

/-- Nothing takes an ALLOW of all clients back. -/
theorem AllowedByAll.step (registered : before.Registered) {id : RequestId}
    (allowed : before.AllowedByAll id) (step : Step hash before action after) :
    after.AllowedByAll id := by
  obtain ⟨request, found, all⟩ := allowed
  have own := registered.requests id request found
  cases step with
  | environment keeps requests =>
      exact ⟨request, requests ▸ found, all.mono own keeps.manager⟩
  | requested fresh => exact exists_insert_fresh fresh ⟨request, found, all⟩
  | @task owner now entry later coordinator foundEntry taken =>
      by_cases same : id = owner
      · subst same
        cases found.symm.trans foundEntry
        exact ⟨later, by simp, taken.keeps_allowed own all⟩
      · exact ⟨request, by simp [same, found], all.mono own taken.manager⟩
  | routed => exact ⟨request, found, all⟩
  | recorded _ _ target =>
      refine exists_insert target ?_ ⟨request, found, all⟩
      intro all
      rw [RoutingContext.recordClientResult_of_completed _ _ all.completed]
      exact all

/-- The step that completes a request with ALLOW before its timeout records the last vote. -/
theorem Tallied.completes (tallied : before.Tallied) (guard : AnswersOnceAndInTime before action)
    (step : Step hash before action after) {id : RequestId} {request later : Request}
    (found : before.requests.get? id = some request) (pending : request.ctx.completed = false)
    (foundLater : after.requests.get? id = some later) (completed : later.ctx.completed = true)
    (merged : later.ctx.mergedAuthStrategy = .allow) (early : later.timeoutHandled = false) :
    after.AllowedByAll id := by
  have unchanged (same : request = later) : False := by
    rw [← same, pending] at completed
    exact Bool.noConfusion completed
  cases step with
  | environment keeps requests =>
      exact (unchanged (Option.some.inj (found.symm.trans (requests ▸ foundLater)))).elim
  | @requested _ _ _ _ fresh unused =>
      have other : id ≠ fresh := by
        rintro rfl
        simp [unused] at found
      rw [SortedMap.get?_insert, if_neg other] at foundLater
      exact (unchanged (Option.some.inj (found.symm.trans foundLater))).elim
  | @task owner now entry next coordinator foundEntry taken =>
      rw [SortedMap.get?_insert] at foundLater
      split_ifs at foundLater with same
      · subst same
        cases foundLater
        cases found.symm.trans foundEntry
        exact absurd (taken.completes pending completed) (by simp [early])
      · exact (unchanged (Option.some.inj (found.symm.trans foundLater))).elim
  | routed => exact (unchanged (Option.some.inj (found.symm.trans foundLater))).elim
  | @recorded answerId answer owner entry reports foundAnswer stage target =>
      rw [SortedMap.get?_insert] at foundLater
      split_ifs at foundLater with same
      · subst same
        cases foundLater
        cases found.symm.trans target
        have allow : answer.strategy = .allow := by
          rcases answer.strategy_cases with allow | deny
          · exact allow
          · rw [deny, (RoutingContext.recordClientResult_deny pending).2] at merged
            exact AuthStrategy.noConfusion merged
        exact ⟨_, by simp, (tallied.counted id request found).allowedByAll
          (tallied.registered.requests id request found)
          (tallied.registered.client_mem foundAnswer stage found)
          (once_of_guard guard foundAnswer stage found) pending allow completed⟩
      · exact (unchanged (Option.some.inj (found.symm.trans foundLater))).elim

theorem tallied_of_run {final : AuthSystem} {actions : List AuthAction}
    (permitted : Transition.Along (next hash) AnswersOnceAndInTime {} actions)
    (reach : Transition.run (next hash) {} actions = some final) : final.Tallied :=
  Transition.run_invariant (fun tallied guard taken => tallied.step guard (next_cases taken))
    tallied_initial permitted reach

/-- Two clients are registered and wait to be answered. -/
def bothRegistered : List AuthAction :=
  joinClient 1 7 1 ++ joinClient 2 17 1 ++ askDecision ++ taskSteps 21

/-- Both clients allow; the last section of the second call is left out. -/
def bothAllow : List AuthAction :=
  bothRegistered ++ vote 1 1 true ++ (vote 2 1 true).dropLast

/-- The first client allows twice; the last section of its second call is left out. -/
def doubleVote : List AuthAction :=
  bothRegistered ++ vote 1 1 true ++ (vote 1 1 true).dropLast

end AuthSystem

end SecurityGuard
