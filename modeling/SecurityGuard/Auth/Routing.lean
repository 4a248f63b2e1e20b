import SecurityGuard.Auth.Invariant

/-!
# Routes end with their request

A task removes its routes when its clients have answered or the timeout has passed, but not
when its test finds that the event was sent to no client.  The test reads the counter that the
answers decrement.  In every run in which it passes only for requests without clients, every
route belongs to a request in flight.
-/

namespace SecurityGuard

/-- The routes that a request may still have in the shards. -/
def Request.liveRoutes (request : Request) : List (String × Int) :=
  match request.stage with
  | .clean routes _ => routes
  | .notify _ | .release | .finished => []
  | _ => request.routes

/-- The exit without cleanup is taken by requests without clients only. -/
def ZeroCountMeansUnregistered (system : AuthSystem) (action : AuthAction) : Prop :=
  ∀ id ∈ action.task?, ∀ request ∈ system.requests.get? id,
    request.stage = .check → request.ctx.sentClientCount = 0 → request.clientIds = []

instance (system : AuthSystem) (action : AuthAction) :
    Decidable (ZeroCountMeansUnregistered system action) :=
  inferInstanceAs (Decidable (∀ id ∈ action.task?, ∀ request ∈ system.requests.get? id, _))

/-- Whether a request is on the exit without cleanup. -/
def Stage.Unregistered : Stage → Prop
  | .noClient | .noClientResult => True
  | _ => False

namespace Request

theorem routes_of_noClients {request : Request} (noClients : request.clientIds = []) :
    request.routes = [] := by
  simp [routes, noClients]

/-- The key is that of a route which the request may still have. -/
def HasRoute (request : Request) (key : String) : Prop :=
  ∃ route ∈ request.liveRoutes, key = makeSeqnumKey route.1 route.2

theorem HasRoute.mono {request later : Request} {key : String} (has : request.HasRoute key)
    (live : request.liveRoutes ⊆ later.liveRoutes) : later.HasRoute key := by
  obtain ⟨route, mem, same⟩ := has
  exact ⟨route, live mem, same⟩

theorem not_hasRoute {request : Request} {key : String} (none : request.liveRoutes = []) :
    ¬ request.HasRoute key := by
  rintro ⟨route, mem, -⟩
  rw [none] at mem
  exact absurd mem List.not_mem_nil

theorem liveRoutes_of_early {request : Request} (early : request.stage.Early)
    (noClients : request.clientIds = []) : request.liveRoutes = [] := by
  have all : request.liveRoutes = request.routes := by
    cases stage : request.stage <;> simp [stage, Stage.Early] at early <;>
      simp [liveRoutes, stage]
  rw [all, routes_of_noClients noClients]

end Request

namespace AuthCoordinator

variable {hash : String → Nat} {coordinator : AuthCoordinator} {index : Fin seqnumShardCount}
  {key other : String} {id target : RequestId}

theorem insertRoute_get? :
    ((coordinator.insertRoute hash other id).seqnumShards index).get? key =
      if index = getSeqnumShardIndex hash other ∧ key = other then some id
      else (coordinator.seqnumShards index).get? key := by
  by_cases shard : index = getSeqnumShardIndex hash other
  · subst shard
    simp [insertRoute]
  · simp [insertRoute, shard]

theorem eraseRoute_get? :
    ((coordinator.eraseRoute hash other).seqnumShards index).get? key =
      if index = getSeqnumShardIndex hash other ∧ key = other then none
      else (coordinator.seqnumShards index).get? key := by
  by_cases shard : index = getSeqnumShardIndex hash other
  · subst shard
    simp [eraseRoute]
  · simp [eraseRoute, shard]

/-- Every key is in its own shard. -/
def Placed (hash : String → Nat) (coordinator : AuthCoordinator) : Prop :=
  ∀ index key id, (coordinator.seqnumShards index).get? key = some id →
    index = getSeqnumShardIndex hash key

end AuthCoordinator

namespace TaskStep

variable {hash : String → Nat} {coordinator after : AuthCoordinator} {id : RequestId}
  {request later : Request}

theorem keeps_placed (taken : TaskStep hash coordinator id request after later)
    (placed : coordinator.Placed hash) : after.Placed hash := by
  intro index key target found
  cases taken with
  | early keeps => exact placed index key target (keeps.seqnumShards ▸ found)
  | released keeps => exact placed index key target (keeps.seqnumShards ▸ found)
  | @registered _ object phase =>
      cases phase with
      | route seqnum =>
          simp only [Request.registerNormalClient] at found
          rw [AuthCoordinator.insertRoute_get?] at found
          split_ifs at found with same
          · rw [same.1, same.2]
          · exact placed index key target found
      | _ => exact placed index key target found
  | cleaned =>
      rw [AuthCoordinator.eraseRoute_get?] at found
      split_ifs at found
      exact placed index key target found
  | _ => exact placed index key target found

/-- The exit without cleanup is entered through the test. -/
theorem keeps_unregistered (taken : TaskStep hash coordinator id request after later)
    (unregistered : request.stage.Unregistered → request.clientIds = [])
    (test : request.stage = .check → request.ctx.sentClientCount = 0 → request.clientIds = [])
    (exits : later.stage.Unregistered) : later.clientIds = [] := by
  cases taken with
  | noneSent stage none => exact test stage none
  | noClient stage => exact unregistered (by simp [stage, Stage.Unregistered])
  | @early _ stage _ _ quiet =>
      exfalso
      change stage.Unregistered at exits
      rcases quiet with quiet | rfl
      · cases stage <;> first | exact quiet.elim | exact exits.elim
      · exact exits.elim
  | @registered _ _ phase => cases phase <;> exact exits.elim
  | _ => exact exits.elim

/-- A route to another request was there before. -/
theorem route_of_ne (taken : TaskStep hash coordinator id request after later)
    {index : Fin seqnumShardCount} {key : String} {target : RequestId}
    (found : (after.seqnumShards index).get? key = some target) (other : target ≠ id) :
    (coordinator.seqnumShards index).get? key = some target := by
  cases taken with
  | early keeps => exact keeps.seqnumShards ▸ found
  | released keeps => exact keeps.seqnumShards ▸ found
  | @registered _ object phase =>
      cases phase with
      | route seqnum =>
          simp only [Request.registerNormalClient] at found
          rw [AuthCoordinator.insertRoute_get?] at found
          split_ifs at found
          · exact absurd (Option.some.inj found).symm other
          · exact found
      | _ => exact found
  | cleaned =>
      rw [AuthCoordinator.eraseRoute_get?] at found
      split_ifs at found
      exact found
  | _ => exact found

/-- A task's step leaves only routes that its request may have. -/
theorem keeps_live (taken : TaskStep hash coordinator id request after later)
    (registered : request.Registered coordinator.manager) (placed : coordinator.Placed hash)
    (unregistered : request.stage.Unregistered → request.clientIds = [])
    {index : Fin seqnumShardCount} {key : String}
    (live : (coordinator.seqnumShards index).get? key = some id → request.HasRoute key)
    (found : (after.seqnumShards index).get? key = some id) : later.HasRoute key := by
  have early (start : request.stage.Early)
      (found : (coordinator.seqnumShards index).get? key = some id) : False :=
    Request.not_hasRoute (Request.liveRoutes_of_early start (registered.early start)) (live found)
  have routes := (taken.routes_subset registered).1
  cases taken with
  | early keeps start => exact (early start (keeps.seqnumShards ▸ found)).elim
  | opened _ stage | fallback stage => exact (early (by simp [stage, Stage.Early]) found).elim
  | @registered session object phase todo stage holder =>
      have all : request.liveRoutes = request.routes := by simp [Request.liveRoutes, stage]
      rw [← all] at routes
      cases phase with
      | route seqnum =>
          simp only [Request.registerNormalClient] at found
          rw [AuthCoordinator.insertRoute_get?] at found
          split_ifs at found with same
          · exact ⟨_, registered.issued session seqnum todo object (.inr stage) holder, same.2⟩
          · exact (live found).mono routes
      | countSent | countDeny | generate | record | context => exact (live found).mono routes
  | noClientResult stage =>
      have noClients := unregistered (by simp [stage, Stage.Unregistered])
      have none : request.liveRoutes = [] := by
        simp [Request.liveRoutes, stage, Request.routes_of_noClients noClients]
      exact (Request.not_hasRoute none (live found)).elim
  | @cleaned clientId seqnum routes result stage =>
      rw [AuthCoordinator.eraseRoute_get?] at found
      split_ifs at found with same
      obtain ⟨route, mem, equal⟩ := live found
      simp only [Request.liveRoutes, stage] at mem
      rcases List.mem_cons.mp mem with rfl | mem
      · have shard := placed index key id found
        exact absurd ⟨equal ▸ shard, equal⟩ same
      · exact ⟨route, mem, equal⟩
  | released keeps stage =>
      refine (live (keeps.seqnumShards ▸ found)).mono ?_
      simp [Request.liveRoutes, stage]
  | subscribed stage | dispatched stage | skipped stage | degraded stage | chosen stage
  | pushed stage | noneSent stage | someSent stage | noClient stage | timedOut stage
  | promised stage | timeoutHandled stage | built stage | cleanedAll stage | notified stage =>
      refine (live found).mono ?_
      rw [Request.liveRoutes, stage]
      exact List.Subset.refl _

end TaskStep

namespace AuthSystem

variable {hash : String → Nat} {before after : AuthSystem} {action : AuthAction}

/-- Every route is one that a request may still have. -/
structure Routed (hash : String → Nat) (system : AuthSystem) : Prop where
  registered : system.Registered
  placed : system.coordinator.Placed hash
  unregistered : ∀ id request, system.requests.get? id = some request →
    request.stage.Unregistered → request.clientIds = []
  live : ∀ index key id, (system.coordinator.seqnumShards index).get? key = some id →
    ∃ request, system.requests.get? id = some request ∧ request.HasRoute key

theorem routed_initial : Routed hash {} where
  registered := registered_initial
  placed := fun _ _ _ found => nomatch found
  unregistered := fun _ _ found => nomatch found
  live := fun _ _ _ found => nomatch found

theorem Routed.step (routed : before.Routed hash)
    (guard : ZeroCountMeansUnregistered before action) (step : Step hash before action after) :
    after.Routed hash := by
  refine ⟨routed.registered.step step, ?_, ?_, ?_⟩
  · cases step with
    | environment keeps =>
        intro index key id found
        exact routed.placed index key id (keeps.seqnumShards ▸ found)
    | task found taken => exact taken.keeps_placed routed.placed
    | requested | routed | recorded => exact routed.placed
  · intro target entry foundEntry exits
    cases step with
    | environment keeps requests =>
        exact routed.unregistered target entry (requests ▸ foundEntry) exits
    | requested =>
        rcases SortedMap.get?_insert_eq_some.mp foundEntry with ⟨-, rfl⟩ | ⟨-, foundEntry⟩
        · exact exits.elim
        · exact routed.unregistered target entry foundEntry exits
    | @task id now request later coordinator found taken =>
        rcases SortedMap.get?_insert_eq_some.mp foundEntry with ⟨-, rfl⟩ | ⟨-, foundEntry⟩
        · exact taken.keeps_unregistered (routed.unregistered id request found)
            (guard id rfl request found) exits
        · exact routed.unregistered target entry foundEntry exits
    | routed => exact routed.unregistered target entry foundEntry exits
    | @recorded _ _ id request _ _ _ owner =>
        rcases SortedMap.get?_insert_eq_some.mp foundEntry with ⟨-, rfl⟩ | ⟨-, foundEntry⟩
        · exact routed.unregistered id request owner exits
        · exact routed.unregistered target entry foundEntry exits
  · intro index key target foundRoute
    cases step with
    | environment keeps requests =>
        rw [requests]
        exact routed.live index key target (keeps.seqnumShards ▸ foundRoute)
    | requested fresh => exact exists_insert_fresh fresh (routed.live index key target foundRoute)
    | @task id now request later coordinator found taken =>
        by_cases same : target = id
        · subst same
          refine ⟨later, by simp, taken.keeps_live (routed.registered.requests target request found)
            routed.placed (routed.unregistered target request found) ?_ foundRoute⟩
          intro earlier
          obtain ⟨holder, foundHolder, has⟩ := routed.live index key target earlier
          cases found.symm.trans foundHolder
          exact has
        · obtain ⟨entry, foundEntry, has⟩ :=
            routed.live index key target (taken.route_of_ne foundRoute same)
          exact ⟨entry, by simp [same, foundEntry], has⟩
    | routed => exact routed.live index key target foundRoute
    | recorded _ _ owner =>
        exact exists_insert owner (fun has => has) (routed.live index key target foundRoute)

theorem routed_of_run {final : AuthSystem} {actions : List AuthAction}
    (permitted : Transition.Along (next hash) ZeroCountMeansUnregistered {} actions)
    (reach : Transition.run (next hash) {} actions = some final) : final.Routed hash :=
  Transition.run_invariant (fun routed guard taken => routed.step guard (next_cases taken))
    routed_initial permitted reach

/-- No routing leak: no shard leads to a request whose task has finished, and every route leads
to a request in flight, in every run in which the exit without cleanup is taken by requests
without clients only. -/
theorem routes_end_with_request {final : AuthSystem} {actions : List AuthAction}
    (permitted : Transition.Along (next hash) ZeroCountMeansUnregistered {} actions)
    (reach : Transition.run (next hash) {} actions = some final) :
    (∀ id request, final.requests.get? id = some request → request.stage = .finished →
      ∀ index key, (final.coordinator.seqnumShards index).get? key ≠ some id) ∧
    ∀ index key id, (final.coordinator.seqnumShards index).get? key = some id →
      ∃ request, final.requests.get? id = some request ∧ request.stage ≠ .finished := by
  have routed : final.Routed hash := routed_of_run permitted reach
  have flight (request : Request) (key : String) (has : request.HasRoute key) :
      request.stage ≠ .finished := by
    intro stage
    exact Request.not_hasRoute (by simp [Request.liveRoutes, stage]) has
  constructor
  · intro id request found stage index key route
    obtain ⟨holder, foundHolder, has⟩ := routed.live index key id route
    cases found.symm.trans foundHolder
    exact flight request key has stage
  · intro index key id route
    obtain ⟨request, found, has⟩ := routed.live index key id route
    exact ⟨request, found, flight request key has⟩

/-- The request of a client that answers while the task waits runs to its end. -/
def answeredInTime : List AuthAction :=
  joinClient 1 7 1 ++ askDecision ++ taskSteps 14 ++ vote 1 1 true ++ taskSteps 6

/-- No routing leak after `answeredInTime`. -/
theorem routes_end_with_request_answered :
    ∃ final, Transition.run (next String.length) {} answeredInTime = some final ∧
      ∀ index key, (final.coordinator.seqnumShards index).get? key ≠ some 0 := by
  have evaluated : (Transition.run (next String.length) {} answeredInTime).any (fun final =>
      (final.requests.get? 0).any fun request => request.stage = .finished) = true := by
    decide +kernel
  have permitted : Transition.Along (next String.length) ZeroCountMeansUnregistered {}
      answeredInTime := by
    decide +kernel
  obtain ⟨final, reach, found⟩ := (Option.any_eq_true _ _).mp evaluated
  obtain ⟨request, foundRequest, stage⟩ := (Option.any_eq_true _ _).mp found
  exact ⟨final, reach, (routes_end_with_request permitted reach).1 0 request foundRequest
    (of_decide_eq_true stage)⟩

/-- The request of a client that answers before the test runs to its end. -/
def answeredEarly : List AuthAction :=
  joinClient 1 7 1 ++ askDecision ++ taskSteps 13 ++ vote 1 1 true ++ taskSteps 5

/-- Without the condition a finished request keeps a route. -/
theorem finished_request_keeps_route :
    ¬ ∀ (actions : List AuthAction) (final : AuthSystem) (id : RequestId) (request : Request),
      Transition.run (next String.length) {} actions = some final →
      final.requests.get? id = some request → request.stage = .finished →
        ∀ index key, (final.coordinator.seqnumShards index).get? key ≠ some id := by
  intro noLeak
  have evaluated : (Transition.run (next String.length) {} answeredEarly).any (fun final =>
      (final.requests.get? 0).any fun request => request.stage = .finished ∧
        final.coordinator.route? String.length "4_1" = some 0) = true := by
    decide +kernel
  obtain ⟨final, reach, found⟩ := (Option.any_eq_true _ _).mp evaluated
  obtain ⟨request, foundRequest, rest⟩ := (Option.any_eq_true _ _).mp found
  obtain ⟨stage, route⟩ := of_decide_eq_true rest
  exact noLeak answeredEarly final 0 request reach foundRequest stage _ "4_1" route

end AuthSystem

end SecurityGuard
