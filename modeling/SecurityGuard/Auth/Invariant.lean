import SecurityGuard.Auth.Steps

/-!
# Who may answer a request

In every run a route leads to a request that registered the route's client with the route's
number.  A call that found its request therefore answers for a registered client, and the
results of a request belong to clients that `RegisterNormalClient` registered.
-/

namespace SecurityGuard

/-- The registration that is about to enter the context and the shards was recorded. -/
def Request.Issued (manager : AuthEventSubscribeManager) (request : Request) : Prop :=
  ∀ session seqnum todo object,
    request.stage = .register session (.context seqnum) todo ∨
        request.stage = .register session (.route seqnum) todo →
      manager.sessionObjects.get? session = some object →
        (object.clientId, seqnum) ∈ request.routes

/-- The clients of a request are the registered ones. -/
structure Request.Registered (manager : AuthEventSubscribeManager) (request : Request) :
    Prop where
  lengths : request.clientIds.length = request.seqnums.length
  early : request.stage.Early → request.clientIds = []
  timeoutKeys : ∀ clientId, request.ctx.clientTimeoutStrategies.contains clientId = true →
    clientId ∈ request.clientIds
  resultKeys : ∀ clientId, request.ctx.clientResults.contains clientId = true →
    clientId ∈ request.clientIds
  known : ∀ session ∈ request.stage.sessions,
    ∃ object, manager.sessionObjects.get? session = some object
  issued : request.Issued manager

namespace Request

theorem mem_clientIds_of_mem_routes {request : Request} {clientId : String} {seqnum : Int}
    (mem : (clientId, seqnum) ∈ request.routes) : clientId ∈ request.clientIds :=
  (List.of_mem_zip mem).1

theorem issued_of_stage {manager : AuthEventSubscribeManager} {request : Request}
    (stage : ∀ session phase todo, request.stage ≠ .register session phase todo) :
    request.Issued manager := by
  rintro session seqnum todo object (register | register) _
  · exact absurd register (stage session _ todo)
  · exact absurd register (stage session _ todo)

/-- A step that leaves the clients and their entries keeps the invariant. -/
theorem Registered.of_same {manager : AuthEventSubscribeManager} {request later : Request}
    (registered : request.Registered manager)
    (clientIds : later.clientIds = request.clientIds) (seqnums : later.seqnums = request.seqnums)
    (timeouts : later.ctx.clientTimeoutStrategies = request.ctx.clientTimeoutStrategies)
    (results : later.ctx.clientResults = request.ctx.clientResults)
    (early : later.stage.Early → request.stage.Early)
    (known : ∀ session ∈ later.stage.sessions, session ∈ request.stage.sessions)
    (issued : later.Issued manager) : later.Registered manager where
  lengths := by rw [clientIds, seqnums, registered.lengths]
  early := fun start => clientIds ▸ registered.early (early start)
  timeoutKeys := by
    rw [clientIds, timeouts]
    exact registered.timeoutKeys
  resultKeys := by
    rw [clientIds, results]
    exact registered.resultKeys
  known := fun session mem => registered.known session (known session mem)
  issued := issued

theorem Registered.withStage {manager : AuthEventSubscribeManager} {request : Request}
    (registered : request.Registered manager) {stage : Stage}
    (early : stage.Early → request.stage.Early)
    (known : ∀ session ∈ stage.sessions, session ∈ request.stage.sessions)
    (quiet : ∀ session phase todo, stage ≠ .register session phase todo) :
    (request.withStage stage).Registered manager :=
  registered.of_same rfl rfl rfl rfl early known (issued_of_stage quiet)

theorem Registered.leave {manager : AuthEventSubscribeManager} {request later : Request}
    (registered : request.Registered manager)
    (clientIds : later.clientIds = request.clientIds) (seqnums : later.seqnums = request.seqnums)
    (timeouts : later.ctx.clientTimeoutStrategies = request.ctx.clientTimeoutStrategies)
    (results : later.ctx.clientResults = request.ctx.clientResults)
    (early : later.stage.Early → request.stage.Early) (none : later.stage.sessions = []) :
    later.Registered manager := by
  refine registered.of_same clientIds seqnums timeouts results early ?_ (issued_of_stage ?_)
  · simp [none]
  · intro session phase todo register
    simp [register, Stage.sessions] at none

/-- The sessions only grow. -/
theorem Registered.mono {before after : AuthEventSubscribeManager} {request : Request}
    (registered : request.Registered before) (grows : before.Extends after) :
    request.Registered after where
  lengths := registered.lengths
  early := registered.early
  timeoutKeys := registered.timeoutKeys
  resultKeys := registered.resultKeys
  known := by
    intro session mem
    obtain ⟨object, found⟩ := registered.known session mem
    obtain ⟨later, found', -⟩ := grows session object found
    exact ⟨later, found'⟩
  issued := by
    intro session seqnum todo object register found
    have mem : session ∈ request.stage.sessions := by
      rcases register with register | register <;> simp [register, Stage.sessions]
    obtain ⟨earlier, foundEarlier⟩ := registered.known session mem
    obtain ⟨later, foundLater, same, -⟩ := grows session earlier foundEarlier
    have equal : later = object := Option.some.inj (foundLater.symm.trans found)
    rw [← equal, same]
    exact registered.issued session seqnum todo earlier register foundEarlier

theorem registered_requested (manager : AuthEventSubscribeManager) (provider : Address)
    (event : AuthEventInfo) (resultCallback : Option Address) :
    Request.Registered manager { provider, event, resultCallback } where
  lengths := rfl
  early := fun _ => rfl
  timeoutKeys := fun _ contains => Bool.noConfusion contains
  resultKeys := fun _ contains => Bool.noConfusion contains
  known := fun _ mem => absurd mem List.not_mem_nil
  issued := issued_of_stage fun _ _ _ => Stage.noConfusion

/-- An answer of a registered client keeps the results among the registered clients. -/
theorem Registered.recorded {manager : AuthEventSubscribeManager} {request : Request}
    (registered : request.Registered manager) {clientId : String}
    (mem : clientId ∈ request.clientIds) (strategy : AuthStrategy) :
    Registered manager
      { request with ctx := request.ctx.recordClientResult clientId strategy } where
  lengths := registered.lengths
  early := registered.early
  timeoutKeys := by simpa using registered.timeoutKeys
  resultKeys := by
    intro other contains
    cases completed : request.ctx.completed with
    | true =>
        rw [RoutingContext.recordClientResult_of_completed _ _ completed] at contains
        exact registered.resultKeys other contains
    | false =>
        rw [RoutingContext.recordClientResult_clientResults _ _ completed,
          SortedMap.contains_insert, Bool.or_eq_true, decide_eq_true_iff] at contains
        rcases contains with rfl | contains
        · exact mem
        · exact registered.resultKeys other contains
  known := registered.known
  issued := registered.issued

/-- The timeout answers for registered clients only. -/
theorem Registered.timeoutHandled {manager : AuthEventSubscribeManager} {request : Request}
    (registered : request.Registered manager) :
    Registered manager
      { request with
        ctx := request.ctx.handleTimeout.1
        timeoutHandled := true
        stage := .build } where
  lengths := registered.lengths
  early := False.elim
  timeoutKeys := by simpa using registered.timeoutKeys
  resultKeys := by
    refine RoutingContext.handleTimeout_invariant
      (motive := fun current => ∀ clientId, current.clientResults.contains clientId = true →
        clientId ∈ request.clientIds) ?_ ?_ ?_ registered.resultKeys
    · intro current clientId strategy listed _ kept other contains
      rw [RoutingContext.handleTimeoutClient_clientResults, SortedMap.contains_insert,
        Bool.or_eq_true, decide_eq_true_iff] at contains
      rcases contains with rfl | contains
      · exact registered.timeoutKeys other (SortedMap.contains_iff.mpr ⟨strategy, listed⟩)
      · exact kept other contains
    · intro current _ kept
      exact kept
    · intro current kept
      simpa using kept
  known := fun _ mem => absurd mem List.not_mem_nil
  issued := issued_of_stage fun _ _ _ => Stage.noConfusion

theorem routes_record {request : Request}
    (lengths : request.clientIds.length = request.seqnums.length) (clientId : String)
    (seqnum : Int) :
    (request.clientIds ++ [clientId]).zip (request.seqnums ++ [seqnum]) =
      request.routes ++ [(clientId, seqnum)] :=
  List.zip_append lengths

/-- Each statement of a registration keeps the invariant. -/
theorem Registered.registerNormalClient {hash : String → Nat} {coordinator : AuthCoordinator}
    {id : RequestId} {request : Request} {session : Address} {object : AuthEventSessionService}
    {phase : RegisterPhase} {todo : List Address}
    (registered : request.Registered coordinator.manager)
    (stage : request.stage = .register session phase todo)
    (found : coordinator.manager.sessionObjects.get? session = some object) :
    (request.registerNormalClient hash coordinator id session object todo phase).2.Registered
      coordinator.manager := by
  have sessions (next : RegisterPhase) :
      ∀ other ∈ (Stage.register session next todo).sessions, other ∈ request.stage.sessions := by
    simp [stage, Stage.sessions]
  have start (next : RegisterPhase) : (Stage.register session next todo).Early →
      request.stage.Early := False.elim
  cases phase with
  | countSent =>
      refine registered.of_same rfl rfl rfl rfl (start _) (sessions .countDeny) ?_
      rintro _ _ _ _ (register | register) _ <;> cases register
  | countDeny =>
      refine registered.of_same rfl rfl rfl rfl (start _) (sessions .generate) ?_
      rintro _ _ _ _ (register | register) _ <;> cases register
  | generate =>
      refine registered.of_same rfl rfl rfl rfl (start _)
        (sessions (.record (object.seqnumCounter + 1))) ?_
      rintro _ _ _ _ (register | register) _ <;> cases register
  -- The number becomes a route of the request here, before the context and the table know it.
  | record seqnum =>
      refine
        { lengths := by simp [Request.registerNormalClient, registered.lengths]
          early := False.elim
          timeoutKeys := fun clientId contains =>
            List.mem_append_left _ (registered.timeoutKeys clientId contains)
          resultKeys := fun clientId contains =>
            List.mem_append_left _ (registered.resultKeys clientId contains)
          known := fun other mem => registered.known other (sessions _ other mem)
          issued := ?_ }
      rintro other number rest holder (register | register) foundHolder
      · cases register
        have equal : object = holder := Option.some.inj (found.symm.trans foundHolder)
        rw [Request.routes, ← equal]
        exact (routes_record registered.lengths object.clientId seqnum).symm ▸
          List.mem_append_right _ List.mem_cons_self
      · cases register
  | context seqnum =>
      have issued : (object.clientId, seqnum) ∈ request.routes :=
        registered.issued session seqnum todo object (.inl stage) found
      exact
        { lengths := registered.lengths
          early := False.elim
          timeoutKeys := by
            intro clientId contains
            simp only [Request.registerNormalClient, RoutingContext.registerClient,
              SortedMap.contains_insert, Bool.or_eq_true, decide_eq_true_iff] at contains
            rcases contains with rfl | contains
            · exact mem_clientIds_of_mem_routes issued
            · exact registered.timeoutKeys clientId contains
          resultKeys := registered.resultKeys
          known := fun other mem => registered.known other (sessions _ other mem)
          issued := by
            rintro other number rest holder (register | register) foundHolder
            · cases register
            · cases register
              have equal : object = holder := Option.some.inj (found.symm.trans foundHolder)
              exact equal ▸ issued }
  | route seqnum =>
      refine registered.of_same rfl rfl rfl rfl False.elim ?_
        (issued_of_stage fun _ _ _ => Stage.noConfusion)
      intro other mem
      rw [stage]
      exact List.mem_cons_of_mem _ mem

end Request

namespace TaskStep

variable {hash : String → Nat} {coordinator after : AuthCoordinator} {id : RequestId}
  {request later : Request}

theorem manager (taken : TaskStep hash coordinator id request after later) :
    coordinator.manager.Extends after.manager := by
  cases taken with
  | early keeps => exact keeps.manager
  | released keeps => exact keeps.manager
  | degraded => exact AuthEventSubscribeManager.generateSeqnum_extends _ _
  | @registered _ _ phase =>
      cases phase with
      | generate => exact AuthEventSubscribeManager.generateSeqnum_extends _ _
      | countSent | countDeny | record | context | route => exact .refl _
  | _ => exact .refl _

/-- A task's step keeps the clients of its request, seen with the sessions before the step. -/
theorem keeps_clients (taken : TaskStep hash coordinator id request after later)
    (registered : request.Registered coordinator.manager) :
    later.Registered coordinator.manager := by
  cases taken with
  | @early _ stage _ early later =>
      refine registered.leave rfl rfl rfl rfl (fun _ => early) ?_
      change stage.sessions = []
      rcases later with later | rfl
      · cases stage <;> first | rfl | exact later.elim
      · rfl
  | opened now stage =>
      have noClients : request.clientIds = [] := registered.early (by simp [stage, Stage.Early])
      exact
        { lengths := registered.lengths
          early := fun _ => noClients
          timeoutKeys := fun _ contains => Bool.noConfusion contains
          resultKeys := fun _ contains => Bool.noConfusion contains
          known := fun _ mem => absurd mem List.not_mem_nil
          issued := Request.issued_of_stage fun _ _ _ => Stage.noConfusion }
  | subscribed stage =>
      exact
        { lengths := registered.lengths
          early := False.elim
          timeoutKeys := registered.timeoutKeys
          resultKeys := registered.resultKeys
          known := fun _ mem => AuthEventSubscribeManager.mem_getSubscribedSessions mem
          issued := Request.issued_of_stage fun _ _ _ => Stage.noConfusion }
  | skipped stage found =>
      refine registered.withStage False.elim ?_ fun _ _ _ => Stage.noConfusion
      intro session mem
      rw [stage]
      exact List.mem_cons_of_mem _ mem
  | degraded stage found =>
      refine registered.of_same rfl rfl rfl rfl False.elim ?_
        (Request.issued_of_stage fun _ _ _ => Stage.noConfusion)
      intro session mem
      rw [stage]
      exact List.mem_cons_of_mem _ mem
  | chosen stage found =>
      refine registered.of_same rfl rfl rfl rfl False.elim ?_ ?_
      · intro session mem
        rw [stage]
        exact mem
      · rintro _ _ _ _ (register | register) _ <;> cases register
  | registered stage found => exact registered.registerNormalClient stage found
  | timeoutHandled => exact registered.timeoutHandled
  | _ => exact registered.leave rfl rfl rfl rfl False.elim rfl

theorem keeps_registered (taken : TaskStep hash coordinator id request after later)
    (registered : request.Registered coordinator.manager) : later.Registered after.manager :=
  (taken.keeps_clients registered).mono taken.manager

/-- The registered clients and their routes stay. -/
theorem routes_subset (taken : TaskStep hash coordinator id request after later)
    (registered : request.Registered coordinator.manager) :
    request.routes ⊆ later.routes ∧ request.clientIds ⊆ later.clientIds := by
  cases taken with
  | @registered _ object phase _ stage found =>
      cases phase with
      | record seqnum =>
          have routes : (request.clientIds ++ [object.clientId]).zip (request.seqnums ++ [seqnum])
              = request.routes ++ [(object.clientId, seqnum)] :=
            Request.routes_record registered.lengths object.clientId seqnum
          refine ⟨?_, List.subset_append_left _ _⟩
          change request.routes ⊆
            (request.clientIds ++ [object.clientId]).zip (request.seqnums ++ [seqnum])
          rw [routes]
          exact List.subset_append_left _ _
      | _ => exact ⟨List.Subset.refl _, List.Subset.refl _⟩
  | _ => exact ⟨List.Subset.refl _, List.Subset.refl _⟩

/-- A route that a task's step leaves or makes was there or is the request's own. -/
theorem route_cases (taken : TaskStep hash coordinator id request after later)
    (registered : request.Registered coordinator.manager) {index : Fin seqnumShardCount}
    {key : String} {target : RequestId}
    (found : (after.seqnumShards index).get? key = some target) :
    (coordinator.seqnumShards index).get? key = some target ∨
      target = id ∧ ∃ route ∈ later.routes, key = makeSeqnumKey route.1 route.2 := by
  cases taken with
  | early keeps => exact .inl (keeps.seqnumShards ▸ found)
  | released keeps => exact .inl (keeps.seqnumShards ▸ found)
  | @registered session object phase todo stage holder =>
      cases phase with
      | route seqnum =>
          have issued := registered.issued session seqnum todo object (.inr stage) holder
          simp only [Request.registerNormalClient, AuthCoordinator.insertRoute] at found
          by_cases shard : index = AuthCoordinator.getSeqnumShardIndex hash
              (makeSeqnumKey object.clientId seqnum)
          · subst shard
            rw [Function.update_self, SortedMap.get?_insert] at found
            split_ifs at found with same
            · cases found
              exact .inr ⟨rfl, _, issued, same⟩
            · exact .inl found
          · rw [Function.update_of_ne shard] at found
            exact .inl found
      | _ => exact .inl found
  | @cleaned clientId seqnum =>
      simp only [AuthCoordinator.eraseRoute] at found
      by_cases shard : index = AuthCoordinator.getSeqnumShardIndex hash
          (makeSeqnumKey clientId seqnum)
      · subst shard
        rw [Function.update_self, SortedMap.get?_erase] at found
        split_ifs at found
        exact .inl found
      · rw [Function.update_of_ne shard] at found
        exact .inl found
  | _ => exact .inl found

end TaskStep

/-- Requests, routes and recording answers agree on who is registered. -/
structure AuthSystem.Registered (system : AuthSystem) : Prop where
  requests : ∀ id request, system.requests.get? id = some request →
    request.Registered system.coordinator.manager
  routes : ∀ index key id, (system.coordinator.seqnumShards index).get? key = some id →
    ∃ request, system.requests.get? id = some request ∧
      ∃ route ∈ request.routes, key = makeSeqnumKey route.1 route.2
  answers : ∀ answerId answer id, system.answers.get? answerId = some answer →
    answer.stage = .record id →
      ∃ request, system.requests.get? id = some request ∧ answer.clientId ∈ request.clientIds

namespace AuthSystem

theorem registered_initial : Registered {} where
  requests := fun _ _ found => nomatch found
  routes := fun _ _ _ found => nomatch found
  answers := fun _ _ _ found => nomatch found

theorem exists_insert {requests : SortedMap RequestId Request} {id target : RequestId}
    {request later : Request} {holds : Request → Prop}
    (found : requests.get? id = some request) (keeps : holds request → holds later)
    (present : ∃ entry, requests.get? target = some entry ∧ holds entry) :
    ∃ entry, (requests.insert id later).get? target = some entry ∧ holds entry := by
  obtain ⟨entry, foundEntry, holdsEntry⟩ := present
  by_cases same : target = id
  · subst same
    cases found.symm.trans foundEntry
    exact ⟨later, by simp, keeps holdsEntry⟩
  · exact ⟨entry, by simp [same, foundEntry], holdsEntry⟩

theorem exists_insert_fresh {requests : SortedMap RequestId Request} {id target : RequestId}
    {later : Request} {holds : Request → Prop} (fresh : requests.get? id = none)
    (present : ∃ entry, requests.get? target = some entry ∧ holds entry) :
    ∃ entry, (requests.insert id later).get? target = some entry ∧ holds entry := by
  obtain ⟨entry, foundEntry, holdsEntry⟩ := present
  have other : target ≠ id := by
    rintro rfl
    simp [fresh] at foundEntry
  exact ⟨entry, by simp [other, foundEntry], holdsEntry⟩

variable {hash : String → Nat} {before after : AuthSystem} {action : AuthAction}

/-- Every step keeps the invariant. -/
theorem Registered.step (registered : before.Registered) (step : Step hash before action after) :
    after.Registered := by
  cases step with
  | environment keeps requests answers =>
      refine ⟨?_, ?_, ?_⟩
      · intro id request found
        exact (registered.requests id request (requests ▸ found)).mono keeps.manager
      · intro index key id found
        rw [requests]
        exact registered.routes index key id (keeps.seqnumShards ▸ found)
      · intro answerId answer id found stage
        rw [requests]
        rcases answers answerId answer found with earlier | quiet
        · exact registered.answers answerId answer id earlier stage
        · exact absurd stage (quiet id)
  | @requested _ provider event resultCallback id fresh =>
      refine ⟨?_, ?_, ?_⟩
      · intro other request found
        rw [SortedMap.get?_insert] at found
        split_ifs at found
        · cases found
          exact Request.registered_requested _ provider event resultCallback
        · exact registered.requests other request found
      · intro index key target found
        exact exists_insert_fresh fresh (registered.routes index key target found)
      · intro answerId answer target found stage
        exact exists_insert_fresh fresh (registered.answers answerId answer target found stage)
  | @task id now request later coordinator found taken =>
      have own := registered.requests id request found
      obtain ⟨routes, clientIds⟩ := taken.routes_subset own
      refine ⟨?_, ?_, ?_⟩
      · intro other entry foundEntry
        rw [SortedMap.get?_insert] at foundEntry
        split_ifs at foundEntry
        · cases foundEntry
          exact taken.keeps_registered own
        · exact (registered.requests other entry foundEntry).mono taken.manager
      · intro index key target foundRoute
        rcases taken.route_cases own foundRoute with earlier | ⟨rfl, route⟩
        · refine exists_insert found ?_ (registered.routes index key target earlier)
          rintro ⟨route, mem, same⟩
          exact ⟨route, routes mem, same⟩
        · exact ⟨later, by simp, route⟩
      · intro answerId answer target foundAnswer stage
        exact exists_insert found (fun mem => clientIds mem)
          (registered.answers answerId answer target foundAnswer stage)
  | @routed answerId answer id found route =>
      refine ⟨registered.requests, registered.routes, ?_⟩
      intro other entry target foundEntry stage
      rw [SortedMap.get?_insert] at foundEntry
      split_ifs at foundEntry
      · cases foundEntry
        cases stage
        -- Keys are injective, so that the route was made for the client that answers.
        obtain ⟨request, foundRequest, ⟨clientId, seqnum⟩, mem, same⟩ :=
          registered.routes _ _ _ route
        obtain ⟨client, -⟩ := makeSeqnumKey_inj same
        change answer.clientId = clientId at client
        exact ⟨request, foundRequest, client ▸ Request.mem_clientIds_of_mem_routes mem⟩
      · exact registered.answers other entry target foundEntry stage
  | @recorded answerId answer id request reports found stage target =>
      obtain ⟨entry, foundEntry, mem⟩ := registered.answers answerId answer id found stage
      cases target.symm.trans foundEntry
      refine ⟨?_, ?_, ?_⟩
      · intro other entry foundEntry
        rw [SortedMap.get?_insert] at foundEntry
        split_ifs at foundEntry
        · cases foundEntry
          exact (registered.requests id request target).recorded mem answer.strategy
        · exact registered.requests other entry foundEntry
      · intro index key other foundRoute
        exact exists_insert target (fun route => route)
          (registered.routes index key other foundRoute)
      · intro otherId other targetId foundOther stage
        exact exists_insert target (fun mem => mem) (registered.answers otherId other targetId
          (SortedMap.get?_erase_eq_some.mp foundOther).2 stage)

end AuthSystem

end SecurityGuard
