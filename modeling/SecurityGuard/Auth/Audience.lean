import SecurityGuard.Auth.Bookkeeping

/-!
# The clients of a request

A provider is told about the clients of its own service.  Its requests go to every client that
subscribes the event, whichever service the subscription recorded.  A dispatch that runs alone
pushes the event once to each of them, so the two agree exactly when all of them recorded the
service of the provider.
-/

namespace SecurityGuard

namespace AuthEventSubscribeManager

variable {manager : AuthEventSubscribeManager} {session : Address} {eventId : Int}
  {serviceId : String}

/-- The list of a service has an entry for the session, with the event in it. -/
def Lists (manager : AuthEventSubscribeManager) (serviceId : String) (session : Address)
    (eventId : Int) : Prop :=
  session ∈ manager.getAllSessions ∧
    ∃ info, manager.clientInfoAt serviceId session = some info ∧ eventId ∈ info.subscribedEvents

/-- The session has recorded the service for the event. -/
def Recorded (manager : AuthEventSubscribeManager) (serviceId : String) (session : Address)
    (eventId : Int) : Prop :=
  ∀ object ∈ manager.sessionObjects.get? session, object.getServiceIdForEvent eventId = serviceId

theorem mem_getSubscribedSessions_iff :
    session ∈ manager.getSubscribedSessions eventId ↔
      manager.sessions.contains session = true ∧
        ∃ object, manager.sessionObjects.get? session = some object ∧ object.valid = true ∧
          object.eventIds.contains eventId = true := by
  rw [getSubscribedSessions, List.mem_filter, SortedMap.mem_keys_iff, Option.any_eq_true]
  simp only [Bool.and_eq_true]

/-- The list of a service shows, of the sessions that subscribe an event, those that recorded the
service for it. -/
theorem lists_iff : manager.Lists serviceId session eventId ↔
    session ∈ manager.getSubscribedSessions eventId ∧
      manager.Recorded serviceId session eventId := by
  rw [Lists, mem_getSubscribedSessions_iff, getAllSessions, List.mem_filter,
    SortedMap.mem_keys_iff, Option.any_eq_true, clientInfoAt, Recorded]
  cases found : manager.sessionObjects.get? session with
  | none => simp
  | some object =>
      have shown : (∃ info, object.clientInfo? serviceId = some info ∧
          eventId ∈ info.subscribedEvents) ↔ object.eventIds.contains eventId = true ∧
            object.getServiceIdForEvent eventId = serviceId := by
        change object.ShownTo serviceId eventId ↔ _
        rw [AuthEventSessionService.shownTo_iff, AuthEventSessionService.eventsOf,
          List.mem_filter, SortedMap.mem_keys_iff, decide_eq_true_iff]
      simp only [Option.bind_some, shown, Option.some.injEq, exists_eq_left', Option.mem_def,
        forall_eq', and_assoc]

theorem creatAuthEventClient_refused {hash : String → Nat} {params : CreateClientParams}
    {address : Address} {time : Nat}
    (refused : (manager.creatAuthEventClient hash params address time).1 ≠ .success) :
    (manager.creatAuthEventClient hash params address time).2 = manager := by
  revert refused
  rw [creatAuthEventClient]
  split
  · exact fun _ => rfl
  · dsimp only
    split_ifs
    · exact fun _ => rfl
    · exact fun _ => rfl
    all_goals exact fun refused => absurd rfl refused

/-- The callback object of a session. -/
def callbackAt (manager : AuthEventSubscribeManager) (session : Address) : Option Address :=
  (manager.sessionObjects.get? session).map (·.callback)

theorem callbackAt_generateSeqnum (manager : AuthEventSubscribeManager) (session : Address) :
    (manager.generateSeqnum session).callbackAt = manager.callbackAt := by
  funext other
  simp only [callbackAt, generateSeqnum, SortedMap.get?_modify]
  split_ifs with same
  · subst same
    rw [Option.map_map]
    rfl
  · rfl

/-- Every session in a list is a valid object. -/
def Ready (manager : AuthEventSubscribeManager) (sessions : List Address) : Prop :=
  ∀ session ∈ sessions, ∃ object, manager.sessionObjects.get? session = some object ∧
    object.valid = true

theorem Ready.generateSeqnum {sessions : List Address} (ready : manager.Ready sessions)
    (numbered : Address) : (manager.generateSeqnum numbered).Ready sessions := by
  intro session mem
  obtain ⟨object, found, valid⟩ := ready session mem
  rw [AuthEventSubscribeManager.generateSeqnum, SortedMap.get?_modify]
  split_ifs with same
  · subst same
    exact ⟨object.generateSeqnum, by rw [found]; rfl, valid⟩
  · exact ⟨object, found, valid⟩

theorem ready_getSubscribedSessions (manager : AuthEventSubscribeManager) (eventId : Int) :
    manager.Ready (manager.getSubscribedSessions eventId) := by
  intro session mem
  obtain ⟨-, object, found, valid, -⟩ := mem_getSubscribedSessions_iff.mp mem
  exact ⟨object, found, valid⟩

end AuthEventSubscribeManager

namespace Request

variable (hash : String → Nat) (id : RequestId)

/-- The steps of one task, without the rest of the service. -/
def alone : Transition (AuthCoordinator × Request) Int := fun state now =>
  state.2.taskStep hash state.1 id now

variable {coordinator : AuthCoordinator} {request : Request}

/-- Whom the dispatch has chosen so far: the clients that were pushed to and those that will be. -/
def chosen (request : Request) : List Address :=
  request.pushed.map Prod.fst ++ request.targets.map Prod.fst

theorem alone_degraded {session : Address} {todo : List Address}
    {object : AuthEventSessionService} (stage : request.stage = .dispatch (session :: todo))
    (found : coordinator.manager.sessionObjects.get? session = some object)
    (valid : object.valid = true) (degraded : request.event.degraded object.clientId = true)
    (now : Int) :
    Transition.run (alone hash id) (coordinator, request) (List.replicate 1 now) =
      some (request.notifyDegradedClient coordinator session object todo) := by
  simp [alone, Transition.run, Request.taskStep, stage, found, valid, degraded]

/-- Another client is registered by seven steps. -/
theorem alone_registered {session : Address} {todo : List Address}
    {object : AuthEventSessionService} (stage : request.stage = .dispatch (session :: todo))
    (found : coordinator.manager.sessionObjects.get? session = some object)
    (valid : object.valid = true) (normal : request.event.degraded object.clientId = false)
    (now : Int) :
    ∃ after later, Transition.run (alone hash id) (coordinator, request)
        (List.replicate 7 now) = some (after, later) ∧
      after.manager = coordinator.manager.generateSeqnum session ∧
        later.stage = .dispatch todo ∧ later.event = request.event ∧
          later.targets =
            request.targets ++ [(object.callback, object.defaultTimeoutStrategy)] ∧
            later.seqnums = request.seqnums ++ [object.seqnumCounter + 1] ∧
              later.pushed = request.pushed := by
  have generated : (coordinator.manager.generateSeqnum session).sessionObjects.get? session =
      some object.generateSeqnum := by
    simp [AuthEventSubscribeManager.generateSeqnum, found]
  simp [alone, Transition.run, Request.taskStep, stage, found, valid, normal, List.replicate,
    Request.withStage, Request.registerNormalClient, AuthCoordinator.withManager,
    AuthCoordinator.insertRoute, AuthEventSessionService.generateSeqnum, generated]

/-- A valid client is chosen, degraded or not. -/
theorem alone_chooses {session : Address} {todo : List Address}
    {object : AuthEventSessionService} (stage : request.stage = .dispatch (session :: todo))
    (found : coordinator.manager.sessionObjects.get? session = some object)
    (valid : object.valid = true)
    (lengths : request.targets.length = request.seqnums.length) (now : Int) :
    ∃ count after later, Transition.run (alone hash id) (coordinator, request)
        (List.replicate count now) = some (after, later) ∧
      after.manager = coordinator.manager.generateSeqnum session ∧
        later.stage = .dispatch todo ∧ later.event = request.event ∧
          later.targets.length = later.seqnums.length ∧
            later.chosen.Perm (object.callback :: request.chosen) := by
  cases degraded : request.event.degraded object.clientId with
  | true =>
      refine ⟨1, _, _, alone_degraded hash id stage found valid degraded now, rfl, rfl, rfl,
        lengths, ?_⟩
      simp only [chosen, List.map_append, List.map_cons, List.map_nil, List.append_assoc,
        List.cons_append, List.nil_append]
      exact List.perm_middle
  | false =>
      obtain ⟨after, later, seven, manager, stage', event, targets, seqnums, pushed⟩ :=
        alone_registered hash id stage found valid degraded now
      refine ⟨7, after, later, seven, manager, stage', event, ?_, ?_⟩
      · rw [targets, seqnums, List.length_append, List.length_append, lengths]
        rfl
      · rw [chosen, chosen, pushed, targets, List.map_append, ← List.append_assoc]
        exact List.perm_append_singleton _ _

/-- The loop over the sessions chooses every one of them. -/
theorem alone_dispatch {todo : List Address} (stage : request.stage = .dispatch todo)
    (ready : coordinator.manager.Ready todo)
    (lengths : request.targets.length = request.seqnums.length) (now : Int) :
    ∃ count after later, Transition.run (alone hash id) (coordinator, request)
        (List.replicate count now) = some (after, later) ∧
      later.stage = .dispatch [] ∧ later.event = request.event ∧
        later.targets.length = later.seqnums.length ∧ later.chosen.Perm
          (todo.filterMap coordinator.manager.callbackAt ++ request.chosen) := by
  induction todo generalizing coordinator request with
  | nil => exact ⟨0, coordinator, request, rfl, stage, rfl, lengths, .refl _⟩
  | cons session todo ih =>
      obtain ⟨object, found, valid⟩ := ready session List.mem_cons_self
      have callback : coordinator.manager.callbackAt session = some object.callback := by
        rw [AuthEventSubscribeManager.callbackAt, found, Option.map_some]
      obtain ⟨first, middle, one, front, manager, stage', event, lengths', head⟩ :=
        alone_chooses hash id stage found valid lengths now
      have rest : middle.manager.Ready todo := by
        rw [manager]
        exact .generateSeqnum (fun other mem => ready other (List.mem_cons_of_mem _ mem)) session
      obtain ⟨more, after, later, back, stage'', event', lengths'', tail⟩ :=
        ih stage' rest lengths'
      refine ⟨first + more, after, later, ?_, stage'', event'.trans event, lengths'', ?_⟩
      · rw [List.replicate_add, Transition.run_append, front, Option.bind_some, back]
      · rw [manager, AuthEventSubscribeManager.callbackAt_generateSeqnum] at tail
        rw [List.filterMap_cons_some callback]
        exact tail.trans ((head.append_left _).trans List.perm_middle)

/-- The dispatch of a request that runs alone pushes the event once to every valid session that
subscribes it. -/
theorem alone_notifies (stage : request.stage = .subscribed) (pushed : request.pushed = [])
    (targets : request.targets = []) (seqnums : request.seqnums = []) (now : Int) :
    ∃ count after later, Transition.run (alone hash id) (coordinator, request)
        (List.replicate count now) = some (after, later) ∧ later.stage = .check ∧
      later.event = request.event ∧ (later.pushed.map Prod.fst).Perm
        ((coordinator.manager.getSubscribedSessions request.event.eventId).filterMap
          coordinator.manager.callbackAt) := by
  let sessions := coordinator.manager.getSubscribedSessions request.event.eventId
  have first : Transition.run (alone hash id) (coordinator, request) (List.replicate 1 now) =
      some (coordinator, request.withStage (.dispatch sessions)) := by
    simp [alone, Transition.run, Request.taskStep, stage, sessions]
  have lengths : (request.withStage (.dispatch sessions)).targets.length =
      (request.withStage (.dispatch sessions)).seqnums.length := by
    simp [Request.withStage, targets, seqnums]
  obtain ⟨count, after, later, loop, stage', event, lengths', chosen⟩ :=
    alone_dispatch hash id rfl (coordinator.manager.ready_getSubscribedSessions _) lengths now
  have last : Transition.run (alone hash id) (after, later) (List.replicate 2 now) =
      some (after, (later.withStage .push).pushEventsToClients) := by
    simp [alone, Transition.run, Request.taskStep, stage', List.replicate, Request.withStage]
  refine ⟨1 + (count + 2), after, (later.withStage .push).pushEventsToClients, ?_, rfl, event, ?_⟩
  · rw [List.replicate_add, Transition.run_append, first, Option.bind_some, List.replicate_add,
      Transition.run_append, loop, Option.bind_some, last]
  · have none : (request.withStage (.dispatch sessions)).chosen = [] := by
      simp [Request.chosen, Request.withStage, pushed, targets]
    rw [none, List.append_nil] at chosen
    have all : (later.withStage .push).pushEventsToClients.pushed.map Prod.fst =
        later.chosen := by
      have zipped : ((later.targets.zip later.seqnums).map Prod.fst).map Prod.fst =
          later.targets.map Prod.fst := by
        rw [List.map_fst_zip lengths'.le]
      rw [List.map_map] at zipped
      simp only [pushEventsToClients, Request.withStage, List.map_append, List.map_map,
        Request.chosen, ← zipped]
      rfl
    rw [all]
    exact chosen

/-- Before the dispatch nothing was pushed and no one was registered. -/
def Untouched (request : Request) : Prop :=
  request.stage.Early ∨ request.stage = .subscribed →
    request.pushed = [] ∧ request.targets = [] ∧ request.seqnums = []

theorem untouched_of_late {request : Request} (late : ¬request.stage.Early)
    (dispatched : request.stage ≠ .subscribed) : request.Untouched := by
  rintro (early | subscribed)
  · exact absurd early late
  · exact absurd subscribed dispatched

end Request

theorem TaskStep.keeps_untouched {hash : String → Nat} {coordinator after : AuthCoordinator}
    {id : RequestId} {request later : Request}
    (taken : TaskStep hash coordinator id request after later) (untouched : request.Untouched) :
    later.Untouched := by
  cases taken with
  | early keeps early => exact fun _ => untouched (.inl early)
  | opened now stage => exact fun _ => untouched (.inl (by simp [stage, Stage.Early]))
  | @registered session object phase todo stage found =>
      cases phase <;> exact Request.untouched_of_late False.elim Stage.noConfusion
  | _ => exact Request.untouched_of_late False.elim Stage.noConfusion

namespace AuthSystem

variable {hash : String → Nat} {before after system : AuthSystem} {action : AuthAction}
  {actions : List AuthAction}

/-- The sessions are within their quotas and no request is ahead of its dispatch. -/
structure Poised (system : AuthSystem) : Prop where
  quota : system.coordinator.manager.WithinQuota
  untouched : ∀ id request, system.requests.get? id = some request → request.Untouched

theorem poised_initial : Poised {} where
  quota := Registry.Within.empty _
  untouched := fun _ _ found => nomatch found

theorem quota_step (quota : before.coordinator.manager.WithinQuota)
    (taken : next hash before action = some after) : after.coordinator.manager.WithinQuota := by
  have step := next_manager taken
  generalize after.coordinator.manager = manager at step ⊢
  cases step with
  | unchanged => exact quota
  | @created caller timeoutAllowFlag callback address time params fresh =>
      by_cases passed :
          (before.coordinator.manager.creatAuthEventClient hash params address time).1 = .success
      · exact quota.creatAuthEventClient fresh passed
      · rw [AuthEventSubscribeManager.creatAuthEventClient_refused passed]
        exact quota
  | subscribed named => exact quota.subscribeAuthEvent _ _ _
  | unsubscribed => exact quota.unsubscribeAuthEvent _ _
  | removed session => exact quota.removeSessionLocked session
  | generated session => exact Registry.Within.modify quota session _ (fun _ => rfl) fun _ => rfl
  | stored session event strategy =>
      rw [AuthEventSubscribeManager.setAuthResult]
      split_ifs <;> exact quota

theorem Poised.step (poised : before.Poised) (taken : next hash before action = some after) :
    after.Poised := by
  refine ⟨quota_step poised.quota taken, fun target entry found => ?_⟩
  cases next_cases taken with
  | environment _ requests => exact poised.untouched target entry (requests ▸ found)
  | requested =>
      rcases SortedMap.get?_insert_eq_some.mp found with ⟨_, rfl⟩ | ⟨_, found⟩
      · exact fun _ => ⟨rfl, rfl, rfl⟩
      · exact poised.untouched target entry found
  | @task id now request later coordinator owner step =>
      rcases SortedMap.get?_insert_eq_some.mp found with ⟨_, rfl⟩ | ⟨_, found⟩
      · exact step.keeps_untouched (poised.untouched id request owner)
      · exact poised.untouched target entry found
  | routed => exact poised.untouched target entry found
  | @recorded _ _ id request _ _ _ owner =>
      rcases SortedMap.get?_insert_eq_some.mp found with ⟨_, rfl⟩ | ⟨_, found⟩
      · exact poised.untouched id request owner
      · exact poised.untouched target entry found

theorem poised_of_run (reach : Transition.run (next hash) {} actions = some system) :
    system.Poised :=
  Transition.run_stable Poised.step poised_initial reach

/-- The steps of a task that runs alone are steps of the service. -/
theorem run_alone {id : RequestId} {request : Request} {nows : List Int}
    {state : AuthCoordinator × Request} (found : system.requests.get? id = some request)
    (alone : Transition.run (Request.alone hash id) (system.coordinator, request) nows =
      some state) :
    ∃ final, Transition.run (next hash) system (nows.map (.task id)) = some final ∧
      final.coordinator = state.1 ∧ final.requests.get? id = some state.2 := by
  induction nows generalizing system request with
  | nil =>
      cases alone
      exact ⟨system, rfl, rfl, found⟩
  | cons now nows ih =>
      obtain ⟨⟨coordinator, later⟩, taken, rest⟩ := Transition.run_cons_eq_some.mp alone
      let middle : AuthSystem :=
        { system with coordinator, requests := system.requests.insert id later }
      have step : next hash system (.task id now) = some middle := by
        rw [Request.alone] at taken
        simp [next, found, taken, middle]
      obtain ⟨final, reach, same, foundLater⟩ :=
        @ih middle later (SortedMap.get?_insert_self _ _ _) rest
      exact ⟨final, Transition.run_cons_eq_some.mpr ⟨middle, step, reach⟩, same, foundLater⟩

/-- The event was pushed to the callback of the session. -/
def Notified (system : AuthSystem) (request : Request) (session : Address) : Prop :=
  system.coordinator.manager.sessions.contains session = true ∧
    ∃ callback ∈ request.pushed.map Prod.fst,
      system.coordinator.manager.callbackAt session = some callback

/-- A dispatched request has notified once each session that subscribes its event, and these are
the sessions that a service is told about exactly when all of them recorded the service. -/
structure Dispatched (system : AuthSystem) (request : Request) (serviceId : String) : Prop where
  pushed : (request.pushed.map Prod.fst).Perm
    ((system.coordinator.manager.getSubscribedSessions request.event.eventId).filterMap
      system.coordinator.manager.callbackAt)
  notified : ∀ session, system.Notified request session ↔
    session ∈ system.coordinator.manager.getSubscribedSessions request.event.eventId
  agrees : (∀ session, system.Notified request session ↔
      system.coordinator.manager.Lists serviceId session request.event.eventId) ↔
    ∀ session ∈ system.coordinator.manager.getSubscribedSessions request.event.eventId,
      system.coordinator.manager.Recorded serviceId session request.event.eventId

/-- Sessions with distinct callbacks are told apart by what was pushed. -/
theorem notified_iff {request : Request} {eventId : Int}
    (quota : system.coordinator.manager.WithinQuota)
    (pushed : (request.pushed.map Prod.fst).Perm
      ((system.coordinator.manager.getSubscribedSessions eventId).filterMap
        system.coordinator.manager.callbackAt)) (session : Address) :
    system.Notified request session ↔
      session ∈ system.coordinator.manager.getSubscribedSessions eventId := by
  constructor
  · rintro ⟨entered, callback, mem, own⟩
    obtain ⟨other, listed, theirs⟩ := List.mem_filterMap.mp (pushed.mem_iff.mp mem)
    obtain ⟨entered', -⟩ := AuthEventSubscribeManager.mem_getSubscribedSessions_iff.mp listed
    obtain ⟨object, found, same⟩ := Option.map_eq_some_iff.mp own
    obtain ⟨object', found', same'⟩ := Option.map_eq_some_iff.mp theirs
    have equal : session = other :=
      quota.distinct session other object object' entered entered' found found'
        (same.trans same'.symm)
    exact equal ▸ listed
  · intro listed
    obtain ⟨entered, object, found, -⟩ :=
      AuthEventSubscribeManager.mem_getSubscribedSessions_iff.mp listed
    have callback : system.coordinator.manager.callbackAt session = some object.callback := by
      rw [AuthEventSubscribeManager.callbackAt, found, Option.map_some]
    refine ⟨entered, object.callback, pushed.mem_iff.mpr ?_, callback⟩
    exact List.mem_filterMap.mpr ⟨session, listed, callback⟩

theorem dispatched_of_pushed {request : Request}
    (quota : system.coordinator.manager.WithinQuota)
    (pushed : (request.pushed.map Prod.fst).Perm
      ((system.coordinator.manager.getSubscribedSessions request.event.eventId).filterMap
        system.coordinator.manager.callbackAt)) (serviceId : String) :
    system.Dispatched request serviceId where
  pushed := pushed
  notified := notified_iff quota pushed
  agrees := by
    simp only [notified_iff quota pushed, AuthEventSubscribeManager.lists_iff, iff_self_and]

/-- In every reachable state, a request whose dispatch begins and runs alone notifies exactly the
sessions that subscribe its event; whatever the service of its provider, these are the sessions of
which the provider is told exactly when all of them recorded that service. -/
theorem request_is_dispatched {id : RequestId} {request : Request}
    (reach : Transition.run (next hash) {} actions = some system)
    (found : system.requests.get? id = some request) (stage : request.stage = .subscribed)
    (now : Int) :
    ∃ count final later,
      Transition.run (next hash) system (List.replicate count (.task id now)) = some final ∧
        final.requests.get? id = some later ∧ later.stage = .check ∧
          later.event = request.event ∧ ∀ serviceId, system.Dispatched later serviceId := by
  have poised := poised_of_run reach
  obtain ⟨pushed, targets, seqnums⟩ := poised.untouched id request found (.inr stage)
  obtain ⟨count, after, later, alone, stage', event, perm⟩ :=
    Request.alone_notifies hash id stage pushed targets seqnums now
  obtain ⟨final, reach', -, found'⟩ := run_alone found alone
  rw [List.map_replicate] at reach'
  rw [← event] at perm
  exact ⟨count, final, later, reach', found', stage', event,
    fun serviceId => dispatched_of_pushed poised.quota perm serviceId⟩

/-- The dispatch of a request to one client of the provider's service. -/
theorem request_is_dispatched_asked :
    ∃ system request count final later,
      Transition.run (next String.length) {} (joinClient 1 7 1 ++ askDecision ++ taskSteps 3) =
          some system ∧
        system.requests.get? 0 = some request ∧
          Transition.run (next String.length) system (List.replicate count (.task 0 0)) =
              some final ∧
            final.requests.get? 0 = some later ∧ later.stage = .check ∧
              later.event = request.event ∧ ∀ serviceId, system.Dispatched later serviceId := by
  have evaluated : (Transition.run (next String.length) {}
      (joinClient 1 7 1 ++ askDecision ++ taskSteps 3)).any (fun system =>
        (system.requests.get? 0).any fun request => request.stage = .subscribed) = true := by
    decide +kernel
  obtain ⟨system, reach, rest⟩ := (Option.any_eq_true _ _).mp evaluated
  obtain ⟨request, found, stage⟩ := (Option.any_eq_true _ _).mp rest
  obtain ⟨count, final, later, dispatches⟩ :=
    request_is_dispatched reach found (of_decide_eq_true stage) 0
  exact ⟨system, request, count, final, later, reach, found, dispatches⟩

/-- A provider of another service asks for a decision on the event of a client. -/
def strangerAsks : List AuthAction :=
  joinClient 1 7 1 ++
    [.createAuthProvider providerCaller (some 200) "stranger" 50,
      .requestAuthResult providerCaller 50 { eventId := 5 } (some 300) 0] ++ taskSteps 3

/-- The client is asked although the provider was never told about it. -/
theorem stranger_reaches_client :
    ∃ system request provider final later,
      Transition.run (next String.length) {} strangerAsks = some system ∧
        system.requests.get? 0 = some request ∧ request.stage = .subscribed ∧
          system.coordinator.providerObjects.get? request.provider = some provider ∧
            Transition.run (next String.length) system (taskSteps 10) = some final ∧
              final.requests.get? 0 = some later ∧ later.stage = .check ∧
                system.Notified later 1 ∧
                  ¬system.coordinator.manager.Lists provider.serviceId 1 request.event.eventId := by
  have evaluated : (Transition.run (next String.length) {} strangerAsks).any (fun system =>
      system.coordinator.manager.sessions.contains 1 = true ∧
        system.coordinator.manager.callbackAt 1 = some 101 ∧
          (system.requests.get? 0).any fun request => request.stage = .subscribed ∧
            (system.coordinator.providerObjects.get? request.provider).any fun provider =>
              (system.coordinator.manager.sessionObjects.get? 1).any (fun object =>
                object.getServiceIdForEvent request.event.eventId ≠ provider.serviceId) ∧
                (Transition.run (next String.length) system (taskSteps 10)).any fun final =>
                  (final.requests.get? 0).any fun later => later.stage = .check ∧
                    101 ∈ later.pushed.map Prod.fst) = true := by
    decide +kernel
  obtain ⟨system, reach, rest⟩ := (Option.any_eq_true _ _).mp evaluated
  obtain ⟨entered, callback, rest⟩ := of_decide_eq_true rest
  obtain ⟨request, found, rest⟩ := (Option.any_eq_true _ _).mp rest
  obtain ⟨stage, rest⟩ := of_decide_eq_true rest
  obtain ⟨provider, asks, rest⟩ := (Option.any_eq_true _ _).mp rest
  obtain ⟨other, rest⟩ := of_decide_eq_true rest
  obtain ⟨object, known, differs⟩ := (Option.any_eq_true _ _).mp other
  obtain ⟨final, reach', rest⟩ := (Option.any_eq_true _ _).mp rest
  obtain ⟨later, found', rest⟩ := (Option.any_eq_true _ _).mp rest
  obtain ⟨checked, pushed⟩ := of_decide_eq_true rest
  refine ⟨system, request, provider, final, later, reach, found, stage, asks, reach', found',
    checked, ⟨entered, 101, pushed, callback⟩, fun lists => ?_⟩
  obtain ⟨-, recorded⟩ := AuthEventSubscribeManager.lists_iff.mp lists
  exact of_decide_eq_true differs (recorded object known)

end AuthSystem

end SecurityGuard
