import SecurityGuard.Auth.Routing

/-!
# Answers reach the request they were asked for

Each number that a task generates for a session is written down.  While the live sessions have
distinct client ids, a route leads to the request that generated its number for the session
with its client id.  An answer therefore changes no other request, and no task touches a route
of another one.
-/

namespace SecurityGuard

/-- A number that a request generated for a session that it registers. -/
structure Issue where
  request : RequestId
  session : Address
  seqnum : Int
  deriving DecidableEq, Repr

/-- The number that the next step of a request generates. -/
def Request.issues (manager : AuthEventSubscribeManager) (id : RequestId) (request : Request) :
    List Issue :=
  match request.stage with
  | .register session .generate _ =>
      match manager.sessionObjects.get? session with
      | none => []
      | some object => [⟨id, session, object.seqnumCounter + 1⟩]
  | _ => []

namespace AuthSystem

/-- The numbers that a step gives out. -/
def issues (system : AuthSystem) : AuthAction → List Issue
  | .task id _ =>
      match system.requests.get? id with
      | none => []
      | some request => request.issues system.coordinator.manager id
  | _ => []

/-- Whether a number may still be answered: its request is in flight or has left its route. -/
def awaits (hash : String → Nat) (system : AuthSystem) (issue : Issue) : Bool :=
  ((system.requests.get? issue.request).any fun request => request.stage ≠ .finished) ||
    (system.sessionObject? issue.session).any fun object =>
      system.coordinator.findRoutingContext hash object.clientId issue.seqnum = some issue.request

/-- A session is live while it is registered, while a task has still to handle it or a call
comes from it, and while an answer of it is awaited. -/
def liveSessions (hash : String → Nat) (system : AuthSystem) (issued : List Issue) :
    List Address :=
  system.coordinator.manager.sessions.keys ++
    (system.requests.entries.flatMap fun entry => entry.2.stage.sessions) ++
    (system.answers.entries.map fun entry => entry.2.session) ++
    (issued.filter (system.awaits hash)).map Issue.session

/-- Live sessions have distinct client ids. -/
def DistinctClientIds (hash : String → Nat) (recorded : AuthSystem × List Issue)
    (_ : AuthAction) : Prop :=
  ∀ first ∈ recorded.1.liveSessions hash recorded.2,
    ∀ second ∈ recorded.1.liveSessions hash recorded.2,
      ∀ object ∈ recorded.1.sessionObject? first, ∀ other ∈ recorded.1.sessionObject? second,
        object.clientId = other.clientId → first = second

instance (hash : String → Nat) (recorded : AuthSystem × List Issue) (action : AuthAction) :
    Decidable (DistinctClientIds hash recorded action) :=
  inferInstanceAs (Decidable (∀ first ∈ recorded.1.liveSessions hash recorded.2, _))

section Live

variable {hash : String → Nat} {system : AuthSystem} {issued : List Issue}

theorem live_of_answering {answerId : AnswerId} {answer : Answer}
    (found : system.answers.get? answerId = some answer) :
    answer.session ∈ system.liveSessions hash issued := by
  refine List.mem_append_left _ (List.mem_append_right _ ?_)
  exact List.mem_map.mpr ⟨(answerId, answer), SortedMap.mem_entries_iff.mpr found, rfl⟩

theorem live_of_awaited {issue : Issue} (mem : issue ∈ issued)
    (awaited : system.awaits hash issue = true) :
    issue.session ∈ system.liveSessions hash issued :=
  List.mem_append_right _ (List.mem_map.mpr ⟨issue, List.mem_filter.mpr ⟨mem, awaited⟩, rfl⟩)

theorem awaits_of_inFlight {issue : Issue} {request : Request}
    (found : system.requests.get? issue.request = some request)
    (flight : request.stage ≠ .finished) : system.awaits hash issue = true := by
  simp [awaits, found, flight]

theorem awaits_of_route {issue : Issue} {object : AuthEventSessionService}
    (found : system.sessionObject? issue.session = some object)
    (route : system.coordinator.findRoutingContext hash object.clientId issue.seqnum =
      some issue.request) : system.awaits hash issue = true := by
  simp [awaits, found, route]

end Live

end AuthSystem

theorem AuthEventSubscribeManager.counting : Versions fun object later =>
    later.clientId = object.clientId ∧ object.seqnumCounter ≤ later.seqnumCounter where
  refl := fun _ => ⟨rfl, le_refl _⟩
  registered := fun _ _ _ => ⟨rfl, le_refl _⟩
  unregistered := fun _ _ => ⟨rfl, le_refl _⟩
  invalid := fun _ => ⟨rfl, le_refl _⟩
  generated := fun object => ⟨rfl, Int.le_add_of_nonneg_right (by decide)⟩

/-- The numbers that a request holds were generated by it. -/
structure Request.Accounted (manager : AuthEventSubscribeManager) (issued : List Issue)
    (id : RequestId) (request : Request) : Prop where
  registering : ∀ session seqnum todo phase,
    request.stage = .register session phase todo →
      phase = .record seqnum ∨ phase = .context seqnum ∨ phase = .route seqnum →
        ⟨id, session, seqnum⟩ ∈ issued
  routes : ∀ clientId seqnum, (clientId, seqnum) ∈ request.routes →
    ∃ session object, ⟨id, session, seqnum⟩ ∈ issued ∧
      manager.sessionObjects.get? session = some object ∧ object.clientId = clientId
  cleaned : ∀ routes result, request.stage = .clean routes result → routes ⊆ request.routes

theorem Request.Accounted.mono {before after : AuthEventSubscribeManager}
    {issued later : List Issue}
    {id : RequestId} {request : Request} (accounted : request.Accounted before issued id)
    (grows : before.Extends after) (more : issued ⊆ later) : request.Accounted after later id where
  registering := fun session seqnum todo phase stage holds =>
    more (accounted.registering session seqnum todo phase stage holds)
  routes := by
    intro clientId seqnum mem
    obtain ⟨session, object, own, known, client⟩ := accounted.routes clientId seqnum mem
    obtain ⟨version, knownLater, same, -⟩ := grows session object known
    exact ⟨session, version, more own, knownLater, same.trans client⟩
  cleaned := accounted.cleaned

namespace TaskStep

variable {hash : String → Nat} {coordinator after : AuthCoordinator} {id : RequestId}
  {request later : Request}

/-- A route of a request after a step was there before or is the one that the step records. -/
theorem routes_cases (taken : TaskStep hash coordinator id request after later)
    (registered : request.Registered coordinator.manager) {clientId : String} {seqnum : Int}
    (mem : (clientId, seqnum) ∈ later.routes) :
    (clientId, seqnum) ∈ request.routes ∨
      ∃ session todo object, request.stage = .register session (.record seqnum) todo ∧
        coordinator.manager.sessionObjects.get? session = some object ∧
          object.clientId = clientId := by
  cases taken with
  | @registered session object phase todo stage found =>
      cases phase with
      | record number =>
          have routes := Request.routes_record registered.lengths object.clientId number
          change (clientId, seqnum) ∈
            (request.clientIds ++ [object.clientId]).zip (request.seqnums ++ [number]) at mem
          rw [routes] at mem
          rcases List.mem_append.mp mem with earlier | new
          · exact .inl earlier
          · obtain ⟨rfl, rfl⟩ := Prod.mk.inj (List.mem_singleton.mp new)
            exact .inr ⟨session, todo, object, stage, found, rfl⟩
      | countSent | countDeny | generate | context | route => exact .inl mem
  | _ => exact .inl mem

/-- The number of a registration in progress was generated by its request. -/
theorem keeps_registering (taken : TaskStep hash coordinator id request after later)
    {issued : List Issue} (accounted : request.Accounted coordinator.manager issued id)
    {session : Address} {seqnum : Int} {phase : RegisterPhase} {todo : List Address}
    (register : later.stage = .register session phase todo)
    (holds : phase = .record seqnum ∨ phase = .context seqnum ∨ phase = .route seqnum) :
    ⟨id, session, seqnum⟩ ∈ issued ++ request.issues coordinator.manager id := by
  cases taken with
  | @early _ stage _ _ quiet =>
      change stage = _ at register
      rcases quiet with quiet | rfl
      · rw [register] at quiet
        exact quiet.elim
      · cases register
  | chosen =>
      cases register
      rcases holds with holds | holds | holds <;> cases holds
  | @registered session' object phase' todo' stage found =>
      cases phase' with
      | countSent | countDeny =>
          cases register
          rcases holds with holds | holds | holds <;> cases holds
      | generate =>
          cases register
          rcases holds with holds | holds | holds
          · cases holds
            simp [Request.issues, stage, found]
          · cases holds
          · cases holds
      | record number =>
          cases register
          rcases holds with holds | holds | holds
          · cases holds
          · cases holds
            exact List.mem_append_left _
              (accounted.registering session _ todo _ stage (.inl rfl))
          · cases holds
      | context number =>
          cases register
          rcases holds with holds | holds | holds
          · cases holds
          · cases holds
          · cases holds
            exact List.mem_append_left _
              (accounted.registering session _ todo _ stage (.inr (.inl rfl)))
      | route => cases register
  | _ => cases register

theorem keeps_accounted (taken : TaskStep hash coordinator id request after later)
    (registered : request.Registered coordinator.manager)
    (grows : coordinator.manager.Extends after.manager) {issued : List Issue}
    (accounted : request.Accounted coordinator.manager issued id) :
    later.Accounted after.manager (issued ++ request.issues coordinator.manager id) id := by
  refine ⟨?_, ?_, ?_⟩
  · intro session seqnum todo phase register holds
    exact taken.keeps_registering accounted register holds
  · intro clientId seqnum mem
    have known : ∃ session object, ⟨id, session, seqnum⟩ ∈ issued ∧
        coordinator.manager.sessionObjects.get? session = some object ∧
          object.clientId = clientId := by
      rcases taken.routes_cases registered mem with earlier | ⟨session, todo, object, stage, rest⟩
      · exact accounted.routes clientId seqnum earlier
      · exact ⟨session, object,
          accounted.registering session seqnum todo _ stage (.inl rfl), rest⟩
    obtain ⟨session, object, mem, found, same⟩ := known
    obtain ⟨version, foundLater, client, -⟩ := grows session object found
    exact ⟨session, version, List.mem_append_left _ mem, foundLater, client.trans same⟩
  · intro routes result stage
    cases taken with
    | @early _ stage' _ _ quiet =>
        change stage' = _ at stage
        rcases quiet with quiet | rfl
        · rw [stage] at quiet
          exact quiet.elim
        · cases stage
    | @registered _ _ phase => cases phase <;> cases stage
    | built =>
        cases stage
        exact List.Subset.refl _
    | cleaned earlier =>
        cases stage
        exact List.Subset.trans (List.subset_cons_self _ _) (accounted.cleaned _ _ earlier)
    | _ => cases stage

end TaskStep

/-! ## The recorded service -/

/-- Requests, routes and answers agree with the numbers that were generated. -/
structure AuthSystem.Isolated (hash : String → Nat) (system : AuthSystem)
    (issued : List Issue) : Prop where
  registered : system.Registered
  placed : system.coordinator.Placed hash
  counted : ∀ issue ∈ issued, ∃ object, system.sessionObject? issue.session = some object ∧
    issue.seqnum ≤ object.seqnumCounter
  once : ∀ issue ∈ issued, ∀ other ∈ issued,
    issue.session = other.session → issue.seqnum = other.seqnum → issue.request = other.request
  requests : ∀ id request, system.requests.get? id = some request →
    request.Accounted system.coordinator.manager issued id
  routes : ∀ index key id, (system.coordinator.seqnumShards index).get? key = some id →
    ∃ session seqnum object, ⟨id, session, seqnum⟩ ∈ issued ∧
      system.sessionObject? session = some object ∧ key = makeSeqnumKey object.clientId seqnum
  clients : ∀ answerId answer, system.answers.get? answerId = some answer →
    ∃ object, system.sessionObject? answer.session = some object ∧
      object.clientId = answer.clientId
  recording : ∀ answerId answer id, system.answers.get? answerId = some answer →
    answer.stage = .record id → ⟨id, answer.session, answer.event.seqnum⟩ ∈ issued

namespace AuthSystem

theorem isolated_initial {hash : String → Nat} : Isolated hash {} [] where
  registered := registered_initial
  placed := fun _ _ _ found => nomatch found
  counted := fun _ mem => absurd mem List.not_mem_nil
  once := fun _ mem => absurd mem List.not_mem_nil
  requests := fun _ _ found => nomatch found
  routes := fun _ _ _ found => nomatch found
  clients := fun _ _ found => nomatch found
  recording := fun _ _ _ found => nomatch found

variable {hash : String → Nat} {before after : AuthSystem} {issued : List Issue}
  {action : AuthAction}

/-- The session that a kept route was generated for is live. -/
theorem Isolated.route_live (isolated : before.Isolated hash issued)
    {index : Fin seqnumShardCount} {clientId : String} {seqnum : Int} {id : RequestId}
    (found : (before.coordinator.seqnumShards index).get? (makeSeqnumKey clientId seqnum) =
      some id) :
    ∃ session object, ⟨id, session, seqnum⟩ ∈ issued ∧
      before.sessionObject? session = some object ∧ object.clientId = clientId ∧
        session ∈ before.liveSessions hash issued := by
  obtain ⟨session, number, object, mem, known, same⟩ := isolated.routes _ _ _ found
  obtain ⟨rfl, rfl⟩ := makeSeqnumKey_inj same
  refine ⟨session, object, mem, known, rfl, live_of_awaited mem (awaits_of_route known ?_)⟩
  have shard := isolated.placed _ _ _ found
  rw [AuthCoordinator.findRoutingContext, AuthCoordinator.route?, ← shard]
  exact found

/-- Two live sessions with one client id are one session. -/
theorem DistinctClientIds.same {recorded : AuthSystem × List Issue}
    (distinct : DistinctClientIds hash recorded action) {first second : Address}
    {object other : AuthEventSessionService}
    (live : first ∈ recorded.1.liveSessions hash recorded.2)
    (liveOther : second ∈ recorded.1.liveSessions hash recorded.2)
    (found : recorded.1.sessionObject? first = some object)
    (foundOther : recorded.1.sessionObject? second = some other)
    (same : object.clientId = other.clientId) : first = second :=
  distinct first live second liveOther object found other foundOther same

/-- A call in flight comes from the session whose client it names. -/
theorem next_answers (taken : next hash before action = some after) {answerId : AnswerId}
    {answer : Answer} (found : after.answers.get? answerId = some answer) :
    (∃ earlier, before.answers.get? answerId = some earlier ∧
        earlier.session = answer.session ∧ earlier.clientId = answer.clientId) ∨
      ∃ object, before.sessionObject? answer.session = some object ∧
        object.clientId = answer.clientId := by
  have unchanged (same : after.answers = before.answers) :
      ∃ earlier, before.answers.get? answerId = some earlier ∧
        earlier.session = answer.session ∧ earlier.clientId = answer.clientId :=
    ⟨answer, same ▸ found, rfl, rfl⟩
  cases action with
  | setAuthResult caller session event allowFlag configured answerId' =>
      simp only [next] at taken
      split at taken
      · cases taken
      · split at taken
        · next object known =>
            split at taken
            · cases taken
              rcases SortedMap.get?_insert_eq_some.mp found with ⟨_, rfl⟩ | ⟨_, found⟩
              · exact .inr ⟨object, known, rfl⟩
              · exact .inl ⟨answer, found, rfl, rfl⟩
            · cases taken
              exact .inl (unchanged rfl)
        · cases taken
          exact .inl (unchanged rfl)
  | answer answerId' =>
      simp only [next] at taken
      split at taken
      · cases taken
      · next call calling =>
          refine .inl ?_
          have replaced {stage : AnswerStage}
              (found : (before.answers.insert answerId' { call with stage }).get? answerId =
                some answer) :
              ∃ earlier, before.answers.get? answerId = some earlier ∧
                earlier.session = answer.session ∧ earlier.clientId = answer.clientId := by
            rcases SortedMap.get?_insert_eq_some.mp found with ⟨same, rfl⟩ | ⟨_, found⟩
            · exact ⟨call, same ▸ calling, rfl, rfl⟩
            · exact ⟨answer, found, rfl, rfl⟩
          have dropped (found : (before.answers.erase answerId').get? answerId = some answer) :
              ∃ earlier, before.answers.get? answerId = some earlier ∧
                earlier.session = answer.session ∧ earlier.clientId = answer.clientId := by
            exact ⟨answer, (SortedMap.get?_erase_eq_some.mp found).2, rfl, rfl⟩
          simp only [answerStep] at taken
          split at taken
          · split at taken
            · cases taken
              exact replaced found
            · cases taken
              exact dropped found
          · split at taken
            · cases taken
              exact dropped found
            · cases taken
              exact replaced found
          · split at taken
            · cases taken
            · cases taken
              exact dropped found
  | requestAuthResult caller provider event resultCallback request =>
      simp only [next] at taken
      split at taken
      · cases taken
      · split at taken
        · split at taken <;> exact .inl (unchanged (by cases taken; rfl))
        · exact .inl (unchanged (by cases taken; rfl))
  | task id now =>
      simp only [next] at taken
      split at taken
      · cases taken
      · split at taken
        · cases taken
        · exact .inl (unchanged (by cases taken; rfl))
  | creatAuthEventClient | createAuthProvider =>
      simp only [next] at taken
      split_ifs at taken <;> exact .inl (unchanged (by cases taken; rfl))
  | subscribe | unsubscribe | destroyClient | destroyAuthProvider =>
      simp only [next] at taken
      split at taken
      · split at taken <;> exact .inl (unchanged (by cases taken; rfl))
      · exact .inl (unchanged (by cases taken; rfl))
  | removeSession | removeProvider => exact .inl (unchanged (by cases taken; rfl))

/-- A generated number is the new counter of its session. -/
theorem generated_of_mem_issues {id : RequestId} {now : Int} {request later : Request}
    {coordinator : AuthCoordinator} {issue : Issue}
    (mem : issue ∈ request.issues before.coordinator.manager id)
    (step : request.taskStep hash before.coordinator id now = some (coordinator, later)) :
    issue.request = id ∧ ∃ object, before.sessionObject? issue.session = some object ∧
      issue.seqnum = object.seqnumCounter + 1 ∧
        coordinator.manager.sessionObjects.get? issue.session = some object.generateSeqnum := by
  unfold Request.issues at mem
  split at mem
  · next session todo stage =>
      split at mem
      · exact absurd mem List.not_mem_nil
      · next object found =>
          obtain rfl := List.mem_singleton.mp mem
          simp only [Request.taskStep, stage, found, Request.registerNormalClient] at step
          cases step
          refine ⟨rfl, object, found, rfl, ?_⟩
          simp [AuthCoordinator.withManager, AuthEventSubscribeManager.generateSeqnum, found]
  · exact absurd mem List.not_mem_nil

theorem issues_unique {manager : AuthEventSubscribeManager} {id : RequestId} {request : Request}
    {issue other : Issue} (mem : issue ∈ request.issues manager id)
    (memOther : other ∈ request.issues manager id) : issue = other := by
  have atMostOne : request.issues manager id = [] ∨ ∃ only, request.issues manager id = [only] := by
    unfold Request.issues
    split
    · split
      · exact .inl rfl
      · exact .inr ⟨_, rfl⟩
    · exact .inl rfl
  rcases atMostOne with none | ⟨only, same⟩
  · rw [none] at mem
    exact absurd mem List.not_mem_nil
  · rw [same] at mem memOther
    exact (List.mem_singleton.mp mem).trans (List.mem_singleton.mp memOther).symm

/-- A task leaves the routes of the other requests as they are. -/
theorem Isolated.keeps_routes (isolated : before.Isolated hash issued)
    (distinct : DistinctClientIds hash (before, issued) action) {id : RequestId}
    {request later : Request} {coordinator : AuthCoordinator}
    (found : before.requests.get? id = some request)
    (taken : TaskStep hash before.coordinator id request coordinator later)
    {index : Fin seqnumShardCount} {key : String} {other : RequestId} (others : other ≠ id)
    (route : (before.coordinator.seqnumShards index).get? key = some other) :
    (coordinator.seqnumShards index).get? key = some other := by
  have accounted := isolated.requests id request found
  -- Two requests that share a key would share a generated number.
  have disjoint {clientId : String} {seqnum : Int} {session : Address}
      {object : AuthEventSessionService} (own : ⟨id, session, seqnum⟩ ∈ issued)
      (known : before.sessionObject? session = some object) (client : object.clientId = clientId)
      (flight : request.stage ≠ .finished) (same : key = makeSeqnumKey clientId seqnum) :
      False := by
    subst same
    obtain ⟨holder, version, mem, knownHolder, clientHolder, live⟩ := isolated.route_live route
    have awaited : before.awaits hash ⟨id, session, seqnum⟩ = true :=
      awaits_of_inFlight found flight
    have equal : session = holder :=
      distinct.same (live_of_awaited own awaited) live known knownHolder
        (client.trans clientHolder.symm)
    exact others (isolated.once _ mem _ own equal.symm rfl)
  cases taken with
  | early keeps => exact keeps.seqnumShards ▸ route
  | released keeps => exact keeps.seqnumShards ▸ route
  | @registered session object phase todo stage known =>
      cases phase with
      | route seqnum =>
          simp only [Request.registerNormalClient]
          rw [AuthCoordinator.insertRoute_get?, if_neg]
          · exact route
          · rintro ⟨-, same⟩
            exact disjoint
              (accounted.registering session seqnum todo _ stage (.inr (.inr rfl))) known rfl
              (by simp [stage]) same
      | countSent | countDeny | generate | record | context => exact route
  | @cleaned clientId seqnum routes result stage =>
      rw [AuthCoordinator.eraseRoute_get?, if_neg]
      · exact route
      · rintro ⟨-, same⟩
        obtain ⟨session, object, own, known, client⟩ :=
          accounted.routes clientId seqnum (accounted.cleaned _ _ stage List.mem_cons_self)
        exact disjoint own known client (by simp [stage]) same
  | _ => exact route

theorem Isolated.task (isolated : before.Isolated hash issued)
    {id : RequestId} {now : Int}
    (taken : next hash before (.task id now) = some after) :
    after.Isolated hash (issued ++ before.issues (.task id now)) := by
  have step := next_cases taken
  have counts := next_carries AuthEventSubscribeManager.counting taken
  have grows := next_carries AuthEventSubscribeManager.fading taken
  obtain ⟨request, coordinator, later, found, body, rfl⟩ := next_task taken
  have accounted := isolated.requests id request found
  have registered := isolated.registered.requests id request found
  have cases := Request.taskStep_cases body
  have own : before.issues (.task id now) = request.issues before.coordinator.manager id := by
    simp [issues, found]
  rw [own]
  refine
    { registered := isolated.registered.step step
      placed := cases.keeps_placed isolated.placed
      counted := ?_
      once := ?_
      requests := ?_
      routes := ?_
      clients := ?_
      recording := ?_ }
  · intro issue mem
    rcases List.mem_append.mp mem with earlier | new
    · obtain ⟨object, known, bound⟩ := isolated.counted issue earlier
      obtain ⟨version, knownLater, -, more⟩ := counts _ object known
      exact ⟨version, knownLater, bound.trans more⟩
    · obtain ⟨-, object, -, number, known⟩ := generated_of_mem_issues new body
      exact ⟨object.generateSeqnum, known, number.le⟩
  -- A generated number is above every number that the session has issued before.
  · have fresh {issue other : Issue} (earlier : issue ∈ issued)
        (new : other ∈ request.issues before.coordinator.manager id)
        (session : issue.session = other.session) : issue.seqnum ≠ other.seqnum := by
      obtain ⟨object, known, bound⟩ := isolated.counted issue earlier
      obtain ⟨-, object', known', number, -⟩ := generated_of_mem_issues new body
      rw [session] at known
      cases known.symm.trans known'
      omega
    intro issue mem other memOther session seqnum
    rcases List.mem_append.mp mem with earlier | new
    · rcases List.mem_append.mp memOther with earlierOther | newOther
      · exact isolated.once issue earlier other earlierOther session seqnum
      · exact absurd seqnum (fresh earlier newOther session)
    · rcases List.mem_append.mp memOther with earlierOther | newOther
      · exact absurd seqnum.symm (fresh earlierOther new session.symm)
      · rw [issues_unique new newOther]
  · intro other entry foundEntry
    rcases SortedMap.get?_insert_eq_some.mp foundEntry with ⟨same, rfl⟩ | ⟨_, foundEntry⟩
    · rw [same]
      exact cases.keeps_accounted registered grows accounted
    · exact (isolated.requests other entry foundEntry).mono grows (List.subset_append_left _ _)
  · intro index key target route
    rcases cases.route_cases registered route with earlier | ⟨rfl, ⟨clientId, seqnum⟩, mem, same⟩
    · obtain ⟨session, seqnum, object, mem, known, same⟩ :=
        isolated.routes index key target earlier
      obtain ⟨version, knownLater, client, -⟩ := grows session object known
      exact ⟨session, seqnum, version, List.mem_append_left _ mem, knownLater,
        client.symm ▸ same⟩
    · obtain ⟨session, object, own, known, client⟩ :=
        (cases.keeps_accounted registered grows accounted).routes clientId seqnum mem
      exact ⟨session, seqnum, object, own, known, client.symm ▸ same⟩
  · intro answerId answer foundAnswer
    obtain ⟨object, known, client⟩ := isolated.clients answerId answer foundAnswer
    obtain ⟨version, knownLater, same, -⟩ := grows _ object known
    exact ⟨version, knownLater, same.trans client⟩
  · intro answerId answer target foundAnswer stage
    exact List.mem_append_left _
      (isolated.recording answerId answer target foundAnswer stage)

theorem issues_of_not_task (others : ∀ id now, action ≠ .task id now) :
    before.issues action = [] := by
  cases action with
  | task id now => exact absurd rfl (others id now)
  | _ => rfl

theorem Isolated.finds (isolated : before.Isolated hash issued)
    (distinct : DistinctClientIds hash (before, issued) action) {answerId : AnswerId}
    {answer : Answer} {id : RequestId} (found : before.answers.get? answerId = some answer)
    (route : before.coordinator.findRoutingContext hash answer.clientId answer.event.seqnum =
      some id) : ⟨id, answer.session, answer.event.seqnum⟩ ∈ issued := by
  obtain ⟨session, object, mem, known, client, live⟩ := isolated.route_live route
  obtain ⟨own, knownOwn, clientOwn⟩ := isolated.clients answerId answer found
  have same : session = answer.session :=
    distinct.same live (live_of_answering found) known knownOwn (client.trans clientOwn.symm)
  exact same ▸ mem

theorem Isolated.other (isolated : before.Isolated hash issued)
    (distinct : DistinctClientIds hash (before, issued) action)
    (others : ∀ id now, action ≠ .task id now) (taken : next hash before action = some after) :
    after.Isolated hash issued := by
  have step := next_cases taken
  have counts := next_carries AuthEventSubscribeManager.counting taken
  have grows := next_carries AuthEventSubscribeManager.fading taken
  have shards : after.coordinator.seqnumShards = before.coordinator.seqnumShards := by
    cases step with
    | environment keeps => exact keeps.seqnumShards
    | task => exact absurd rfl (others _ _)
    | requested | routed | recorded => rfl
  refine
    { registered := isolated.registered.step step
      placed := ?_
      counted := ?_
      once := isolated.once
      requests := ?_
      routes := ?_
      clients := ?_
      recording := ?_ }
  · intro index key id route
    exact isolated.placed index key id (shards ▸ route)
  · intro issue mem
    obtain ⟨object, known, bound⟩ := isolated.counted issue mem
    obtain ⟨version, knownLater, -, more⟩ := counts _ object known
    exact ⟨version, knownLater, bound.trans more⟩
  · intro id entry foundEntry
    have carried {request : Request} (found : before.requests.get? id = some request) :=
      (isolated.requests id request found).mono grows (List.Subset.refl _)
    cases step with
    | environment keeps requests => exact carried (requests ▸ foundEntry)
    | requested fresh =>
        rcases SortedMap.get?_insert_eq_some.mp foundEntry with ⟨_, rfl⟩ | ⟨_, foundEntry⟩
        · exact ⟨fun _ _ _ _ stage => Stage.noConfusion stage,
            fun _ _ mem => absurd mem List.not_mem_nil, fun _ _ stage => Stage.noConfusion stage⟩
        · exact carried foundEntry
    | task => exact absurd rfl (others _ _)
    | routed => exact carried foundEntry
    | @recorded _ _ owner request _ _ _ target =>
        rcases SortedMap.get?_insert_eq_some.mp foundEntry with ⟨same, rfl⟩ | ⟨_, foundEntry⟩
        · have known := carried (same ▸ target)
          exact ⟨known.registering, known.routes, known.cleaned⟩
        · exact carried foundEntry
  · intro index key id route
    obtain ⟨session, seqnum, object, mem, known, same⟩ :=
      isolated.routes index key id (shards ▸ route)
    obtain ⟨version, knownLater, client, -⟩ := grows session object known
    exact ⟨session, seqnum, version, mem, knownLater, client.symm ▸ same⟩
  · intro answerId answer foundAnswer
    have known : ∃ object, before.sessionObject? answer.session = some object ∧
        object.clientId = answer.clientId := by
      rcases next_answers taken foundAnswer with ⟨earlier, found, session, client⟩ | known
      · obtain ⟨object, known, same⟩ := isolated.clients answerId earlier found
        exact ⟨object, session ▸ known, same.trans client⟩
      · exact known
    obtain ⟨object, known, client⟩ := known
    obtain ⟨version, knownLater, same, -⟩ := grows _ object known
    exact ⟨version, knownLater, same.trans client⟩
  · intro answerId answer id foundAnswer stage
    cases step with
    | environment keeps requests answers =>
        rcases answers answerId answer foundAnswer with earlier | quiet
        · exact isolated.recording answerId answer id earlier stage
        · exact absurd stage (quiet id)
    | requested => exact isolated.recording answerId answer id foundAnswer stage
    | task => exact absurd rfl (others _ _)
    | @routed _ call target found route =>
        rcases SortedMap.get?_insert_eq_some.mp foundAnswer with ⟨_, rfl⟩ | ⟨_, foundAnswer⟩
        · cases stage
          have own : ⟨id, call.session, call.event.seqnum⟩ ∈ issued :=
            isolated.finds distinct found route
          exact own
        · exact isolated.recording answerId answer id foundAnswer stage
    | recorded =>
        exact isolated.recording answerId answer id
          (SortedMap.get?_erase_eq_some.mp foundAnswer).2 stage

theorem Isolated.step (isolated : before.Isolated hash issued)
    (distinct : DistinctClientIds hash (before, issued) action)
    (taken : next hash before action = some after) :
    after.Isolated hash (issued ++ before.issues action) := by
  by_cases others : ∀ id now, action ≠ .task id now
  · rw [issues_of_not_task others, List.append_nil]
    exact isolated.other distinct others taken
  · push Not at others
    obtain ⟨id, now, rfl⟩ := others
    exact isolated.task taken

/-- A context changes through the task of its request or through an answer that it asked for. -/
theorem Isolated.ctx_changes (isolated : before.Isolated hash issued)
    (taken : next hash before action = some after) {id : RequestId} {request later : Request}
    (found : before.requests.get? id = some request)
    (foundLater : after.requests.get? id = some later) (changed : later.ctx ≠ request.ctx) :
    (∃ now, action = .task id now) ∨
      ∃ answerId answer, action = .answer answerId ∧
        before.answers.get? answerId = some answer ∧
          ⟨id, answer.session, answer.event.seqnum⟩ ∈ issued := by
  cases next_cases taken with
  | environment keeps requests =>
      rw [requests] at foundLater
      cases found.symm.trans foundLater
      exact absurd rfl changed
  | requested fresh =>
      rw [SortedMap.get?_insert] at foundLater
      split_ifs at foundLater with same
      · rw [same, fresh] at found
        cases found
      · cases found.symm.trans foundLater
        exact absurd rfl changed
  | @task owner now =>
      rw [SortedMap.get?_insert] at foundLater
      split_ifs at foundLater with same
      · exact .inl ⟨now, same ▸ rfl⟩
      · cases found.symm.trans foundLater
        exact absurd rfl changed
  | routed =>
      cases found.symm.trans foundLater
      exact absurd rfl changed
  | @recorded answerId answer owner _ _ calling stage =>
      rw [SortedMap.get?_insert] at foundLater
      split_ifs at foundLater with same
      · exact .inr ⟨answerId, answer, rfl, calling,
          same ▸ isolated.recording answerId answer owner calling stage⟩
      · cases found.symm.trans foundLater
        exact absurd rfl changed

theorem isolated_of_run {actions : List AuthAction}
    (permitted : Transition.Along (Transition.recording (next hash) issues)
      (DistinctClientIds hash) ({}, []) actions)
    (reach : Transition.run (Transition.recording (next hash) issues) ({}, []) actions =
      some (before, issued)) : before.Isolated hash issued := by
  have step {recorded later : AuthSystem × List Issue} {action : AuthAction}
      (isolated : recorded.1.Isolated hash recorded.2)
      (distinct : DistinctClientIds hash recorded action)
      (taken : Transition.recording (next hash) issues recorded action = some later) :
      later.1.Isolated hash later.2 := by
    obtain ⟨after, stepped, rfl⟩ := Transition.recording_eq_some.mp taken
    exact isolated.step distinct stepped
  exact Transition.run_invariant step isolated_initial permitted reach

/-- Isolation of votes: a step changes the context of a request only if it is a step of its
task or an answer for which the request generated the number for the answering session;
different clients or numbers have different keys; and a task overwrites and removes no route of
another request. -/
theorem votes_are_isolated {actions : List AuthAction}
    (permitted : Transition.Along (Transition.recording (next hash) issues)
      (DistinctClientIds hash) ({}, []) (actions ++ [action]))
    (reach : Transition.run (Transition.recording (next hash) issues) ({}, []) actions =
      some (before, issued))
    (taken : next hash before action = some after) :
    (∀ id request later, before.requests.get? id = some request →
        after.requests.get? id = some later → later.ctx ≠ request.ctx →
          (∃ now, action = .task id now) ∨
            ∃ answerId answer, action = .answer answerId ∧
              before.answers.get? answerId = some answer ∧
                ⟨id, answer.session, answer.event.seqnum⟩ ∈ issued) ∧
      (∀ clientId seqnum clientId' seqnum',
        makeSeqnumKey clientId seqnum = makeSeqnumKey clientId' seqnum' →
          (clientId, seqnum) = (clientId', seqnum')) ∧
      ∀ id now, action = .task id now → ∀ index key other, other ≠ id →
        (before.coordinator.seqnumShards index).get? key = some other →
          (after.coordinator.seqnumShards index).get? key = some other := by
  obtain ⟨earlier, last⟩ := (Transition.along_append reach).mp permitted
  have isolated : before.Isolated hash issued := isolated_of_run earlier reach
  refine ⟨?_, ?_, ?_⟩
  · intro id request later found foundLater changed
    exact isolated.ctx_changes taken found foundLater changed
  · intro clientId seqnum clientId' seqnum' same
    obtain ⟨rfl, rfl⟩ := makeSeqnumKey_inj same
    rfl
  · rintro id now rfl index key other others route
    obtain ⟨request, coordinator, later, found, body, rfl⟩ := next_task taken
    exact isolated.keeps_routes last.1 found (Request.taskStep_cases body) others route

/-- Two clients are asked and the second one is about to answer. -/
def secondAnswers : List AuthAction :=
  joinClient 1 7 1 ++ joinClient 2 77 1 ++ askDecision ++ taskSteps 21 ++
    (vote 2 1 true).take 3

/-- The answer of `secondAnswers` reaches the request that asked the second session. -/
theorem votes_are_isolated_second :
    ∃ before issued after request later,
      Transition.run (Transition.recording (next String.length) issues) ({}, []) secondAnswers =
          some (before, issued) ∧
        next String.length before (.answer 0) = some after ∧
          before.requests.get? 0 = some request ∧ after.requests.get? 0 = some later ∧
            later.ctx ≠ request.ctx ∧ ⟨0, 2, 1⟩ ∈ issued := by
  have permitted : Transition.Along (Transition.recording (next String.length) issues)
      (DistinctClientIds String.length) ({}, []) (secondAnswers ++ [.answer 0]) := by
    decide +kernel
  have evaluated : (Transition.run (Transition.recording (next String.length) issues) ({}, [])
      secondAnswers).any (fun recorded =>
        (recorded.1.requests.get? 0).any fun request =>
          (next String.length recorded.1 (.answer 0)).any fun after =>
            (after.requests.get? 0).any fun later =>
              later.ctx ≠ request.ctx ∧
                (recorded.1.answers.get? 0).any fun answer =>
                  answer.session = 2 ∧ answer.event.seqnum = 1) = true := by
    decide +kernel
  obtain ⟨⟨before, issued⟩, reach, found⟩ := (Option.any_eq_true _ _).mp evaluated
  obtain ⟨request, foundRequest, found⟩ := (Option.any_eq_true _ _).mp found
  obtain ⟨after, taken, found⟩ := (Option.any_eq_true _ _).mp found
  obtain ⟨later, foundLater, found⟩ := (Option.any_eq_true _ _).mp found
  obtain ⟨changed, found⟩ := of_decide_eq_true found
  obtain ⟨answer, calling, found⟩ := (Option.any_eq_true _ _).mp found
  obtain ⟨session, seqnum⟩ := of_decide_eq_true found
  refine ⟨before, issued, after, request, later, reach, taken, foundRequest, foundLater, changed,
    ?_⟩
  have isolated := (votes_are_isolated permitted reach taken).1
  rcases isolated 0 request later foundRequest foundLater changed with
    ⟨now, task⟩ | ⟨answerId, caller, same, callerFound, own⟩
  · cases task
  · cases same
    cases calling.symm.trans callerFound
    rw [session, seqnum] at own
    exact own

end AuthSystem

end SecurityGuard
