import SecurityGuard.Auth.Steps

/-!
# The counter of active requests

`TryIncrementActiveRequest` loads the counter of a provider and exchanges it in a loop;
`DecrementActiveRequest` loads it and then subtracts.  Here each access of the counter is a step
of its own, so that other calls may come between a load and what follows from it.  The counter
is the number of requests that have counted themselves and not yet taken themselves off.
-/

namespace SecurityGuard

/-- Where a request is inside a function that changes the counter. -/
inductive CounterStage where
  /-- The loop holds a value that it has loaded. -/
  | loaded (current : Nat)
  /-- The counter is to be loaded before the subtraction. -/
  | decrement
  /-- The loaded value was positive. -/
  | subtract
  deriving DecidableEq, Repr

namespace AuthProviderSessionService

/-- Subtract one from a counter of 64 bits. -/
def fetchSub (object : AuthProviderSessionService) : AuthProviderSessionService :=
  { object with activeRequestCount := (object.activeRequestCount + (2 ^ 64 - 1)) % 2 ^ 64 }

/-- Load the counter in `DecrementActiveRequest`; a counter of zero is left alone. -/
def loadPositive (object : AuthProviderSessionService) (stage : Stage) :
    AuthProviderSessionService × Stage × Option CounterStage :=
  if 0 < object.activeRequestCount then (object, stage, some .subtract)
  else (object, .finished, none)

/-- One access of the counter.  The exchange may fail although the values agree. -/
def counterStep (object : AuthProviderSessionService) (registered fails : Bool) :
    Stage → Option CounterStage →
      Option (AuthProviderSessionService × Stage × Option CounterStage)
  | .requested, none => some (object, .requested, some (.loaded object.activeRequestCount))
  | .requested, some (.loaded current) =>
      if current < maxAuthRequestConcurrentPerProvider then
        -- A weak exchange may fail although nobody has changed the counter.
        if object.activeRequestCount = current ∧ !fails then
          some ({ object with activeRequestCount := current + 1 }, .lookup, none)
        -- The exchange that fails reads the counter again.
        else some (object, .requested, some (.loaded object.activeRequestCount))
      else some (object, .finished, none)
  | .lookup, none =>
      if registered then some (object, .start, none)
      else some (object, .lookup, some .decrement)
  | .lookup, some .decrement => some (object.loadPositive .lookup)
  | .release, none => some (object.loadPositive .release)
  | .lookup, some .subtract | .release, some .subtract => some (object.fetchSub, .finished, none)
  | _, _ => none

end AuthProviderSessionService

/-- Whether the next step of a request is one on the counter. -/
def Stage.countsNext : Stage → Bool
  | .requested | .lookup | .release => true
  | _ => false

/-- Whether a request has counted itself and not taken itself off. -/
def Stage.active : Stage → Nat
  | .requested | .finished => 0
  | _ => 1

/-- The service with the requests inside the functions on the counter. -/
structure CountedSystem where
  system : AuthSystem := {}
  counting : SortedMap RequestId CounterStage := .empty

/-- A step of the service, or of a thread that counts an answer. -/
inductive CountedAction where
  | service (action : AuthAction)
  | counter (request : RequestId) (fails : Bool)
  deriving DecidableEq, Repr

/-- A change of the counter by a request. -/
inductive CounterEvent where
  | incremented (request : RequestId)
  | decremented (request : RequestId)
  deriving DecidableEq, Repr

namespace CountedSystem

variable (hash : String → Nat) (counted : CountedSystem)

/-- The action is a step that decreases a counter. -/
def countsNext (action : AuthAction) : Bool :=
  action.task?.any fun id => (counted.system.requests.get? id).any (·.stage.countsNext)

/-- The counter access that a task is at, on the session object of its provider. -/
def counterStep (id : RequestId) (request : Request) (fails : Bool) :
    Option (AuthProviderSessionService × Stage × Option CounterStage) :=
  match counted.system.coordinator.providerObjects.get? request.provider with
  | none => none
  | some object =>
      object.counterStep (counted.system.coordinator.providerSessions.contains request.provider)
        fails request.stage (counted.counting.get? id)

/-- Enter what an access of the counter has led to. -/
def proceed (id : RequestId) (request : Request) (object : AuthProviderSessionService)
    (stage : Stage) (call : Option CounterStage) : CountedSystem :=
  let coordinator := counted.system.coordinator
  { system :=
      { counted.system with
        coordinator :=
          { coordinator with
            providerObjects := coordinator.providerObjects.insert request.provider object }
        requests := counted.system.requests.insert id (request.withStage stage) }
    counting :=
      match call with
      | none => counted.counting.erase id
      | some call => counted.counting.insert id call }

/-- One step of the service, or one access of a counter. -/
def next : Transition CountedSystem CountedAction := fun counted action =>
  match action with
  | .service action =>
      if counted.countsNext action then none
      else (AuthSystem.next hash counted.system action).map fun system => { counted with system }
  | .counter id fails =>
      match counted.system.requests.get? id with
      | none => none
      | some request =>
          match counted.counterStep id request fails with
          | none => none
          | some (object, stage, call) => some (counted.proceed id request object stage call)

/-- The changes that an access makes: the successful exchange and the subtraction. -/
def changes (id : RequestId) (stage later : Stage) (call : Option CounterStage) :
    List CounterEvent :=
  if stage = .requested ∧ later = .lookup then [.incremented id]
  else if call = some .subtract then [.decremented id]
  else []

/-- The changes of counters that a step makes. -/
def events : CountedAction → List CounterEvent
  | .service _ => []
  | .counter id fails =>
      match counted.system.requests.get? id with
      | none => []
      | some request =>
          match counted.counterStep id request fails with
          | none => []
          | some (_, later, _) => changes id request.stage later (counted.counting.get? id)

/-- The requests of a provider that have counted themselves and not taken themselves off. -/
def activeRequests (provider : Address) : Nat :=
  counted.system.requests.total fun request =>
    if request.provider = provider then request.stage.active else 0

end CountedSystem

/-- Between its accesses of the counter a task stays active. -/
theorem Request.taskStep_active {hash : String → Nat} {coordinator after : AuthCoordinator}
    {id : RequestId} {request later : Request} {now : Int}
    (taken : request.taskStep hash coordinator id now = some (after, later))
    (quiet : request.stage.countsNext = false) :
    after.providerObjects = coordinator.providerObjects ∧ later.provider = request.provider ∧
      request.stage.active = 1 ∧ later.stage.active = 1 := by
  unfold taskStep at taken
  split at taken
  case h_1 stage | h_2 stage | h_18 stage =>
    rw [stage] at quiet
    cases quiet
  case h_6 session todo stage =>
    rw [stage]
    split at taken
    · cases taken
    · split_ifs at taken
      all_goals
        cases taken
        exact ⟨rfl, rfl, rfl, rfl⟩
  case h_7 session phase todo stage =>
    rw [stage]
    split at taken
    · cases taken
    · cases phase
      all_goals
        cases taken
        exact ⟨rfl, rfl, rfl, rfl⟩
  case h_19 => cases taken
  all_goals
    next stage =>
      rw [stage]
      try split at taken
      all_goals
        cases taken
        exact ⟨rfl, rfl, rfl, rfl⟩

/-- Provider objects keep their counters, and new ones have not counted. -/
structure AuthCoordinator.CountersKept (before after : AuthCoordinator) : Prop where
  kept : ∀ provider object, before.providerObjects.get? provider = some object →
    ∃ later, after.providerObjects.get? provider = some later ∧
      later.activeRequestCount = object.activeRequestCount
  fresh : ∀ provider object, after.providerObjects.get? provider = some object →
    before.providerObjects.get? provider = none → object.activeRequestCount = 0

namespace AuthCoordinator

theorem CountersKept.of_same {before after : AuthCoordinator}
    (same : after.providerObjects = before.providerObjects) : before.CountersKept after where
  kept := fun _ object found => ⟨object, same ▸ found, rfl⟩
  fresh := by
    intro provider object found absent
    rw [same, absent] at found
    cases found

theorem countersKept_createAuthProvider {coordinator : AuthCoordinator} {caller : Caller}
    {callback : Option Address} {serviceId : String} {address : Address}
    (fresh : coordinator.providerObjects.get? address = none) :
    coordinator.CountersKept
      (coordinator.createAuthProvider caller callback serviceId address).2 := by
  simp only [createAuthProvider]
  split
  · exact .of_same rfl
  · split_ifs
    · exact .of_same rfl
    · exact .of_same rfl
    · refine ⟨?_, ?_⟩
      · intro provider object found
        refine ⟨object, ?_, rfl⟩
        rw [SortedMap.get?_insert, if_neg]
        · exact found
        · rintro rfl
          rw [fresh] at found
          cases found
      · intro provider object found absent
        rcases SortedMap.get?_insert_eq_some.mp found with ⟨_, rfl⟩ | ⟨_, found⟩
        · rfl
        · rw [absent] at found
          cases found

theorem countersKept_removeProvider (coordinator : AuthCoordinator) (provider : Address) :
    coordinator.CountersKept (coordinator.removeProvider provider) where
  kept := by
    intro other object found
    simp only [removeProvider, SortedMap.get?_modify]
    split_ifs with same
    · subst same
      exact ⟨{ object with valid := false }, by simp [found], rfl⟩
    · exact ⟨object, found, rfl⟩
  fresh := by
    intro other object found absent
    simp only [removeProvider, SortedMap.get?_modify] at found
    split_ifs at found with same
    · subst same
      simp [absent] at found
    · rw [absent] at found
      cases found

theorem countersKept_destroyAuthProvider (coordinator : AuthCoordinator) (provider : Address) :
    coordinator.CountersKept (coordinator.destroyAuthProvider provider) := by
  unfold destroyAuthProvider
  split
  · exact countersKept_removeProvider coordinator provider
  · exact .of_same rfl

end AuthCoordinator

/-- What a step away from the counters does to the requests. -/
inductive AuthSystem.RequestsMoved (before : AuthSystem) : SortedMap RequestId Request → Prop
  | same : RequestsMoved before before.requests
  | requested {id : RequestId} {provider : Address} {event : AuthEventInfo}
      {resultCallback : Option Address} (fresh : before.requests.get? id = none)
      (known : ∃ object, before.coordinator.providerObjects.get? provider = some object) :
      RequestsMoved before (before.requests.insert id { provider, event, resultCallback })
  | moved {id : RequestId} {request later : Request}
      (found : before.requests.get? id = some request)
      (provider : later.provider = request.provider)
      (stage : later.stage = request.stage ∨
        request.stage.active = 1 ∧ later.stage.active = 1) :
      RequestsMoved before (before.requests.insert id later)

namespace AuthSystem

variable {hash : String → Nat} {before after : AuthSystem} {action : AuthAction}

/-- What a step of the service away from the counters leaves of them. -/
theorem next_effect (taken : next hash before action = some after)
    (quiet : ∀ id now, action = .task id now → ∀ request, before.requests.get? id = some request →
      request.stage.countsNext = false) :
    before.coordinator.CountersKept after.coordinator ∧ before.RequestsMoved after.requests := by
  have unchanged (providers : after.coordinator.providerObjects =
        before.coordinator.providerObjects) (requests : after.requests = before.requests) :
      before.coordinator.CountersKept after.coordinator ∧
        before.RequestsMoved after.requests :=
    ⟨.of_same providers, requests ▸ .same⟩
  cases action with
  | createAuthProvider caller callback serviceId address =>
      simp only [next] at taken
      split_ifs at taken with used refused
      · exact unchanged (by cases taken; rfl) (by cases taken; rfl)
      · cases taken
        have fresh : before.coordinator.providerObjects.get? address = none := by
          simpa [SortedMap.contains] using used
        exact ⟨AuthCoordinator.countersKept_createAuthProvider fresh, .same⟩
  | destroyAuthProvider caller provider =>
      simp only [next] at taken
      split at taken
      · split at taken
        · cases taken
          exact ⟨AuthCoordinator.countersKept_destroyAuthProvider _ _, .same⟩
        · exact unchanged (by cases taken; rfl) (by cases taken; rfl)
      · exact unchanged (by cases taken; rfl) (by cases taken; rfl)
  | removeProvider provider =>
      cases taken
      exact ⟨AuthCoordinator.countersKept_removeProvider _ _, .same⟩
  | requestAuthResult caller provider event resultCallback id =>
      simp only [next] at taken
      split at taken
      · cases taken
      · next unused =>
          split at taken
          · next object known =>
              split at taken
              · cases taken
                have fresh : before.requests.get? id = none := by
                  simpa [SortedMap.contains] using unused
                exact ⟨.of_same rfl, .requested fresh ⟨object, known⟩⟩
              · exact unchanged (by cases taken; rfl) (by cases taken; rfl)
          · exact unchanged (by cases taken; rfl) (by cases taken; rfl)
  -- The steps that count are not of the service here, and the other ones leave the counters alone.
  | task id now =>
      obtain ⟨request, coordinator, later, found, body, rfl⟩ := next_task taken
      obtain ⟨providers, provider, active⟩ :=
        Request.taskStep_active body (quiet id now rfl request found)
      exact ⟨.of_same providers, .moved found provider (.inr active)⟩
  | answer answerId =>
      simp only [next] at taken
      split at taken
      · cases taken
      · simp only [answerStep] at taken
        split at taken
        · split at taken <;> exact unchanged (by cases taken; rfl) (by cases taken; rfl)
        · split at taken <;> exact unchanged (by cases taken; rfl) (by cases taken; rfl)
        · split at taken
          · cases taken
          · next request found =>
              cases taken
              exact ⟨.of_same rfl, .moved found rfl (.inl rfl)⟩
  | setAuthResult caller session event allowFlag configured answerId =>
      simp only [next] at taken
      split at taken
      · cases taken
      · split at taken
        · split at taken <;> exact unchanged (by cases taken; rfl) (by cases taken; rfl)
        · exact unchanged (by cases taken; rfl) (by cases taken; rfl)
  | creatAuthEventClient =>
      simp only [next] at taken
      split_ifs at taken <;> exact unchanged (by cases taken; rfl) (by cases taken; rfl)
  | subscribe | unsubscribe | destroyClient =>
      simp only [next] at taken
      split at taken
      · split at taken <;> exact unchanged (by cases taken; rfl) (by cases taken; rfl)
      · exact unchanged (by cases taken; rfl) (by cases taken; rfl)
  | removeSession => exact unchanged (by cases taken; rfl) (by cases taken; rfl)

end AuthSystem

/-- The cases of one access of a counter, with the changes that it makes. -/
inductive CounterStep (object : AuthProviderSessionService) (stage : Stage) :
    Option CounterStage → AuthProviderSessionService → Stage → Option CounterStage → Prop
  /-- The counter is read, or the request is found registered. -/
  | read {call : Option CounterStage} {later : Stage} {next : Option CounterStage}
      (active : later.active = stage.active) (requested : later = .requested ↔ stage = .requested)
      (calls : next = some .subtract ∨ next = some .decrement → stage.active = 1)
      (quiet : call ≠ some .subtract) : CounterStep object stage call object later next
  | refused {call : Option CounterStage} (requested : stage = .requested)
      (quiet : call ≠ some .subtract) : CounterStep object stage call object .finished none
  | incremented (requested : stage = .requested)
      (below : object.activeRequestCount < maxAuthRequestConcurrentPerProvider) :
      CounterStep object stage (some (.loaded object.activeRequestCount))
        { object with activeRequestCount := object.activeRequestCount + 1 } .lookup none
  | skipped {call : Option CounterStage} (active : stage.active = 1)
      (zero : object.activeRequestCount = 0) : CounterStep object stage call object .finished none
  | subtracted (active : stage.active = 1) :
      CounterStep object stage (some .subtract) object.fetchSub .finished none

theorem CounterStep.active_of_calling {object after : AuthProviderSessionService}
    {stage later : Stage} {call next : Option CounterStage}
    (step : CounterStep object stage call after later next)
    (calling : next = some .subtract ∨ next = some .decrement) : later.active = 1 := by
  cases step with
  | read active _ calls => exact active.trans (calls calling)
  | refused | incremented | skipped | subtracted =>
      rcases calling with calling | calling <;> cases calling

theorem AuthProviderSessionService.counterStep_cases
    {object after : AuthProviderSessionService} {registered fails : Bool} {stage later : Stage}
    {call next : Option CounterStage}
    (taken : object.counterStep registered fails stage call = some (after, later, next)) :
    CounterStep object stage call after later next := by
  have load {running : Stage} (active : running.active = 1) {call : Option CounterStage}
      (quiet : call ≠ some .subtract)
      (same : object.loadPositive running = (after, later, next)) :
      CounterStep object running call after later next := by
    unfold loadPositive at same
    split at same
    · cases same
      exact .read rfl Iff.rfl (fun _ => active) quiet
    · next zero =>
        cases same
        exact .skipped active (Nat.eq_zero_of_not_pos zero)
  unfold counterStep at taken
  split at taken
  · cases taken
    exact .read rfl Iff.rfl (by simp) (by simp)
  · split_ifs at taken with below agrees
    · cases taken
      obtain ⟨rfl, -⟩ := agrees
      exact .incremented rfl below
    · cases taken
      exact .read rfl Iff.rfl (by simp) (by simp)
    · cases taken
      exact .refused rfl (by simp)
  · split at taken
    · cases taken
      exact .read rfl (by simp) (by simp) (by simp)
    · cases taken
      exact .read rfl Iff.rfl (fun _ => rfl) (by simp)
  · exact load rfl (by simp) (Option.some.inj taken)
  · exact load rfl (by simp) (Option.some.inj taken)
  · cases taken
    exact .subtracted rfl
  · cases taken
    exact .subtracted rfl
  · cases taken

/-! ## The account of the counters -/

namespace CountedSystem

/-- The counters agree with the requests, and the requests with their changes of the counters. -/
structure Accounted (counted : CountedSystem) (history : List CounterEvent) : Prop where
  known : ∀ id request, counted.system.requests.get? id = some request →
    ∃ object, counted.system.coordinator.providerObjects.get? request.provider = some object
  count : ∀ provider object,
    counted.system.coordinator.providerObjects.get? provider = some object →
      object.activeRequestCount = counted.activeRequests provider
  limit : ∀ provider object,
    counted.system.coordinator.providerObjects.get? provider = some object →
      object.activeRequestCount ≤ maxAuthRequestConcurrentPerProvider
  calling : ∀ id, counted.counting.get? id = some .subtract ∨
    counted.counting.get? id = some .decrement →
      ∃ request, counted.system.requests.get? id = some request ∧ request.stage.active = 1
  fresh : ∀ id, counted.system.requests.get? id = none →
    history.count (.incremented id) = 0 ∧ history.count (.decremented id) = 0
  ledger : ∀ id request, counted.system.requests.get? id = some request →
    history.count (.incremented id) = history.count (.decremented id) + request.stage.active ∧
      history.count (.incremented id) ≤ 1 ∧
        (request.stage = .requested → history.count (.incremented id) = 0)

theorem accounted_initial : Accounted {} [] where
  known := fun _ _ found => nomatch found
  count := fun _ _ found => nomatch found
  limit := fun _ _ found => nomatch found
  calling := fun _ call => by rcases call with call | call <;> cases call
  fresh := fun _ _ => ⟨rfl, rfl⟩
  ledger := fun _ _ found => nomatch found

variable {hash : String → Nat} {before after : CountedSystem} {history : List CounterEvent}

theorem Accounted.activeRequests_fresh (accounted : before.Accounted history)
    {provider : Address}
    (absent : before.system.coordinator.providerObjects.get? provider = none) :
    before.activeRequests provider = 0 := by
  by_contra some_
  obtain ⟨id, request, found, positive⟩ :=
    SortedMap.exists_of_total_pos _ (Nat.pos_of_ne_zero some_)
  obtain ⟨object, known⟩ := accounted.known id request found
  split_ifs at positive with same
  · rw [same, absent] at known
    cases known
  · exact absurd positive (lt_irrefl 0)

/-- A step of the service away from the counters keeps the account. -/
theorem Accounted.service (accounted : before.Accounted history) {coordinator : AuthCoordinator}
    {requests : SortedMap RequestId Request} {answers : SortedMap AnswerId Answer}
    (providers : before.system.coordinator.CountersKept coordinator)
    (moved : before.system.RequestsMoved requests) :
    Accounted { before with system := { coordinator, requests, answers } } history := by
  -- However the requests move, a provider has as many active ones as before.
  have sums (provider : Address) :
      activeRequests { before with system := { coordinator, requests, answers } } provider =
        before.activeRequests provider := by
    unfold activeRequests
    cases moved with
    | same => rfl
    | requested fresh =>
        rw [SortedMap.total_insert_of_fresh _ _ fresh]
        simp [Stage.active]
    | moved found owner stage =>
        rw [SortedMap.total_insert, SortedMap.total_of_get? _ found, owner]
        rcases stage with same | ⟨active, later⟩
        · rw [same]
        · rw [active, later]
  have carried {provider : Address} {object : AuthProviderSessionService}
      (found : coordinator.providerObjects.get? provider = some object) :
      object.activeRequestCount = before.activeRequests provider ∧
        object.activeRequestCount ≤ maxAuthRequestConcurrentPerProvider := by
    cases earlier : before.system.coordinator.providerObjects.get? provider with
    | none =>
        rw [providers.fresh provider object found earlier,
          accounted.activeRequests_fresh earlier]
        exact ⟨rfl, Nat.zero_le _⟩
    | some old =>
        obtain ⟨later, foundLater, same⟩ := providers.kept provider old earlier
        cases found.symm.trans foundLater
        rw [same]
        exact ⟨accounted.count provider old earlier, accounted.limit provider old earlier⟩
  have known {provider : Address}
      (there : ∃ object, before.system.coordinator.providerObjects.get? provider = some object) :
      ∃ object, coordinator.providerObjects.get? provider = some object := by
    obtain ⟨object, found⟩ := there
    obtain ⟨later, foundLater, -⟩ := providers.kept provider object found
    exact ⟨later, foundLater⟩
  refine
    { known := ?_
      count := fun provider object found => (carried found).1.trans (sums provider).symm
      limit := fun provider object found => (carried found).2
      calling := ?_
      fresh := ?_
      ledger := ?_ }
  · intro id request found
    cases moved with
    | same => exact known (accounted.known id request found)
    | requested fresh owner =>
        rcases SortedMap.get?_insert_eq_some.mp found with ⟨_, rfl⟩ | ⟨_, found⟩
        · exact known owner
        · exact known (accounted.known id request found)
    | moved foundOwn owner =>
        rcases SortedMap.get?_insert_eq_some.mp found with ⟨_, rfl⟩ | ⟨_, found⟩
        · rw [owner]
          exact known (accounted.known _ _ foundOwn)
        · exact known (accounted.known id request found)
  · intro id call
    obtain ⟨request, found, active⟩ := accounted.calling id call
    cases moved with
    | same => exact ⟨request, found, active⟩
    | @requested other _ _ _ fresh =>
        refine ⟨request, ?_, active⟩
        rw [SortedMap.get?_insert, if_neg]
        · exact found
        · rintro rfl
          rw [fresh] at found
          cases found
    | @moved other own later foundOwn _ stage =>
        by_cases same : id = other
        · subst same
          cases found.symm.trans foundOwn
          refine ⟨later, by simp, ?_⟩
          rcases stage with equal | ⟨-, activeLater⟩
          · rw [equal, active]
          · exact activeLater
        · exact ⟨request, by simp [same, found], active⟩
  · intro id absent
    refine accounted.fresh id ?_
    cases moved with
    | same => exact absent
    | requested =>
        rw [SortedMap.get?_insert] at absent
        split_ifs at absent
        exact absent
    | moved =>
        rw [SortedMap.get?_insert] at absent
        split_ifs at absent
        exact absent
  · intro id request found
    cases moved with
    | same => exact accounted.ledger id request found
    | @requested other _ _ _ fresh =>
        rcases SortedMap.get?_insert_eq_some.mp found with ⟨same, rfl⟩ | ⟨_, found⟩
        · obtain ⟨incremented, decremented⟩ := accounted.fresh other fresh
          rw [same, incremented, decremented]
          exact ⟨rfl, Nat.zero_le _, fun _ => rfl⟩
        · exact accounted.ledger id request found
    | @moved other own later foundOwn _ stage =>
        rcases SortedMap.get?_insert_eq_some.mp found with ⟨same, rfl⟩ | ⟨_, found⟩
        · subst same
          obtain ⟨balance, once, requested⟩ := accounted.ledger id own foundOwn
          rcases stage with equal | ⟨active, activeLater⟩
          · rw [equal]
            exact ⟨balance, once, requested⟩
          · rw [active] at balance
            rw [activeLater]
            refine ⟨balance, once, fun start => ?_⟩
            rw [start] at activeLater
            cases activeLater
        · exact accounted.ledger id request found

section Access

variable {id : RequestId} {request : Request} {object after : AuthProviderSessionService}
  {later : Stage} {call next : Option CounterStage}

theorem Accounted.others (accounted : before.Accounted history)
    (found : before.system.requests.get? id = some request)
    (known : before.system.coordinator.providerObjects.get? request.provider = some object) :
    object.activeRequestCount = request.stage.active +
      (before.system.requests.erase id).total fun other =>
        if other.provider = request.provider then other.stage.active else 0 := by
  rw [accounted.count request.provider object known, activeRequests,
    SortedMap.total_of_get? _ found, if_pos rfl]

theorem proceed_activeRequests (call : Option CounterStage) (provider : Address) :
    (before.proceed id request after later call).activeRequests provider =
      (if request.provider = provider then later.active else 0) +
        (before.system.requests.erase id).total fun other =>
          if other.provider = provider then other.stage.active else 0 := by
  unfold activeRequests proceed
  rw [SortedMap.total_insert]
  rfl

/-- An access keeps the counter equal to the active requests of the provider. -/
theorem Accounted.count_access (accounted : before.Accounted history)
    (found : before.system.requests.get? id = some request)
    (known : before.system.coordinator.providerObjects.get? request.provider = some object)
    (step : CounterStep object request.stage call after later next) :
    after.activeRequestCount = later.active +
        ((before.system.requests.erase id).total fun other =>
          if other.provider = request.provider then other.stage.active else 0) ∧
      after.activeRequestCount ≤ maxAuthRequestConcurrentPerProvider := by
  have sum := accounted.others found known
  have limit := accounted.limit request.provider object known
  cases step with
  | read active =>
      rw [active]
      exact ⟨sum, limit⟩
  | refused requested =>
      rw [requested] at sum
      exact ⟨sum, limit⟩
  | incremented requested below =>
      have idle : Stage.requested.active = 0 := rfl
      have busy : Stage.lookup.active = 1 := rfl
      rw [requested, idle] at sum
      rw [busy]
      refine ⟨?_, below⟩
      dsimp only
      omega
  | skipped active zero => omega
  | subtracted active =>
      have small : maxAuthRequestConcurrentPerProvider < 2 ^ 64 := by decide
      have ended : Stage.finished.active = 0 := rfl
      rw [active] at sum
      rw [ended, AuthProviderSessionService.fetchSub]
      dsimp only
      omega

/-- The ledger of a request after one of its accesses. -/
theorem Accounted.ledger_access (accounted : before.Accounted history)
    (found : before.system.requests.get? id = some request)
    (known : before.system.coordinator.providerObjects.get? request.provider = some object)
    (step : CounterStep object request.stage call after later next) :
    let entered := history ++ changes id request.stage later call
    entered.count (.incremented id) = entered.count (.decremented id) + later.active ∧
      entered.count (.incremented id) ≤ 1 ∧
        (later = .requested → entered.count (.incremented id) = 0) := by
  obtain ⟨balance, once, requested⟩ := accounted.ledger id request found
  have sum := accounted.others found known
  intro entered
  cases step with
  | read active start calls quiet =>
      have none : changes id request.stage later call = [] := by
        have moved : ¬ (request.stage = .requested ∧ later = .lookup) := by
          rintro ⟨stage, lookup⟩
          have same := start.mpr stage
          rw [lookup] at same
          cases same
        rw [changes, if_neg moved, if_neg quiet]
      simp only [entered, none, List.append_nil, active]
      exact ⟨balance, once, fun same => requested (start.mp same)⟩
  | refused stage quiet =>
      have none : changes id request.stage .finished call = [] := by
        rw [changes, if_neg (by simp), if_neg quiet]
      simp only [entered, none, List.append_nil]
      rw [stage] at balance
      exact ⟨balance, once, Stage.noConfusion⟩
  | incremented stage below =>
      have one : changes id request.stage .lookup (some (.loaded object.activeRequestCount)) =
          [.incremented id] := by
        rw [changes, if_pos ⟨stage, rfl⟩]
      rw [stage] at balance
      have zero := requested stage
      simp only [entered, one, List.count_append, List.count_singleton, Stage.active] at balance ⊢
      refine ⟨?_, ?_, Stage.noConfusion⟩
      · simp only [beq_self_eq_true, if_true, reduceCtorEq, beq_iff_eq, if_false]
        omega
      · simp only [beq_self_eq_true, if_true]
        omega
  | skipped active zero => omega
  | subtracted active =>
      have one : changes id request.stage .finished (some .subtract) = [.decremented id] := by
        rw [changes, if_neg (by simp), if_pos rfl]
      rw [active] at balance
      simp only [entered, one, List.count_append, List.count_singleton, Stage.active]
      refine ⟨?_, ?_, Stage.noConfusion⟩
      · simp only [beq_self_eq_true, if_true, reduceCtorEq, beq_iff_eq, if_false]
        omega
      · simp only [reduceCtorEq, beq_iff_eq, if_false]
        omega

theorem count_changes_other {other : RequestId} (differs : other ≠ id) (stage : Stage) :
    (changes id stage later call).count (.incremented other) = 0 ∧
      (changes id stage later call).count (.decremented other) = 0 := by
  unfold changes
  split_ifs <;> simp [differs.symm]

/-- An access of a counter keeps the account. -/
theorem Accounted.access (accounted : before.Accounted history)
    (found : before.system.requests.get? id = some request)
    (known : before.system.coordinator.providerObjects.get? request.provider = some object)
    (step : CounterStep object request.stage (before.counting.get? id) after later next) :
    (before.proceed id request after later next).Accounted
      (history ++ changes id request.stage later (before.counting.get? id)) := by
  have counts := accounted.count_access found known step
  have ledger := accounted.ledger_access found known step
  refine
    { known := ?_
      count := ?_
      limit := ?_
      calling := ?_
      fresh := ?_
      ledger := ?_ }
  · intro other entry foundEntry
    have earlier : ∃ object,
        before.system.coordinator.providerObjects.get? entry.provider = some object := by
      rcases SortedMap.get?_insert_eq_some.mp foundEntry with ⟨-, rfl⟩ | ⟨-, foundEntry⟩
      · exact ⟨object, known⟩
      · exact accounted.known other entry foundEntry
    obtain ⟨old, foundOld⟩ := earlier
    by_cases same : entry.provider = request.provider
    · exact ⟨after, by simp [proceed, same]⟩
    · exact ⟨old, by simp [proceed, same, foundOld]⟩
  · intro provider entry foundEntry
    rw [proceed_activeRequests]
    simp only [proceed, SortedMap.get?_insert] at foundEntry
    split_ifs at foundEntry with same
    · cases foundEntry
      rw [if_pos same.symm, same]
      exact counts.1
    -- The other providers have the same counter and the same requests.
    · have sum := accounted.count provider entry foundEntry
      rw [activeRequests, SortedMap.total_of_get? _ found, if_neg (Ne.symm same)] at sum
      rw [if_neg (Ne.symm same)]
      exact sum
  · intro provider entry foundEntry
    rcases SortedMap.get?_insert_eq_some.mp foundEntry with ⟨-, rfl⟩ | ⟨-, foundEntry⟩
    · exact counts.2
    · exact accounted.limit provider entry foundEntry
  · intro other call
    have mine := step.active_of_calling
    by_cases same : other = id
    · subst same
      refine ⟨request.withStage later, by simp [proceed], mine ?_⟩
      cases next with
      | none => simp [proceed] at call
      | some stage => simpa [proceed] using call
    · have earlier : before.counting.get? other = some .subtract ∨
          before.counting.get? other = some .decrement := by
        cases next with
        | none => simpa [proceed, same] using call
        | some stage => simpa [proceed, same] using call
      obtain ⟨entry, foundEntry, active⟩ := accounted.calling other earlier
      exact ⟨entry, by simp [proceed, same, foundEntry], active⟩
  · intro other absent
    simp only [proceed, SortedMap.get?_insert] at absent
    split_ifs at absent with same
    obtain ⟨incremented, decremented⟩ := accounted.fresh other absent
    obtain ⟨none, none'⟩ := count_changes_other same request.stage
    rw [List.count_append, List.count_append, incremented, decremented, none, none']
    exact ⟨rfl, rfl⟩
  · intro other entry foundEntry
    simp only [proceed, SortedMap.get?_insert] at foundEntry
    split_ifs at foundEntry with same
    · cases foundEntry
      subst same
      exact ledger
    · obtain ⟨none, none'⟩ := count_changes_other same request.stage
      rw [List.count_append, List.count_append, none, none']
      exact accounted.ledger other entry foundEntry

end Access

/-- Every step keeps the account. -/
theorem Accounted.step (accounted : before.Accounted history) {action : CountedAction}
    (taken : next hash before action = some after) :
    after.Accounted (history ++ before.events action) := by
  cases action with
  | service action =>
      simp only [next] at taken
      split_ifs at taken with counts
      obtain ⟨system, step, rfl⟩ := Option.map_eq_some_iff.mp taken
      have quiet (id : RequestId) (now : Int) (same : action = .task id now) (request : Request)
          (found : before.system.requests.get? id = some request) :
          request.stage.countsNext = false := by
        subst same
        simpa [countsNext, AuthAction.task?, found] using counts
      obtain ⟨providers, moved⟩ := AuthSystem.next_effect step quiet
      rw [events, List.append_nil]
      exact accounted.service providers moved
  | counter id fails =>
      simp only [next] at taken
      split at taken
      · cases taken
      · next request found =>
          split at taken
          · cases taken
          · next object later call step =>
              cases taken
              have entered : before.events (.counter id fails) =
                  changes id request.stage later (before.counting.get? id) := by
                simp only [events, found, step]
              rw [entered]
              simp only [counterStep] at step
              split at step
              · cases step
              · next known =>
                  exact accounted.access found known
                    (AuthProviderSessionService.counterStep_cases step)

theorem accounted_of_run {actions : List CountedAction}
    (reach : Transition.run (Transition.recording (next hash) events) ({}, []) actions =
      some (after, history)) : after.Accounted history := by
  have step {recorded later : CountedSystem × List CounterEvent} {action : CountedAction}
      (accounted : recorded.1.Accounted recorded.2)
      (taken : Transition.recording (next hash) events recorded action = some later) :
      later.1.Accounted later.2 := by
    obtain ⟨after, stepped, rfl⟩ := Transition.recording_eq_some.mp taken
    exact accounted.step stepped
  exact Transition.run_stable step accounted_initial reach

/-- Request concurrency accounting: in every run the counter of a provider is the number of its
requests between their increment and their decrement, is at most 128, is 0 when none is in
flight and is positive whenever it is about to be decremented; and a request decrements exactly
as often as it has incremented, at most once, when it has finished. -/
theorem requests_are_accounted {actions : List CountedAction} {final : CountedSystem}
    (reach : Transition.run (Transition.recording (next hash) events) ({}, []) actions =
      some (final, history)) :
    (∀ provider object,
      final.system.coordinator.providerObjects.get? provider = some object →
        object.activeRequestCount = final.activeRequests provider ∧
          object.activeRequestCount ≤ maxAuthRequestConcurrentPerProvider ∧
            ((∀ id request, final.system.requests.get? id = some request →
                request.provider = provider → request.stage.active = 0) →
              object.activeRequestCount = 0)) ∧
      (∀ id request object, final.system.requests.get? id = some request →
        final.system.coordinator.providerObjects.get? request.provider = some object →
          (final.counting.get? id = some .decrement ∨ final.counting.get? id = some .subtract ∨
            request.stage = .release) → 0 < object.activeRequestCount) ∧
        ∀ id request, final.system.requests.get? id = some request →
          history.count (.incremented id) =
              history.count (.decremented id) + request.stage.active ∧
            history.count (.incremented id) ≤ 1 := by
  have accounted : final.Accounted history := accounted_of_run reach
  refine ⟨?_, ?_, ?_⟩
  · intro provider object found
    refine ⟨accounted.count provider object found, accounted.limit provider object found, ?_⟩
    intro idle
    rw [accounted.count provider object found]
    by_contra some_
    obtain ⟨id, request, foundRequest, positive⟩ :=
      SortedMap.exists_of_total_pos _ (Nat.pos_of_ne_zero some_)
    split_ifs at positive with same
    · rw [idle id request foundRequest same] at positive
      exact absurd positive (lt_irrefl 0)
    · exact absurd positive (lt_irrefl 0)
  · intro id request object found known calling
    have active : request.stage.active = 1 := by
      rcases calling with calling | calling | stage
      · obtain ⟨entry, foundEntry, active⟩ := accounted.calling id (.inr calling)
        cases found.symm.trans foundEntry
        exact active
      · obtain ⟨entry, foundEntry, active⟩ := accounted.calling id (.inl calling)
        cases found.symm.trans foundEntry
        exact active
      · rw [stage]
        rfl
    have sum := accounted.others found known
    omega
  · intro id request found
    obtain ⟨balance, once, -⟩ := accounted.ledger id request found
    exact ⟨balance, once⟩

/-- The provider dies after its request has counted itself, with one failed exchange. -/
def rollback : List CountedAction :=
  [.service (.createAuthProvider AuthSystem.providerCaller (some 200) "service" 50),
    .service (.requestAuthResult AuthSystem.providerCaller 50 { eventId := 5 } (some 300) 0),
    .counter 0 false, .counter 0 true, .counter 0 false, .service (.removeProvider 50),
    .counter 0 false, .counter 0 false, .counter 0 false]

/-- The request of `rollback` has ended and decremented as often as it has incremented. -/
theorem requests_are_accounted_rollback :
    ∃ final history request,
      Transition.run (Transition.recording (next String.length) events) ({}, []) rollback =
          some (final, history) ∧
        final.system.requests.get? 0 = some request ∧ request.stage = .finished ∧
          history = [.incremented 0, .decremented 0] ∧
            history.count (.incremented 0) =
              history.count (.decremented 0) + request.stage.active := by
  have evaluated :
      (Transition.run (Transition.recording (next String.length) events) ({}, [])
        rollback).any (fun recorded =>
          (recorded.1.system.requests.get? 0).any fun request =>
            request.stage = .finished ∧ recorded.2 = [.incremented 0, .decremented 0]) = true := by
    decide +kernel
  obtain ⟨⟨final, history⟩, reach, found⟩ := (Option.any_eq_true _ _).mp evaluated
  obtain ⟨request, foundRequest, found⟩ := (Option.any_eq_true _ _).mp found
  obtain ⟨finished, recorded⟩ := of_decide_eq_true found
  exact ⟨final, history, request, reach, foundRequest, finished, recorded,
    ((requests_are_accounted reach).2.2 0 request foundRequest).1⟩

end CountedSystem

end SecurityGuard
