import SecurityGuard.Auth.Session

/-!
# The routing context of one request

The context collects the answers of the clients to which one request was sent.  Each function
below is a part of a critical section of the context's lock.  A promise is the list of the
values with which `set_value` was called, so that a second call would be seen.
-/

namespace SecurityGuard

/-- The values with which a promise was set. -/
abbrev Promise (α : Type) := List α

/-- The decision on a request and the answer of each client. -/
structure AuthResult where
  mergedAuthStrategy : AuthStrategy := .allow
  clientAuthResults : List (String × AuthStrategy) := []
  deriving DecidableEq, Repr

/-- What is known of the application behind a client. -/
structure ClientAppInfo where
  pid : Int
  uid : Int
  seqnum : Int
  deriving DecidableEq, Repr

/-- The arguments of one `ReportAuthBlockResult`; the last two form its JSON text. -/
structure AuthBlockReport where
  eventId : Int
  callerUid : Int
  beginTime : Int
  seqnum : Int
  content : String
  authResult : String
  deriving DecidableEq, Repr

/-- The state of the aggregation of one request. -/
structure RoutingContext where
  eventId : Int := 0
  beginTime : Int := 0
  eventContent : String := ""
  sentClientCount : Nat := 0
  defaultDenyCount : Nat := 0
  clientResults : SortedMap String AuthStrategy := .empty
  clientTimeoutStrategies : SortedMap String AuthStrategy := .empty
  clientPromises : SortedMap String (Promise AuthStrategy) := .empty
  clientAppInfos : SortedMap String ClientAppInfo := .empty
  resultPromise : Promise AuthResult := []
  completed : Bool := false
  resultPromiseSatisfied : Bool := false
  satisfiedClientIds : SortedSet String := .empty
  mergedAuthStrategy : AuthStrategy := .allow
  deriving DecidableEq

namespace RoutingContext

/-- Enter a client and the strategy that answers for it when it does not. -/
def registerClient (ctx : RoutingContext) (clientId : String) (timeoutStrategy : AuthStrategy) :
    RoutingContext :=
  { ctx with
    clientTimeoutStrategies := ctx.clientTimeoutStrategies.insert clientId timeoutStrategy
    clientPromises := ctx.clientPromises.insert clientId [] }

/-- Set the promise of a client unless it was set before. -/
def setClientPromise (ctx : RoutingContext) (clientId : String) (strategy : AuthStrategy) :
    RoutingContext :=
  if ctx.clientPromises.contains clientId ∧ !ctx.satisfiedClientIds.contains clientId then
    { ctx with
      satisfiedClientIds := ctx.satisfiedClientIds.insert clientId ()
      clientPromises := ctx.clientPromises.modify clientId (· ++ [strategy]) }
  else ctx

/-- Set the promise of the result, once. -/
def satisfyResultPromise (ctx : RoutingContext) : RoutingContext :=
  if ctx.resultPromiseSatisfied then ctx
  else
    { ctx with
      resultPromiseSatisfied := true
      resultPromise := ctx.resultPromise ++ [{ mergedAuthStrategy := ctx.mergedAuthStrategy }] }

/-- Count a client as answered. -/
def decrementCounters (ctx : RoutingContext) (clientId : String) : RoutingContext :=
  { ctx with
    sentClientCount := ctx.sentClientCount - 1
    defaultDenyCount :=
      if ctx.clientTimeoutStrategies.get? clientId = some .deny then ctx.defaultDenyCount - 1
      else ctx.defaultDenyCount }

/-- Decide the request and wake its task. -/
def complete (ctx : RoutingContext) (strategy : AuthStrategy) : RoutingContext :=
  { ctx with mergedAuthStrategy := strategy, completed := true }.satisfyResultPromise

/-- Complete a request at the first denial, or when all clients have allowed it. -/
def evaluateStrictPolicy (ctx : RoutingContext) (strategy : AuthStrategy) : RoutingContext :=
  if strategy = .deny then ctx.complete .deny
  else if ctx.sentClientCount = 0 ∧ ctx.defaultDenyCount = 0 then ctx.complete .allow
  else ctx

/-- Take the answer of a client, unless the request is completed. -/
def recordClientResult (ctx : RoutingContext) (clientId : String) (strategy : AuthStrategy) :
    RoutingContext :=
  if ctx.completed then ctx
  else
    let recorded := { ctx with clientResults := ctx.clientResults.insert clientId strategy }
    let promised := recorded.setClientPromise clientId strategy
    (promised.decrementCounters clientId).evaluateStrictPolicy strategy

/-- The report that a client blocked the event or did not answer, if the client is known. -/
def blockReport (ctx : RoutingContext) (clientId authResult : String) : List AuthBlockReport :=
  match ctx.clientAppInfos.get? clientId with
  | none => []
  | some info =>
      [{ eventId := ctx.eventId
         callerUid := info.uid
         beginTime := ctx.beginTime
         seqnum := info.seqnum
         content := ctx.eventContent
         authResult }]

/-- The report of a denial. -/
def reportDenyResult (ctx : RoutingContext) (clientId : String) : List AuthBlockReport :=
  ctx.blockReport clientId "DENY"

/-- The report of a client that has not answered in time. -/
def notifyTimeoutResult (ctx : RoutingContext) (clientId : String) : List AuthBlockReport :=
  ctx.blockReport clientId "TIMEOUT"

/-- Answer for a client that has not answered in time. -/
def handleTimeoutClient (ctx : RoutingContext) (clientId : String) (strategy : AuthStrategy) :
    RoutingContext :=
  let decided :=
    if strategy = .deny then
      { ctx with
        clientResults := ctx.clientResults.insert clientId .deny
        mergedAuthStrategy := .deny
        completed := true }
    else { ctx with clientResults := ctx.clientResults.insert clientId .timeout }
  decided.setClientPromise clientId strategy

/-- The loop of `HandleTimeout` over the clients of the request. -/
def handleTimeoutClients :
    List (String × AuthStrategy) → RoutingContext → RoutingContext × List AuthBlockReport
  | [], ctx => (ctx, [])
  | (clientId, strategy) :: rest, ctx =>
      -- A client that has answered is left out.
      if ctx.clientResults.contains clientId then handleTimeoutClients rest ctx
      else
        let handled := ctx.handleTimeoutClient clientId strategy
        let remaining := handleTimeoutClients rest handled
        (remaining.1, handled.notifyTimeoutResult clientId ++ remaining.2)

/-- Answer for all clients that have not answered in time. -/
def handleTimeout (ctx : RoutingContext) : RoutingContext × List AuthBlockReport :=
  let handled := handleTimeoutClients ctx.clientTimeoutStrategies.entries ctx
  let decided :=
    if handled.1.completed then handled.1
    else { handled.1 with mergedAuthStrategy := .allow, completed := true }
  (decided.satisfyResultPromise, handled.2)

/-- The result of a request with the answers of its clients. -/
def buildAuthResult (ctx : RoutingContext) : AuthResult :=
  { mergedAuthStrategy := ctx.mergedAuthStrategy
    clientAuthResults := ctx.clientResults.entries }

section Promises

variable (ctx : RoutingContext) (clientId : String) (strategy : AuthStrategy)

@[simp]
theorem setClientPromise_sentClientCount :
    (ctx.setClientPromise clientId strategy).sentClientCount = ctx.sentClientCount := by
  unfold setClientPromise; split <;> rfl

@[simp]
theorem setClientPromise_clientResults :
    (ctx.setClientPromise clientId strategy).clientResults = ctx.clientResults := by
  unfold setClientPromise; split <;> rfl

@[simp]
theorem setClientPromise_clientTimeoutStrategies :
    (ctx.setClientPromise clientId strategy).clientTimeoutStrategies =
      ctx.clientTimeoutStrategies := by
  unfold setClientPromise; split <;> rfl

@[simp]
theorem setClientPromise_completed :
    (ctx.setClientPromise clientId strategy).completed = ctx.completed := by
  unfold setClientPromise; split <;> rfl

@[simp]
theorem setClientPromise_mergedAuthStrategy :
    (ctx.setClientPromise clientId strategy).mergedAuthStrategy = ctx.mergedAuthStrategy := by
  unfold setClientPromise; split <;> rfl

@[simp]
theorem setClientPromise_resultPromise :
    (ctx.setClientPromise clientId strategy).resultPromise = ctx.resultPromise := by
  unfold setClientPromise; split <;> rfl

@[simp]
theorem satisfyResultPromise_sentClientCount :
    ctx.satisfyResultPromise.sentClientCount = ctx.sentClientCount := by
  unfold satisfyResultPromise; split <;> rfl

@[simp]
theorem satisfyResultPromise_clientResults :
    ctx.satisfyResultPromise.clientResults = ctx.clientResults := by
  unfold satisfyResultPromise; split <;> rfl

@[simp]
theorem satisfyResultPromise_clientTimeoutStrategies :
    ctx.satisfyResultPromise.clientTimeoutStrategies = ctx.clientTimeoutStrategies := by
  unfold satisfyResultPromise; split <;> rfl

@[simp]
theorem satisfyResultPromise_completed :
    ctx.satisfyResultPromise.completed = ctx.completed := by
  unfold satisfyResultPromise; split <;> rfl

@[simp]
theorem satisfyResultPromise_mergedAuthStrategy :
    ctx.satisfyResultPromise.mergedAuthStrategy = ctx.mergedAuthStrategy := by
  unfold satisfyResultPromise; split <;> rfl

end Promises

theorem recordClientResult_of_completed {ctx : RoutingContext} (clientId : String)
    (strategy : AuthStrategy) (completed : ctx.completed = true) :
    ctx.recordClientResult clientId strategy = ctx := by
  simp [recordClientResult, completed]

theorem recordClientResult_deny {ctx : RoutingContext} {clientId : String}
    (pending : ctx.completed = false) :
    (ctx.recordClientResult clientId .deny).completed = true ∧
      (ctx.recordClientResult clientId .deny).mergedAuthStrategy = .deny := by
  simp [recordClientResult, pending, evaluateStrictPolicy, complete]

theorem evaluateStrictPolicy_frame (ctx : RoutingContext) (strategy : AuthStrategy) :
    (ctx.evaluateStrictPolicy strategy).clientResults = ctx.clientResults ∧
      (ctx.evaluateStrictPolicy strategy).sentClientCount = ctx.sentClientCount := by
  rw [evaluateStrictPolicy]
  split_ifs
  · simp [complete]
  · simp [complete]
  · exact ⟨rfl, rfl⟩

theorem recordClientResult_clientResults {ctx : RoutingContext} (clientId : String)
    (strategy : AuthStrategy) (pending : ctx.completed = false) :
    (ctx.recordClientResult clientId strategy).clientResults =
      ctx.clientResults.insert clientId strategy := by
  simp [recordClientResult, pending, decrementCounters, evaluateStrictPolicy_frame]

theorem recordClientResult_sentClientCount {ctx : RoutingContext} (clientId : String)
    (strategy : AuthStrategy) (pending : ctx.completed = false) :
    (ctx.recordClientResult clientId strategy).sentClientCount = ctx.sentClientCount - 1 := by
  simp [recordClientResult, pending, decrementCounters, evaluateStrictPolicy_frame]

@[simp]
theorem recordClientResult_clientTimeoutStrategies (ctx : RoutingContext) (clientId : String)
    (strategy : AuthStrategy) :
    (ctx.recordClientResult clientId strategy).clientTimeoutStrategies =
      ctx.clientTimeoutStrategies := by
  simp only [recordClientResult, evaluateStrictPolicy, complete, decrementCounters]
  split_ifs <;> simp

theorem recordClientResult_completes {ctx : RoutingContext} {clientId : String}
    {strategy : AuthStrategy} (pending : ctx.completed = false) (vote : strategy ≠ .deny)
    (completes : (ctx.recordClientResult clientId strategy).completed = true) :
    ctx.sentClientCount ≤ 1 := by
  by_contra many
  have remaining : ctx.sentClientCount - 1 ≠ 0 := by omega
  simp [recordClientResult, pending, evaluateStrictPolicy, vote, decrementCounters,
    remaining] at completes

section Timeout

variable (ctx : RoutingContext) (clientId : String) (strategy : AuthStrategy)

theorem handleTimeoutClient_clientResults :
    (ctx.handleTimeoutClient clientId strategy).clientResults =
      ctx.clientResults.insert clientId (if strategy = .deny then .deny else .timeout) := by
  simp only [handleTimeoutClient]
  split_ifs <;> simp

@[simp]
theorem handleTimeoutClient_clientTimeoutStrategies :
    (ctx.handleTimeoutClient clientId strategy).clientTimeoutStrategies =
      ctx.clientTimeoutStrategies := by
  simp only [handleTimeoutClient]
  split_ifs <;> simp

theorem handleTimeoutClient_decision :
    ((ctx.handleTimeoutClient clientId strategy).completed,
        (ctx.handleTimeoutClient clientId strategy).mergedAuthStrategy) =
      if strategy = .deny then (true, .deny) else (ctx.completed, ctx.mergedAuthStrategy) := by
  simp only [handleTimeoutClient]
  split_ifs <;> simp

end Timeout

/-- What every handled client preserves, the loop preserves. -/
theorem handleTimeoutClients_invariant {motive : RoutingContext → Prop}
    {clients : List (String × AuthStrategy)}
    (step : ∀ ctx clientId strategy, (clientId, strategy) ∈ clients →
      ctx.clientResults.contains clientId = false → motive ctx →
        motive (ctx.handleTimeoutClient clientId strategy))
    {ctx : RoutingContext} (start : motive ctx) :
    motive (handleTimeoutClients clients ctx).1 := by
  induction clients generalizing ctx with
  | nil => exact start
  | cons client rest ih =>
      obtain ⟨clientId, strategy⟩ := client
      have later := fun ctx clientId strategy mem =>
        step ctx clientId strategy (List.mem_cons_of_mem _ mem)
      rw [handleTimeoutClients]
      split
      · exact ih later start
      · next pending =>
          have absent : ctx.clientResults.contains clientId = false := by simpa using pending
          exact ih later (step ctx clientId strategy List.mem_cons_self absent start)

/-- What every handled client, the default decision and the promise preserve, the timeout
preserves. -/
theorem handleTimeout_invariant {motive : RoutingContext → Prop} {ctx : RoutingContext}
    (step : ∀ current clientId strategy,
      ctx.clientTimeoutStrategies.get? clientId = some strategy →
      current.clientResults.contains clientId = false → motive current →
        motive (current.handleTimeoutClient clientId strategy))
    (fallback : ∀ current, current.completed = false → motive current →
      motive { current with mergedAuthStrategy := .allow, completed := true })
    (promise : ∀ current, motive current → motive current.satisfyResultPromise)
    (start : motive ctx) : motive ctx.handleTimeout.1 := by
  have handled : motive (handleTimeoutClients ctx.clientTimeoutStrategies.entries ctx).1 :=
    handleTimeoutClients_invariant
      (fun current clientId strategy mem =>
        step current clientId strategy (SortedMap.mem_entries_iff.mp mem))
      start
  simp only [handleTimeout]
  split
  · exact promise _ handled
  · next pending => exact promise _ (fallback _ (by simpa using pending) handled)

/-- The timeout completes the request. -/
theorem handleTimeout_completed (ctx : RoutingContext) :
    ctx.handleTimeout.1.completed = true := by
  simp only [handleTimeout]
  split
  · next done => simpa using done
  · simp

@[simp]
theorem handleTimeout_clientTimeoutStrategies (ctx : RoutingContext) :
    ctx.handleTimeout.1.clientTimeoutStrategies = ctx.clientTimeoutStrategies := by
  refine handleTimeout_invariant
    (motive := fun current =>
      current.clientTimeoutStrategies = ctx.clientTimeoutStrategies) ?_ ?_ ?_ rfl
  · intro current clientId strategy _ _ same
    simpa using same
  · intro current _ same
    exact same
  · intro current same
    simpa using same

/-- A result that is recorded stays. -/
theorem handleTimeout_keeps_result {ctx : RoutingContext} {clientId : String}
    {strategy : AuthStrategy} (recorded : ctx.clientResults.get? clientId = some strategy) :
    ctx.handleTimeout.1.clientResults.get? clientId = some strategy := by
  refine handleTimeout_invariant
    (motive := fun current => current.clientResults.get? clientId = some strategy)
    ?_ ?_ ?_ recorded
  · intro current other default_ _ absent kept
    have differs : clientId ≠ other := by
      rintro rfl
      simp [SortedMap.contains, kept] at absent
    rw [handleTimeoutClient_clientResults, SortedMap.get?_insert, if_neg differs]
    exact kept
  · intro current _ kept
    exact kept
  · intro current kept
    simpa using kept

end RoutingContext

end SecurityGuard
