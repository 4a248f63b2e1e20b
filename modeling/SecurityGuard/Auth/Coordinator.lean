import Mathlib.Logic.Function.Basic
import SecurityGuard.Auth.Context
import SecurityGuard.Foundation.Execution
import SecurityGuard.Foundation.Text

/-!
# The coordinator of the authorisation requests

A request runs as a task that registers the subscribed clients, waits for their answers and
notifies its provider.  The tasks, the calls with which clients answer and the calls that
create and destroy sessions interleave freely.  Each critical section is one step, and so is
each statement outside a lock that touches what another step can touch.
-/

namespace SecurityGuard

/-- The name of a request. -/
abbrev RequestId := Nat
abbrev AnswerId := Nat

/-- Whether the provider considers a client degraded. -/
structure AuthClientStatus where
  clientId : String
  isDegraded : Bool
  deriving DecidableEq, Repr

/-- The event on which a provider asks for a decision. -/
structure AuthEventInfo where
  eventId : Int
  content : String := ""
  clientStatus : List AuthClientStatus := []
  deriving DecidableEq, Repr

/-- The set of degraded clients that `DispatchEventToClients` collects first. -/
def AuthEventInfo.degraded (event : AuthEventInfo) (clientId : String) : Bool :=
  event.clientStatus.any fun status => status.isDegraded && status.clientId = clientId

/-- The next statement of `RegisterNormalClient`. -/
inductive RegisterPhase where
  | countSent
  | countDeny
  | generate
  | record (seqnum : Int)
  | context (seqnum : Int)
  | route (seqnum : Int)
  deriving DecidableEq, Repr

/-- The next step of a request, from its admission to the end of its task. -/
inductive Stage where
  | requested
  | lookup
  | start
  | subscribed
  | dispatch (todo : List Address)
  | register (session : Address) (phase : RegisterPhase) (todo : List Address)
  | push
  | check
  | noClient
  | noClientResult
  | wait
  | handleTimeout
  | build
  | clean (routes : List (String × Int)) (result : AuthResult)
  | notify (result : AuthResult)
  | release
  | finished
  deriving DecidableEq, Repr

/-- A request with its context, the results of its dispatch and what it has sent. -/
structure Request where
  provider : Address
  event : AuthEventInfo
  resultCallback : Option Address
  stage : Stage := .requested
  ctx : RoutingContext := {}
  seqnums : List Int := []
  clientIds : List String := []
  targets : List (Address × AuthStrategy) := []
  /-- The callbacks on which `OnAuthEvent` was called, with the events. -/
  pushed : List (Address × AuthEvent) := []
  /-- The results that were passed to `NotifyAuthResult`. -/
  notified : List AuthResult := []
  /-- The callbacks on which `OnAuthResult` was called, with the results. -/
  answered : List (Address × AuthResult) := []
  /-- Whether `HandleTimeout` has run. -/
  timeoutHandled : Bool := false
  deriving DecidableEq

/-- The next critical section of a call of `SetAuthResult`. -/
inductive AnswerStage where
  | store
  | find
  | record (request : RequestId)
  deriving DecidableEq, Repr

/-- A call of `SetAuthResult` in flight. -/
structure Answer where
  session : Address
  clientId : String
  event : AuthEvent
  allowFlag : Bool
  stage : AnswerStage := .store
  deriving DecidableEq, Repr

/-- The answer of a client. -/
def Answer.strategy (answer : Answer) : AuthStrategy :=
  if answer.allowFlag then .allow else .deny

/-- The request whose context the call is about to change. -/
def Answer.target? (answer : Answer) : Option RequestId :=
  match answer.stage with
  | .record request => some request
  | _ => none

def seqnumShardCount : Nat := 16

/-- The key under which a client's answer finds its request. -/
def makeSeqnumKey (clientId : String) (seqnum : Int) : String :=
  clientId ++ "_" ++ toString seqnum

/-- Distinct clients or numbers have distinct keys. -/
theorem makeSeqnumKey_inj {clientId clientId' : String} {seqnum seqnum' : Int}
    (same : makeSeqnumKey clientId seqnum = makeSeqnumKey clientId' seqnum') :
    clientId = clientId' ∧ seqnum = seqnum' :=
  Text.append_numeral_inj (by decide : Text.Separator '_') same

/-- The sessions, the routing shards and the reports made so far. -/
structure AuthCoordinator where
  manager : AuthEventSubscribeManager := {}
  /-- Every provider object created so far, at its address. -/
  providerObjects : SortedMap Address AuthProviderSessionService := .empty
  providerSessions : SortedSet Address := .empty
  seqnumShards : Fin seqnumShardCount → SortedMap String RequestId := fun _ => .empty
  reports : List AuthBlockReport := []

namespace AuthCoordinator

variable (hash : String → Nat) (coordinator : AuthCoordinator)

/-- Refuse a provider beyond the quotas. -/
def checkProviderQuotaLocked (callerPid : Int) : Code :=
  if maxAuthProviderSize ≤ coordinator.providerSessions.size then .authProviderExceedGlobalLimit
  else
    let ofProcess := coordinator.providerSessions.keys.filter fun provider =>
      (coordinator.providerObjects.get? provider).any fun object => object.pid = callerPid
    if maxAuthProviderSizeOneProcess ≤ ofProcess.length then .authProviderExceedProcessLimit
    else .success

/-- Create a provider session at an unused address. -/
def createAuthProvider (caller : Caller) (callback : Option Address) (serviceId : String)
    (address : Address) : Code × AuthCoordinator :=
  match callback with
  | none => (.badParam, coordinator)
  | some callback =>
      let code := coordinator.checkProviderQuotaLocked caller.pid
      -- One callback object registers one provider.
      let taken := coordinator.providerSessions.keys.any fun provider =>
        (coordinator.providerObjects.get? provider).any fun object => object.callback = callback
      if code ≠ .success then (code, coordinator)
      else if taken then (.badParam, coordinator)
      else
        let provider : AuthProviderSessionService :=
          { pid := caller.pid, uid := caller.uid, serviceId, callback }
        (.success,
          { coordinator with
            providerObjects := coordinator.providerObjects.insert address provider
            providerSessions := coordinator.providerSessions.insert address () })

/-- Mark a provider invalid and forget it when its process dies. -/
def removeProvider (provider : Address) : AuthCoordinator :=
  { coordinator with
    providerObjects := coordinator.providerObjects.modify provider fun object =>
      { object with valid := false }
    providerSessions := coordinator.providerSessions.erase provider }

/-- Destroy a provider that is still registered. -/
def destroyAuthProvider (provider : Address) : AuthCoordinator :=
  if coordinator.providerSessions.contains provider then coordinator.removeProvider provider
  else coordinator

/-- The session of a provider is valid. -/
def providerValid (provider : Address) : Bool :=
  (coordinator.providerObjects.get? provider).any fun object => object.valid

/-- Count a request of a provider that is below its limit. -/
def tryIncrementActiveRequest (provider : Address) : Option AuthCoordinator :=
  match coordinator.providerObjects.get? provider with
  | none => none
  | some object =>
      if object.activeRequestCount < maxAuthRequestConcurrentPerProvider then
        let counted := { object with activeRequestCount := object.activeRequestCount + 1 }
        some
          { coordinator with
            providerObjects := coordinator.providerObjects.insert provider counted }
      else none

/-- Count a request of a provider as done. -/
def decrementActiveRequest (provider : Address) : AuthCoordinator :=
  { coordinator with
    providerObjects := coordinator.providerObjects.modify provider fun object =>
      { object with activeRequestCount := object.activeRequestCount - 1 } }

/-- The shard of a key. -/
def getSeqnumShardIndex (key : String) : Fin seqnumShardCount :=
  ⟨hash key % seqnumShardCount, Nat.mod_lt _ (by decide)⟩

/-- The request that a key leads to. -/
def route? (key : String) : Option RequestId :=
  (coordinator.seqnumShards (getSeqnumShardIndex hash key)).get? key

/-- Enter the request of a key. -/
def insertRoute (key : String) (request : RequestId) : AuthCoordinator :=
  let index := getSeqnumShardIndex hash key
  { coordinator with
    seqnumShards := Function.update coordinator.seqnumShards index
      ((coordinator.seqnumShards index).insert key request) }

/-- Take a key out. -/
def eraseRoute (key : String) : AuthCoordinator :=
  let index := getSeqnumShardIndex hash key
  { coordinator with
    seqnumShards := Function.update coordinator.seqnumShards index
      ((coordinator.seqnumShards index).erase key) }

/-- The request that waits for an answer of a client. -/
def findRoutingContext (clientId : String) (seqnum : Int) : Option RequestId :=
  coordinator.route? hash (makeSeqnumKey clientId seqnum)

/-- Send reports. -/
def report (reports : List AuthBlockReport) : AuthCoordinator :=
  { coordinator with reports := coordinator.reports ++ reports }

/-- Replace the manager of the sessions. -/
def withManager (manager : AuthEventSubscribeManager) : AuthCoordinator :=
  { coordinator with manager }

end AuthCoordinator

namespace Request

/-- Continue with another step and leave everything else. -/
def withStage (request : Request) (stage : Stage) : Request := { request with stage }

/-- The event as it is pushed to one client. -/
def eventFor (request : Request) (seqnum : Int) : AuthEvent :=
  { eventId := request.event.eventId, seqnum, content := request.event.content }

/-- The routes that the cleanup of the request removes. -/
def routes (request : Request) : List (String × Int) := request.clientIds.zip request.seqnums

end Request

end SecurityGuard
