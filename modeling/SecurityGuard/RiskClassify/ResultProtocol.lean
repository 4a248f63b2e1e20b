import SecurityGuard.Foundation.Parcel
import SecurityGuard.RiskClassify.ModelManager
import SecurityGuard.Service.Permission

/-!
# Requests for the result of a model

A process asks the service for the result of a model.  The service checks the process, has a task
ask the model manager, waits for the task and calls back, with nothing if the task takes too long.
A synchronous request waits for the callback in its turn, and a lock admits one request of a
process at a time.  Every wait has an end, so the order of the steps is open: a task may settle
after its handler has given up, and a callback may arrive after its caller has.
-/

namespace SecurityGuard

/-- The name of a request. -/
abbrev ResultRequestId := Nat
abbrev ProcessId := Nat

/-- The request that a caller makes of the service. -/
inductive RiskApi where
  | requestSecurityModelResult
  | startSecurityModel
  deriving DecidableEq, Repr

namespace RiskApi

def requestPermission : String := "ohos.permission.securityguard.REQUEST_SECURITY_MODEL_RESULT"
def querySecurityModelResultPermission : String := "ohos.permission.QUERY_SECURITY_MODEL_RESULT"

/-- The permissions that open an interface, each of them alone. -/
def apiPermissionsMap : RiskApi → List String
  | requestSecurityModelResult => [requestPermission, querySecurityModelResultPermission]
  | startSecurityModel => [querySecurityModelResultPermission]

/-- Check the permissions of a caller for a request. -/
def isCallerHasApiPermission (caller : Caller) (api : RiskApi) : Code :=
  let code := isCallerHasPublicPermissions caller api.apiPermissionsMap
  if code ≠ .success then code else isCallerHasSystemPermission caller

end RiskApi

/-- What a function of the caller is called with. -/
structure SecurityModelResult where
  devId : String
  modelId : UInt32
  param : String
  result : String
  deriving DecidableEq, Repr

/-- Where the thread of a caller is. -/
inductive CallerStage where
  | locking
  /-- The lock is taken, and the remote call has not returned. -/
  | calling
  | waiting
  | returned (code : Code) (result : Option SecurityModelResult)
  deriving DecidableEq, Repr

/-- Where the service is with a request. -/
inductive HandlerStage where
  | idle
  | waiting
  | refused (code : Code)
  /-- It has called back with a result, if the call left. -/
  | answered (code : Code) (result : String) (left : Bool)
  deriving DecidableEq, Repr

/-- Where the task of a request is. -/
inductive TaskStage where
  | idle
  | submitted
  | analysing (call : ModelCallId)
  /-- Its promise has a value, from a call of the model manager if there was one. -/
  | settled (call : Option ModelCallId) (result : String)
  deriving DecidableEq, Repr

namespace TaskStage

/-- The call of the model manager that a task made. -/
def call? : TaskStage → Option ModelCallId
  | analysing call => some call
  | settled call _ => call
  | idle | submitted => none

/-- The result of a task that is settled. -/
def result? : TaskStage → Option String
  | settled _ result => some result
  | idle | submitted | analysing _ => none

end TaskStage

/-- A request with the stages of its caller, of its handler in the service and of its task. -/
structure ResultRequest where
  process : ProcessId
  token : Caller
  sync : Bool
  devId : String
  modelId : UInt32
  param : String
  caller : CallerStage := .locking
  handler : HandlerStage := .idle
  task : TaskStage := .idle
  /-- The callback on its way. -/
  flying : Option (List UInt8) := none
  /-- What the function of the caller was called with; a synchronous one sets a promise. -/
  results : List SecurityModelResult := []
  deriving DecidableEq

/-- The service with its requests, and who holds the lock of each process. -/
structure RiskAnalysis where
  manager : ModelManager := {}
  requests : SortedMap ResultRequestId ResultRequest := .empty
  gMutex : SortedMap ProcessId ResultRequestId := .empty

/-- A step of a caller, of the service or of a task. -/
inductive ResultAction where
  /-- The function is called; an asynchronous one may lack its callback. -/
  | request (id : ResultRequestId) (request : ResultRequest) (callback : Bool)
  | lock (id : ResultRequestId)
  /-- The service is not reached. -/
  | fail (id : ResultRequestId) (code : Code)
  | enter (id : ResultRequestId)
  | run (id : ResultRequestId) (call : ModelCallId) (startOnDemand : Option Bool)
  | manager (action : ModelAction)
  | settle (id : ResultRequestId)
  | answer (id : ResultRequestId) (carried : Bool)
  | expire (id : ResultRequestId) (carried : Bool)
  | deliver (id : ResultRequestId)
  | reply (id : ResultRequestId)
  | finish (id : ResultRequestId)
  | timeout (id : ResultRequestId)

/-- The models that are analysed on request. -/
def modelIds : List UInt32 :=
  [3001000000, 3001000001, 3001000002, 3001000005, 3001000006, 3001000007, 3001000009, 3001000011]

def unknownStatus : String := "unknown"

def deviceIdMaxLen : Nat := 64

namespace ResultRequest

variable (primitives : Parcel.Primitives) (request : ResultRequest)

/-- The callback of the service; the device id does not travel. -/
def responseParcel (result : String) : List UInt8 :=
  primitives.uint32.write request.modelId ++ primitives.string.write result

/-- What the stub makes of a callback: it calls the function of the caller, with no device id. -/
def onRemoteRequest (data : List UInt8) : List SecurityModelResult :=
  if Parcel.readable data ≤ 4 then []
  else
    let reader : Parcel.Reader (UInt32 × String) := do
      let modelId ← primitives.uint32.readOr 0
      let result ← primitives.string.readOr ""
      return (modelId, result)
    ((reader data).map fun read =>
      { devId := "", modelId := read.1.1, param := request.param, result := read.1.2 }).toList

/-- `RequestSecurityModelResultSync` and `RequestSecurityModelResultAsync` before their lock. -/
def opened (callback : Bool) : ResultRequest where
  process := request.process
  token := request.token
  sync := request.sync
  devId := request.devId
  modelId := request.modelId
  param := request.param
  caller :=
    if deviceIdMaxLen ≤ request.devId.utf8ByteSize ∨ (!request.sync && !callback) then
      .returned .badParam none
    else .locking

/-- The handler calls back and returns, whether the call leaves or not. -/
def respond (code : Code) (result : String) (carried : Bool) : ResultRequest :=
  let left := carried && decide ((request.responseParcel primitives result).length < 2 ^ 32)
  { request with
    handler := .answered code result left
    flying := if left then some (request.responseParcel primitives result) else none }

/-- The service checks a request and takes it on. -/
def enter : ResultRequest :=
  let code := RiskApi.isCallerHasApiPermission request.token .requestSecurityModelResult
  if code ≠ .success then { request with handler := .refused code }
  else { request with handler := .waiting, task := .submitted }

/-- Where the caller goes on when the remote call returns. -/
def replied : Option CallerStage :=
  match request.handler with
  | .idle | .waiting => none
  | .refused code => some (.returned code none)
  | .answered code _ _ =>
      if request.sync ∧ code = .success then some .waiting else some (.returned code none)

end ResultRequest

namespace RiskAnalysis

variable (primitives : Parcel.Primitives) (state : RiskAnalysis)

/-- Replace a request. -/
def put (id : ResultRequestId) (request : ResultRequest) : RiskAnalysis :=
  { state with requests := state.requests.insert id request }

/-- The caller goes on to a stage; with its return it gives back the lock. -/
def advance (id : ResultRequestId) (request : ResultRequest) (stage : CallerStage) :
    RiskAnalysis :=
  let after := state.put id { request with caller := stage }
  match stage with
  | .returned _ _ => { after with gMutex := after.gMutex.erase request.process }
  | _ => after

/-- A step of one request. -/
def step (id : ResultRequestId) (request : ResultRequest) : ResultAction → Option RiskAnalysis
  | .lock _ =>
      if request.caller = .locking ∧ state.gMutex.contains request.process = false then
        some { state.put id { request with caller := .calling } with
          gMutex := state.gMutex.insert request.process id }
      else none
  | .fail _ code =>
      if request.caller = .calling ∧ request.handler = .idle ∧ code ≠ .success then
        some (state.advance id request (.returned code none))
      else none
  | .enter _ =>
      if request.caller = .calling ∧ request.handler = .idle then some (state.put id request.enter)
      else none
  | .run _ call startOnDemand =>
      if request.task ≠ .submitted then none
      else if request.modelId ∉ modelIds then
        some (state.put id { request with task := .settled none unknownStatus })
      else
        (state.manager.next (.call call request.modelId.toNat (.getResult startOnDemand))).map
          fun manager =>
            { state.put id { request with task := .analysing call } with manager }
  | .settle _ =>
      match request.task with
      | .analysing call =>
          match (state.manager.calls.get? call).map ModelCall.stage with
          | some (.finished (.result result)) =>
              some (state.put id { request with task := .settled (some call) result })
          | _ => none
      | _ => none
  | .answer _ carried =>
      if request.handler = .waiting then
        request.task.result?.map fun result =>
          state.put id (request.respond primitives .success result carried)
      else none
  | .expire _ carried =>
      if request.handler = .waiting ∧ request.task.result? = none then
        some (state.put id (request.respond primitives .timeOut "" carried))
      else none
  | .deliver _ =>
      request.flying.map fun data =>
        state.put id { request with
          flying := none
          results := request.results ++ request.onRemoteRequest primitives data }
  | .reply _ =>
      if request.caller = .calling then request.replied.map (state.advance id request) else none
  | .finish _ =>
      if request.caller = .waiting then
        request.results.head?.map fun result =>
          state.advance id request (.returned .success (some result))
      else none
  | .timeout _ =>
      if request.caller = .waiting ∧ request.results = [] then
        some (state.advance id request (.returned .timeOut none))
      else none
  | .request _ _ _ | .manager _ => none

/-- The state after a step that is possible. -/
def next : Transition RiskAnalysis ResultAction := fun state action =>
  match action with
  | .request id request callback =>
      if state.requests.contains id then none else some (state.put id (request.opened callback))
  | .manager action => (state.manager.next action).map fun manager => { state with manager }
  | .lock id | .fail id _ | .enter id | .run id _ _ | .settle id | .answer id _ | .expire id _
  | .deliver id | .reply id | .finish id | .timeout id =>
      (state.requests.get? id).bind fun request => state.step primitives id request action

end RiskAnalysis

end SecurityGuard
