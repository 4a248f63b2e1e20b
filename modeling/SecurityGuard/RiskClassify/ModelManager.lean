import SecurityGuard.Define
import SecurityGuard.Foundation.Execution
import SecurityGuard.Foundation.SortedMap

/-!
# The model manager

A model is a library whose instance is loaded and initialised on demand.  `InitModel` looks for
an instance, loads a new one and enters it, in three steps outside a common lock.  The calls that
use a model count themselves first, and an instance is not unloaded while it is counted.
-/

namespace SecurityGuard

/-- The id of a model. -/
abbrev ModelId := Nat
abbrev ModelCallId := Nat

/-- The object that holds a loaded library, with what has become of it. -/
structure ModelAttrs where
  modelId : ModelId
  /-- Whether the instance was entered in the map. -/
  installed : Bool := false
  /-- Whether `Release` was called on it. -/
  released : Bool := false
  destroyed : Bool := false
  deriving DecidableEq, Repr

/-- The arguments of a call, as far as they decide what it does. -/
inductive ModelRequest where
  | initModel
  /-- The call reads the configuration of the model: absent, or started on demand or not. -/
  | getResult (startOnDemand : Option Bool)
  | subscribeResult (listener : Bool)
  | startSecurityModel
  deriving DecidableEq, Repr

/-- What a call returns. -/
inductive ModelAnswer where
  | code (value : Code)
  | result (value : String)
  deriving DecidableEq, Repr

/-- What the load and the `Init` of a library come to. -/
inductive LoadOutcome where
  | notFound
  | fileErr
  | failed
  | initFailed (code : Code)
  /-- The instance is initialised; its object is at an unused address. -/
  | initialised (attrs : Address)
  deriving DecidableEq, Repr

/-- The next critical section of a call. -/
inductive ModelStage where
  | hold
  | reuse
  | load
  | install (attrs : Address)
  | use
  | drop (answer : ModelAnswer) (releases : Bool)
  | release (answer : ModelAnswer)
  | finished (answer : ModelAnswer)
  deriving DecidableEq, Repr

/-- A call about a model, with its next step. -/
structure ModelCall where
  modelId : ModelId
  request : ModelRequest
  stage : ModelStage
  deriving DecidableEq, Repr

/-- The instances of the models and the calls under way. -/
structure ModelManager where
  modelIdApiMap : SortedMap ModelId Address := .empty
  modelUseCount : SortedMap ModelId UInt32 := .empty
  /-- Every object whose `Init` has succeeded, at its address. -/
  objects : SortedMap Address ModelAttrs := .empty
  calls : SortedMap ModelCallId ModelCall := .empty

/-- A call about a model, its next step, or a release. -/
inductive ModelAction where
  | call (id : ModelCallId) (modelId : ModelId) (request : ModelRequest)
  | load (id : ModelCallId) (outcome : LoadOutcome)
  /-- The next section of a call, with the answer of the instance if it is asked. -/
  | proceed (id : ModelCallId) (answer : ModelAnswer)
  | release (modelId : ModelId)
  deriving DecidableEq, Repr

namespace ModelManager

variable (manager : ModelManager)

/-- A model is counted as used. -/
def inUse (modelId : ModelId) : Bool :=
  (manager.modelUseCount.get? modelId).any fun count => 0 < count

/-- Count a use of a model. -/
def holdModelUse (modelId : ModelId) : ModelManager :=
  { manager with
    modelUseCount := manager.modelUseCount.insert modelId
      ((manager.modelUseCount.get? modelId).getD 0 + 1) }

/-- Count a use of a model as over. -/
def dropModelUse (modelId : ModelId) : ModelManager :=
  match manager.modelUseCount.get? modelId with
  | none => manager
  | some count =>
      { manager with
        modelUseCount :=
          if count - 1 = 0 then manager.modelUseCount.erase modelId
          else manager.modelUseCount.insert modelId (count - 1) }

/-- Call `Release` on the instance of a model and destroy it. -/
def unload (modelId : ModelId) (attrs : Address) : ModelManager :=
  { manager with
    modelIdApiMap := manager.modelIdApiMap.erase modelId
    objects := manager.objects.modify attrs fun object =>
      { object with released := true, destroyed := true } }

/-- Keep an instance in use; unload one that is not. -/
def reuseModelIfInUse (modelId : ModelId) : Bool × ModelManager :=
  match manager.modelIdApiMap.get? modelId with
  | none => (false, manager)
  | some attrs =>
      if manager.inUse modelId then (true, manager) else (false, manager.unload modelId attrs)

/-- Enter an instance; one that was there is destroyed. -/
def install (modelId : ModelId) (attrs : Address) : ModelManager :=
  let objects :=
    match manager.modelIdApiMap.get? modelId with
    | none => manager.objects
    | some old => manager.objects.modify old fun object => { object with destroyed := true }
  { manager with
    modelIdApiMap := manager.modelIdApiMap.insert modelId attrs
    objects := objects.modify attrs fun object => { object with installed := true } }

/-- Unload a model that nobody uses. -/
def release (modelId : ModelId) : ModelManager :=
  if manager.inUse modelId then manager
  else
    match manager.modelIdApiMap.get? modelId with
    | none => manager
    | some attrs => manager.unload modelId attrs

end ModelManager

namespace ModelRequest

/-- The first section of a call; some return at once. -/
def start : ModelRequest → ModelStage
  | .initModel => .reuse
  | .getResult none => .finished (.result "unknown")
  | .subscribeResult false => .finished (.code .badParam)
  | .getResult (some _) | .subscribeResult true | .startSecurityModel => .hold

/-- What follows after the call has counted itself. -/
def held : ModelRequest → ModelStage
  | .getResult (some false) => .use
  | _ => .reuse

/-- What follows the return of `InitModel`. -/
def initialised (code : Code) : ModelRequest → ModelStage
  | .initModel => .finished (.code code)
  | .getResult _ => if code = .success then .use else .drop (.result "unknown") false
  | .subscribeResult _ | .startSecurityModel =>
      if code = .success then .use else .drop (.code code) false

/-- What the call returns when it finds no instance to ask. -/
def unanswered : ModelRequest → ModelAnswer
  | .getResult _ => .result "unknown"
  | _ => .code .failed

/-- Whether the model is given up after its use. -/
def releases : ModelRequest → Bool
  | .getResult (some true) => true
  | _ => false

end ModelRequest

namespace ModelManager

variable (manager : ModelManager)

/-- Move a call to a stage. -/
def withCall (id : ModelCallId) (call : ModelCall) (stage : ModelStage) : ModelManager :=
  { manager with calls := manager.calls.insert id { call with stage } }

/-- The load and `Init`, which take no lock. -/
def loadStep (id : ModelCallId) (call : ModelCall) : LoadOutcome → Option ModelManager
  | .notFound => some (manager.withCall id call (call.request.initialised .notFound))
  | .fileErr => some (manager.withCall id call (call.request.initialised .fileErr))
  | .failed => some (manager.withCall id call (call.request.initialised .failed))
  | .initFailed code =>
      if code = .success then none
      else some (manager.withCall id call (call.request.initialised code))
  | .initialised attrs =>
      if manager.objects.contains attrs then none
      else
        let objects := manager.objects.insert attrs { modelId := call.modelId }
        some ({ manager with objects }.withCall id call (.install attrs))

/-- One critical section of a call. -/
def section? (id : ModelCallId) (call : ModelCall) (answer : ModelAnswer) :
    Option ModelManager :=
  match call.stage with
  | .hold => some ((manager.holdModelUse call.modelId).withCall id call call.request.held)
  | .reuse =>
      let reused := manager.reuseModelIfInUse call.modelId
      let stage := if reused.1 then call.request.initialised .success else .load
      some (reused.2.withCall id call stage)
  | .install attrs =>
      -- An instance that another call has entered in the meantime is overwritten.
      some ((manager.install call.modelId attrs).withCall id call
        (call.request.initialised .success))
  | .use =>
      -- The map is read again here, and a model that is not in it gives no answer of its own.
      let given :=
        if manager.modelIdApiMap.contains call.modelId then answer else call.request.unanswered
      some (manager.withCall id call (.drop given call.request.releases))
  | .drop given releases =>
      let stage := if releases then .release given else .finished given
      some ((manager.dropModelUse call.modelId).withCall id call stage)
  | .release given =>
      some ((manager.release call.modelId).withCall id call (.finished given))
  | .load | .finished _ => none

/-- The state after a step that is possible. -/
def next : Transition ModelManager ModelAction := fun manager action =>
  match action with
  | .call id modelId request =>
      if manager.calls.contains id then none
      else some (manager.withCall id { modelId, request, stage := request.start } request.start)
  | .load id outcome =>
      match manager.calls.get? id with
      | some call => if call.stage = .load then manager.loadStep id call outcome else none
      | none => none
  | .proceed id answer =>
      match manager.calls.get? id with
      | some call => manager.section? id call answer
      | none => none
  | .release modelId => some (manager.release modelId)

end ModelManager

end SecurityGuard
