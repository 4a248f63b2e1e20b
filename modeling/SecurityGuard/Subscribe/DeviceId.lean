import Mathlib.Order.Nat
import SecurityGuard.Foundation.Execution
import SecurityGuard.Foundation.SortedMap

/-!
# The cache of the device id

The id of the device comes from the device manager.  `InitDeviceId` fetches it and marks the cache
valid, `InvalidateDeviceId` empties the cache when the device manager has died, and a recovery
loop fetches the id again until it has succeeded.  Each access to an atomic member and each
critical section is one step, and any number of calls run beside each other and beside the loop.
-/

namespace SecurityGuard

namespace DeviceIdRecovery

/-- `DEVICE_ID_RECOVERY_INIT_INTERVAL_SEC`. -/
def initIntervalSec : Nat := 1

/-- `DEVICE_ID_RECOVERY_BACKOFF_MULTIPLIER`. -/
def backoffMultiplier : Nat := 2

/-- `DEVICE_ID_RECOVERY_MAX_INTERVAL_SEC`. -/
def maxIntervalSec : Nat := 30

/-- An id as the device manager answers it. -/
abbrev LocalId := { deviceId : String // deviceId ≠ "" }

/-- What the device manager answers. -/
structure Answer where
  /-- Whether `InitDeviceManager` succeeds. -/
  initialized : Bool := true
  /-- The id of `GetLocalDeviceInfo`, when that succeeds. -/
  localDevice : Option LocalId := none
  deriving DecidableEq

/-- The next step of `InitDeviceId`. -/
inductive InitStage where
  /-- The exchange of `isDeviceManagerInit_`. -/
  | register
  | initDeviceManager
  | unregister
  | getLocalDeviceInfo
  | store (deviceId : LocalId)
  | validate
  deriving DecidableEq

/-- The next step of `InvalidateDeviceId`. -/
inductive InvalidateStage where
  | unregister
  | invalidate
  | clear
  deriving DecidableEq

/-- What the caller of `InvalidateDeviceId` goes on with. -/
inductive AfterInvalidate where
  | returns
  | startDeviceIdRecovery
  | unInitDeviceManager
  deriving DecidableEq

/-- The next step of starting the recovery loop. -/
inductive StartStage where
  | testValid
  /-- The exchange of `deviceIdRefreshInFlight_`. -/
  | exchangeInFlight
  | spawn
  deriving DecidableEq

/-- The next step of stopping the recovery loop. -/
inductive StopStage where
  | requestStop
  | join
  deriving DecidableEq

/-- The next step of a call. -/
inductive Stage where
  | initDeviceId (stage : InitStage)
  | invalidateDeviceId (stage : InvalidateStage) (after : AfterInvalidate)
  | startDeviceIdRecovery (stage : StartStage)
  | stopDeviceIdRecovery (stage : StopStage)
  | unInitDeviceManager
  deriving DecidableEq

/-- The next step of the recovery loop. -/
inductive LoopStage where
  | testStop
  | testValid
  | initDeviceId (stage : InitStage)
  | retestValid
  | sleep (slept : Nat)
  | clearInFlight
  deriving DecidableEq

/-- A thread in `DeviceIdRecoveryLoop`. -/
structure Loop where
  stage : LoopStage := .testStop
  backoffSec : Nat := initIntervalSec
  deriving DecidableEq

/-- The members of the manager that the recovery uses. -/
structure Members where
  isDeviceManagerInit : Bool := false
  deviceIdValid : Bool := false
  deviceId : String := ""
  deviceIdRefreshInFlight : Bool := false
  isStopDeviceIdRecovery : Bool := false
  /-- Whether `StopDeviceIdRecovery` holds `deviceIdRecoveryMutex_` while it joins the thread. -/
  deviceIdRecoveryMutex : Bool := false
  deviceIdRecoveryThread : Option Loop := none

namespace Members

variable (members : Members) (answer : Answer)

/-- A step of `InitDeviceId`, and the stage after it unless it returns. -/
def initDeviceId : InitStage → Members × Option InitStage
  | .register =>
      if members.isDeviceManagerInit then (members, some .getLocalDeviceInfo)
      else ({ members with isDeviceManagerInit := true }, some .initDeviceManager)
  | .initDeviceManager =>
      (members, some (if answer.initialized then .getLocalDeviceInfo else .unregister))
  | .unregister => ({ members with isDeviceManagerInit := false }, none)
  | .getLocalDeviceInfo => (members, answer.localDevice.map .store)
  -- The id and its validity are stored by two accesses.
  | .store deviceId => ({ members with deviceId }, some .validate)
  | .validate => ({ members with deviceIdValid := true }, none)

/-- A step of `InvalidateDeviceId`. -/
def invalidateDeviceId : InvalidateStage → Members × Option InvalidateStage
  | .unregister => ({ members with isDeviceManagerInit := false }, some .invalidate)
  | .invalidate => ({ members with deviceIdValid := false }, some .clear)
  | .clear => ({ members with deviceId := "" }, none)

/-- A step of `StartDeviceIdRecovery`.  The thread of an earlier loop is joined, so the last step
waits for that loop and for the mutex. -/
def startDeviceIdRecovery : StartStage → Option (Members × Option StartStage)
  | .testValid => some (members, if members.deviceIdValid then none else some .exchangeInFlight)
  | .exchangeInFlight =>
      if members.deviceIdRefreshInFlight then some (members, none)
      else some ({ members with deviceIdRefreshInFlight := true }, some .spawn)
  | .spawn =>
      -- Starting waits for the lock and for the thread that ran before.
      if members.deviceIdRecoveryMutex || members.deviceIdRecoveryThread.isSome then none
      else
        let started :=
          { members with isStopDeviceIdRecovery := false, deviceIdRecoveryThread := some {} }
        some (started, none)

/-- A step of `StopDeviceIdRecovery`. -/
def stopDeviceIdRecovery : StopStage → Option (Members × Option StopStage)
  | .requestStop =>
      if members.deviceIdRecoveryMutex then none
      else
        let stopped :=
          { members with deviceIdRecoveryMutex := true, isStopDeviceIdRecovery := true }
        some (stopped, some .join)
  | .join =>
      if members.deviceIdRecoveryThread.isSome then none
      else some ({ members with deviceIdRecoveryMutex := false }, none)

/-- A step of the loop. -/
def deviceIdRecoveryLoop (loop : Loop) : Members :=
  let goOn (stage : LoopStage) : Members :=
    { members with deviceIdRecoveryThread := some { loop with stage } }
  match loop.stage with
  | .testStop => goOn (if members.isStopDeviceIdRecovery then .clearInFlight else .testValid)
  | .testValid =>
      goOn (if members.deviceIdValid then .clearInFlight else .initDeviceId .register)
  | .initDeviceId stage =>
      let step := members.initDeviceId answer stage
      let stage := (step.2.map .initDeviceId).getD .retestValid
      { step.1 with deviceIdRecoveryThread := some { loop with stage } }
  | .retestValid => goOn (if members.deviceIdValid then .clearInFlight else .sleep 0)
  | .sleep slept =>
      -- The loop sleeps a second at a time to notice a stop.
      if slept < loop.backoffSec ∧ members.isStopDeviceIdRecovery = false then
        goOn (.sleep (slept + 1))
      else
        let backoffSec := min (loop.backoffSec * backoffMultiplier) maxIntervalSec
        { members with deviceIdRecoveryThread := some { stage := .testStop, backoffSec } }
  | .clearInFlight =>
      { members with deviceIdRefreshInFlight := false, deviceIdRecoveryThread := none }

/-- The step of a call that is next, and the stage after it unless the call returns. -/
def step : Stage → Option (Members × Option Stage)
  | .initDeviceId stage =>
      let step := members.initDeviceId answer stage
      some (step.1, step.2.map .initDeviceId)
  | .invalidateDeviceId stage after =>
      let step := members.invalidateDeviceId stage
      let onward : Option Stage :=
        match after with
        | .returns => none
        | .startDeviceIdRecovery => some (.startDeviceIdRecovery .testValid)
        | .unInitDeviceManager => some .unInitDeviceManager
      some (step.1, (step.2.map fun stage => .invalidateDeviceId stage after) <|> onward)
  | .startDeviceIdRecovery stage =>
      (members.startDeviceIdRecovery stage).map fun step =>
        (step.1, step.2.map .startDeviceIdRecovery)
  | .stopDeviceIdRecovery stage =>
      (members.stopDeviceIdRecovery stage).map fun step =>
        let invalidates := Stage.invalidateDeviceId .unregister .unInitDeviceManager
        (step.1, some ((step.2.map .stopDeviceIdRecovery).getD invalidates))
  | .unInitDeviceManager => some (members, none)

end Members

/-- The number of a call. -/
abbrev CallId := Nat

/-- The members, the calls under way and the recovery that is due. -/
structure System where
  members : Members := {}
  /-- The calls that have not returned. -/
  calls : SortedMap CallId Stage := .empty
  /-- Whether `RecoverDeviceId` has been called and no stop requested since. -/
  recoveryDue : Bool := false

/-- A call about the device id, or the next step of a call or of the loop. -/
inductive Action where
  | initDeviceId (id : CallId)
  | invalidateDeviceId (id : CallId)
  | recoverDeviceId (id : CallId)
  | refreshDeviceIdAsync (id : CallId)
  | deInitDeviceId (id : CallId)
  /-- A call takes its next step. -/
  | proceed (id : CallId) (answer : Answer)
  /-- The loop takes its next step. -/
  | loop (answer : Answer)
  deriving DecidableEq

namespace System

variable (system : System)

/-- A call begins. -/
def enter (id : CallId) (stage : Stage) : Option System :=
  if system.calls.contains id then none
  else some { system with calls := system.calls.insert id stage }

/-- The state after a step that is possible. -/
def next : Transition System Action := fun system action =>
  match action with
  | .initDeviceId id => system.enter id (.initDeviceId .register)
  | .invalidateDeviceId id => system.enter id (.invalidateDeviceId .unregister .returns)
  | .recoverDeviceId id =>
      (system.enter id (.invalidateDeviceId .unregister .startDeviceIdRecovery)).map fun entered =>
        { entered with recoveryDue := true }
  | .refreshDeviceIdAsync id => system.enter id (.startDeviceIdRecovery .testValid)
  | .deInitDeviceId id => system.enter id (.stopDeviceIdRecovery .requestStop)
  | .proceed id answer =>
      (system.calls.get? id).bind fun stage =>
        (system.members.step answer stage).map fun step =>
          let recoveryDue :=
            system.recoveryDue && decide (stage ≠ .stopDeviceIdRecovery .requestStop)
          { members := step.1, calls := system.calls.replace id step.2, recoveryDue }
  | .loop answer =>
      system.members.deviceIdRecoveryThread.map fun loop =>
        { system with members := system.members.deviceIdRecoveryLoop answer loop }

end System

end DeviceIdRecovery

end SecurityGuard
