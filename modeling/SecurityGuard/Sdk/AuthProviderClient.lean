import SecurityGuard.Foundation.Execution
import SecurityGuard.Sdk.Service

/-!
# A provider in an application

The client of a provider watches the service with a death recipient.  When the service dies the
recipient starts a task, which after each of a few delays looks for the service, creates the
provider there anew and watches the object it has found.
-/

namespace SecurityGuard

/-- The name of a recovery. -/
abbrev RecoveryId := Nat

/-- `PROVIDER_RECONNECT_RETRY_DELAY_SECONDS`. -/
def providerReconnectRetryDelaySeconds : List Nat := [1, 5, 15, 30, 60, 60, 60, 60, 60]

/-- Codes that are not among those of the interface are shown as an internal error. -/
def normalizeErrorCode (code : Code) : Code :=
  if code ∈ [.success, .noPermission, .noSystemCall, .badParam, .authProviderInternalError,
    .authProviderExceedProcessLimit, .authProviderExceedGlobalLimit, .authRequestExceedLimit]
  then code else .authProviderInternalError

/-- The next section of `HandleDeath` and the `RecoverSession` that it calls. -/
inductive RecoveryStage where
  | wake
  | search
  | copyCallback (object : Address)
  | createAuthProvider (object : Address)
  | switch (object newRemote : Address)
  | setDeathRecipient (object : Address)
  | finished (recovered : Bool)
  deriving DecidableEq, Repr

/-- A task that runs `HandleDeath`, with the delays that are still left. -/
structure Recovery where
  delays : List Nat
  stage : RecoveryStage
  deriving DecidableEq, Repr

namespace Recovery

/-- The loop over the delays, when no attempt has succeeded so far. -/
def attempt : List Nat → Recovery
  | [] => { delays := [], stage := .finished false }
  | _ :: delays => { delays, stage := .wake }

/-- `RecoverSession` returns false. -/
def retry (recovery : Recovery) : Recovery := attempt recovery.delays

/-- Move a recovery to a stage. -/
def moveTo (recovery : Recovery) (stage : RecoveryStage) : Recovery := { recovery with stage }

end Recovery

/-- What a section learns from outside. -/
structure ProviderAnswer where
  search : ServiceSearch := .noProxy
  /-- What `CreateAuthProvider` returns, with the object of the session. -/
  code : Code := .success
  newRemote : Option Address := none
  /-- Whether a death recipient can be allocated. -/
  allocated : Bool := true
  deriving DecidableEq, Repr

/-- The client of a provider. -/
structure AuthProviderSubscribeClient where
  /-- Whether `callback_` is set. -/
  callback : Bool := false
  sessionRemote : Option Address := none
  deathRecipient : DeathWatch := {}
  deleted : Bool := false

/-- The next section of `CreateProvider`. -/
inductive CreateStage where
  | start
  | createAuthProvider (object : Address)
  | setDeathRecipient (object : Address)
  | returned (code : Code)
  deriving DecidableEq, Repr

/-- A client, the service it depends on and the recoveries that the deaths of the service have
started. -/
structure ProviderSystem where
  client : AuthProviderSubscribeClient := {}
  creation : CreateStage := .start
  /-- The object of the service, while it lives. -/
  service : Option Address := none
  /-- Every object that the service has had. -/
  started : SortedSet Address := .empty
  /-- The dead objects whose notice has not reached the recipient. -/
  notices : SortedSet Address := .empty
  recoveries : SortedMap RecoveryId Recovery := .empty
  /-- Whether `Release` has still to clear the members. -/
  releasing : Bool := false

/-- A step of the service, of the provider's client or of a recovery. -/
inductive ProviderAction where
  | serviceStarts (object : Address)
  | serviceDies
  /-- `OnRemoteDied`, with whether the dead object can still be promoted. -/
  | remoteDied (object : Address) (id : RecoveryId) (promoted : Bool)
  | createProvider (callback : Bool) (search : ServiceSearch) (allocated : Bool)
  | proceedCreation (answer : ProviderAnswer)
  | proceed (id : RecoveryId) (answer : ProviderAnswer)
  | deleteProvider
  | clear
  deriving DecidableEq, Repr

namespace ProviderSystem

variable (system : ProviderSystem)

/-- The service ends; it starts again with another object. -/
def serviceDies (object : Address) : ProviderSystem :=
  { system with
    service := none
    notices :=
      if system.client.deathRecipient.registered.contains object then
        system.notices.insert object ()
      else system.notices }

/-- A death reaches the client, which starts a recovery. -/
def remoteDied (object : Address) (id : RecoveryId) (promoted : Bool) : ProviderSystem :=
  let watch := system.client.deathRecipient
  { system with
    client :=
      { system.client with
        deathRecipient := if promoted then watch.remove object else watch }
    notices := system.notices.erase object
    recoveries :=
      system.recoveries.insert id (.attempt providerReconnectRetryDelaySeconds) }

/-- `SetDeathRecipient`, which registers on a live object only. -/
def setDeathRecipient (object : Address) (allocated : Bool) : Code × ProviderSystem :=
  let set := system.client.deathRecipient.setDeathRecipient .badParam object allocated
    (system.service = some object)
  (set.1, { system with client := { system.client with deathRecipient := set.2 } })

/-- `CreateProvider` up to the call of the service. -/
def createProvider (callback : Bool) (search : ServiceSearch) (allocated : Bool) :
    Option CreateStage :=
  if callback = false then some (.returned .badParam)
  else
    match search with
    | .noRegistry | .noProxy => some (.returned .authProviderInternalError)
    | .proxy object =>
        if system.service = some object then
          some
            (if allocated then .createAuthProvider object
            else .returned .authProviderInternalError)
        else none

/-- The further sections of `CreateProvider`. -/
def proceedCreation (answer : ProviderAnswer) : Option ProviderSystem :=
  match system.creation with
  | .createAuthProvider object =>
      if answer.code = .success then
        match answer.newRemote with
        | none =>
            some { system with
              creation := .returned (normalizeErrorCode .authProviderInternalError) }
        | some newRemote =>
            let client := { system.client with callback := true, sessionRemote := some newRemote }
            some { system with client, creation := .setDeathRecipient object }
      else some { system with creation := .returned (normalizeErrorCode answer.code) }
  | .setDeathRecipient object =>
      let set := system.setDeathRecipient object answer.allocated
      let code := if set.1 = .success then .success else normalizeErrorCode set.1
      some { set.2 with creation := .returned code }
  | .start | .returned _ => none

/-- One section of a recovery. -/
def recover? (recovery : Recovery) (answer : ProviderAnswer) :
    Option (Recovery × ProviderSystem) :=
  match recovery.stage with
  | .wake =>
      if system.client.deleted then some (recovery.moveTo (.finished false), system)
      else some (recovery.moveTo .search, system)
  | .search =>
      match answer.search with
      | .noRegistry | .noProxy => some (recovery.retry, system)
      | .proxy object =>
          if system.service = some object then
            some (recovery.moveTo (.copyCallback object), system)
          else none
  | .copyCallback object =>
      if system.client.deleted || !system.client.callback then some (recovery.retry, system)
      else some (recovery.moveTo (.createAuthProvider object), system)
  | .createAuthProvider object =>
      if answer.code = .success then
        match answer.newRemote with
        | none => some (recovery.retry, system)
        | some newRemote => some (recovery.moveTo (.switch object newRemote), system)
      else some (recovery.retry, system)
  | .switch object newRemote =>
      if system.client.deleted then some (recovery.retry, system)
      else
        let client := { system.client with sessionRemote := some newRemote }
        some (recovery.moveTo (.setDeathRecipient object), { system with client })
  | .setDeathRecipient object =>
      some (recovery.moveTo (.finished true),
        (system.setDeathRecipient object answer.allocated).2)
  | .finished _ => none

/-- The state after a step that is possible. -/
def next : Transition ProviderSystem ProviderAction := fun system action =>
  match action with
  | .serviceStarts object =>
      if system.service.isSome || system.started.contains object then none
      else
        let started := system.started.insert object ()
        some { system with service := some object, started }
  | .serviceDies => system.service.map system.serviceDies
  | .remoteDied object id promoted =>
      if system.notices.contains object && !system.recoveries.contains id then
        some (system.remoteDied object id promoted)
      else none
  | .createProvider callback search allocated =>
      if system.creation = .start then
        (system.createProvider callback search allocated).map fun creation =>
          { system with creation }
      else none
  | .proceedCreation answer => system.proceedCreation answer
  | .proceed id answer =>
      (system.recoveries.get? id).bind fun recovery =>
        (system.recover? recovery answer).map fun result =>
          { result.2 with recoveries := result.2.recoveries.insert id result.1 }
  | .deleteProvider =>
      match system.creation with
      | .returned _ =>
          if system.client.deleted then some system
          else
            let client := { system.client with deleted := true }
            some { system with client, releasing := true }
      | _ => none
  | .clear =>
      if system.releasing then
        let deathRecipient := { system.client.deathRecipient with recipient := false }
        let client :=
          { system.client with callback := false, sessionRemote := none, deathRecipient }
        some { system with client, releasing := false }
      else none

end ProviderSystem

end SecurityGuard
