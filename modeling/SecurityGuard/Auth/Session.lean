import Mathlib.Algebra.Order.Ring.Int
import Mathlib.Data.String.Basic
import SecurityGuard.Define
import SecurityGuard.Foundation.SortedMap

/-!
# Sessions of the authorisation events

The client sessions that `AuthEventSubscribeManager` keeps and the provider sessions that
`AuthCoordinator` keeps.  A session object outlives its removal from the set of sessions while
a task or a call still holds it, so the objects stay in a heap and the sets hold addresses.
Every function is one critical section of the lock that guards its set.
-/

namespace SecurityGuard

/-- A client's answer, or the merged decision of a request. -/
inductive AuthStrategy where
  | allow
  | deny
  | timeout
  deriving DecidableEq, Repr

/-- The event that is pushed to a client and that the client sends back with its answer. -/
structure AuthEvent where
  eventId : Int
  seqnum : Int := 0
  content : String := ""
  metadata : String := ""
  deriving DecidableEq, Repr

/-- A client session object.  Its lock is that of the manager, except for the counter. -/
structure AuthEventSessionService where
  pid : Int
  uid : Int
  clientId : String
  defaultTimeoutStrategy : AuthStrategy
  defaultTimeoutMs : Int
  callback : Address
  seqnumCounter : Int := 0
  eventIds : SortedSet Int := .empty
  eventServiceMap : SortedMap Int String := .empty
  valid : Bool := true
  deriving DecidableEq

namespace AuthEventSessionService

/-- Refuse further calls of a session. -/
def markInvalid (session : AuthEventSessionService) : AuthEventSessionService :=
  { session with valid := false }

/-- The number that `GenerateSeqnum` returns is the counter after the increment. -/
def generateSeqnum (session : AuthEventSessionService) : AuthEventSessionService :=
  { session with seqnumCounter := session.seqnumCounter + 1 }

/-- Enter an event together with the service it belongs to. -/
def registerEvent (session : AuthEventSessionService) (eventId : Int) (serviceId : String) :
    AuthEventSessionService :=
  { session with
    eventIds := session.eventIds.insert eventId ()
    eventServiceMap := session.eventServiceMap.insert eventId serviceId }

/-- Drop an event of a session. -/
def unregisterEvent (session : AuthEventSessionService) (eventId : Int) :
    AuthEventSessionService :=
  { session with
    eventIds := session.eventIds.erase eventId
    eventServiceMap := session.eventServiceMap.erase eventId }

end AuthEventSessionService

/-- A provider session object. -/
structure AuthProviderSessionService where
  pid : Int
  uid : Int
  serviceId : String
  callback : Address
  valid : Bool := true
  activeRequestCount : Nat := 0
  deriving DecidableEq

/-- The arguments with which a client session is created. -/
structure CreateClientParams where
  callerPid : Int
  callerUid : Int
  timeoutAllowFlag : Int
  defaultTimeoutMs : Int
  callback : Option Address
  deriving DecidableEq, Repr

def maxAuthEventClientSizeOneProcess : Nat := 2
def maxAuthEventClientSize : Nat := 16
def maxAuthEventStrLen : Nat := 4096
def maxAuthEventSubscribeSize : Nat := 1024
def maxAuthEventResultSize : Nat := 1024
def maxAuthProviderSizeOneProcess : Nat := 1
def maxAuthProviderSize : Nat := 16
def maxAuthRequestConcurrentPerProvider : Nat := 128
def authResultTimeoutMs : Int := 400
def authAuditEventPermission : String := "ohos.permission.kernel.AUTH_AUDIT_EVENT"
def authServiceAccessPermission : String := "ohos.permission.AUTH_SERVICE_ACCESS"

/-- Native callers allowed to use the framework: the list is still empty. -/
def allowedUids : List Int := []

/-- Whether a caller may use the client interfaces. -/
def isCallerAllowed (caller : Caller) : Code :=
  match caller.tokenType with
  | .native => if caller.uid ∈ allowedUids then .success else .noPermission
  | .hap => if authAuditEventPermission ∈ caller.permissions then .success else .noPermission
  | _ => .noPermission

/-- Whether a caller may use the provider interfaces. -/
def isProviderAllowed (caller : Caller) : Code :=
  match caller.tokenType with
  | .native => .success
  | .hap =>
      if authServiceAccessPermission ∉ caller.permissions then .noPermission
      else if !caller.isSystemApp then .noSystemCall
      else .success
  | _ => .noPermission

/-- The client sessions and the answers last given for each event. -/
structure AuthEventSubscribeManager where
  /-- Every session object created so far, at its address. -/
  sessionObjects : SortedMap Address AuthEventSessionService := .empty
  sessions : SortedSet Address := .empty
  authResults : SortedMap Int AuthStrategy := .empty
  deriving DecidableEq

namespace AuthEventSubscribeManager

/-- The sessions of a process. -/
def sessionsOfPid (manager : AuthEventSubscribeManager) (pid : Int) : List Address :=
  manager.sessions.keys.filter fun session =>
    (manager.sessionObjects.get? session).any fun object => object.pid = pid

/-- Refuse a session beyond the quotas. -/
def checkQuotaLocked (manager : AuthEventSubscribeManager) (callerPid : Int) : Code :=
  if maxAuthEventClientSize ≤ manager.sessions.size then .clientExceedGlobalLimit
  else if maxAuthEventClientSizeOneProcess ≤ (manager.sessionsOfPid callerPid).length then
    .clientExceedProcessLimit
  else .success

/-- A callback object has a session already. -/
def callbackHasSession (manager : AuthEventSubscribeManager) (callback : Address) : Bool :=
  manager.sessions.keys.any fun session =>
    (manager.sessionObjects.get? session).any fun object => object.callback = callback

/-- The identifier of a new session: a hash of the clock and the address of its callback. -/
def constructClientId (hash : String → Nat) (time : Nat) (callback : Address) : String :=
  toString (hash (toString time ++ toString callback))

/-- Create a session at an unused address.  The death recipient is added outside the lock; when
that fails the session is removed again by `removeSessionLocked`. -/
def creatAuthEventClient (hash : String → Nat) (manager : AuthEventSubscribeManager)
    (params : CreateClientParams) (address : Address) (time : Nat) :
    Code × AuthEventSubscribeManager :=
  match params.callback with
  | none => (.nullObject, manager)
  | some callback =>
      let code := manager.checkQuotaLocked params.callerPid
      if code ≠ .success then (code, manager)
      -- One callback object has one session.
      else if manager.callbackHasSession callback then (.badParam, manager)
      else
        let strategy := if params.timeoutAllowFlag ≠ 0 then AuthStrategy.allow else .deny
        let session : AuthEventSessionService :=
          { pid := params.callerPid
            uid := params.callerUid
            clientId := constructClientId hash time callback
            defaultTimeoutStrategy := strategy
            defaultTimeoutMs := params.defaultTimeoutMs
            callback }
        (.success,
          { manager with
            sessionObjects := manager.sessionObjects.insert address session
            sessions := manager.sessions.insert address () })

/-- Enter an event of a live session. -/
def subscribeAuthEvent (manager : AuthEventSubscribeManager) (session : Address) (eventId : Int)
    (serviceId : String) : Code × AuthEventSubscribeManager :=
  if !manager.sessions.contains session then (.badParam, manager)
  else
    match manager.sessionObjects.get? session with
    | none => (.badParam, manager)
    | some object =>
        -- The size is tested before it is known whether the event is new.
        if maxAuthEventSubscribeSize ≤ object.eventIds.size then (.filterExceedLimit, manager)
        else
          let registered := object.registerEvent eventId serviceId
          (.success,
            { manager with sessionObjects := manager.sessionObjects.insert session registered })

/-- Drop an event of a live session. -/
def unsubscribeAuthEvent (manager : AuthEventSubscribeManager) (session : Address)
    (eventId : Int) : Code × AuthEventSubscribeManager :=
  if !manager.sessions.contains session then (.badParam, manager)
  else
    (.success,
      { manager with
        sessionObjects := manager.sessionObjects.modify session (·.unregisterEvent eventId) })

/-- The critical section of `SetAuthResult`: the answer is stored before it is forwarded. -/
def setAuthResult (manager : AuthEventSubscribeManager) (session : Address) (event : AuthEvent)
    (strategy : AuthStrategy) : Code × AuthEventSubscribeManager :=
  if maxAuthEventStrLen < event.content.utf8ByteSize ∨
      maxAuthEventStrLen < event.metadata.utf8ByteSize then (.badParam, manager)
  else if !manager.sessions.contains session then (.badParam, manager)
  -- A result for a known event id replaces the old one even when the table is full.
  else if !manager.authResults.contains event.eventId ∧
      maxAuthEventResultSize ≤ manager.authResults.size then (.filterExceedLimit, manager)
  else
    (.success,
      { manager with authResults := manager.authResults.insert event.eventId strategy })

/-- Mark a session invalid and forget it.  Destruction, death and a failed creation end here. -/
def removeSessionLocked (manager : AuthEventSubscribeManager) (session : Address) :
    AuthEventSubscribeManager :=
  if manager.sessions.contains session then
    { manager with
      sessionObjects := manager.sessionObjects.modify session (·.markInvalid)
      sessions := manager.sessions.erase session }
  else manager

/-- The valid sessions that subscribe an event, in the order of the set. -/
def getSubscribedSessions (manager : AuthEventSubscribeManager) (eventId : Int) :
    List Address :=
  manager.sessions.keys.filter fun session =>
    (manager.sessionObjects.get? session).any fun object =>
      object.valid && object.eventIds.contains eventId

/-- Increment the counter of a session. -/
def generateSeqnum (manager : AuthEventSubscribeManager) (session : Address) :
    AuthEventSubscribeManager :=
  { manager with
    sessionObjects := manager.sessionObjects.modify session (·.generateSeqnum) }

/-- Every object is still there, as a later version of itself. -/
def Carries (version : AuthEventSessionService → AuthEventSessionService → Prop)
    (before after : AuthEventSubscribeManager) : Prop :=
  ∀ session object, before.sessionObjects.get? session = some object →
    ∃ later, after.sessionObjects.get? session = some later ∧ version object later

/-- The changes that an object goes through lead to later versions. -/
structure Versions (version : AuthEventSessionService → AuthEventSessionService → Prop) :
    Prop where
  refl : ∀ object, version object object
  registered : ∀ object eventId serviceId, version object (object.registerEvent eventId serviceId)
  unregistered : ∀ object eventId, version object (object.unregisterEvent eventId)
  invalid : ∀ object, version object object.markInvalid
  generated : ∀ object, version object object.generateSeqnum

section Carries

variable {version : AuthEventSessionService → AuthEventSessionService → Prop}

theorem Versions.carries_refl (versions : Versions version)
    (manager : AuthEventSubscribeManager) : manager.Carries version manager :=
  fun _ object found => ⟨object, found, versions.refl object⟩

theorem Versions.carries_modify (versions : Versions version)
    {manager after : AuthEventSubscribeManager} {session : Address}
    {change : AuthEventSessionService → AuthEventSessionService}
    (heap : after.sessionObjects = manager.sessionObjects.modify session change)
    (later : ∀ object, version object (change object)) : manager.Carries version after := by
  intro other object found
  rw [heap, SortedMap.get?_modify]
  split_ifs with equal
  · subst equal
    exact ⟨change object, by simp [found], later object⟩
  · exact ⟨object, found, versions.refl object⟩

theorem Versions.creatAuthEventClient (versions : Versions version) {hash : String → Nat}
    {manager : AuthEventSubscribeManager} {params : CreateClientParams} {address : Address}
    {time : Nat} (fresh : manager.sessionObjects.get? address = none) :
    manager.Carries version (manager.creatAuthEventClient hash params address time).2 := by
  unfold AuthEventSubscribeManager.creatAuthEventClient
  split
  · exact versions.carries_refl manager
  · dsimp only
    split_ifs
    · exact versions.carries_refl manager
    · exact versions.carries_refl manager
    all_goals
      intro session object found
      refine ⟨object, ?_, versions.refl object⟩
      have other : session ≠ address := by
        rintro rfl
        simp [fresh] at found
      simp [other, found]

theorem Versions.subscribeAuthEvent (versions : Versions version)
    (manager : AuthEventSubscribeManager) (session : Address) (eventId : Int)
    (serviceId : String) :
    manager.Carries version (manager.subscribeAuthEvent session eventId serviceId).2 := by
  unfold AuthEventSubscribeManager.subscribeAuthEvent
  split
  · exact versions.carries_refl manager
  · split
    · exact versions.carries_refl manager
    · next object found =>
        split
        · exact versions.carries_refl manager
        · have heap :
              manager.sessionObjects.insert session (object.registerEvent eventId serviceId) =
                manager.sessionObjects.modify session (·.registerEvent eventId serviceId) := by
            simp [SortedMap.modify, found]
          exact versions.carries_modify heap fun object =>
            versions.registered object eventId serviceId

theorem Versions.unsubscribeAuthEvent (versions : Versions version)
    (manager : AuthEventSubscribeManager) (session : Address) (eventId : Int) :
    manager.Carries version (manager.unsubscribeAuthEvent session eventId).2 := by
  unfold AuthEventSubscribeManager.unsubscribeAuthEvent
  split
  · exact versions.carries_refl manager
  · exact versions.carries_modify rfl fun object => versions.unregistered object eventId

theorem Versions.setAuthResult (versions : Versions version)
    (manager : AuthEventSubscribeManager) (session : Address) (event : AuthEvent)
    (strategy : AuthStrategy) :
    manager.Carries version (manager.setAuthResult session event strategy).2 := by
  unfold AuthEventSubscribeManager.setAuthResult
  split_ifs <;> exact versions.carries_refl manager

theorem Versions.removeSessionLocked (versions : Versions version)
    (manager : AuthEventSubscribeManager) (session : Address) :
    manager.Carries version (manager.removeSessionLocked session) := by
  unfold AuthEventSubscribeManager.removeSessionLocked
  split
  · exact versions.carries_modify rfl versions.invalid
  · exact versions.carries_refl manager

theorem Versions.generateSeqnum (versions : Versions version)
    (manager : AuthEventSubscribeManager) (session : Address) :
    manager.Carries version (manager.generateSeqnum session) :=
  versions.carries_modify rfl versions.generated

end Carries

/-- Later objects are the earlier ones: none disappears and none becomes valid again or changes
its client identifier. -/
def Extends (before after : AuthEventSubscribeManager) : Prop :=
  ∀ session object, before.sessionObjects.get? session = some object →
    ∃ later, after.sessionObjects.get? session = some later ∧
      later.clientId = object.clientId ∧ (later.valid = true → object.valid = true)

/-- An object keeps its client and does not become valid again. -/
theorem fading : Versions fun object later =>
    later.clientId = object.clientId ∧ (later.valid = true → object.valid = true) where
  refl := fun _ => ⟨rfl, id⟩
  registered := fun _ _ _ => ⟨rfl, id⟩
  unregistered := fun _ _ => ⟨rfl, id⟩
  invalid := fun _ => ⟨rfl, fun valid => Bool.noConfusion valid⟩
  generated := fun _ => ⟨rfl, id⟩

theorem Extends.refl (manager : AuthEventSubscribeManager) : manager.Extends manager :=
  fading.carries_refl manager

theorem creatAuthEventClient_extends {hash : String → Nat} {manager : AuthEventSubscribeManager}
    {params : CreateClientParams} {address : Address} {time : Nat}
    (fresh : manager.sessionObjects.get? address = none) :
    manager.Extends (manager.creatAuthEventClient hash params address time).2 :=
  fading.creatAuthEventClient fresh

theorem subscribeAuthEvent_extends (manager : AuthEventSubscribeManager) (session : Address)
    (eventId : Int) (serviceId : String) :
    manager.Extends (manager.subscribeAuthEvent session eventId serviceId).2 :=
  fading.subscribeAuthEvent manager session eventId serviceId

theorem unsubscribeAuthEvent_extends (manager : AuthEventSubscribeManager) (session : Address)
    (eventId : Int) : manager.Extends (manager.unsubscribeAuthEvent session eventId).2 :=
  fading.unsubscribeAuthEvent manager session eventId

theorem setAuthResult_extends (manager : AuthEventSubscribeManager) (session : Address)
    (event : AuthEvent) (strategy : AuthStrategy) :
    manager.Extends (manager.setAuthResult session event strategy).2 :=
  fading.setAuthResult manager session event strategy

theorem removeSessionLocked_extends (manager : AuthEventSubscribeManager) (session : Address) :
    manager.Extends (manager.removeSessionLocked session) :=
  fading.removeSessionLocked manager session

theorem generateSeqnum_extends (manager : AuthEventSubscribeManager) (session : Address) :
    manager.Extends (manager.generateSeqnum session) :=
  fading.generateSeqnum manager session

theorem mem_getSubscribedSessions {manager : AuthEventSubscribeManager} {eventId : Int}
    {session : Address} (mem : session ∈ manager.getSubscribedSessions eventId) :
    ∃ object, manager.sessionObjects.get? session = some object := by
  obtain ⟨-, subscribed⟩ := List.mem_filter.mp mem
  obtain ⟨object, found, -⟩ := (Option.any_eq_true _ _).mp subscribed
  exact ⟨object, found⟩

end AuthEventSubscribeManager

end SecurityGuard
