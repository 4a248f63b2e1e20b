import SecurityGuard.Auth.Coordinator
import SecurityGuard.Foundation.Registry

/-!
# The creation of sessions

A client or provider session is entered in its set before the death recipient is added on its
callback, and removed again when that fails.  The call to the callback is made without a lock,
so other creations, destructions and deaths come between the two critical sections of a
creation.  The quotas, the distinct callbacks and the rollback hold over all of these runs.
-/

namespace SecurityGuard

/-- The name of a creation. -/
abbrev CreationId := Nat

/-- What a session is made for. -/
inductive SessionKind where
  | client
  | provider
  deriving DecidableEq, Repr

/-- What a creation returns when the object or the death recipient cannot be had. -/
def SessionKind.creationError : SessionKind → Code
  | .client => .failed
  | .provider => .authProviderInternalError

/-- A call of `CreatAuthEventClient` or `CreateAuthProvider`. -/
structure Creation where
  kind : SessionKind
  /-- The session that the call has entered. -/
  session : Option Address := none
  /-- What the call has returned. -/
  code : Option Code := none
  deriving DecidableEq, Repr

namespace AuthCoordinator

variable (coordinator : AuthCoordinator)

/-- The provider sessions of a process. -/
def providersOfPid (pid : Int) : List Address :=
  coordinator.providerSessions.keys.filter fun provider =>
    (coordinator.providerObjects.get? provider).any fun object => object.pid = pid

/-- Forget a provider without marking it invalid, as a failed creation does. -/
def removeProviderLocked (provider : Address) : AuthCoordinator :=
  { coordinator with providerSessions := coordinator.providerSessions.erase provider }

end AuthCoordinator

/-- The two managers with the calls that create sessions. -/
structure SessionSystem where
  coordinator : AuthCoordinator := {}
  creations : SortedMap CreationId Creation := .empty

/-- A call that makes, uses or gives up a session, or a death. -/
inductive SessionAction where
  | creatAuthEventClient (creation : CreationId) (params : CreateClientParams)
      (address : Address) (time : Nat) (allocated : Bool)
  | createAuthProvider (creation : CreationId) (caller : Caller) (callback : Option Address)
      (serviceId : String) (address : Address) (allocated : Bool)
  /-- The second part of a creation, with the answer of the callback object. -/
  | addDeathRecipient (creation : CreationId) (added : Bool)
  | subscribeAuthEvent (session : Address) (eventId : Int) (serviceId : String)
  | unsubscribeAuthEvent (session : Address) (eventId : Int)
  | destroyAuthEventClient (session : Address)
  | removeSession (session : Address)
  | destroyAuthProvider (provider : Address)
  | removeProvider (provider : Address)
  deriving DecidableEq, Repr

namespace SessionSystem

variable (hash : String → Nat) (system : SessionSystem)

/-- The set of the sessions of a kind. -/
def registered : SessionKind → SortedSet Address
  | .client => system.coordinator.manager.sessions
  | .provider => system.coordinator.providerSessions

/-- Whether an object was created at an address. -/
def known : SessionKind → Address → Bool
  | .client, address => system.coordinator.manager.sessionObjects.contains address
  | .provider, address => system.coordinator.providerObjects.contains address

def withManager (manager : AuthEventSubscribeManager) : SessionSystem :=
  { system with coordinator := system.coordinator.withManager manager }

def withCoordinator (coordinator : AuthCoordinator) : SessionSystem := { system with coordinator }

/-- Write down how far a creation is. -/
def record (id : CreationId) (creation : Creation) : SessionSystem :=
  { system with creations := system.creations.insert id creation }

/-- The first critical section of `CreatAuthEventClient`. -/
def enterClient (id : CreationId) (params : CreateClientParams) (address : Address) (time : Nat)
    (allocated : Bool) : SessionSystem :=
  let manager := system.coordinator.manager
  let entered := manager.creatAuthEventClient hash params address time
  if entered.1 ≠ .success then system.record id { kind := .client, code := some entered.1 }
  else if !allocated then system.record id { kind := .client, code := some .failed }
  else (system.withManager entered.2).record id { kind := .client, session := some address }

/-- The first critical section of `CreateAuthProvider`. -/
def enterProvider (id : CreationId) (caller : Caller) (callback : Option Address)
    (serviceId : String) (address : Address) (allocated : Bool) : SessionSystem :=
  let entered := system.coordinator.createAuthProvider caller callback serviceId address
  if entered.1 ≠ .success then system.record id { kind := .provider, code := some entered.1 }
  else if !allocated then
    system.record id { kind := .provider, code := some .authProviderInternalError }
  else (system.withCoordinator entered.2).record id { kind := .provider, session := some address }

/-- The rollback of a creation. -/
def rollback (address : Address) : SessionKind → SessionSystem
  | .client => system.withManager (system.coordinator.manager.removeSessionLocked address)
  | .provider => system.withCoordinator (system.coordinator.removeProviderLocked address)

/-- What follows the call of `AddDeathRecipient`. -/
def settle (id : CreationId) (kind : SessionKind) (address : Address) (added : Bool) :
    SessionSystem :=
  if added then system.record id { kind, session := some address, code := some .success }
  else
    (system.rollback address kind).record id
      { kind, session := some address, code := some kind.creationError }

/-- One critical section of a call. -/
def next : Transition SessionSystem SessionAction := fun system action =>
  let coordinator := system.coordinator
  let manager := coordinator.manager
  match action with
  | .creatAuthEventClient id params address time allocated =>
      if system.creations.contains id ∨ system.known .client address then none
      else some (system.enterClient hash id params address time allocated)
  | .createAuthProvider id caller callback serviceId address allocated =>
      if system.creations.contains id ∨ system.known .provider address then none
      else some (system.enterProvider id caller callback serviceId address allocated)
  | .addDeathRecipient id added =>
      match system.creations.get? id with
      | some { kind, session := some address, code := none } =>
          some (system.settle id kind address added)
      | _ => none
  | .subscribeAuthEvent session eventId serviceId =>
      some (system.withManager (manager.subscribeAuthEvent session eventId serviceId).2)
  | .unsubscribeAuthEvent session eventId =>
      some (system.withManager (manager.unsubscribeAuthEvent session eventId).2)
  | .destroyAuthEventClient session | .removeSession session =>
      some (system.withManager (manager.removeSessionLocked session))
  | .destroyAuthProvider provider =>
      some (system.withCoordinator (coordinator.destroyAuthProvider provider))
  | .removeProvider provider =>
      some (system.withCoordinator (coordinator.removeProvider provider))

end SessionSystem

namespace AuthEventSubscribeManager

variable {manager : AuthEventSubscribeManager}

/-- The client sessions keep the limits and have distinct callbacks. -/
def WithinQuota (manager : AuthEventSubscribeManager) : Prop :=
  Registry.Within AuthEventSessionService.pid AuthEventSessionService.callback
    maxAuthEventClientSize maxAuthEventClientSizeOneProcess manager.sessionObjects
    manager.sessions

theorem checkQuotaLocked_eq_success {callerPid : Int}
    (passed : manager.checkQuotaLocked callerPid = .success) :
    manager.sessions.size < maxAuthEventClientSize ∧
      (manager.sessionsOfPid callerPid).length < maxAuthEventClientSizeOneProcess := by
  rw [checkQuotaLocked] at passed
  split_ifs at passed with full ownFull
  · exact absurd passed (show Code.clientExceedGlobalLimit ≠ .success by decide)
  · exact absurd passed (show Code.clientExceedProcessLimit ≠ .success by decide)
  · exact ⟨Nat.lt_of_not_le full, Nat.lt_of_not_le ownFull⟩

/-- A creation that succeeds has entered a session of its caller at the given address. -/
theorem creatAuthEventClient_success {hash : String → Nat} {params : CreateClientParams}
    {address : Address} {time : Nat}
    (passed : (manager.creatAuthEventClient hash params address time).1 = .success) :
    ∃ session : AuthEventSessionService, session.pid = params.callerPid ∧
      session.valid = true ∧ session.eventIds = .empty ∧
      (manager.checkQuotaLocked params.callerPid = .success ∧
        manager.callbackHasSession session.callback = false) ∧
      (manager.creatAuthEventClient hash params address time).2 =
        { manager with
          sessionObjects := manager.sessionObjects.insert address session
          sessions := manager.sessions.insert address () } := by
  revert passed
  rw [creatAuthEventClient]
  cases params.callback with
  | none => exact fun passed => absurd passed (show Code.nullObject ≠ .success by decide)
  | some callback =>
      dsimp only
      split_ifs with refused taken
      · exact fun passed => absurd passed refused
      · exact fun passed => absurd passed (show Code.badParam ≠ .success by decide)
      · exact fun _ => ⟨_, rfl, rfl, rfl, ⟨not_not.mp refused, by simpa using taken⟩, rfl⟩
      · exact fun _ => ⟨_, rfl, rfl, rfl, ⟨not_not.mp refused, by simpa using taken⟩, rfl⟩

theorem WithinQuota.creatAuthEventClient (within : manager.WithinQuota) {hash : String → Nat}
    {params : CreateClientParams} {address : Address} {time : Nat}
    (fresh : manager.sessionObjects.get? address = none)
    (passed : (manager.creatAuthEventClient hash params address time).1 = .success) :
    (manager.creatAuthEventClient hash params address time).2.WithinQuota := by
  obtain ⟨session, owner, -, -, ⟨quota, unused⟩, entered⟩ := creatAuthEventClient_success passed
  obtain ⟨room, ownRoom⟩ := checkQuotaLocked_eq_success quota
  rw [entered]
  refine Registry.Within.insert within fresh room (owner ▸ ownRoom) ?_
  intro other object registered found same
  have taken : manager.callbackHasSession session.callback = true :=
    List.any_eq_true.mpr ⟨other, SortedMap.mem_keys_iff.mpr registered, by simp [found, same]⟩
  exact Bool.false_ne_true (unused.symm.trans taken)

theorem WithinQuota.subscribeAuthEvent (within : manager.WithinQuota) (session : Address)
    (eventId : Int) (serviceId : String) :
    (manager.subscribeAuthEvent session eventId serviceId).2.WithinQuota := by
  rw [AuthEventSubscribeManager.subscribeAuthEvent]
  split
  · exact within
  · split
    · exact within
    · next object found =>
        split
        · exact within
        · have heap :
              manager.sessionObjects.insert session (object.registerEvent eventId serviceId) =
                manager.sessionObjects.modify session (·.registerEvent eventId serviceId) := by
            simp [SortedMap.modify, found]
          dsimp only
          rw [WithinQuota, heap]
          exact Registry.Within.modify within session _ (fun _ => rfl) fun _ => rfl

theorem WithinQuota.unsubscribeAuthEvent (within : manager.WithinQuota) (session : Address)
    (eventId : Int) : (manager.unsubscribeAuthEvent session eventId).2.WithinQuota := by
  rw [AuthEventSubscribeManager.unsubscribeAuthEvent]
  split
  · exact within
  · exact Registry.Within.modify within session _ (fun _ => rfl) fun _ => rfl

theorem WithinQuota.removeSessionLocked (within : manager.WithinQuota) (session : Address) :
    (manager.removeSessionLocked session).WithinQuota := by
  rw [AuthEventSubscribeManager.removeSessionLocked]
  split
  · exact (Registry.Within.modify within session (·.markInvalid) (fun _ => rfl)
      fun _ => rfl).erase session
  · exact within

end AuthEventSubscribeManager

namespace AuthCoordinator

variable {coordinator : AuthCoordinator}

/-- The provider sessions keep the limits and have distinct callbacks. -/
def WithinQuota (coordinator : AuthCoordinator) : Prop :=
  Registry.Within AuthProviderSessionService.pid AuthProviderSessionService.callback
    maxAuthProviderSize maxAuthProviderSizeOneProcess coordinator.providerObjects
    coordinator.providerSessions

theorem checkProviderQuotaLocked_eq_success {callerPid : Int}
    (passed : coordinator.checkProviderQuotaLocked callerPid = .success) :
    coordinator.providerSessions.size < maxAuthProviderSize ∧
      (coordinator.providersOfPid callerPid).length < maxAuthProviderSizeOneProcess := by
  rw [checkProviderQuotaLocked] at passed
  dsimp only at passed
  split_ifs at passed with full ownFull
  · exact absurd passed (show Code.authProviderExceedGlobalLimit ≠ .success by decide)
  · exact absurd passed (show Code.authProviderExceedProcessLimit ≠ .success by decide)
  · exact ⟨Nat.lt_of_not_le full, Nat.lt_of_not_le ownFull⟩

/-- A creation that succeeds has entered a provider of its caller at the given address. -/
theorem createAuthProvider_success {caller : Caller} {callback : Option Address}
    {serviceId : String} {address : Address}
    (passed : (coordinator.createAuthProvider caller callback serviceId address).1 =
      .success) :
    ∃ provider : AuthProviderSessionService, provider.pid = caller.pid ∧
      provider.valid = true ∧
      (coordinator.checkProviderQuotaLocked caller.pid = .success ∧
        ∀ other ∈ coordinator.providerSessions.keys, ∀ object,
          coordinator.providerObjects.get? other = some object →
            object.callback ≠ provider.callback) ∧
      (coordinator.createAuthProvider caller callback serviceId address).2 =
        { coordinator with
          providerObjects := coordinator.providerObjects.insert address provider
          providerSessions := coordinator.providerSessions.insert address () } := by
  revert passed
  cases callback with
  | none => exact fun passed => absurd passed (show Code.badParam ≠ .success by decide)
  | some callback =>
      rw [createAuthProvider]
      dsimp only
      split_ifs with refused taken
      · exact fun passed => absurd passed refused
      · exact fun passed => absurd passed (show Code.badParam ≠ .success by decide)
      · refine fun _ => ⟨_, rfl, rfl, ⟨not_not.mp refused, ?_⟩, rfl⟩
        intro other mem object found same
        exact taken (List.any_eq_true.mpr ⟨other, mem, by simp [found, same]⟩)

theorem WithinQuota.createAuthProvider (within : coordinator.WithinQuota) {caller : Caller}
    {callback : Option Address} {serviceId : String} {address : Address}
    (fresh : coordinator.providerObjects.get? address = none)
    (passed : (coordinator.createAuthProvider caller callback serviceId address).1 =
      .success) :
    (coordinator.createAuthProvider caller callback serviceId address).2.WithinQuota := by
  obtain ⟨provider, owner, -, ⟨quota, unused⟩, entered⟩ := createAuthProvider_success passed
  obtain ⟨room, ownRoom⟩ := checkProviderQuotaLocked_eq_success quota
  rw [entered]
  exact Registry.Within.insert within fresh room (owner ▸ ownRoom) fun other object registered =>
    unused other (SortedMap.mem_keys_iff.mpr registered) object

theorem WithinQuota.removeProviderLocked (within : coordinator.WithinQuota)
    (provider : Address) : (coordinator.removeProviderLocked provider).WithinQuota :=
  Registry.Within.erase within provider

theorem WithinQuota.removeProvider (within : coordinator.WithinQuota) (provider : Address) :
    (coordinator.removeProvider provider).WithinQuota :=
  (Registry.Within.modify within provider (fun object => { object with valid := false })
    (fun _ => rfl) fun _ => rfl).erase provider

theorem WithinQuota.destroyAuthProvider (within : coordinator.WithinQuota)
    (provider : Address) : (coordinator.destroyAuthProvider provider).WithinQuota := by
  rw [AuthCoordinator.destroyAuthProvider]
  split
  · exact within.removeProvider provider
  · exact within

end AuthCoordinator

/-! ## Sessions and their creations -/

namespace SessionSystem

variable {hash : String → Nat} {system : SessionSystem}

/-- Every session has one creation, and none that returned an error is registered. -/
structure Accounted (system : SessionSystem) : Prop where
  entered : ∀ id creation address, system.creations.get? id = some creation →
    creation.session = some address → system.known creation.kind address = true
  once : ∀ id other creation creation' address, system.creations.get? id = some creation →
    system.creations.get? other = some creation' → creation.kind = creation'.kind →
    creation.session = some address → creation'.session = some address → id = other
  origin : ∀ kind address, (system.registered kind).contains address = true →
    ∃ id creation, system.creations.get? id = some creation ∧ creation.kind = kind ∧
      creation.session = some address
  settled : ∀ id creation code address, system.creations.get? id = some creation →
    creation.code = some code → code ≠ .success → creation.session = some address →
    (system.registered creation.kind).contains address = false

/-- No session is entered, and no object disappears. -/
structure Shrinks (before after : SessionSystem) : Prop where
  creations : after.creations = before.creations
  known : ∀ kind address, before.known kind address = true → after.known kind address = true
  registered : ∀ kind address, (after.registered kind).contains address = true →
    (before.registered kind).contains address = true

theorem Accounted.shrinks {before after : SessionSystem} (accounted : before.Accounted)
    (shrinks : before.Shrinks after) : after.Accounted := by
  constructor
  · intro id creation address found session
    exact shrinks.known _ _ (accounted.entered id creation address (shrinks.creations ▸ found)
      session)
  · rw [shrinks.creations]
    exact accounted.once
  · rw [shrinks.creations]
    exact fun kind address found =>
      accounted.origin kind address (shrinks.registered kind address found)
  · intro id creation code address found returned failed session
    have absent := accounted.settled id creation code address (shrinks.creations ▸ found)
      returned failed session
    rw [Bool.eq_false_iff] at absent ⊢
    exact fun still => absent (shrinks.registered _ _ still)

/-- A creation that is refused enters nothing. -/
theorem Accounted.refuse (accounted : system.Accounted) {id : CreationId} {kind : SessionKind}
    {code : Code} (fresh : system.creations.get? id = none) :
    (system.record id { kind, code := some code }).Accounted := by
  have earlier {other : CreationId} {creation : Creation} {address : Address}
      (found : (system.record id { kind, code := some code }).creations.get? other =
        some creation) (session : creation.session = some address) :
      system.creations.get? other = some creation := by
    rcases SortedMap.get?_insert_eq_some.mp found with ⟨_, rfl⟩ | ⟨_, found⟩
    · exact absurd session (by simp)
    · exact found
  constructor
  · intro other creation address found session
    exact accounted.entered other creation address (earlier found session) session
  · intro first second creation creation' address found found' same session session'
    exact accounted.once first second creation creation' address (earlier found session)
      (earlier found' session') same session session'
  · intro kind' address registered
    obtain ⟨other, creation, found, ofKind, session⟩ := accounted.origin kind' address registered
    refine ⟨other, creation, ?_, ofKind, session⟩
    have different : other ≠ id := by
      rintro rfl
      exact absurd (fresh.symm.trans found) (by simp)
    rw [record, SortedMap.get?_insert, if_neg different]
    exact found
  · intro other creation code' address found returned failed session
    exact accounted.settled other creation code' address (earlier found session) returned failed
      session

/-- A creation enters a session at an unused address. -/
theorem Accounted.enter {after : SessionSystem} (accounted : system.Accounted)
    {id : CreationId} {kind : SessionKind} {address : Address}
    (fresh : system.creations.get? id = none) (unused : system.known kind address = false)
    (creations : after.creations =
      system.creations.insert id { kind, session := some address })
    (known : ∀ kind' other, after.known kind' other = true ↔
      (kind' = kind ∧ other = address) ∨ system.known kind' other = true)
    (registered : ∀ kind' other, (after.registered kind').contains other = true ↔
      (kind' = kind ∧ other = address) ∨ (system.registered kind').contains other = true) :
    after.Accounted := by
  have cases {other : CreationId} {creation : Creation}
      (found : after.creations.get? other = some creation) :
      (other = id ∧ creation = { kind, session := some address }) ∨
        (other ≠ id ∧ system.creations.get? other = some creation) := by
    rw [creations] at found
    rcases SortedMap.get?_insert_eq_some.mp found with ⟨same, rfl⟩ | other
    · exact .inl ⟨same, rfl⟩
    · exact .inr other
  have apart {other : CreationId} {creation : Creation}
      (found : system.creations.get? other = some creation)
      (session : creation.session = some address) : creation.kind ≠ kind := by
    rintro rfl
    exact Bool.false_ne_true (unused.symm.trans
      (accounted.entered other creation address found session))
  constructor
  · intro other creation address' found session
    rcases cases found with ⟨-, rfl⟩ | ⟨-, found⟩
    · exact (known _ _).mpr (.inl ⟨rfl, (Option.some.inj session).symm⟩)
    · exact (known _ _).mpr (.inr (accounted.entered other creation address' found session))
  · intro first second creation creation' address' found found' same session session'
    rcases cases found with ⟨rfl, rfl⟩ | ⟨-, found⟩ <;>
      rcases cases found' with ⟨rfl, rfl⟩ | ⟨-, found'⟩
    · rfl
    · obtain rfl := Option.some.inj session
      exact absurd same.symm (apart found' session')
    · obtain rfl := Option.some.inj session'
      exact absurd same (apart found session)
    · exact accounted.once first second creation creation' address' found found' same session
        session'
  · intro kind' other entered
    rcases (registered kind' other).mp entered with ⟨rfl, rfl⟩ | entered
    · exact ⟨id, { kind := kind', session := some other },
        by rw [creations, SortedMap.get?_insert_self], rfl, rfl⟩
    · obtain ⟨earlier, creation, found, ofKind, session⟩ := accounted.origin kind' other entered
      refine ⟨earlier, creation, ?_, ofKind, session⟩
      have different : earlier ≠ id := by
        rintro rfl
        exact absurd (fresh.symm.trans found) (by simp)
      rw [creations, SortedMap.get?_insert, if_neg different]
      exact found
  · intro other creation code address' found returned failed session
    rcases cases found with ⟨-, rfl⟩ | ⟨-, found⟩
    · exact absurd returned (by simp)
    · have absent := accounted.settled other creation code address' found returned failed session
      rw [Bool.eq_false_iff] at absent ⊢
      intro entered
      rcases (registered _ _).mp entered with ⟨ofKind, rfl⟩ | entered
      · exact apart found session ofKind
      · exact absent entered

/-- A creation in flight returns; with an error its session is no longer registered. -/
theorem Accounted.return {before after : SessionSystem} (accounted : before.Accounted)
    {id : CreationId} {kind : SessionKind} {address : Address} {code : Code}
    (flight : before.creations.get? id = some { kind, session := some address })
    (creations : after.creations =
      before.creations.insert id { kind, session := some address, code := some code })
    (known : ∀ kind' other, before.known kind' other = true → after.known kind' other = true)
    (registered : ∀ kind' other, (after.registered kind').contains other = true →
      (before.registered kind').contains other = true)
    (rolledBack : code ≠ .success → (after.registered kind).contains address = false) :
    after.Accounted := by
  have cases {other : CreationId} {creation : Creation}
      (found : after.creations.get? other = some creation) :
      ∃ earlier, before.creations.get? other = some earlier ∧
        earlier.kind = creation.kind ∧ earlier.session = creation.session ∧
        (creation = earlier ∨
          creation = { kind, session := some address, code := some code }) := by
    rw [creations] at found
    rcases SortedMap.get?_insert_eq_some.mp found with ⟨same, rfl⟩ | ⟨_, found⟩
    · exact ⟨{ kind, session := some address }, same ▸ flight, rfl, rfl, .inr rfl⟩
    · exact ⟨creation, found, rfl, rfl, .inl rfl⟩
  constructor
  · intro other creation address' found session
    obtain ⟨earlier, found, ofKind, ofSession, -⟩ := cases found
    exact known _ _ (ofKind ▸ accounted.entered other earlier address' found
      (ofSession.trans session))
  · intro first second creation creation' address' found found' same session session'
    obtain ⟨earlier, found, ofKind, ofSession, -⟩ := cases found
    obtain ⟨earlier', found', ofKind', ofSession', -⟩ := cases found'
    exact accounted.once first second earlier earlier' address' found found'
      (ofKind.trans (same.trans ofKind'.symm)) (ofSession.trans session)
      (ofSession'.trans session')
  · intro kind' other entered
    obtain ⟨earlier, creation, found, ofKind, session⟩ :=
      accounted.origin kind' other (registered kind' other entered)
    rw [creations]
    by_cases same : earlier = id
    · subst same
      obtain rfl := Option.some.inj (flight.symm.trans found)
      exact ⟨earlier, _, SortedMap.get?_insert_self _ _ _, ofKind, session⟩
    · exact ⟨earlier, creation, by rw [SortedMap.get?_insert, if_neg same, found], ofKind,
        session⟩
  · intro other creation code' address' found returned failed session
    obtain ⟨earlier, found, -, -, rfl | rfl⟩ := cases found
    · have absent := accounted.settled other creation code' address' found returned failed session
      rw [Bool.eq_false_iff] at absent ⊢
      exact fun still => absent (registered _ _ still)
    · obtain rfl := Option.some.inj returned
      obtain rfl := Option.some.inj session
      exact rolledBack failed

theorem shrinks_withManager {manager : AuthEventSubscribeManager}
    (known : ∀ address, system.coordinator.manager.sessionObjects.contains address = true →
      manager.sessionObjects.contains address = true)
    (sessions : ∀ address, manager.sessions.contains address = true →
      system.coordinator.manager.sessions.contains address = true) :
    system.Shrinks (system.withManager manager) where
  creations := rfl
  known := fun kind address => by cases kind with
    | client => exact known address
    | provider => exact fun found => found
  registered := fun kind address => by cases kind with
    | client => exact sessions address
    | provider => exact fun found => found

theorem shrinks_withCoordinator {coordinator : AuthCoordinator}
    (manager : coordinator.manager = system.coordinator.manager)
    (known : ∀ address, system.coordinator.providerObjects.contains address = true →
      coordinator.providerObjects.contains address = true)
    (sessions : ∀ address, coordinator.providerSessions.contains address = true →
      system.coordinator.providerSessions.contains address = true) :
    system.Shrinks (system.withCoordinator coordinator) where
  creations := rfl
  known := fun kind address => by cases kind with
    | client =>
        intro found
        rw [SessionSystem.known, withCoordinator, manager]
        exact found
    | provider => exact known address
  registered := fun kind address => by cases kind with
    | client =>
        rw [SessionSystem.registered, withCoordinator, manager]
        exact fun found => found
    | provider => exact sessions address

theorem shrinks_removeSessionLocked (session : Address) :
    system.Shrinks
      (system.withManager (system.coordinator.manager.removeSessionLocked session)) := by
  rw [AuthEventSubscribeManager.removeSessionLocked]
  split
  · refine shrinks_withManager (fun address found => ?_) fun address found => ?_
    · rwa [SortedMap.contains_modify]
    · rw [SortedMap.contains_erase, Bool.and_eq_true] at found
      exact found.2
  · exact shrinks_withManager (fun _ found => found) fun _ found => found

theorem shrinks_removeProvider (provider : Address) :
    system.Shrinks (system.withCoordinator (system.coordinator.removeProvider provider)) := by
  refine shrinks_withCoordinator rfl (fun address found => ?_) fun address found => ?_
  · rwa [AuthCoordinator.removeProvider, SortedMap.contains_modify]
  · rw [AuthCoordinator.removeProvider, SortedMap.contains_erase, Bool.and_eq_true] at found
    exact found.2

theorem shrinks_rollback (address : Address) (kind : SessionKind) :
    system.Shrinks (system.rollback address kind) := by
  cases kind with
  | client => exact shrinks_removeSessionLocked address
  | provider =>
      refine shrinks_withCoordinator rfl (fun _ found => found) fun other found => ?_
      rw [AuthCoordinator.removeProviderLocked, SortedMap.contains_erase, Bool.and_eq_true]
        at found
      exact found.2

theorem rollback_registered (address : Address) (kind : SessionKind) :
    ((system.rollback address kind).registered kind).contains address = false := by
  cases kind with
  | client =>
      rw [rollback, registered, withManager, AuthCoordinator.withManager,
        AuthEventSubscribeManager.removeSessionLocked]
      split
      · simp
      · next absent => exact Bool.eq_false_iff.mpr absent
  | provider =>
      rw [rollback, registered, withCoordinator, AuthCoordinator.removeProviderLocked]
      simp

/-- The quotas hold and every session is accounted for. -/
structure Sound (system : SessionSystem) : Prop where
  clients : system.coordinator.manager.WithinQuota
  providers : system.coordinator.WithinQuota
  accounted : system.Accounted

theorem sound_initial : ({} : SessionSystem).Sound where
  clients := Registry.Within.empty _
  providers := Registry.Within.empty _
  accounted :=
    { entered := fun _ _ _ found => absurd found (by simp)
      once := fun _ _ _ _ _ found => absurd found (by simp)
      origin := fun kind _ found => by cases kind <;> exact absurd found (by simp [registered])
      settled := fun _ _ _ _ found => absurd found (by simp) }

theorem Sound.enterClient (sound : system.Sound) {id : CreationId}
    {params : CreateClientParams} {address : Address} {time : Nat} {allocated : Bool}
    (fresh : system.creations.get? id = none) (unused : system.known .client address = false) :
    (system.enterClient hash id params address time allocated).Sound := by
  rw [SessionSystem.enterClient]
  split_ifs with refused failed
  · exact ⟨sound.clients, sound.providers, sound.accounted.refuse fresh⟩
  · exact ⟨sound.clients, sound.providers, sound.accounted.refuse fresh⟩
  · have passed := not_not.mp refused
    have absent : system.coordinator.manager.sessionObjects.get? address = none := by
      simpa [SessionSystem.known, SortedMap.contains] using unused
    obtain ⟨session, -, -, -, -, entered⟩ :=
      AuthEventSubscribeManager.creatAuthEventClient_success passed
    refine ⟨sound.clients.creatAuthEventClient absent passed, sound.providers, ?_⟩
    refine sound.accounted.enter fresh unused rfl (fun kind other => ?_) fun kind other => ?_
    · cases kind with
      | client =>
          simp [record, withManager, AuthCoordinator.withManager, SessionSystem.known, entered]
      | provider => simp [record, withManager, AuthCoordinator.withManager, SessionSystem.known]
    · cases kind with
      | client => simp [record, withManager, AuthCoordinator.withManager, registered, entered]
      | provider => simp [record, withManager, AuthCoordinator.withManager, registered]

theorem Sound.enterProvider (sound : system.Sound) {id : CreationId} {caller : Caller}
    {callback : Option Address} {serviceId : String} {address : Address} {allocated : Bool}
    (fresh : system.creations.get? id = none) (unused : system.known .provider address = false) :
    (system.enterProvider id caller callback serviceId address allocated).Sound := by
  rw [SessionSystem.enterProvider]
  split_ifs with refused failed
  · exact ⟨sound.clients, sound.providers, sound.accounted.refuse fresh⟩
  · exact ⟨sound.clients, sound.providers, sound.accounted.refuse fresh⟩
  · have passed := not_not.mp refused
    have absent : system.coordinator.providerObjects.get? address = none := by
      simpa [SessionSystem.known, SortedMap.contains] using unused
    obtain ⟨provider, -, -, -, entered⟩ := AuthCoordinator.createAuthProvider_success passed
    refine ⟨?_, sound.providers.createAuthProvider absent passed, ?_⟩
    · rw [record, withCoordinator, entered]
      exact sound.clients
    · refine sound.accounted.enter fresh unused rfl (fun kind other => ?_) fun kind other => ?_
      · cases kind <;> simp [record, withCoordinator, SessionSystem.known, entered]
      · cases kind <;> simp [record, withCoordinator, registered, entered]

theorem Sound.rollback (sound : system.Sound) (address : Address) (kind : SessionKind) :
    (system.rollback address kind).coordinator.manager.WithinQuota ∧
      (system.rollback address kind).coordinator.WithinQuota := by
  cases kind with
  | client => exact ⟨sound.clients.removeSessionLocked address, sound.providers⟩
  | provider => exact ⟨sound.clients, sound.providers.removeProviderLocked address⟩

theorem Sound.settle (sound : system.Sound) {id : CreationId} {kind : SessionKind}
    {address : Address} {added : Bool}
    (flight : system.creations.get? id = some { kind, session := some address }) :
    (system.settle id kind address added).Sound := by
  cases added with
  | true =>
      refine ⟨sound.clients, sound.providers, ?_⟩
      exact sound.accounted.return flight rfl (fun _ _ found => found) (fun _ _ found => found)
        fun failed => absurd rfl failed
  | false =>
      obtain ⟨clients, providers⟩ := sound.rollback address kind
      have shrinks := system.shrinks_rollback address kind
      have creations : (system.settle id kind address false).creations =
          system.creations.insert id
            { kind, session := some address, code := some kind.creationError } := by
        rw [SessionSystem.settle, if_neg Bool.false_ne_true, record, shrinks.creations]
      exact ⟨clients, providers, sound.accounted.return flight creations shrinks.known
        shrinks.registered fun _ => rollback_registered address kind⟩

theorem subscribeAuthEvent_shrinks (session : Address) (eventId : Int) (serviceId : String) :
    system.Shrinks (system.withManager
      (system.coordinator.manager.subscribeAuthEvent session eventId serviceId).2) := by
  rw [AuthEventSubscribeManager.subscribeAuthEvent]
  split
  · exact shrinks_withManager (fun _ found => found) fun _ found => found
  · split
    · exact shrinks_withManager (fun _ found => found) fun _ found => found
    · split
      · exact shrinks_withManager (fun _ found => found) fun _ found => found
      · exact shrinks_withManager (fun _ found => by simp [found]) fun _ found => found

theorem unsubscribeAuthEvent_shrinks (session : Address) (eventId : Int) :
    system.Shrinks (system.withManager
      (system.coordinator.manager.unsubscribeAuthEvent session eventId).2) := by
  rw [AuthEventSubscribeManager.unsubscribeAuthEvent]
  split
  · exact shrinks_withManager (fun _ found => found) fun _ found => found
  · exact shrinks_withManager (fun _ found => by rwa [SortedMap.contains_modify])
      fun _ found => found

/-- Every critical section keeps the quotas and the accounts. -/
theorem Sound.step {action : SessionAction} {after : SessionSystem} (sound : system.Sound)
    (taken : next hash system action = some after) : after.Sound := by
  cases action with
  | creatAuthEventClient id params address time allocated =>
      simp only [next] at taken
      split_ifs at taken with used
      obtain rfl := Option.some.inj taken
      obtain ⟨unrecorded, unused⟩ := not_or.mp used
      exact sound.enterClient (by simpa [SortedMap.contains] using unrecorded)
        (Bool.eq_false_iff.mpr unused)
  | createAuthProvider id caller callback serviceId address allocated =>
      simp only [next] at taken
      split_ifs at taken with used
      obtain rfl := Option.some.inj taken
      obtain ⟨unrecorded, unused⟩ := not_or.mp used
      exact sound.enterProvider (by simpa [SortedMap.contains] using unrecorded)
        (Bool.eq_false_iff.mpr unused)
  | addDeathRecipient id added =>
      simp only [next] at taken
      split at taken
      · next kind address flight =>
          obtain rfl := Option.some.inj taken
          exact sound.settle flight
      · exact absurd taken (by simp)
  | subscribeAuthEvent session eventId serviceId =>
      obtain rfl := Option.some.inj taken
      exact ⟨sound.clients.subscribeAuthEvent session eventId serviceId, sound.providers,
        sound.accounted.shrinks (subscribeAuthEvent_shrinks session eventId serviceId)⟩
  | unsubscribeAuthEvent session eventId =>
      obtain rfl := Option.some.inj taken
      exact ⟨sound.clients.unsubscribeAuthEvent session eventId, sound.providers,
        sound.accounted.shrinks (unsubscribeAuthEvent_shrinks session eventId)⟩
  | destroyAuthEventClient session | removeSession session =>
      obtain rfl := Option.some.inj taken
      exact ⟨sound.clients.removeSessionLocked session, sound.providers,
        sound.accounted.shrinks (shrinks_removeSessionLocked session)⟩
  | destroyAuthProvider provider =>
      obtain rfl := Option.some.inj taken
      refine ⟨?_, sound.providers.destroyAuthProvider provider, ?_⟩
      all_goals rw [AuthCoordinator.destroyAuthProvider]; split
      · exact sound.clients
      · exact sound.clients
      · exact sound.accounted.shrinks (shrinks_removeProvider provider)
      · exact sound.accounted
  | removeProvider provider =>
      obtain rfl := Option.some.inj taken
      exact ⟨sound.clients, sound.providers.removeProvider provider,
        sound.accounted.shrinks (shrinks_removeProvider provider)⟩

/-- In every reachable state both kinds of sessions are within their quotas and have distinct
callbacks, every session belongs to a creation that is in flight or has succeeded, and a
creation that has returned an error has left no session. -/
theorem sessions_are_within_quotas (hash : String → Nat) {actions : List SessionAction}
    {final : SessionSystem} (reach : Transition.run (next hash) {} actions = some final) :
    Registry.Within AuthProviderSessionService.pid AuthProviderSessionService.callback 16 1
        final.coordinator.providerObjects final.coordinator.providerSessions ∧
      Registry.Within AuthEventSessionService.pid AuthEventSessionService.callback 16 2
        final.coordinator.manager.sessionObjects final.coordinator.manager.sessions ∧
      (∀ kind address, (final.registered kind).contains address = true →
        ∃ id creation, final.creations.get? id = some creation ∧ creation.kind = kind ∧
          creation.session = some address ∧
          (creation.code = none ∨ creation.code = some .success)) ∧
      (∀ id creation code, final.creations.get? id = some creation →
        creation.code = some code → code ≠ .success → ∀ address,
          creation.session = some address →
            (final.registered creation.kind).contains address = false) := by
  have sound : final.Sound :=
    Transition.run_stable (fun sound taken => Sound.step sound taken) sound_initial reach
  refine ⟨sound.providers, sound.clients, ?_, ?_⟩
  · intro kind address entered
    obtain ⟨id, creation, found, rfl, session⟩ := sound.accounted.origin kind address entered
    refine ⟨id, creation, found, rfl, session, ?_⟩
    cases returned : creation.code with
    | none => exact .inl rfl
    | some code =>
        by_cases passed : code = .success
        · exact .inr (congrArg some passed)
        · have absent := sound.accounted.settled id creation code address found returned passed
            session
          exact absurd (absent.symm.trans entered) Bool.false_ne_true
  · exact fun id creation code found returned failed address =>
      sound.accounted.settled id creation code address found returned failed

/-- A client dies while its process enters a provider, whose callback refuses the recipient. -/
def failedCreation : List SessionAction :=
  [.creatAuthEventClient 0 ⟨10, 1000, 1, 300, some 100⟩ 1 7 true, .addDeathRecipient 0 true,
    .createAuthProvider 1 ⟨10, 1000, .native, [], true⟩ (some 200) "service" 50 true,
    .removeSession 1, .addDeathRecipient 1 false]

/-- The provider of `failedCreation` is not registered after its creation has failed. -/
theorem sessions_are_within_quotas_failedCreation :
    ∃ final creation, Transition.run (next String.length) {} failedCreation = some final ∧
      final.creations.get? 1 = some creation ∧ creation.session = some 50 ∧
        creation.code = some .authProviderInternalError ∧
          (final.registered creation.kind).contains 50 = false := by
  have evaluated : (Transition.run (next String.length) {} failedCreation).any (fun final =>
      (final.creations.get? 1).any fun creation =>
        creation.session = some 50 ∧ creation.code = some .authProviderInternalError) = true := by
    decide +kernel
  obtain ⟨final, reach, found⟩ := (Option.any_eq_true _ _).mp evaluated
  obtain ⟨creation, foundCreation, found⟩ := (Option.any_eq_true _ _).mp found
  obtain ⟨session, returned⟩ := of_decide_eq_true found
  exact ⟨final, creation, reach, foundCreation, session, returned,
    (sessions_are_within_quotas String.length reach).2.2.2 1 creation _ foundCreation returned
      (by decide) 50 session⟩

end SessionSystem

end SecurityGuard
