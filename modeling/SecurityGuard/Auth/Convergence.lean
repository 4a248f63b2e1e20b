import SecurityGuard.Auth.ClientStatus

/-!
# Convergence of the client lists

A list is fresh when its collection began after the last change of the clients: it will be, or
is, the list that an undisturbed collection gives.  Each registered provider either is about to
be served by a task or has a fresh list as its last one, as long as the lists are sent in order.
When everything has finished only the second is left.
-/

namespace SecurityGuard

namespace AuthEventSubscribeManager

variable {manager after : AuthEventSubscribeManager}

/-- Two managers that no list tells apart. -/
structure SameView (manager after : AuthEventSubscribeManager) : Prop where
  infos : after.clientInfoAt = manager.clientInfoAt
  lists : after.collectClientInfos = manager.collectClientInfos

theorem SameView.refl (manager : AuthEventSubscribeManager) : manager.SameView manager :=
  ⟨rfl, rfl⟩

/-- What a registered session adds to the list of a service. -/
def listed (manager : AuthEventSubscribeManager) (serviceId : String) (session : Address) :
    Option AuthClientInfo :=
  if (manager.sessionObjects.get? session).any fun object => object.valid then
    manager.clientInfoAt serviceId session
  else none

theorem collectClientInfos_eq (manager : AuthEventSubscribeManager) (serviceId : String) :
    manager.collectClientInfos serviceId =
      manager.sessions.keys.filterMap (manager.listed serviceId) := by
  rw [collectClientInfos, getAllSessions, List.filterMap_filter]
  rfl

theorem filterMap_keys_erase {β : Type*} {registered : SortedSet Address} {session : Address}
    {show? : Address → Option β} (nothing : show? session = none) :
    (registered.erase session).keys.filterMap show? = registered.keys.filterMap show? := by
  have keys : (registered.erase session).keys =
      registered.keys.filter fun key => key ≠ session := by
    rw [SortedMap.keys, SortedMap.erase, SortedMap.keys, List.filter_map]
    rfl
  rw [keys, List.filterMap_filter]
  apply List.filterMap_congr
  intro key _
  by_cases same : key = session
  · simp [same, nothing]
  · simp [same]

theorem clientInfoAt_of_silent {session : Address}
    (silent : ∀ object, manager.sessionObjects.get? session = some object →
      object.eventIds = .empty) (serviceId : String) :
    manager.clientInfoAt serviceId session = none := by
  rw [clientInfoAt]
  cases found : manager.sessionObjects.get? session with
  | none => rfl
  | some object =>
      exact AuthEventSessionService.clientInfo?_of_empty (silent object found) serviceId

/-- Replacing a session without events by one without events changes no list, whether or not it
is entered or taken off. -/
theorem SameView.of_silent {session : Address} (object : AuthEventSessionService)
    (before : ∀ object, manager.sessionObjects.get? session = some object →
      object.eventIds = .empty)
    (silent : object.eventIds = .empty)
    (objects : after.sessionObjects = manager.sessionObjects.insert session object)
    (others : after.sessions.erase session = manager.sessions.erase session) :
    manager.SameView after := by
  have infos : after.clientInfoAt = manager.clientInfoAt := by
    funext serviceId other
    by_cases same : other = session
    · subst same
      rw [clientInfoAt_of_silent before, clientInfoAt, objects, SortedMap.get?_insert_self]
      exact AuthEventSessionService.clientInfo?_of_empty silent serviceId
    · rw [clientInfoAt, clientInfoAt, objects, SortedMap.get?_insert, if_neg same]
  refine ⟨infos, ?_⟩
  funext serviceId
  have nothing : manager.listed serviceId session = none := by
    rw [listed, clientInfoAt_of_silent before, ite_self]
  have listed : after.listed serviceId = manager.listed serviceId := by
    funext other
    by_cases same : other = session
    · subst same
      rw [nothing, AuthEventSubscribeManager.listed, infos, clientInfoAt_of_silent before,
        ite_self]
    · rw [AuthEventSubscribeManager.listed, AuthEventSubscribeManager.listed, infos, objects,
        SortedMap.get?_insert, if_neg same]
  rw [collectClientInfos_eq, collectClientInfos_eq, listed, ← filterMap_keys_erase nothing,
    others, filterMap_keys_erase nothing]

theorem subscribeAuthEvent_refused {session : Address} {eventId : Int} {serviceId : String}
    (refused : (manager.subscribeAuthEvent session eventId serviceId).1 ≠ .success) :
    (manager.subscribeAuthEvent session eventId serviceId).2 = manager := by
  revert refused
  rw [subscribeAuthEvent]
  split
  · exact fun _ => rfl
  · split
    · exact fun _ => rfl
    · split
      · exact fun _ => rfl
      · exact fun refused => absurd rfl refused

theorem unsubscribeAuthEvent_refused {session : Address} {eventId : Int}
    (refused : (manager.unsubscribeAuthEvent session eventId).1 ≠ .success) :
    (manager.unsubscribeAuthEvent session eventId).2 = manager := by
  revert refused
  rw [unsubscribeAuthEvent]
  split
  · exact fun _ => rfl
  · exact fun refused => absurd rfl refused

theorem subscribeAuthEvent_get?_of_ne {session other : Address} (different : other ≠ session)
    (eventId : Int) (serviceId : String) :
    (manager.subscribeAuthEvent session eventId serviceId).2.sessionObjects.get? other =
      manager.sessionObjects.get? other := by
  rw [subscribeAuthEvent]
  split
  · rfl
  · split
    · rfl
    · split
      · rfl
      · exact (SortedMap.get?_insert _ _ _ _).trans (if_neg different)

theorem unsubscribeAuthEvent_get?_of_ne {session other : Address} (different : other ≠ session)
    (eventId : Int) :
    (manager.unsubscribeAuthEvent session eventId).2.sessionObjects.get? other =
      manager.sessionObjects.get? other := by
  rw [unsubscribeAuthEvent]
  split
  · rfl
  · exact (SortedMap.get?_modify _ _ _ _).trans (if_neg different)

theorem removeSessionLocked_eventIds {session other : Address}
    {object : AuthEventSessionService}
    (found : (manager.removeSessionLocked session).sessionObjects.get? other = some object) :
    ∃ before, manager.sessionObjects.get? other = some before ∧
      object.eventIds = before.eventIds := by
  rw [removeSessionLocked] at found
  split at found
  · rcases SortedMap.get?_modify_eq_some.mp found with ⟨-, before, old, rfl⟩ | ⟨-, found⟩
    · exact ⟨before, old, rfl⟩
    · exact ⟨object, found, rfl⟩
  · exact ⟨object, found, rfl⟩

/-- Removing a session without events changes no list. -/
theorem SameView.removeSessionLocked {session : Address}
    (silent : ∀ object, manager.sessionObjects.get? session = some object →
      object.eventIds = .empty) :
    manager.SameView (manager.removeSessionLocked session) := by
  rw [AuthEventSubscribeManager.removeSessionLocked]
  split
  · cases found : manager.sessionObjects.get? session with
    | none =>
        have same : manager.sessionObjects.modify session (·.markInvalid) =
            manager.sessionObjects := by
          rw [SortedMap.modify, found]
        refine ⟨by rw [same]; rfl, ?_⟩
        funext serviceId
        rw [collectClientInfos_eq, collectClientInfos_eq, same]
        refine (filterMap_keys_erase ?_).trans rfl
        rw [listed, found]
        rfl
    | some object =>
        refine SameView.of_silent object.markInvalid silent (silent object found) ?_ ?_
        · rw [SortedMap.modify, found]
        · exact SortedMap.ext_get? fun other => by
            by_cases same : other = session <;> simp [same]
  · exact SameView.refl manager

end AuthEventSubscribeManager

namespace SessionSystem

variable {hash : String → Nat} {system after : SessionSystem}

theorem inFlight_iff {kind : SessionKind} {address : Address} :
    system.inFlight kind address = true ↔
      ∃ id creation, system.creations.get? id = some creation ∧ creation.kind = kind ∧
        creation.session = some address ∧ creation.code = none := by
  rw [inFlight, List.any_eq_true]
  constructor
  · rintro ⟨⟨id, creation⟩, mem, matching⟩
    exact ⟨id, creation, SortedMap.mem_entries_iff.mp mem, of_decide_eq_true matching⟩
  · rintro ⟨id, creation, found, matching⟩
    exact ⟨(id, creation), SortedMap.mem_entries_iff.mpr found, decide_eq_true matching⟩

theorem inFlight_of_record {id : CreationId} {creation : Creation} {code : Code}
    {kind : SessionKind} {address : Address} (returned : creation.code = some code)
    (flight : (system.record id creation).inFlight kind address = true) :
    system.inFlight kind address = true := by
  obtain ⟨other, entry, found, matching⟩ := inFlight_iff.mp flight
  rcases SortedMap.get?_insert_eq_some.mp found with ⟨_, rfl⟩ | ⟨_, found⟩
  · exact absurd (returned.symm.trans matching.2.2) (by simp)
  · exact inFlight_iff.mpr ⟨other, entry, found, matching⟩

theorem inFlight_record {id : CreationId} {creation : Creation} {kind : SessionKind}
    {address : Address} (flight : system.inFlight kind address = true)
    (other : ∀ entry, system.creations.get? id = some entry → entry.kind = kind →
      entry.session ≠ some address) :
    (system.record id creation).inFlight kind address = true := by
  obtain ⟨id', entry, found, ofKind, session, open'⟩ := inFlight_iff.mp flight
  refine inFlight_iff.mpr ⟨id', entry, ?_, ofKind, session, open'⟩
  have different : id' ≠ id := by
    rintro rfl
    exact other entry found ofKind session
  rw [record, SortedMap.get?_insert, if_neg different, found]

/-- A session whose creation is in flight has no events yet, and every registered provider is
valid. -/
structure Guarded (system : SessionSystem) : Prop where
  silent : ∀ session, system.inFlight .client session = true → ∀ object,
    system.coordinator.manager.sessionObjects.get? session = some object →
      object.eventIds = .empty
  valid : ∀ provider, system.coordinator.providerSessions.contains provider = true →
    ∃ object, system.coordinator.providerObjects.get? provider = some object ∧
      object.valid = true

/-- A step that no list shows: the providers registered after it were registered before, unless
their creation is in flight. -/
structure QuietStep (before after : SessionSystem) : Prop where
  view : before.coordinator.manager.SameView after.coordinator.manager
  providers : ∀ provider object, after.coordinator.providerSessions.contains provider = true →
    after.coordinator.providerObjects.get? provider = some object →
      after.inFlight .provider provider = true ∨
        (before.coordinator.providerSessions.contains provider = true ∧
          before.coordinator.providerObjects.get? provider = some object ∧
            before.inFlight .provider provider = false)

theorem QuietStep.of_providers {before after : SessionSystem}
    (view : before.coordinator.manager.SameView after.coordinator.manager)
    (sessions : after.coordinator.providerSessions = before.coordinator.providerSessions)
    (objects : after.coordinator.providerObjects = before.coordinator.providerObjects)
    (flight : ∀ provider, before.inFlight .provider provider = true →
      after.inFlight .provider provider = true) : before.QuietStep after where
  view := view
  providers := fun provider object registered found => by
    rw [sessions] at registered
    rw [objects] at found
    cases open' : before.inFlight .provider provider with
    | true => exact .inl (flight provider open')
    | false => exact .inr ⟨registered, found, rfl⟩

theorem guarded_initial : ({} : SessionSystem).Guarded where
  silent := fun _ _ _ found => absurd found (by simp)
  valid := fun _ registered => absurd registered (by simp)

/-- Sessions in flight keep their events, and the providers are the same. -/
theorem Guarded.of_clients (guarded : system.Guarded)
    (flight : ∀ session, after.inFlight .client session = true →
      system.inFlight .client session = true)
    (objects : ∀ session object, system.inFlight .client session = true →
      after.coordinator.manager.sessionObjects.get? session = some object →
        ∃ before, system.coordinator.manager.sessionObjects.get? session = some before ∧
          object.eventIds = before.eventIds)
    (sessions : after.coordinator.providerSessions = system.coordinator.providerSessions)
    (providers : after.coordinator.providerObjects = system.coordinator.providerObjects) :
    after.Guarded where
  silent := by
    intro session open' object found
    obtain ⟨before, old, same⟩ := objects session object (flight session open') found
    exact same.trans (guarded.silent session (flight session open') before old)
  valid := by
    rw [sessions, providers]
    exact guarded.valid

theorem Guarded.of_providers (guarded : system.Guarded)
    (flight : ∀ session, after.inFlight .client session = true →
      system.inFlight .client session = true)
    (manager : after.coordinator.manager = system.coordinator.manager)
    (valid : ∀ provider, after.coordinator.providerSessions.contains provider = true →
      ∃ object, after.coordinator.providerObjects.get? provider = some object ∧
        object.valid = true) : after.Guarded where
  silent := by
    rw [manager]
    exact fun session open' => guarded.silent session (flight session open')
  valid := valid

theorem enterClient_guarded (guarded : system.Guarded) {id : CreationId}
    {params : CreateClientParams} {address : Address} {time : Nat} {allocated : Bool}
    (fresh : system.creations.get? id = none) (unused : system.known .client address = false) :
    (system.enterClient hash id params address time allocated).Guarded ∧
      system.QuietStep (system.enterClient hash id params address time allocated) := by
  have unrecorded {kind : SessionKind} {other : Address} (entry : Creation)
      (found : system.creations.get? id = some entry) (_ : entry.kind = kind) :
      entry.session ≠ some other := absurd (fresh.symm.trans found) (by simp)
  have refused (code : Code) :
      (system.record id { kind := .client, code := some code }).Guarded ∧
        system.QuietStep (system.record id { kind := .client, code := some code }) := by
    constructor
    · exact guarded.of_clients (fun _ open' => inFlight_of_record rfl open')
        (fun _ object _ found => ⟨object, found, rfl⟩) rfl rfl
    · exact .of_providers (.refl _) rfl rfl fun _ open' => inFlight_record open' unrecorded
  rw [enterClient]
  split_ifs with failed missing
  · exact refused _
  · exact refused _
  · have absent : system.coordinator.manager.sessionObjects.get? address = none := by
      simpa [known, SortedMap.contains] using unused
    obtain ⟨session, -, -, silent, -, entered⟩ :=
      AuthEventSubscribeManager.creatAuthEventClient_success (not_not.mp failed)
    have view : system.coordinator.manager.SameView
        (system.coordinator.manager.creatAuthEventClient hash params address time).2 := by
      rw [entered]
      refine .of_silent session (fun object found => absurd (absent.symm.trans found) (by simp))
        silent rfl ?_
      exact SortedMap.erase_insert _ _ _
    refine ⟨⟨?_, guarded.valid⟩, .of_providers view rfl rfl fun _ open' =>
      inFlight_record open' unrecorded⟩
    intro other open' object found
    rw [record, withManager, AuthCoordinator.withManager, entered] at found
    rcases SortedMap.get?_insert_eq_some.mp found with ⟨_, rfl⟩ | ⟨different, found⟩
    · exact silent
    · obtain ⟨id', entry, foundEntry, ofKind, ofSession, unreturned⟩ := inFlight_iff.mp open'
      rcases SortedMap.get?_insert_eq_some.mp foundEntry with ⟨_, rfl⟩ | ⟨_, foundEntry⟩
      · exact absurd (Option.some.inj ofSession).symm different
      · exact guarded.silent other
          (inFlight_iff.mpr ⟨id', entry, foundEntry, ofKind, ofSession, unreturned⟩) object found

theorem enterProvider_guarded (guarded : system.Guarded) {id : CreationId} {caller : Caller}
    {callback : Option Address} {serviceId : String} {address : Address} {allocated : Bool}
    (fresh : system.creations.get? id = none) :
    (system.enterProvider id caller callback serviceId address allocated).Guarded ∧
      system.QuietStep (system.enterProvider id caller callback serviceId address allocated) := by
  have unrecorded {kind : SessionKind} {other : Address} (entry : Creation)
      (found : system.creations.get? id = some entry) (_ : entry.kind = kind) :
      entry.session ≠ some other := absurd (fresh.symm.trans found) (by simp)
  have refused (code : Code) :
      (system.record id { kind := .provider, code := some code }).Guarded ∧
        system.QuietStep (system.record id { kind := .provider, code := some code }) := by
    constructor
    · exact guarded.of_clients (fun _ open' => inFlight_of_record rfl open')
        (fun _ object _ found => ⟨object, found, rfl⟩) rfl rfl
    · exact .of_providers (.refl _) rfl rfl fun _ open' => inFlight_record open' unrecorded
  rw [enterProvider]
  split_ifs with failed missing
  · exact refused _
  · exact refused _
  · obtain ⟨provider, -, valid, -, entered⟩ :=
      AuthCoordinator.createAuthProvider_success (not_not.mp failed)
    have flight (session : Address) (open' : ((system.withCoordinator
        (system.coordinator.createAuthProvider caller callback serviceId address).2).record id
          { kind := .provider, session := some address }).inFlight .client session = true) :
        system.inFlight .client session = true := by
      obtain ⟨id', entry, found, ofKind, matching⟩ := inFlight_iff.mp open'
      rcases SortedMap.get?_insert_eq_some.mp found with ⟨_, rfl⟩ | ⟨_, found⟩
      · exact absurd ofKind (by simp)
      · exact inFlight_iff.mpr ⟨id', entry, found, ofKind, matching⟩
    rw [entered] at flight ⊢
    constructor
    · refine guarded.of_providers flight rfl fun other registered => ?_
      rw [record, withCoordinator, SortedMap.contains_insert, Bool.or_eq_true] at registered
      rw [record, withCoordinator, SortedMap.get?_insert]
      split_ifs with same
      · exact ⟨provider, rfl, valid⟩
      · exact guarded.valid other (registered.resolve_left (by simp [same]))
    · refine ⟨.refl _, fun other object registered found => ?_⟩
      rw [record, withCoordinator, SortedMap.contains_insert, Bool.or_eq_true] at registered
      rw [record, withCoordinator, SortedMap.get?_insert] at found
      split_ifs at found with same
      · exact .inl (inFlight_iff.mpr ⟨id, _, SortedMap.get?_insert_self _ _ _, rfl,
          congrArg some same.symm, rfl⟩)
      · have registered := registered.resolve_left (by simp [same])
        cases open' : system.inFlight .provider other with
        | true => exact .inl (inFlight_record open' unrecorded)
        | false => exact .inr ⟨registered, found, rfl⟩

/-- The end of a creation: of a client it shows in no list, and of a provider unless it
succeeds. -/
theorem settle_guarded (guarded : system.Guarded) {id : CreationId} {kind : SessionKind}
    {address : Address} {added : Bool}
    (flight : system.creations.get? id = some { kind, session := some address }) :
    (system.settle id kind address added).Guarded ∧
      ((added && decide (kind = .provider)) = false →
        system.QuietStep (system.settle id kind address added)) := by
  have open' : system.inFlight kind address = true :=
    inFlight_iff.mpr ⟨id, _, flight, rfl, rfl, rfl⟩
  have client (provider : Address) (ofKind : kind = .client) (entry : Creation)
      (found : system.creations.get? id = some entry) (isProvider : entry.kind = .provider) :
      entry.session ≠ some provider := by
    obtain rfl := Option.some.inj (flight.symm.trans found)
    exact absurd (ofKind.symm.trans isProvider) (by simp)
  cases added with
  | true =>
      constructor
      · exact guarded.of_clients (fun _ still => inFlight_of_record rfl still)
          (fun _ object _ found => ⟨object, found, rfl⟩) rfl rfl
      · intro quiet
        cases kind with
        | client =>
            exact .of_providers (.refl _) rfl rfl fun provider still =>
              inFlight_record still (client provider rfl)
        | provider => exact absurd quiet (by simp)
  | false =>
      cases kind with
      | client =>
          constructor
          · exact guarded.of_clients (fun _ still => inFlight_of_record rfl still)
              (fun _ object _ found =>
                AuthEventSubscribeManager.removeSessionLocked_eventIds found) rfl rfl
          · exact fun _ => .of_providers (.removeSessionLocked (guarded.silent address open'))
              rfl rfl fun provider still => inFlight_record still (client provider rfl)
      | provider =>
          have other {provider : Address}
              (registered : (system.coordinator.providerSessions.erase address).contains
                provider = true) :
              provider ≠ address ∧
                system.coordinator.providerSessions.contains provider = true := by
            simpa using registered
          constructor
          · exact guarded.of_providers (fun _ still => inFlight_of_record rfl still) rfl
              fun provider registered => guarded.valid provider (other registered).2
          · refine fun _ => ⟨.refl _, fun provider object registered found => ?_⟩
            obtain ⟨different, registered⟩ := other registered
            cases still : system.inFlight .provider provider with
            | true =>
                refine .inl (inFlight_record still fun entry foundEntry _ session => ?_)
                obtain rfl := Option.some.inj (flight.symm.trans foundEntry)
                exact different (Option.some.inj session).symm
            | false => exact .inr ⟨registered, found, rfl⟩

theorem Guarded.of_handedOut (guarded : system.Guarded) {session : Address}
    {manager : AuthEventSubscribeManager} (handed : system.inFlight .client session = false)
    (objects : ∀ other, other ≠ session →
      manager.sessionObjects.get? other =
        system.coordinator.manager.sessionObjects.get? other) :
    (system.withManager manager).Guarded := by
  refine guarded.of_clients (fun _ open' => open') (fun other object open' found => ?_) rfl rfl
  have different : other ≠ session := by
    rintro rfl
    exact Bool.false_ne_true (handed.symm.trans open')
  exact ⟨object, (objects other different).symm.trans found, rfl⟩

theorem Guarded.removeProvider (guarded : system.Guarded) (provider : Address) :
    (system.withCoordinator (system.coordinator.removeProvider provider)).Guarded := by
  refine guarded.of_providers (fun _ open' => open') rfl fun other registered => ?_
  rw [withCoordinator, AuthCoordinator.removeProvider, SortedMap.contains_erase,
    Bool.and_eq_true, Bool.not_eq_true', decide_eq_false_iff_not] at registered
  rw [withCoordinator, AuthCoordinator.removeProvider, SortedMap.get?_modify,
    if_neg registered.1]
  exact guarded.valid other registered.2

/-- A critical section of a call keeps what is in flight silent, and the lists are as before
unless `NotifyClientStatusChanged` follows. -/
theorem next_guarded {action : SessionAction} (guarded : system.Guarded)
    (handed : system.handedOut action = true) (taken : next hash system action = some after) :
    after.Guarded ∧ (system.notifies action = false → system.QuietStep after) := by
  have idle {manager : AuthEventSubscribeManager}
      (same : manager = system.coordinator.manager) :
      system.QuietStep (system.withManager manager) :=
    .of_providers (same ▸ .refl _) rfl rfl fun _ open' => open'
  cases action with
  | creatAuthEventClient id params address time allocated =>
      simp only [next] at taken
      split_ifs at taken with used
      obtain rfl := Option.some.inj taken
      obtain ⟨unrecorded, unused⟩ := not_or.mp used
      have fresh : system.creations.get? id = none := by
        simpa [SortedMap.contains] using unrecorded
      exact (enterClient_guarded guarded fresh (Bool.eq_false_iff.mpr unused)).imp_right
        fun quiet _ => quiet
  | createAuthProvider id caller callback serviceId address allocated =>
      simp only [next] at taken
      split_ifs at taken with used
      obtain rfl := Option.some.inj taken
      have fresh : system.creations.get? id = none := by
        simpa [SortedMap.contains] using (not_or.mp used).1
      exact (enterProvider_guarded guarded fresh).imp_right fun quiet _ => quiet
  | addDeathRecipient id added =>
      simp only [next] at taken
      split at taken
      · next kind address flight =>
          obtain rfl := Option.some.inj taken
          rw [notifies, flight]
          exact settle_guarded guarded flight
      · exact absurd taken (by simp)
  | subscribeAuthEvent session eventId serviceId =>
      obtain rfl := Option.some.inj taken
      refine ⟨guarded.of_handedOut (by simpa [handedOut] using handed) fun other different =>
        AuthEventSubscribeManager.subscribeAuthEvent_get?_of_ne different eventId serviceId, ?_⟩
      exact fun quiet => idle (AuthEventSubscribeManager.subscribeAuthEvent_refused
        (of_decide_eq_false quiet))
  | unsubscribeAuthEvent session eventId =>
      obtain rfl := Option.some.inj taken
      refine ⟨guarded.of_handedOut (by simpa [handedOut] using handed) fun other different =>
        AuthEventSubscribeManager.unsubscribeAuthEvent_get?_of_ne different eventId, ?_⟩
      exact fun quiet => idle (AuthEventSubscribeManager.unsubscribeAuthEvent_refused
        (of_decide_eq_false quiet))
  | destroyAuthEventClient session | removeSession session =>
      obtain rfl := Option.some.inj taken
      refine ⟨guarded.of_clients (fun _ open' => open') (fun _ _ _ found =>
        AuthEventSubscribeManager.removeSessionLocked_eventIds found) rfl rfl, ?_⟩
      exact fun quiet => absurd quiet (by simp [notifies])
  | destroyAuthProvider provider =>
      obtain rfl := Option.some.inj taken
      rw [AuthCoordinator.destroyAuthProvider, notifies]
      split
      · next registered =>
          exact ⟨guarded.removeProvider provider, fun quiet =>
            absurd (quiet.symm.trans registered) Bool.false_ne_true⟩
      · exact ⟨guarded, fun _ => .of_providers (.refl _) rfl rfl fun _ open' => open'⟩
  | removeProvider provider =>
      obtain rfl := Option.some.inj taken
      exact ⟨guarded.removeProvider provider, fun quiet => absurd quiet (by simp [notifies])⟩

end SessionSystem

/-! ## The tasks -/

theorem AuthCoordinator.mem_providerCallbacks {coordinator : AuthCoordinator} {provider : Address}
    {object : AuthProviderSessionService}
    (registered : coordinator.providerSessions.contains provider = true)
    (found : coordinator.providerObjects.get? provider = some object)
    (valid : object.valid = true) :
    (object.callback, object.serviceId) ∈ coordinator.providerCallbacks := by
  rw [providerCallbacks, List.mem_filterMap]
  exact ⟨provider, SortedMap.mem_keys_iff.mpr registered, by simp [found, valid]⟩

/-- A list that was begun after the last change is the list of the present sessions. -/
def ClientList.Fresh (list : ClientList) (manager : AuthEventSubscribeManager)
    (changedAt : Nat) : Prop :=
  changedAt < list.number → list.infos = manager.collectClientInfos list.serviceId

namespace NotifyStage

/-- The list that a task is working on will be, or is, fresh. -/
def Fresh (manager : AuthEventSubscribeManager) (changedAt : Nat) : NotifyStage → Prop
  | .collect list rest _ =>
      ({ list with
        infos := list.infos ++ rest.filterMap (manager.clientInfoAt list.serviceId) } :
        ClientList).Fresh manager changedAt
  | .send list _ => list.Fresh manager changedAt
  | _ => True

/-- The task is going to send a fresh list for a service to a callback. -/
def Serves (changedAt : Nat) (callback : Address) (serviceId : String) : NotifyStage → Prop
  | .providers => True
  | .visit todo => (callback, serviceId) ∈ todo
  | .collect list _ todo | .send list todo =>
      (list.callback = callback ∧ list.serviceId = serviceId ∧ changedAt < list.number) ∨
        (callback, serviceId) ∈ todo

theorem Fresh.view {manager after : AuthEventSubscribeManager} {changedAt : Nat}
    {stage : NotifyStage} (fresh : stage.Fresh manager changedAt)
    (view : manager.SameView after) : stage.Fresh after changedAt := by
  cases stage with
  | providers => trivial
  | visit todo => trivial
  | collect list rest todo =>
      rw [Fresh, ClientList.Fresh, view.infos, view.lists]
      exact fresh
  | send list todo =>
      rw [Fresh, ClientList.Fresh, view.lists]
      exact fresh

/-- Before the collections that begin now nothing counts as fresh. -/
def Begun (begun : Nat) : NotifyStage → Prop
  | .collect list _ _ | .send list _ => list.number ≤ begun
  | _ => True

end NotifyStage

namespace ClientStatusSystem

variable {hash : String → Nat} {isProxy : Address → Bool} {system after : ClientStatusSystem}

/-- The last list that a callback has received is a fresh one for a service. -/
def Served (system : ClientStatusSystem) (changedAt : Nat) (callback : Address)
    (serviceId : String) : Prop :=
  ∃ list, (system.sentTo callback).getLast? = some list ∧ list.serviceId = serviceId ∧
    changedAt < list.number

/-- A registered provider has the present list or is going to get it. -/
def Covered (system : ClientStatusSystem) (changedAt : Nat) (provider : Address)
    (object : AuthProviderSessionService) : Prop :=
  system.sessions.inFlight .provider provider = true ∨
    (∃ id stage, system.tasks.get? id = some stage ∧
      stage.Serves changedAt object.callback object.serviceId) ∨
    system.Served changedAt object.callback object.serviceId

/-- The clients last changed when `changedAt` collections had begun. -/
structure Converging (isProxy : Address → Bool) (changedAt : Nat)
    (system : ClientStatusSystem) : Prop where
  guarded : system.sessions.Guarded
  bounded : changedAt ≤ system.begun
  begun : ∀ id stage, system.tasks.get? id = some stage → stage.Begun system.begun
  sentBegun : ∀ list ∈ system.sent, list.number ≤ system.begun
  stages : ∀ id stage, system.tasks.get? id = some stage → stage.Fresh system.manager changedAt
  lists : ∀ list ∈ system.sent, list.Fresh system.manager changedAt
  covered : ∀ provider object,
    system.sessions.coordinator.providerSessions.contains provider = true →
    system.sessions.coordinator.providerObjects.get? provider = some object →
    isProxy object.callback = true → system.Covered changedAt provider object

theorem converging_initial : Converging isProxy 0 {} where
  guarded := SessionSystem.guarded_initial
  bounded := Nat.le_refl 0
  begun := fun _ _ found => absurd found (by simp)
  sentBegun := fun _ mem => absurd mem (by simp)
  stages := fun _ _ found => absurd found (by simp)
  lists := fun _ mem => absurd mem (by simp)
  covered := fun _ _ registered => absurd registered (by simp)

/-- A change that starts a task: no list counts as fresh any more, and every provider is going
to be served. -/
theorem Converging.changed {changedAt : Nat} (converging : Converging isProxy changedAt system)
    {sessions : SessionSystem} {task : NotifyId} (guarded : sessions.Guarded) :
    Converging isProxy system.begun (system.enter sessions (some task)) := by
  have stale (list : ClientList) (manager : AuthEventSubscribeManager)
      (begun : list.number ≤ system.begun) : list.Fresh manager system.begun :=
    fun later => absurd later (Nat.not_lt_of_le begun)
  have cases {id : NotifyId} {stage : NotifyStage}
      (found : (system.enter sessions (some task)).tasks.get? id = some stage) :
      stage = .providers ∨ system.tasks.get? id = some stage := by
    rcases SortedMap.get?_insert_eq_some.mp found with ⟨_, entered⟩ | ⟨_, before⟩
    · exact .inl entered.symm
    · exact .inr before
  constructor
  · exact guarded
  · exact Nat.le_refl _
  · intro id stage found
    rcases cases found with rfl | found
    · trivial
    · exact converging.begun id stage found
  · exact converging.sentBegun
  · intro id stage found
    rcases cases found with rfl | found
    · trivial
    · have begun := converging.begun id stage found
      cases stage with
      | providers => trivial
      | visit todo => trivial
      | collect list rest todo => exact stale _ _ begun
      | send list todo => exact stale _ _ begun
  · exact fun list mem => stale list _ (converging.sentBegun list mem)
  · intro provider object _ _ _
    exact .inr (.inl ⟨task, .providers, SortedMap.get?_insert_self _ _ _, trivial⟩)

/-- A step that no list shows keeps what is fresh and who is covered. -/
theorem Converging.quiet {changedAt : Nat} (converging : Converging isProxy changedAt system)
    {sessions : SessionSystem} (guarded : sessions.Guarded)
    (step : system.sessions.QuietStep sessions) :
    Converging isProxy changedAt (system.enter sessions none) := by
  constructor
  · exact guarded
  · exact converging.bounded
  · exact converging.begun
  · exact converging.sentBegun
  · exact fun id stage found => (converging.stages id stage found).view step.view
  · intro list mem
    have fresh := converging.lists list mem
    rw [ClientList.Fresh] at fresh ⊢
    rw [manager, enter, step.view.lists]
    exact fresh
  · intro provider object registered found proxy
    rcases step.providers provider object registered found with open' | ⟨before, old, returned⟩
    · exact .inl open'
    · rcases converging.covered provider object before old proxy with open' | rest
      · exact absurd (returned.symm.trans open') Bool.false_ne_true
      · exact .inr rest

/-- A task goes on to a stage that serves whom it served before, and sends nothing. -/
theorem Converging.withTask {changedAt begun : Nat}
    (converging : Converging isProxy changedAt system) {task : NotifyId}
    {stage later : NotifyStage} (running : system.tasks.get? task = some stage)
    (more : system.begun ≤ begun) (laterBegun : later.Begun begun)
    (fresh : later.Fresh system.manager changedAt)
    (serves : ∀ provider object,
      system.sessions.coordinator.providerSessions.contains provider = true →
      system.sessions.coordinator.providerObjects.get? provider = some object →
      isProxy object.callback = true →
      stage.Serves changedAt object.callback object.serviceId →
        later.Serves changedAt object.callback object.serviceId) :
    Converging isProxy changedAt { system.withTask task later with begun } := by
  have cases {id : NotifyId} {found' : NotifyStage}
      (found : (system.withTask task later).tasks.get? id = some found') :
      found' = later ∨ system.tasks.get? id = some found' := by
    rcases SortedMap.get?_insert_eq_some.mp found with ⟨_, entered⟩ | ⟨_, before⟩
    · exact .inl entered.symm
    · exact .inr before
  constructor
  · exact converging.guarded
  · exact Nat.le_trans converging.bounded more
  · intro id found' found
    rcases cases found with rfl | found
    · exact laterBegun
    · have old := converging.begun id found' found
      cases found' with
      | providers => trivial
      | visit todo => trivial
      | collect list rest todo => exact Nat.le_trans old more
      | send list todo => exact Nat.le_trans old more
  · exact fun list mem => Nat.le_trans (converging.sentBegun list mem) more
  · intro id found' found
    rcases cases found with rfl | found
    · exact fresh
    · exact converging.stages id found' found
  · exact converging.lists
  · intro provider object registered found proxy
    rcases converging.covered provider object registered found proxy with
      open' | ⟨id, found', foundTask, will⟩ | served
    · exact .inl open'
    · refine .inr (.inl ?_)
      by_cases same : id = task
      · subst same
        obtain rfl := Option.some.inj (running.symm.trans foundTask)
        exact ⟨id, later, SortedMap.get?_insert_self _ _ _,
          serves provider object registered found proxy will⟩
      · exact ⟨id, found', (SortedMap.get?_insert _ _ _ _).trans ((if_neg same).trans foundTask),
          will⟩
    · exact .inr (.inr served)

/-- A task that has visited every provider ends. -/
theorem Converging.erase {changedAt : Nat} (converging : Converging isProxy changedAt system)
    {task : NotifyId} (running : system.tasks.get? task = some (.visit [])) :
    Converging isProxy changedAt { system with tasks := system.tasks.erase task } := by
  have still {id : NotifyId} {stage : NotifyStage}
      (found : (system.tasks.erase task).get? id = some stage) :
      system.tasks.get? id = some stage := by
    exact (SortedMap.get?_erase_eq_some.mp found).2
  constructor
  · exact converging.guarded
  · exact converging.bounded
  · exact fun id stage found => converging.begun id stage (still found)
  · exact converging.sentBegun
  · exact fun id stage found => converging.stages id stage (still found)
  · exact converging.lists
  · intro provider object registered found proxy
    rcases converging.covered provider object registered found proxy with
      open' | ⟨id, stage, foundTask, will⟩ | served
    · exact .inl open'
    · refine .inr (.inl ⟨id, stage, ?_, will⟩)
      have different : id ≠ task := by
        rintro rfl
        obtain rfl := Option.some.inj (running.symm.trans foundTask)
        exact absurd will (by simp [NotifyStage.Serves])
      exact (SortedMap.get?_erase _ _ _).trans ((if_neg different).trans foundTask)
    · exact .inr (.inr served)

theorem getLast?_sentTo_send (system : ClientStatusSystem) (list : ClientList)
    (callback : Address) :
    (({ system with sent := system.sent ++ [list] } : ClientStatusSystem).sentTo
      callback).getLast? =
        if list.callback = callback then some list else (system.sentTo callback).getLast? := by
  rw [sentTo, List.filter_append]
  split_ifs with same
  · simp [same]
  · simp [same, sentTo]

/-- A list that is sent in order leaves no provider with an older one. -/
theorem Converging.send {changedAt : Nat} (converging : Converging isProxy changedAt system)
    {task : NotifyId} {list : ClientList} {todo : List (Address × String)}
    (running : system.tasks.get? task = some (.send list todo))
    (ordered : system.sendsInOrder list = true) :
    Converging isProxy changedAt
      { system.withTask task (.visit todo) with sent := system.sent ++ [list] } := by
  obtain ⟨newest, services⟩ := Bool.and_eq_true_iff.mp ordered
  have fresh : list.Fresh system.manager changedAt := converging.stages task _ running
  have begun : list.number ≤ system.begun := converging.begun task _ running
  have cases {id : NotifyId} {stage : NotifyStage}
      (found : (system.withTask task (.visit todo)).tasks.get? id = some stage) :
      stage = .visit todo ∨ system.tasks.get? id = some stage := by
    rcases SortedMap.get?_insert_eq_some.mp found with ⟨_, entered⟩ | ⟨_, before⟩
    · exact .inl entered.symm
    · exact .inr before
  constructor
  · exact converging.guarded
  · exact converging.bounded
  · intro id stage found
    rcases cases found with rfl | found
    · trivial
    · exact converging.begun id stage found
  · intro other mem
    rcases List.mem_append.mp mem with mem | mem
    · exact converging.sentBegun other mem
    · obtain rfl := List.mem_singleton.mp mem
      exact begun
  · intro id stage found
    rcases cases found with rfl | found
    · trivial
    · exact converging.stages id stage found
  · intro other mem
    rcases List.mem_append.mp mem with mem | mem
    · exact converging.lists other mem
    · obtain rfl := List.mem_singleton.mp mem
      exact fresh
  · intro provider object registered found proxy
    have service (same : list.callback = object.callback) :
        list.serviceId = object.serviceId := by
      have known : system.sessions.coordinator.providerObjects.get? provider = some object := found
      have all := List.all_eq_true.mp services provider (SortedMap.mem_keys_iff.mpr registered)
      rw [known, Option.all_some] at all
      simpa [same, eq_comm] using all
    have sentNow (same : list.callback = object.callback) (later : changedAt < list.number) :
        Served { system.withTask task (.visit todo) with sent := system.sent ++ [list] }
          changedAt object.callback object.serviceId := by
      refine ⟨list, ?_, service same, later⟩
      exact (getLast?_sentTo_send system list object.callback).trans (if_pos same)
    rcases converging.covered provider object registered found proxy with
      open' | ⟨id, stage, foundTask, will⟩ | ⟨last, foundLast, ofService, later⟩
    · exact .inl open'
    -- A task was to send the list to this provider: it is the one that sends, or it is still to do
    -- so.
    · by_cases same : id = task
      · subst same
        obtain rfl := Option.some.inj (running.symm.trans foundTask)
        rcases will with ⟨toCallback, -, later⟩ | waiting
        · exact .inr (.inr (sentNow toCallback later))
        · exact .inr (.inl ⟨id, .visit todo, SortedMap.get?_insert_self _ _ _, waiting⟩)
      · exact .inr (.inl ⟨id, stage,
          (SortedMap.get?_insert _ _ _ _).trans ((if_neg same).trans foundTask), will⟩)
    · refine .inr (.inr ?_)
      -- The last list is replaced by a newer one only, since the lists are sent in order.
      by_cases toCallback : list.callback = object.callback
      · have mem := List.mem_of_getLast? foundLast
        rw [← toCallback] at mem
        have older := of_decide_eq_true (List.all_eq_true.mp newest last mem)
        exact sentNow toCallback (Nat.lt_of_lt_of_le later older)
      · refine ⟨last, ?_, ofService, later⟩
        exact (getLast?_sentTo_send system list object.callback).trans
          ((if_neg toCallback).trans foundLast)

/-- Every step of a task that sends its lists in order keeps the lists converging. -/
theorem Converging.taskStep {changedAt : Nat} (converging : Converging isProxy changedAt system)
    {task : NotifyId} {stage : NotifyStage} (running : system.tasks.get? task = some stage)
    (ordered : system.inOrder (.task task) = true) :
    Converging isProxy changedAt (system.taskStep isProxy task stage) := by
  have fresh := converging.stages task stage running
  have begun := converging.begun task stage running
  cases stage with
  | providers =>
      refine converging.withTask running (Nat.le_refl _) trivial trivial ?_
      intro provider object registered found _ _
      obtain ⟨known, foundKnown, valid⟩ := converging.guarded.valid provider registered
      obtain rfl := Option.some.inj (found.symm.trans foundKnown)
      exact AuthCoordinator.mem_providerCallbacks registered found valid
  | visit todo =>
      cases todo with
      | nil => exact converging.erase running
      | cons entry todo =>
          obtain ⟨callback, serviceId⟩ := entry
          rw [ClientStatusSystem.taskStep]
          split_ifs with proxy
          · refine converging.withTask running (Nat.le_succ _) (Nat.le_refl _) ?_ ?_
            · exact fun _ => List.nil_append _
            · intro provider object _ _ _ will
              rcases List.mem_cons.mp will with same | mem
              · obtain ⟨toCallback, ofService⟩ := Prod.mk.inj same
                exact .inl ⟨toCallback.symm, ofService.symm,
                  Nat.lt_succ_of_le converging.bounded⟩
              · exact .inr mem
          · refine converging.withTask running (Nat.le_refl _) trivial trivial ?_
            intro provider object _ _ proxy' will
            rcases List.mem_cons.mp will with same | mem
            · exact absurd ((Prod.mk.inj same).1 ▸ proxy') proxy
            · exact mem
  | collect list sessions todo =>
      cases sessions with
      | nil =>
          refine converging.withTask running (Nat.le_refl _) begun ?_ fun _ _ _ _ _ will => will
          exact fun later => (List.append_nil _).symm.trans (fresh later)
      | cons session rest =>
          refine converging.withTask running (Nat.le_refl _) begun ?_ fun _ _ _ _ _ will => will
          intro later
          have whole := fresh later
          rw [List.filterMap_cons] at whole
          cases shown : system.manager.clientInfoAt list.serviceId session with
          | none => simpa [shown] using whole
          | some info => simpa [shown] using whole
  | send list todo =>
      rw [inOrder, running] at ordered
      exact converging.send running ordered

/-- Every step whose list, if it sends one, is sent in order. -/
theorem Converging.step {action : ClientStatusAction}
    (converging : ∃ changedAt, Converging isProxy changedAt system)
    (ordered : system.inOrder action = true)
    (taken : next hash isProxy system action = some after) :
    ∃ changedAt, Converging isProxy changedAt after := by
  obtain ⟨changedAt, converging⟩ := converging
  cases action with
  | session action task =>
      simp only [next] at taken
      split_ifs at taken with refused notifies
      all_goals
        obtain ⟨sessions, stepped, rfl⟩ := Option.map_eq_some_iff.mp taken
        have handed : system.sessions.handedOut action = true := by
          simpa using (not_or.mp refused).1
        obtain ⟨guarded, quiet⟩ := SessionSystem.next_guarded converging.guarded handed stepped
      · exact ⟨system.begun, converging.changed guarded⟩
      · exact ⟨changedAt, converging.quiet guarded (quiet (Bool.eq_false_iff.mpr notifies))⟩
  | task task =>
      simp only [next] at taken
      split at taken
      · exact absurd taken (by simp)
      · next stage running =>
          obtain rfl := Option.some.inj taken
          exact ⟨changedAt, converging.taskStep running ordered⟩

/-- When every list is sent in order and everything has finished, the last list that a live
provider has received is the one collected for its service in the final state. -/
theorem client_lists_converge (hash : String → Nat) (isProxy : Address → Bool)
    {actions : List ClientStatusAction} {final : ClientStatusSystem}
    (ordered : Transition.Along (next hash isProxy)
      (fun system action => system.inOrder action = true) {} actions)
    (reach : Transition.run (next hash isProxy) {} actions = some final) (quiet : final.Quiet)
    {provider : Address} {object : AuthProviderSessionService}
    (live : final.sessions.coordinator.providerSessions.contains provider = true)
    (found : final.sessions.coordinator.providerObjects.get? provider = some object)
    (proxy : isProxy object.callback = true) :
    (final.sentTo object.callback).getLast?.map (·.infos) =
      some (final.manager.collectClientInfos object.serviceId) := by
  obtain ⟨changedAt, converging⟩ : ∃ changedAt, Converging isProxy changedAt final :=
    Transition.run_invariant
      (fun converging ordered taken => Converging.step converging ordered taken)
      ⟨0, converging_initial⟩ ordered reach
  rcases converging.covered provider object live found proxy with
    open' | ⟨id, stage, running, -⟩ | ⟨list, last, ofService, later⟩
  · obtain ⟨id, creation, foundCreation, -, -, unreturned⟩ := SessionSystem.inFlight_iff.mp open'
    exact absurd unreturned (quiet.2 id creation foundCreation)
  · rw [quiet.1] at running
    exact absurd running (by simp)
  · have mem : list ∈ final.sent := (List.mem_filter.mp (List.mem_of_getLast? last)).1
    rw [last, Option.map_some, ← ofService]
    exact congrArg some (converging.lists list mem later)

/-- A provider and a client of its service, with all of their tasks run to the end. -/
def joined : List ClientStatusAction :=
  [.session (.createAuthProvider 0 ⟨20, 1000, .native, [], true⟩ (some 200) "service" 50 true) 0,
    .session (.addDeathRecipient 0 true) 0, .task 0, .task 0, .task 0, .task 0, .task 0,
    .session (.creatAuthEventClient 1 ⟨10, 1000, 1, 300, some 100⟩ 1 7 true) 1,
    .session (.addDeathRecipient 1 true) 1]

/-- The task of the first change is overtaken by the one of the second before it sends. -/
def overtaken : List ClientStatusAction :=
  joined ++
    [.session (.subscribeAuthEvent 1 5 "service") 1, .task 1, .task 1, .task 1, .task 1,
      .session (.unsubscribeAuthEvent 1 5) 2, .task 2, .task 2, .task 2, .task 2, .task 2,
      .task 2, .task 1, .task 1]

/-- The same changes with the tasks one after the other. -/
def separate : List ClientStatusAction :=
  joined ++
    [.session (.subscribeAuthEvent 1 5 "service") 1, .task 1, .task 1, .task 1, .task 1,
      .task 1, .task 1]

/-- In `overtaken` everything has finished, and the last list of the provider still shows the
subscription that was taken back. -/
theorem client_lists_diverge :
    ∃ final object,
      Transition.run (next String.length fun _ => true) {} overtaken = some final ∧
        final.Quiet ∧ final.sessions.coordinator.providerSessions.contains 50 = true ∧
          final.sessions.coordinator.providerObjects.get? 50 = some object ∧
            (final.sentTo object.callback).getLast?.map (·.infos) ≠
              some (final.manager.collectClientInfos object.serviceId) := by
  have evaluated : (Transition.run (next String.length fun _ => true) {} overtaken).any
      (fun final => (final.sessions.coordinator.providerObjects.get? 50).any fun object =>
        final.Quiet ∧ final.sessions.coordinator.providerSessions.contains 50 = true ∧
          (final.sentTo object.callback).getLast?.map (·.infos) ≠
            some (final.manager.collectClientInfos object.serviceId)) = true := by
    decide +kernel
  obtain ⟨final, reach, found⟩ := (Option.any_eq_true _ _).mp evaluated
  obtain ⟨object, foundObject, found⟩ := (Option.any_eq_true _ _).mp found
  obtain ⟨quiet, live, differ⟩ := of_decide_eq_true found
  exact ⟨final, object, reach, quiet, live, foundObject, differ⟩

/-- In `separate` the provider ends with the client that has subscribed. -/
theorem client_lists_converge_separate :
    ∃ final object,
      Transition.run (next String.length fun _ => true) {} separate = some final ∧
        final.sessions.coordinator.providerObjects.get? 50 = some object ∧
          (final.manager.collectClientInfos object.serviceId).length = 1 ∧
            (final.sentTo object.callback).getLast?.map (·.infos) =
              some (final.manager.collectClientInfos object.serviceId) := by
  have evaluated : (Transition.run (next String.length fun _ => true) {} separate).any
      (fun final => (final.sessions.coordinator.providerObjects.get? 50).any fun object =>
        final.Quiet ∧ final.sessions.coordinator.providerSessions.contains 50 = true ∧
          (final.manager.collectClientInfos object.serviceId).length = 1) = true := by
    decide +kernel
  have ordered : Transition.Along (next String.length fun _ => true)
      (fun system action => system.inOrder action = true) {} separate := by
    decide +kernel
  obtain ⟨final, reach, found⟩ := (Option.any_eq_true _ _).mp evaluated
  obtain ⟨object, foundObject, found⟩ := (Option.any_eq_true _ _).mp found
  obtain ⟨quiet, live, single⟩ := of_decide_eq_true found
  exact ⟨final, object, reach, foundObject, single,
    client_lists_converge String.length (fun _ => true) ordered reach quiet live foundObject rfl⟩

end ClientStatusSystem

end SecurityGuard
