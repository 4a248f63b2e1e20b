import SecurityGuard.Service.Clients
import SecurityGuard.Subscribe.Outcome
import SecurityGuard.Subscribe.Revision

/-!
# Clients of the service and sessions of the manager

The service knows the callback of every client it has created, and the manager has a session for
it.  `CreatClient` and `DestoryClient` keep both; a death and the older form of `Unsubscribe` end
a session behind the service, whose client can then never be created again.
-/

namespace SecurityGuard

namespace DataCollectManagerService

variable {σ : Type} {config : ConfigData} {env : Externals σ}
  {service : DataCollectManagerService σ} {caller : Caller}

/-- Every client of the service has a session with its callback. -/
def Registered (service : DataCollectManagerService σ) : Prop :=
  ∀ clientId callback, service.clientCallBacks.get? clientId = some callback →
    ∃ session, service.manager.sessionsMap.get? clientId = some session ∧
      session.callback = callback

/-- A client without a session can be created by a caller whom the checks let pass. -/
def Recreatable (config : ConfigData) (env : Externals σ)
    (service : DataCollectManagerService σ) : Prop :=
  ∀ caller eventGroup clientId callback,
    service.manager.sessionsMap.contains clientId = false → eventGroup ≠ "" →
      config.checkClientGroup caller eventGroup [] = .success →
        service.manager.isExceedLimited clientId eventGroup caller.pid = .success →
          (service.creatClient config env caller eventGroup clientId (some callback)).1 = .success

/-- A session that ends without `DestoryClient` is not that of a client of the service: neither the
first session of a callback that dies, nor one whose last event is given up in the older
form. -/
def EndsNoClient (config : ConfigData) (env : Externals σ) (service : DataCollectManagerService σ)
    (call : Caller × ServiceCall) : Prop :=
  match call.2 with
  | .unsubscribe eventId eventGroup _ clientId =>
      config.checkSubscribeInfo call.1 .unSubscribe eventGroup eventId = .success →
        service.clientCallBacks.contains clientId = true →
          ∀ session ∈ service.manager.sessionsMap.get? clientId,
            session.subEvents.contains eventId = true →
              (session.withoutEvent eventId).subEvents.size ≠ 0 ∨
                ((service.manager.withoutSubscription eventId clientId
                  session).unSubscribeScIfLast config env eventId).1 ≠ .success
  | .onRemoteDied callback =>
      ∀ entry ∈ service.manager.sessionsMap.entries.find? fun entry =>
          entry.2.callback = callback,
        service.clientCallBacks.contains entry.1 = false
  | _ => True

instance (config : ConfigData) (env : Externals σ) (service : DataCollectManagerService σ)
    (call : Caller × ServiceCall) : Decidable (EndsNoClient config env service call) := by
  rw [EndsNoClient]
  split <;> infer_instance

theorem Registered.of_sessions (registered : service.Registered)
    {after : DataCollectManagerService σ}
    (clients : after.clientCallBacks = service.clientCallBacks)
    (keeps : ∀ clientId session, service.manager.sessionsMap.get? clientId = some session →
      service.clientCallBacks.contains clientId = true →
        ∃ later, after.manager.sessionsMap.get? clientId = some later ∧
          later.callback = session.callback) : after.Registered := by
  intro clientId callback found
  rw [clients] at found
  obtain ⟨session, present, same⟩ := registered clientId callback found
  obtain ⟨later, kept, owner⟩ :=
    keeps clientId session present (SortedMap.contains_iff.mpr ⟨callback, found⟩)
  exact ⟨later, kept, owner.trans same⟩

theorem Registered.of_sessionsMap (registered : service.Registered)
    {after : DataCollectManagerService σ}
    (clients : after.clientCallBacks = service.clientCallBacks)
    (same : after.manager.sessionsMap = service.manager.sessionsMap) : after.Registered :=
  registered.of_sessions clients fun _ session found _ => ⟨session, same ▸ found, rfl⟩

theorem Registered.of_insert (registered : service.Registered)
    {after : DataCollectManagerService σ} {clientId : String} {session : ClientSession}
    (clients : after.clientCallBacks = service.clientCallBacks)
    (changed : after.manager.sessionsMap = service.manager.sessionsMap.insert clientId session)
    (owner : ∀ old, service.manager.sessionsMap.get? clientId = some old →
      session.callback = old.callback) : after.Registered := by
  refine registered.of_sessions clients fun other old found _ => ?_
  rw [changed, SortedMap.get?_insert]
  split_ifs with same
  · exact ⟨session, rfl, owner old (same ▸ found)⟩
  · exact ⟨old, found, rfl⟩

theorem Registered.of_modify (registered : service.Registered)
    {after : DataCollectManagerService σ} {clientId : String}
    {change : ClientSession → ClientSession}
    (clients : after.clientCallBacks = service.clientCallBacks)
    (changed : after.manager.sessionsMap = service.manager.sessionsMap.modify clientId change)
    (owner : ∀ session, (change session).callback = session.callback) : after.Registered := by
  refine registered.of_sessions clients fun other old found _ => ?_
  rw [changed, SortedMap.get?_modify]
  split_ifs with same
  · subst same
    exact ⟨change old, by rw [found]; rfl, owner old⟩
  · exact ⟨old, found, rfl⟩

/-- The session of a client that the service does not know ends. -/
theorem Registered.of_erase (registered : service.Registered)
    {after : DataCollectManagerService σ} {clientId : String}
    (clients : after.clientCallBacks = service.clientCallBacks)
    (ended : after.manager.sessionsMap = service.manager.sessionsMap.erase clientId)
    (unknown : service.clientCallBacks.contains clientId = false) : after.Registered := by
  refine registered.of_sessions clients fun other old found known => ?_
  have ne : other ≠ clientId := by
    rintro rfl
    rw [known] at unknown
    exact Bool.noConfusion unknown
  rw [ended, SortedMap.get?_erase, if_neg ne]
  exact ⟨old, found, rfl⟩

theorem Registered.subscribe (registered : service.Registered) (eventId : Int)
    (eventGroup : String) (callback : Address) (clientId : String) :
    (service.subscribe config env caller eventId eventGroup callback clientId).2.Registered := by
  rw [DataCollectManagerService.subscribe]
  split_ifs
  · exact registered
  · rcases Manager.insertSubscribeRecordWith_cases config env service.manager clientId
      { eventId, eventGroup, callback, callerPid := caller.pid } with same | changed
    · exact registered.of_sessionsMap rfl same
    · refine registered.of_insert rfl changed fun old found => ?_
      rw [found]
      rfl

theorem Registered.unsubscribe (registered : service.Registered) {eventId : Int}
    {eventGroup : String} {callback : Address} {clientId : String}
    (ends : EndsNoClient config env service
      (caller, .unsubscribe eventId eventGroup callback clientId)) :
    (service.unsubscribe config env caller eventId eventGroup callback clientId).2.Registered := by
  rw [DataCollectManagerService.unsubscribe]
  split_ifs with refused
  · exact registered
  · have cases := Manager.removeSubscribeRecordCore_cases config env service.manager clientId
      eventId true
    simp only [manage, withManager, removeDeathRecipient_manager]
    rcases cases with same | ⟨session, found, had, stopped, changed⟩
    · exact registered.of_sessionsMap (by simp) same
    · by_cases last : (session.withoutEvent eventId).subEvents.size = 0
      · rw [if_pos ⟨rfl, last⟩] at changed
        refine registered.of_erase (by simp) changed ?_
        by_contra known
        rw [Bool.not_eq_false] at known
        rcases ends (not_not.mp refused) known session found had with more | failed
        · exact more last
        · exact failed stopped
      · rw [if_neg fun both => last both.2] at changed
        refine registered.of_insert (by simp) changed fun old present => ?_
        obtain rfl := Option.some.inj (found.symm.trans present)
        rfl

theorem Registered.subscribeEvent (registered : service.Registered) (eventId : Int)
    (clientId : String) :
    (service.subscribeEvent config env caller eventId clientId).2.Registered := by
  rw [DataCollectManagerService.subscribeEvent]
  split_ifs
  · exact registered
  · rcases Manager.insertSubscribeRecord_cases config env service.manager clientId eventId with
      same | ⟨session, found, changed⟩
    · exact registered.of_sessionsMap rfl same
    · refine registered.of_insert rfl changed fun old present => ?_
      obtain rfl := Option.some.inj (found.symm.trans present)
      rfl

theorem Registered.unsubscribeEvent (registered : service.Registered) (eventId : Int)
    (clientId : String) :
    (service.unsubscribeEvent config env caller eventId clientId).2.Registered := by
  rw [DataCollectManagerService.unsubscribeEvent]
  split_ifs
  · exact registered
  · rcases Manager.removeSubscribeRecordCore_cases config env service.manager clientId eventId
      false with same | ⟨session, found, _, _, changed⟩
    · exact registered.of_sessionsMap rfl same
    · rw [if_neg (by simp)] at changed
      refine registered.of_insert rfl changed fun old present => ?_
      obtain rfl := Option.some.inj (found.symm.trans present)
      rfl

theorem Registered.unknown (registered : service.Registered) {clientId : String}
    (absent : service.manager.sessionsMap.contains clientId = false) :
    service.clientCallBacks.contains clientId = false := by
  by_contra known
  rw [Bool.not_eq_false] at known
  obtain ⟨callback, found⟩ := SortedMap.contains_iff.mp known
  obtain ⟨session, present, -⟩ := registered clientId callback found
  rw [SortedMap.contains_iff.mpr ⟨session, present⟩] at absent
  exact Bool.noConfusion absent

/-- The two steps of a creation enter the session and then the callback. -/
theorem creatClient_of_passes (registered : service.Registered) {eventGroup clientId : String}
    {callback : Address} (absent : service.manager.sessionsMap.contains clientId = false)
    (named : eventGroup ≠ "")
    (passes : config.checkClientGroup caller eventGroup [] = .success)
    (limited : service.manager.isExceedLimited clientId eventGroup caller.pid = .success) :
    (service.creatClient config env caller eventGroup clientId (some callback)).1 = .success := by
  have unknown := registered.unknown absent
  have entered : service.manager.enterClient eventGroup clientId caller.pid callback =
      (.success, { service.manager with
        sessionsMap := service.manager.sessionsMap.insert clientId
          { pid := caller.pid, callback, clientId, eventGroup } }) := by
    rw [Manager.enterClient, absent]
    rfl
  rw [creatClient, if_neg named, passes]
  simp [manage, withManager, Manager.creatClient, limited, entered, setDeathCallBack, unknown]

theorem Registered.creatClient (registered : service.Registered) (eventGroup clientId : String)
    (callback : Option Address) :
    (service.creatClient config env caller eventGroup clientId callback).2.Registered := by
  rw [DataCollectManagerService.creatClient.eq_def]
  cases callback with
  | none =>
      dsimp only
      split_ifs <;> exact registered
  | some callback =>
      let info : Manager.SubscribeInfo :=
        { eventId := 0, eventGroup, callback, callerPid := caller.pid }
      have created := Manager.creatClient_cases service.manager clientId eventGroup caller.pid
        callback
      dsimp only
      split_ifs with _ _ refused known
      · exact registered
      · exact registered
      · rcases created with ⟨-, same⟩ | ⟨success, -, -⟩
        · exact registered.of_sessionsMap rfl (congrArg Manager.sessionsMap same)
        · exact absurd success refused
      · obtain ⟨-, absent, -⟩ := created.resolve_left fun failed => failed.1 (not_not.mp refused)
        have missing : service.manager.sessionsMap.contains clientId = false := by
          simp [SortedMap.contains, absent]
        have unknown := registered.unknown missing
        exact absurd known (by simp [setDeathCallBack, manage, withManager, unknown])
      · obtain ⟨-, absent, same⟩ := created.resolve_left fun failed => failed.1 (not_not.mp refused)
        have sessions : (service.manager.creatClient eventGroup clientId caller.pid
            callback).2.sessionsMap =
              service.manager.sessionsMap.insert clientId (info.session clientId) := by
          rw [same, Manager.withSession, if_neg (by simp [SortedMap.contains, absent])]
        intro other owner found
        change (service.clientCallBacks.insert clientId callback).get? other = some owner at found
        change ∃ session, (service.manager.creatClient eventGroup clientId caller.pid
          callback).2.sessionsMap.get? other = some session ∧ _
        rw [SortedMap.get?_insert] at found
        rw [sessions, SortedMap.get?_insert]
        split_ifs at found ⊢ with own
        · exact ⟨_, rfl, Option.some.inj found⟩
        · exact registered other owner found

theorem Registered.destoryClient (registered : service.Registered)
    (eventGroup clientId : String) :
    (service.destoryClient config env caller eventGroup clientId).2.Registered := by
  have erased := Manager.destoryClient_sessionsMap config env service.manager clientId
  rw [DataCollectManagerService.destoryClient]
  cases known : service.clientCallBacks.get? clientId with
  | none =>
      dsimp only
      split_ifs <;> exact registered
  | some callback =>
      obtain ⟨session, found, -⟩ := registered clientId callback known
      have destroyed : (service.manager.destoryClient config env clientId).1 = .success := by
        simp [Manager.destoryClient, Manager.leaveClient, found]
      dsimp only
      split_ifs with _ _ failed
      · exact registered
      · exact registered
      · exact absurd destroyed failed
      · intro other owner found
        simp only [manage, withManager, removeDeathRecipient_clientCallBacks,
          SortedMap.get?_erase] at found
        simp only [manage, withManager, removeDeathRecipient_manager, erased,
          SortedMap.get?_erase]
        split_ifs at found ⊢
        exact registered other owner found

theorem Registered.onRemoteDied (registered : service.Registered) {callback : Address}
    (ends : EndsNoClient config env service (caller, .onRemoteDied callback)) :
    (service.onRemoteDied config env callback).Registered := by
  have ended := Manager.removeSubscribeRecordOnRemoteDied_sessionsMap config env service.manager
    callback
  cases owner : service.manager.sessionsMap.entries.find? fun entry =>
      entry.2.callback = callback with
  | none =>
      rw [owner] at ended
      exact registered.of_sessionsMap (by simp [DataCollectManagerService.onRemoteDied,
        withManager]) (by simpa [DataCollectManagerService.onRemoteDied, withManager] using ended)
  | some entry =>
      rw [owner] at ended
      exact registered.of_erase (by simp [DataCollectManagerService.onRemoteDied, withManager])
        (by simpa [DataCollectManagerService.onRemoteDied, withManager] using ended)
        (ends entry owner)

theorem Registered.addFilter (registered : service.Registered) (filter : EventMuteFilter)
    (clientId : String) :
    (service.addFilter config env caller filter clientId).2.Registered := by
  rw [DataCollectManagerService.addFilter]
  split_ifs
  · exact registered
  · rcases Manager.insertSubscribeMute_cases config env service.manager clientId filter with
      same | changed
    · exact registered.of_sessionsMap rfl same
    · exact registered.of_modify rfl changed fun _ => rfl

theorem Registered.removeFilter (registered : service.Registered) (filter : EventMuteFilter)
    (clientId : String) :
    (service.removeFilter config env caller filter clientId).2.Registered := by
  rw [DataCollectManagerService.removeFilter]
  split_ifs
  · exact registered
  · rcases Manager.removeSubscribeMute_cases config env service.manager clientId filter with
      same | changed
    · exact registered.of_sessionsMap rfl same
    · exact registered.of_modify rfl changed fun _ => rfl

theorem Registered.next {call : Caller × ServiceCall} {after : DataCollectManagerService σ}
    (registered : service.Registered) (ends : EndsNoClient config env service call)
    (taken : next config env service call = some after) : after.Registered := by
  obtain ⟨caller, call⟩ := call
  obtain rfl := Option.some.inj taken
  cases call with
  | subscribe eventId eventGroup callback clientId =>
      exact registered.subscribe eventId eventGroup callback clientId
  | unsubscribe eventId eventGroup callback clientId => exact registered.unsubscribe ends
  | subscribeEvent eventId clientId => exact registered.subscribeEvent eventId clientId
  | unsubscribeEvent eventId clientId => exact registered.unsubscribeEvent eventId clientId
  | creatClient eventGroup clientId callback =>
      exact registered.creatClient eventGroup clientId callback
  | destoryClient eventGroup clientId => exact registered.destoryClient eventGroup clientId
  | addFilter filter clientId => exact registered.addFilter filter clientId
  | removeFilter filter clientId => exact registered.removeFilter filter clientId
  | onRemoteDied callback => exact registered.onRemoteDied ends

/-- When sessions of the service's clients end through `DestoryClient` only, every client has its
session after every call, and a client without a session can be created again. -/
theorem clients_have_sessions {world : σ} {final : DataCollectManagerService σ}
    {calls : List (Caller × ServiceCall)}
    (permitted : Transition.Along (next config env) (EndsNoClient config env)
      { manager := { world } } calls)
    (reach : Transition.run (next config env) { manager := { world } } calls = some final) :
    final.Registered ∧ final.Recreatable config env := by
  have start : ({ manager := { world } } : DataCollectManagerService σ).Registered := by
    intro clientId callback found
    simp at found
  have step {before after : DataCollectManagerService σ} {call : Caller × ServiceCall}
      (registered : before.Registered) (ends : EndsNoClient config env before call)
      (taken : next config env before call = some after) : after.Registered :=
    registered.next ends taken
  have registered := Transition.run_invariant step start permitted reach
  exact ⟨registered, fun caller eventGroup clientId callback absent named passes limited =>
    creatClient_of_passes registered absent named passes limited⟩

/-- A client is created and destroyed, and its id is used again. -/
def createdAgain : List (Caller × ServiceCall) :=
  [(systemCaller, .creatClient "securityGroup" "c" (some 100)),
    (systemCaller, .destoryClient "securityGroup" "c"),
    (systemCaller, .creatClient "securityGroup" "c" (some 200)),
    (systemCaller, .onRemoteDied 100)]

/-- The service after calls that begin without clients. -/
def serviceRun (calls : List (Caller × ServiceCall)) : DataCollectManagerService Unit :=
  (Transition.run (next twoGroupConfig noExternals) { manager := { world := () } } calls).getD
    { manager := { world := () } }

theorem clients_have_sessions_createdAgain :
    (serviceRun createdAgain).Registered ∧
      (serviceRun createdAgain).Recreatable twoGroupConfig noExternals :=
  @clients_have_sessions Unit twoGroupConfig noExternals () _ createdAgain (by decide +kernel)
    (Transition.run_eq_getD (by decide +kernel))

/-- The process of a client dies. -/
def ownerDies : List (Caller × ServiceCall) :=
  [(systemCaller, .creatClient "securityGroup" "c" (some 100)), (systemCaller, .onRemoteDied 100)]

/-- A client whose process died stays with the service without a session. -/
theorem dead_client_stays :
    ¬∀ (calls : List (Caller × ServiceCall)) (final : DataCollectManagerService Unit),
      Transition.run (next twoGroupConfig noExternals) { manager := { world := () } } calls =
          some final →
        final.Registered ∧ final.Recreatable twoGroupConfig noExternals := by
  intro always
  obtain ⟨registered, -⟩ := always ownerDies (serviceRun ownerDies)
    (Transition.run_eq_getD (by decide +kernel))
  have known : (serviceRun ownerDies).clientCallBacks.get? "c" = some 100 := by decide +kernel
  have ended : (serviceRun ownerDies).manager.sessionsMap.get? "c" = none := by decide +kernel
  obtain ⟨session, found, -⟩ := registered "c" 100 known
  rw [ended] at found
  exact absurd found (by simp)

end DataCollectManagerService

end SecurityGuard
