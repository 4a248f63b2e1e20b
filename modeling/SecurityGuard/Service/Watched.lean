import SecurityGuard.Service.Registration

/-!
# Death notices of the sessions

A session ends with its process only if the recipient of death notices is registered on its
callback.  Registrations are added and removed call by call while sessions are entered and ended
client by client.  A call that takes the last registration off a callback leaves a session
unwatched unless it ends every session that holds the callback.
-/

namespace SecurityGuard

namespace DataCollectManagerService

variable {σ : Type} {config : ConfigData} {env : Externals σ}
  {service after : DataCollectManagerService σ} {caller : Caller}

/-- How often the recipient is registered on a callback. -/
def registrationsOf (service : DataCollectManagerService σ) (callback : Address) : Nat :=
  (service.registrations.get? callback).getD 0

/-- The death of every callback that a session holds is noticed. -/
def Watched (service : DataCollectManagerService σ) : Prop :=
  ∀ clientId session, service.manager.sessionsMap.get? clientId = some session →
    0 < service.registrationsOf session.callback

/-- Removing the recipient from a callback takes its last registration. -/
def TakesLast (service : DataCollectManagerService σ) (callback : Address) : Prop :=
  service.deathRecipient = true ∧ service.registrationsOf callback = 1

/-- Every session with a callback is one of the given clients. -/
def HeldOnlyBy (service : DataCollectManagerService σ) (callback : Address)
    (ends : String → Prop) : Prop :=
  ∀ clientId session, service.manager.sessionsMap.get? clientId = some session →
    session.callback = callback → ends clientId

/-- Giving up an event in the older form ends the session of its client: the event is the only
one of the session, and its collector can be given up where that is needed. -/
def endsSession (config : ConfigData) (env : Externals σ)
    (service : DataCollectManagerService σ) (eventId : Int) (clientId : String) : Bool :=
  (service.manager.sessionsMap.get? clientId).any fun session =>
    session.subEvents.contains eventId ∧ (session.withoutEvent eventId).subEvents.size = 0 ∧
      ((service.manager.withoutSubscription eventId clientId session).unSubscribeScIfLast config
        env eventId).1 = .success

/-- A call that takes the last registration off a callback ends every session that holds it. -/
def StaysWatched (config : ConfigData) (env : Externals σ)
    (service : DataCollectManagerService σ) (call : Caller × ServiceCall) : Prop :=
  match call.2 with
  | .unsubscribe eventId eventGroup callback clientId =>
      config.checkSubscribeInfo call.1 .unSubscribe eventGroup eventId = .success →
        service.TakesLast callback →
          service.HeldOnlyBy callback fun holder =>
            holder = clientId ∧ service.endsSession config env eventId clientId = true
  | .destoryClient eventGroup clientId =>
      eventGroup ≠ "" → config.checkClientGroup call.1 eventGroup [] = .success →
        service.manager.sessionsMap.contains clientId = true →
          ∀ callback, service.clientCallBacks.get? clientId = some callback →
            service.TakesLast callback →
              service.HeldOnlyBy callback fun holder => holder = clientId
  | .onRemoteDied callback =>
      service.TakesLast callback →
        service.HeldOnlyBy callback fun holder =>
          ∃ entry, (service.manager.sessionsMap.entries.find? fun entry =>
            entry.2.callback = callback) = some entry ∧ entry.1 = holder
  | _ => True

theorem registrationsOf_setDeathCallBack (callback other : Address) :
    (service.setDeathCallBack callback).registrationsOf other =
      if other = callback then service.registrationsOf callback + 1
      else service.registrationsOf other := by
  rw [registrationsOf, setDeathCallBack, SortedMap.get?_insert]
  split_ifs <;> rfl

theorem registrationsOf_removeDeathRecipient (callback other : Address) :
    (service.removeDeathRecipient callback).registrationsOf other =
      if service.deathRecipient = true ∧ other = callback then
        service.registrationsOf callback - 1
      else service.registrationsOf other := by
  rw [removeDeathRecipient]
  cases recipient : service.deathRecipient with
  | false => simp
  | true =>
      simp only [Bool.not_true, Bool.false_eq_true, if_false, true_and]
      by_cases same : other = callback
      · subst same
        rw [if_pos rfl]
        split
        · next absent => simp [registrationsOf, absent]
        · next none => simp [registrationsOf, none]
        · next once => simp [registrationsOf, once]
        · next count more => simp [registrationsOf, more]
      · rw [if_neg same]
        split
        · rfl
        · rfl
        · simp [registrationsOf, same]
        · simp [registrationsOf, same]

theorem registrations_withManager (manager : Manager σ) (callback : Address) :
    ((service.withManager manager).removeDeathRecipient callback).registrations =
      (service.removeDeathRecipient callback).registrations := by
  rw [removeDeathRecipient, removeDeathRecipient, withManager]
  cases service.deathRecipient with
  | false => rfl
  | true => rcases service.registrations.get? callback with _ | _ | _ | count <;> rfl

/-- Each session has its callback from before the call. -/
def HeldBefore (before after : DataCollectManagerService σ) : Prop :=
  ∀ clientId session, after.manager.sessionsMap.get? clientId = some session →
    ∃ old, before.manager.sessionsMap.get? clientId = some old ∧
      old.callback = session.callback

theorem HeldBefore.of_sessionsMap
    (same : after.manager.sessionsMap = service.manager.sessionsMap) :
    service.HeldBefore after :=
  fun _ session found => ⟨session, same ▸ found, rfl⟩

theorem Watched.of_registrations (watched : service.Watched)
    (more : ∀ callback, service.registrationsOf callback ≤ after.registrationsOf callback)
    (held : ∀ clientId session, after.manager.sessionsMap.get? clientId = some session →
      0 < after.registrationsOf session.callback ∨
        ∃ old, service.manager.sessionsMap.get? clientId = some old ∧
          old.callback = session.callback) : after.Watched := by
  intro clientId session found
  rcases held clientId session found with watchedNow | ⟨old, present, same⟩
  · exact watchedNow
  · exact Nat.lt_of_lt_of_le (same ▸ watched clientId old present) (more session.callback)

theorem Watched.same (watched : service.Watched)
    (registrations : after.registrations = service.registrations)
    (held : service.HeldBefore after) : after.Watched := by
  refine watched.of_registrations (fun callback => ?_) fun clientId session found =>
    .inr (held clientId session found)
  rw [registrationsOf, registrationsOf, registrations]

/-- A call that adds a registration on a callback and enters sessions of this callback only. -/
theorem Watched.setDeathCallBack (watched : service.Watched) (callback : Address)
    (registrations : after.registrations = (service.setDeathCallBack callback).registrations)
    (held : ∀ clientId session, after.manager.sessionsMap.get? clientId = some session →
      session.callback = callback ∨
        ∃ old, service.manager.sessionsMap.get? clientId = some old ∧
          old.callback = session.callback) : after.Watched := by
  have counts (other : Address) : after.registrationsOf other =
      if other = callback then service.registrationsOf callback + 1
      else service.registrationsOf other := by
    rw [← registrationsOf_setDeathCallBack, registrationsOf, registrations]
    rfl
  refine watched.of_registrations (fun other => ?_) fun clientId session found => ?_
  · rw [counts]
    split_ifs with same
    · rw [same]
      omega
    · exact Nat.le_refl _
  · rcases held clientId session found with same | old
    · refine .inl ?_
      rw [counts, if_pos same]
      omega
    · exact .inr old

/-- After the recipient is removed from a callback the sessions are watched exactly if none holds
the callback, in case the registration was the last one. -/
theorem Watched.removeDeathRecipient_iff (watched : service.Watched) {callback : Address}
    (held : service.HeldBefore after)
    (registrations : after.registrations =
      (service.removeDeathRecipient callback).registrations) :
    after.Watched ↔ (service.TakesLast callback → after.HeldOnlyBy callback fun _ => False) := by
  have counts (other : Address) : after.registrationsOf other =
      if service.deathRecipient = true ∧ other = callback then
        service.registrationsOf callback - 1
      else service.registrationsOf other := by
    rw [← registrationsOf_removeDeathRecipient, registrationsOf, registrations]
    rfl
  constructor
  · rintro watchedAfter ⟨recipient, last⟩ clientId session found same
    have positive := watchedAfter clientId session found
    rw [counts, if_pos ⟨recipient, same⟩, last] at positive
    exact Nat.lt_irrefl 0 positive
  · intro unheld clientId session found
    obtain ⟨old, present, same⟩ := held clientId session found
    have positive : 0 < service.registrationsOf session.callback :=
      same ▸ watched clientId old present
    rw [counts]
    split_ifs with taken
    · have more : service.registrationsOf callback ≠ 1 := fun last =>
        unheld ⟨taken.1, last⟩ clientId session found taken.2
      rw [taken.2] at positive
      omega
    · exact positive

theorem HeldBefore.of_insert {clientId : String} {session old : ClientSession}
    (found : service.manager.sessionsMap.get? clientId = some old)
    (changed : after.manager.sessionsMap =
      service.manager.sessionsMap.insert clientId session)
    (owner : session.callback = old.callback) : service.HeldBefore after := by
  intro other later present
  rw [changed] at present
  rcases SortedMap.get?_insert_eq_some.mp present with ⟨rfl, rfl⟩ | ⟨-, present⟩
  · exact ⟨old, found, owner.symm⟩
  · exact ⟨later, present, rfl⟩

theorem HeldBefore.of_modify {clientId : String} {change : ClientSession → ClientSession}
    (changed : after.manager.sessionsMap =
      service.manager.sessionsMap.modify clientId change)
    (owner : ∀ session, (change session).callback = session.callback) :
    service.HeldBefore after := by
  intro other later present
  rw [changed] at present
  rcases SortedMap.get?_modify_eq_some.mp present with ⟨-, old, found, rfl⟩ | ⟨-, present⟩
  · exact ⟨old, found, (owner old).symm⟩
  · exact ⟨later, present, rfl⟩

theorem HeldBefore.of_erase {clientId : String}
    (ended : after.manager.sessionsMap = service.manager.sessionsMap.erase clientId) :
    service.HeldBefore after := by
  intro other later present
  rw [ended] at present
  exact ⟨later, (SortedMap.get?_erase_eq_some.mp present).2, rfl⟩

/-- When every session is still there, nobody holds the callback only if nobody held it. -/
theorem heldOnlyBy_of_kept {callback : Address} {ends : String → Prop}
    (kept : ∀ clientId session, service.manager.sessionsMap.get? clientId = some session →
      ∃ later, after.manager.sessionsMap.get? clientId = some later ∧
        later.callback = session.callback)
    (held : service.HeldBefore after)
    (endsNone : ∀ clientId session, service.manager.sessionsMap.get? clientId = some session →
      ¬ends clientId) :
    (after.HeldOnlyBy callback fun _ => False) ↔ service.HeldOnlyBy callback ends := by
  constructor
  · intro unheld clientId session found same
    obtain ⟨later, present, owner⟩ := kept clientId session found
    exact False.elim (unheld clientId later present (owner.trans same))
  · intro only clientId later present same
    obtain ⟨old, found, owner⟩ := held clientId later present
    exact endsNone clientId old found (only clientId old found (owner.trans same))

theorem heldOnlyBy_of_erase {callback : Address} {clientId : String}
    (ended : after.manager.sessionsMap = service.manager.sessionsMap.erase clientId) :
    (after.HeldOnlyBy callback fun _ => False) ↔
      service.HeldOnlyBy callback fun holder => holder = clientId := by
  constructor
  · intro unheld holder session found same
    by_contra different
    refine unheld holder session ?_ same
    rw [ended, SortedMap.get?_erase, if_neg different, found]
  · intro only holder session found same
    rw [ended] at found
    obtain ⟨different, found⟩ := SortedMap.get?_erase_eq_some.mp found
    exact different (only holder session found same)

theorem Watched.subscribe (watched : service.Watched) (eventId : Int) (eventGroup : String)
    (callback : Address) (clientId : String) :
    (service.subscribe config env caller eventId eventGroup callback clientId).2.Watched := by
  rw [DataCollectManagerService.subscribe]
  split_ifs
  · exact watched
  · refine watched.setDeathCallBack callback rfl ?_
    rcases Manager.insertSubscribeRecordWith_cases config env service.manager clientId
      { eventId, eventGroup, callback, callerPid := caller.pid } with same | changed
    · exact fun other session found => .inr ⟨session, same ▸ found, rfl⟩
    · intro other session found
      replace found := (congrArg (·.get? other) changed).symm.trans found
      rw [SortedMap.get?_insert] at found
      split_ifs at found with own
      · obtain rfl := Option.some.inj found
        cases present : service.manager.sessionsMap.get? clientId with
        | none => exact .inl rfl
        | some old => exact .inr ⟨old, own ▸ present, rfl⟩
      · exact .inr ⟨session, found, rfl⟩

theorem Watched.subscribeEvent (watched : service.Watched) (eventId : Int) (clientId : String) :
    (service.subscribeEvent config env caller eventId clientId).2.Watched := by
  rw [DataCollectManagerService.subscribeEvent]
  split_ifs
  · exact watched
  · rcases Manager.insertSubscribeRecord_cases config env service.manager clientId eventId with
      same | ⟨session, found, changed⟩
    · exact watched.same rfl (.of_sessionsMap same)
    · exact watched.same rfl (.of_insert found changed rfl)

theorem Watched.unsubscribeEvent (watched : service.Watched) (eventId : Int)
    (clientId : String) :
    (service.unsubscribeEvent config env caller eventId clientId).2.Watched := by
  rw [DataCollectManagerService.unsubscribeEvent]
  split_ifs
  · exact watched
  · rcases Manager.removeSubscribeRecordCore_cases config env service.manager clientId eventId
      false with same | ⟨session, found, _, _, changed⟩
    · exact watched.same rfl (.of_sessionsMap same)
    · rw [if_neg (by simp)] at changed
      exact watched.same rfl (.of_insert found changed rfl)

theorem Watched.creatClient (watched : service.Watched) (eventGroup clientId : String)
    (callback : Option Address) :
    (service.creatClient config env caller eventGroup clientId callback).2.Watched := by
  rw [DataCollectManagerService.creatClient.eq_def]
  cases callback with
  | none =>
      dsimp only
      split_ifs <;> exact watched
  | some callback =>
      have created := Manager.creatClient_cases service.manager clientId eventGroup caller.pid
        callback
      dsimp only
      split_ifs with _ _ refused known
      · exact watched
      · exact watched
      · obtain ⟨-, same⟩ := created.resolve_right fun success => refused success.1
        exact watched.same rfl (.of_sessionsMap (congrArg Manager.sessionsMap same))
      all_goals
        obtain ⟨-, absent, same⟩ := created.resolve_left fun failed => failed.1 (not_not.mp refused)
        have sessions : (service.manager.creatClient eventGroup clientId caller.pid
            callback).2.sessionsMap = service.manager.sessionsMap.insert clientId
              { pid := caller.pid, callback, clientId, eventGroup } := by
          rw [same, Manager.withSession, if_neg (by simp [SortedMap.contains, absent])]
          rfl
        refine watched.setDeathCallBack callback rfl fun other session found => ?_
      · have left := Manager.destoryClient_sessionsMap config env
          (service.manager.creatClient eventGroup clientId caller.pid callback).2 clientId
        rw [sessions, SortedMap.erase_insert] at left
        replace found := (congrArg (·.get? other) left).symm.trans found
        exact .inr ⟨session, (SortedMap.get?_erase_eq_some.mp found).2, rfl⟩
      · replace found := (congrArg (·.get? other) sessions).symm.trans found
        rcases SortedMap.get?_insert_eq_some.mp found with ⟨-, rfl⟩ | ⟨-, found⟩
        · exact .inl rfl
        · exact .inr ⟨session, found, rfl⟩

theorem Watched.addFilter (watched : service.Watched) (filter : EventMuteFilter)
    (clientId : String) :
    (service.addFilter config env caller filter clientId).2.Watched := by
  rw [DataCollectManagerService.addFilter]
  split_ifs
  · exact watched
  · rcases Manager.insertSubscribeMute_cases config env service.manager clientId filter with
      same | changed
    · exact watched.same rfl (.of_sessionsMap same)
    · exact watched.same rfl (.of_modify changed fun _ => rfl)

theorem Watched.removeFilter (watched : service.Watched) (filter : EventMuteFilter)
    (clientId : String) :
    (service.removeFilter config env caller filter clientId).2.Watched := by
  rw [DataCollectManagerService.removeFilter]
  split_ifs
  · exact watched
  · rcases Manager.removeSubscribeMute_cases config env service.manager clientId filter with
      same | changed
    · exact watched.same rfl (.of_sessionsMap same)
    · exact watched.same rfl (.of_modify changed fun _ => rfl)

/-! ## Calls that take a registration away -/

theorem endsSession_of_get? {eventId : Int} {clientId : String} {session : ClientSession}
    (found : service.manager.sessionsMap.get? clientId = some session) :
    service.endsSession config env eventId clientId = true ↔
      session.subEvents.contains eventId = true ∧
        (session.withoutEvent eventId).subEvents.size = 0 ∧
          ((service.manager.withoutSubscription eventId clientId session).unSubscribeScIfLast
            config env eventId).1 = .success := by
  rw [endsSession, found, Option.any_some, decide_eq_true_eq]

/-- What the older form of giving up an event leaves of the sessions with a callback. -/
theorem heldOnlyBy_removeSubscribeRecordCore {callback : Address} {eventId : Int}
    {clientId : String}
    (sessions : after.manager.sessionsMap =
      (service.manager.removeSubscribeRecordCore config env eventId clientId
        true).2.sessionsMap) :
    service.HeldBefore after ∧
      ((after.HeldOnlyBy callback fun _ => False) ↔
        service.HeldOnlyBy callback fun holder =>
          holder = clientId ∧ service.endsSession config env eventId clientId = true) := by
  by_cases ends : service.endsSession config env eventId clientId = true
  · obtain ⟨session, found, -⟩ := (Option.any_eq_true _ _).mp ends
    obtain ⟨had, last, stopped⟩ := (endsSession_of_get? found).mp ends
    have ended := Manager.removeSubscribeRecordCore_of_subscribes config env found had true
    rw [if_neg (not_not.mpr stopped), if_pos ⟨rfl, last⟩] at ended
    refine ⟨.of_erase (sessions.trans ended), ?_⟩
    simpa only [ends, and_true] using heldOnlyBy_of_erase (sessions.trans ended)
  · have endsNone (holder : String) (session : ClientSession)
        (_ : service.manager.sessionsMap.get? holder = some session) :
        ¬(holder = clientId ∧ service.endsSession config env eventId clientId = true) :=
      fun both => ends both.2
    rcases Manager.removeSubscribeRecordCore_cases config env service.manager clientId eventId
      true with same | ⟨session, found, had, stopped, changed⟩
    · have held : service.HeldBefore after := .of_sessionsMap (sessions.trans same)
      refine ⟨held, heldOnlyBy_of_kept (fun holder old present => ?_) held endsNone⟩
      exact ⟨old, by rw [sessions, same, present], rfl⟩
    · have more : ¬(true = true ∧ (session.withoutEvent eventId).subEvents.size = 0) :=
        fun last => ends ((endsSession_of_get? found).mpr ⟨had, last.2, stopped⟩)
      rw [if_neg more] at changed
      have held : service.HeldBefore after := .of_insert found (sessions.trans changed) rfl
      refine ⟨held, heldOnlyBy_of_kept (fun holder old present => ?_) held endsNone⟩
      rw [sessions, changed, SortedMap.get?_insert]
      split_ifs with same
      · obtain rfl := Option.some.inj (found.symm.trans (same ▸ present))
        exact ⟨_, rfl, rfl⟩
      · exact ⟨old, present, rfl⟩

theorem Watched.unsubscribe_iff (watched : service.Watched) {eventId : Int}
    {eventGroup : String} {callback : Address} {clientId : String} :
    (service.unsubscribe config env caller eventId eventGroup callback clientId).2.Watched ↔
      StaysWatched config env service
        (caller, .unsubscribe eventId eventGroup callback clientId) := by
  rw [DataCollectManagerService.unsubscribe, StaysWatched]
  dsimp only
  split_ifs with refused
  · exact iff_of_true watched fun passed => absurd passed refused
  · have sessions : ((service.removeDeathRecipient callback).manage
        (·.removeSubscribeRecordCore config env eventId clientId true)).2.manager.sessionsMap =
          (service.manager.removeSubscribeRecordCore config env eventId clientId
            true).2.sessionsMap := by
      simp only [manage, withManager, removeDeathRecipient_manager]
    obtain ⟨held, unheld⟩ := heldOnlyBy_removeSubscribeRecordCore sessions
    rw [watched.removeDeathRecipient_iff held rfl, unheld, not_not.mp refused]
    exact ⟨fun only _ => only, fun only => only rfl⟩

theorem Watched.destoryClient_iff (watched : service.Watched) {eventGroup clientId : String} :
    (service.destoryClient config env caller eventGroup clientId).2.Watched ↔
      StaysWatched config env service (caller, .destoryClient eventGroup clientId) := by
  have erased := Manager.destoryClient_sessionsMap config env service.manager clientId
  rw [DataCollectManagerService.destoryClient, StaysWatched]
  dsimp only
  cases known : service.clientCallBacks.get? clientId with
  | none =>
      dsimp only
      split_ifs <;> exact iff_of_true watched fun _ _ _ _ absent => absent.elim
  | some callback =>
      dsimp only
      split_ifs with unnamed refused failed
      · exact iff_of_true watched fun named => absurd unnamed named
      · exact iff_of_true watched fun _ passed => absurd passed refused
      · refine iff_of_true (watched.same rfl (.of_erase erased)) fun _ _ present => ?_
        obtain ⟨session, found⟩ := SortedMap.contains_iff.mp present
        exact absurd (by simp [manage, Manager.destoryClient, Manager.leaveClient, found]) failed
      · have present : service.manager.sessionsMap.contains clientId = true := by
          by_contra absent
          have missing : service.manager.sessionsMap.get? clientId = none := by
            simpa [SortedMap.contains] using absent
          refine failed ?_
          rw [manage, Manager.destoryClient, Manager.leaveClient, missing]
          exact (by decide : Code.badParam ≠ .success)
        have sessions : ((service.manage (·.destoryClient config env
            clientId)).2.removeDeathRecipient callback).manager.sessionsMap =
              service.manager.sessionsMap.erase clientId := by
          rw [removeDeathRecipient_manager]
          exact erased
        refine (watched.removeDeathRecipient_iff (.of_erase sessions)
          (registrations_withManager _ callback)).trans ?_
        refine (imp_congr_right fun _ => heldOnlyBy_of_erase sessions).trans ?_
        constructor
        · intro only _ _ _ callback' same
          obtain rfl := Option.some.inj same
          exact only
        · exact fun only => only unnamed (not_not.mp refused) present callback rfl

theorem Watched.onRemoteDied_iff (watched : service.Watched) {callback : Address} :
    (service.onRemoteDied config env callback).Watched ↔
      StaysWatched config env service (caller, .onRemoteDied callback) := by
  have ended := Manager.removeSubscribeRecordOnRemoteDied_sessionsMap config env service.manager
    callback
  have sessions : (service.onRemoteDied config env callback).manager.sessionsMap =
      (service.manager.removeSubscribeRecordOnRemoteDied config env callback).sessionsMap := by
    rw [DataCollectManagerService.onRemoteDied, removeDeathRecipient_manager]
    rfl
  have registrations : (service.onRemoteDied config env callback).registrations =
      (service.removeDeathRecipient callback).registrations :=
    registrations_withManager _ callback
  rw [StaysWatched]
  dsimp only
  cases owner : service.manager.sessionsMap.entries.find? fun entry =>
      entry.2.callback = callback with
  | none =>
      rw [owner] at ended
      have held : service.HeldBefore (service.onRemoteDied config env callback) :=
        .of_sessionsMap (sessions.trans ended)
      rw [watched.removeDeathRecipient_iff held registrations]
      refine imp_congr_right fun _ => ?_
      refine heldOnlyBy_of_kept (fun holder session found => ?_) held ?_
      · exact ⟨session, by rw [sessions, ended, found], rfl⟩
      · rintro holder session - ⟨entry, absent, -⟩
        exact absurd absent (by simp)
  | some entry =>
      rw [owner] at ended
      rw [watched.removeDeathRecipient_iff (.of_erase (sessions.trans ended)) registrations,
        heldOnlyBy_of_erase (sessions.trans ended)]
      refine imp_congr_right fun _ => ?_
      have same (holder : String) :
          (∃ other, some entry = some other ∧ other.1 = holder) ↔ holder = entry.1 := by
        simp [eq_comm]
      simp only [same]

/-- A call leaves every session watched exactly under its condition. -/
theorem Watched.serve_iff (watched : service.Watched) (call : Caller × ServiceCall) :
    (service.serve config env call.1 call.2).2.Watched ↔ StaysWatched config env service call := by
  obtain ⟨caller, call⟩ := call
  cases call with
  | subscribe eventId eventGroup callback clientId =>
      exact iff_of_true (watched.subscribe eventId eventGroup callback clientId) trivial
  | unsubscribe eventId eventGroup callback clientId => exact watched.unsubscribe_iff
  | subscribeEvent eventId clientId =>
      exact iff_of_true (watched.subscribeEvent eventId clientId) trivial
  | unsubscribeEvent eventId clientId =>
      exact iff_of_true (watched.unsubscribeEvent eventId clientId) trivial
  | creatClient eventGroup clientId callback =>
      exact iff_of_true (watched.creatClient eventGroup clientId callback) trivial
  | destoryClient eventGroup clientId => exact watched.destoryClient_iff
  | addFilter filter clientId => exact iff_of_true (watched.addFilter filter clientId) trivial
  | removeFilter filter clientId =>
      exact iff_of_true (watched.removeFilter filter clientId) trivial
  | onRemoteDied callback => exact watched.onRemoteDied_iff

/-- From the start of the service, every callback that a session holds is watched in each state
of a run exactly if every call that takes the last registration off a callback ends all the
sessions that hold it. -/
theorem live_sessions_are_watched_iff (config : ConfigData) (env : Externals σ) (world : σ)
    (calls : List (Caller × ServiceCall)) :
    Transition.Visits (next config env) Watched { manager := { world } } calls ↔
      Transition.Along (next config env) (StaysWatched config env) { manager := { world } }
        calls := by
  have start : ({ manager := { world } } : DataCollectManagerService σ).Watched :=
    fun _ _ found => absurd found (by simp)
  have exact_step {before after : DataCollectManagerService σ} {call : Caller × ServiceCall}
      (watched : before.Watched) (taken : next config env before call = some after) :
      after.Watched ↔ StaysWatched config env before call := by
    obtain rfl := Option.some.inj taken
    exact watched.serve_iff call
  exact Transition.visits_iff_along (fun service call => ⟨_, rfl⟩)
    (fun watched stays taken => (exact_step watched taken).mpr stays) exact_step
    (fun _ watched => watched) start

/-- A client subscribes, and gives up an event for another client that has no session. -/
def givenUpTwice : List (Caller × ServiceCall) :=
  [(systemCaller, .subscribe 7 "securityGroup" 100 "c"),
    (systemCaller, .unsubscribe 7 "securityGroup" 100 "d")]

/-- After `givenUpTwice` the client still has its session, whose callback has no registration. -/
theorem live_session_unwatched :
    ∃ final session, Transition.run (next twoGroupConfig noExternals)
        { manager := { world := () } } givenUpTwice = some final ∧
      final.manager.sessionsMap.get? "c" = some session ∧
        session.subEvents.contains 7 = true ∧ session.callback = 100 ∧
          final.registrationsOf 100 = 0 ∧ ¬final.Watched := by
  have evaluated : (Transition.run (next twoGroupConfig noExternals)
      { manager := { world := () } } givenUpTwice).any (fun final =>
        (final.manager.sessionsMap.get? "c").any fun session =>
          session.subEvents.contains 7 = true ∧ session.callback = 100 ∧
            final.registrationsOf 100 = 0) = true := by
    decide +kernel
  obtain ⟨final, reach, found⟩ := (Option.any_eq_true _ _).mp evaluated
  obtain ⟨session, foundSession, found⟩ := (Option.any_eq_true _ _).mp found
  obtain ⟨subscribed, owner, none⟩ := of_decide_eq_true found
  refine ⟨final, session, reach, foundSession, subscribed, owner, none, fun watched => ?_⟩
  have positive := watched "c" session foundSession
  rw [owner, none] at positive
  exact Nat.lt_irrefl 0 positive

end DataCollectManagerService

end SecurityGuard
