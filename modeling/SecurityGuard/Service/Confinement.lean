import SecurityGuard.Service.Clients
import SecurityGuard.Subscribe.Revision

/-!
# Event groups confine sessions

A session belongs to an event group, and a call is checked for a group.  The newer calls take
the group from the session they name.  The older ones, and `DestoryClient`, take it from the
caller and act on whatever session the client id names.  As long as no such call passes its
check and goes on to revise a session of another group, a session has only events of its group
and no call changes sessions of other groups.
-/

namespace SecurityGuard

namespace ServiceCall

variable {σ : Type}

/-- The event group that a call is checked for. -/
def eventGroup? (manager : Manager σ) : ServiceCall → Option String
  | .subscribe _ eventGroup _ _ | .unsubscribe _ eventGroup _ _ | .creatClient eventGroup _ _
  | .destoryClient eventGroup _ => some eventGroup
  | .subscribeEvent _ clientId | .unsubscribeEvent _ clientId | .addFilter _ clientId
  | .removeFilter _ clientId => some (manager.getCurrentClientGroup clientId)
  | .onRemoteDied _ => none

/-- The check that a call has to pass. -/
def check (config : ConfigData) (caller : Caller) (manager : Manager σ) : ServiceCall → Code
  | .subscribe eventId eventGroup _ _ =>
      config.checkSubscribeInfo caller .subscribe eventGroup eventId
  | .unsubscribe eventId eventGroup _ _ =>
      config.checkSubscribeInfo caller .unSubscribe eventGroup eventId
  | .subscribeEvent eventId clientId | .unsubscribeEvent eventId clientId =>
      config.checkClientGroup caller (manager.getCurrentClientGroup clientId) [eventId]
  | .creatClient eventGroup _ _ | .destoryClient eventGroup _ =>
      if eventGroup = "" then .badParam else config.checkClientGroup caller eventGroup []
  | .addFilter filter clientId | .removeFilter filter clientId =>
      config.checkClientGroup caller (manager.getCurrentClientGroup clientId) [filter.eventId]
  | .onRemoteDied _ => .success

/-- The client whose session a call is about to revise for a group that the caller chose. -/
def revises? (service : DataCollectManagerService σ) : ServiceCall → Option String
  | .subscribe eventId _ _ clientId =>
      if service.manager.subscribes clientId eventId then none else some clientId
  | .unsubscribe eventId _ _ clientId =>
      if service.manager.subscribes clientId eventId then some clientId else none
  | .destoryClient _ clientId =>
      if service.clientCallBacks.contains clientId then some clientId else none
  | _ => none

end ServiceCall

/-- A call that passes its check revises a session of the group it is checked for, or one
without group. -/
def RevisesOwnGroup {σ : Type} (config : ConfigData) (service : DataCollectManagerService σ)
    (call : Caller × ServiceCall) : Prop :=
  call.2.check config call.1 service.manager = .success →
    ∀ clientId ∈ call.2.revises? service,
      ∀ session ∈ service.manager.sessionsMap.get? clientId,
        session.eventGroup = "" ∨ call.2.eventGroup? service.manager = some session.eventGroup

instance {σ : Type} (config : ConfigData) (service : DataCollectManagerService σ)
    (call : Caller × ServiceCall) : Decidable (RevisesOwnGroup config service call) :=
  inferInstanceAs (Decidable (_ → ∀ clientId ∈ call.2.revises? service,
    ∀ session ∈ service.manager.sessionsMap.get? clientId, _))

namespace Manager

variable {σ : Type} {config : ConfigData} {manager : Manager σ} {clientId : String}

/-- A session of a configured group has only events of the group. -/
def Confined (config : ConfigData) (manager : Manager σ) : Prop :=
  ∀ clientId session cfg, manager.sessionsMap.get? clientId = some session →
    config.getEventGroupConfig session.eventGroup = some cfg →
      ∀ eventId, session.subEvents.contains eventId = true →
        cfg.eventList.contains eventId = true

theorem Confined.revision (confined : manager.Confined config) {after : Manager σ}
    {added : Option Int} (revision : Revision clientId added manager after)
    (gains : ∀ old cfg, manager.sessionsMap.get? clientId = some old →
      config.getEventGroupConfig old.eventGroup = some cfg →
        ∀ eventId ∈ added, cfg.eventList.contains eventId = true) : after.Confined config := by
  intro other session cfg found configured eventId contains
  by_cases same : other = clientId
  · subst same
    obtain ⟨old, foundOld, group, events⟩ := revision.own session found
    rw [group] at configured
    rcases events eventId contains with mem | contains
    · exact gains old cfg foundOld configured eventId mem
    · exact confined other old cfg foundOld configured eventId contains
  · rw [revision.others other same] at found
    exact confined other session cfg found configured eventId contains

theorem Confined.withSession (confined : manager.Confined config) (info : SubscribeInfo) :
    (manager.withSession info clientId).Confined config := by
  intro other session cfg found configured eventId contains
  by_cases same : other = clientId
  · subst same
    rw [withSession_get?] at found
    cases present : manager.sessionsMap.get? other with
    | none =>
        obtain rfl : info.session other = session := by simpa [present] using found
        exact absurd contains (by simp [SubscribeInfo.session])
    | some old =>
        obtain rfl : old = session := by simpa [present] using found
        exact confined other old cfg present configured eventId contains
  · rw [withSession_get?_of_ne info same] at found
    exact confined other session cfg found configured eventId contains

/-- What a call checked for a group does to the sessions: it creates a session at most, and
revises one that it may revise. -/
structure Serves (config : ConfigData) (eventGroup? : Option String)
    (before after : Manager σ) : Prop where
  confined : before.Confined config → after.Confined config
  keeps : ∀ eventGroup ∈ eventGroup?, ∀ clientId session,
    before.sessionsMap.get? clientId = some session → session.eventGroup ≠ "" →
      session.eventGroup ≠ eventGroup → after.sessionsMap.get? clientId = some session

theorem Serves.refl (eventGroup? : Option String) (manager : Manager σ) :
    Serves config eventGroup? manager manager :=
  ⟨id, fun _ _ _ _ found _ _ => found⟩

/-- A revision of a session that the call may revise. -/
theorem Serves.of_revision {after : Manager σ} {added : Option Int}
    {eventGroup? : Option String} (revision : Revision clientId added manager after)
    (may : ∀ old, manager.sessionsMap.get? clientId = some old → ∀ eventGroup ∈ eventGroup?,
      old.eventGroup = "" ∨ old.eventGroup = eventGroup)
    (gains : ∀ old cfg, manager.sessionsMap.get? clientId = some old →
      config.getEventGroupConfig old.eventGroup = some cfg →
        ∀ eventId ∈ added, cfg.eventList.contains eventId = true) :
    Serves config eventGroup? manager after := by
  refine ⟨fun confined => confined.revision revision gains, ?_⟩
  intro eventGroup mem other session found named foreign
  by_cases same : other = clientId
  · subst same
    rcases may session found eventGroup mem with empty | own
    · exact absurd empty named
    · exact absurd own foreign
  · rw [revision.others other same, found]

variable (config manager clientId) in
theorem Serves.withSession (eventGroup? : Option String) (info : SubscribeInfo) :
    Serves config eventGroup? manager (manager.withSession info clientId) := by
  refine ⟨fun confined => confined.withSession info, ?_⟩
  intro eventGroup _ other session found _ _
  by_cases same : other = clientId
  · subst same
    rw [withSession_get?, found]
    rfl
  · rw [withSession_get?_of_ne info same, found]

theorem Serves.trans {eventGroup? : Option String} {before middle after : Manager σ}
    (first : Serves config eventGroup? before middle)
    (second : Serves config eventGroup? middle after) :
    Serves config eventGroup? before after :=
  ⟨fun confined => second.confined (first.confined confined),
    fun eventGroup mem clientId session found named foreign =>
      second.keeps eventGroup mem clientId session
        (first.keeps eventGroup mem clientId session found named foreign) named foreign⟩

end Manager

namespace DataCollectManagerService

variable {σ : Type} {config : ConfigData} {env : Externals σ}
  {service : DataCollectManagerService σ} {caller : Caller}

/-- The older form of `Subscribe`. -/
theorem subscribe_serves {eventId : Int} {eventGroup : String} {callback : Address}
    {clientId : String}
    (own : RevisesOwnGroup config service
      (caller, .subscribe eventId eventGroup callback clientId)) :
    Manager.Serves config (some eventGroup) service.manager
      (service.subscribe config env caller eventId eventGroup callback clientId).2.manager := by
  rw [subscribe]
  dsimp only
  split_ifs with failed
  · exact .refl _ service.manager
  · have passed := not_not.mp failed
    let info : Manager.SubscribeInfo := { eventId, eventGroup, callback, callerPid := caller.pid }
    cases had : service.manager.subscribes clientId eventId with
    | true =>
        have same := Manager.insertSubscribeRecordWith_of_subscribes config env _ _ info had
        change Manager.Serves config _ _ (service.manager.insertSubscribeRecordWith config env info
          clientId).2
        rw [same]
        exact .refl _ service.manager
    | false =>
        have may : ∀ old, (service.manager.withSession info clientId).sessionsMap.get? clientId =
            some old → old.eventGroup = "" ∨ old.eventGroup = eventGroup := by
          intro old found
          rw [Manager.withSession_get?] at found
          cases present : service.manager.sessionsMap.get? clientId with
          | none =>
              obtain rfl : info.session clientId = old := by simpa [present] using found
              exact .inr rfl
          | some session =>
              obtain rfl : session = old := by simpa [present] using found
              have revised := own passed clientId (by simp [ServiceCall.revises?, had]) session
                present
              exact revised.imp_right fun same => (Option.some.inj same).symm
        refine (Manager.Serves.withSession _ _ _ _ info).trans (.of_revision
          (Manager.insertSubscribeRecordWith_revision info had) ?_ ?_)
        · intro old found group mem
          obtain rfl := Option.some.inj mem
          exact may old found
        · intro old cfg found configured event mem
          obtain rfl := Option.some.inj mem
          rcases may old found with empty | same
          · simp [empty] at configured
          · by_cases named : eventGroup = ""
            · simp [same, named] at configured
            · obtain ⟨cfg', found', contained⟩ :=
                ConfigData.mem_eventList_of_checkSubscribeInfo named passed
              rw [same, found'] at configured
              exact Option.some.inj configured ▸ contained

theorem unsubscribe_serves {eventId : Int} {eventGroup : String} {callback : Address}
    {clientId : String}
    (own : RevisesOwnGroup config service
      (caller, .unsubscribe eventId eventGroup callback clientId)) :
    Manager.Serves config (some eventGroup) service.manager
      (service.unsubscribe config env caller eventId eventGroup callback clientId).2.manager := by
  rw [unsubscribe]
  split_ifs with failed
  · exact .refl _ service.manager
  · have passed := not_not.mp failed
    simp only [manage, withManager, removeDeathRecipient_manager]
    cases had : service.manager.subscribes clientId eventId with
    | true =>
        refine .of_revision (Manager.removeSubscribeRecordCore_revision true) ?_ (by simp)
        intro old found group mem
        obtain rfl := Option.some.inj mem
        have revised := own passed clientId (by simp [ServiceCall.revises?, had]) old found
        exact revised.imp_right fun same => (Option.some.inj same).symm
    | false =>
        rw [Manager.removeSubscribeRecordCore_of_not_subscribes had]
        exact .refl _ service.manager

/-- A call whose group is that of the session it names. -/
theorem serves_of_currentGroup {clientId : String} {added : Option Int} {events : List Int}
    {after : Manager σ} (revision : Manager.Revision clientId added service.manager after)
    (passed : config.checkClientGroup caller (service.manager.getCurrentClientGroup clientId)
      events = .success)
    (within : ∀ event ∈ added, event ∈ events) :
    Manager.Serves config (some (service.manager.getCurrentClientGroup clientId)) service.manager
      after := by
  have current {old : ClientSession}
      (found : service.manager.sessionsMap.get? clientId = some old) :
      service.manager.getCurrentClientGroup clientId = old.eventGroup := by
    rw [Manager.getCurrentClientGroup, found]
  refine .of_revision revision ?_ ?_
  · intro old found group mem
    obtain rfl := Option.some.inj mem
    exact .inr (current found).symm
  · intro old cfg found configured event mem
    obtain ⟨cfg', found', contained⟩ := ConfigData.mem_eventList_of_checkClientGroup passed
    rw [current found, configured] at found'
    exact Option.some.inj found' ▸ contained event (within event mem)

theorem creatClient_serves (eventGroup clientId : String) (callback : Option Address) :
    Manager.Serves config (some eventGroup) service.manager
      (service.creatClient config env caller eventGroup clientId callback).2.manager := by
  rw [creatClient.eq_def]
  dsimp only
  split_ifs
  · exact .refl _ service.manager
  · exact .refl _ service.manager
  · cases callback with
    | none => exact .refl _ service.manager
    | some callback =>
        have created := Manager.Serves.withSession config service.manager clientId (some eventGroup)
          { eventId := 0, eventGroup, callback, callerPid := caller.pid }
        dsimp only
        rcases Manager.creatClient_cases service.manager clientId
          eventGroup caller.pid callback with ⟨refused, same⟩ | ⟨success, absent, same⟩
        · split_ifs with taken
          · simp only [manage, withManager, same]
            exact .refl _ service.manager
          · exact absurd refused taken
          · exact absurd refused taken
        · split_ifs with refused
          · exact absurd success refused
          · simp only [manage, withManager, setDeathCallBack, same]
            refine created.trans (.of_revision Manager.destoryClient_revision ?_ (by simp))
            intro old found group mem
            obtain rfl := Option.some.inj mem
            rw [Manager.withSession_get?, absent] at found
            exact .inr (congrArg ClientSession.eventGroup (Option.some.inj found)).symm
          · simp only [manage, withManager, setDeathCallBack, same]
            exact created

theorem destoryClient_serves {eventGroup clientId : String}
    (own : RevisesOwnGroup config service (caller, .destoryClient eventGroup clientId)) :
    Manager.Serves config (some eventGroup) service.manager
      (service.destoryClient config env caller eventGroup clientId).2.manager := by
  rw [destoryClient]
  cases found : service.clientCallBacks.get? clientId with
  | none =>
      dsimp only
      split_ifs <;> exact .refl _ service.manager
  | some callback =>
      have served (empty : ¬ eventGroup = "")
          (passed : config.checkClientGroup caller eventGroup [] = .success) :
          Manager.Serves config (some eventGroup) service.manager
            (service.manager.destoryClient config env clientId).2 := by
        have checked : (ServiceCall.destoryClient eventGroup clientId).check config caller
            service.manager = .success := by
          rw [ServiceCall.check, if_neg empty, passed]
        refine .of_revision Manager.destoryClient_revision ?_ (by simp)
        intro old present group mem
        obtain rfl := Option.some.inj mem
        have revised := own checked clientId
          (by simp [ServiceCall.revises?, SortedMap.contains, found]) old present
        exact revised.imp_right fun same => (Option.some.inj same).symm
      dsimp only
      split_ifs with empty failed
      · exact .refl _ service.manager
      · exact .refl _ service.manager
      · exact served empty (not_not.mp failed)
      · rw [removeDeathRecipient_manager]
        exact served empty (not_not.mp failed)

theorem serve_serves {call : ServiceCall} (own : RevisesOwnGroup config service (caller, call)) :
    Manager.Serves config (call.eventGroup? service.manager) service.manager
      (service.serve config env caller call).2.manager := by
  cases call with
  | subscribe eventId eventGroup callback clientId => exact subscribe_serves own
  | unsubscribe eventId eventGroup callback clientId => exact unsubscribe_serves own
  | subscribeEvent eventId clientId =>
      rw [serve, subscribeEvent]
      split_ifs with failed
      · exact .refl _ service.manager
      · exact serves_of_currentGroup Manager.insertSubscribeRecord_revision (not_not.mp failed)
          (by simp)
  | unsubscribeEvent eventId clientId =>
      rw [serve, unsubscribeEvent]
      split_ifs with failed
      · exact .refl _ service.manager
      · exact serves_of_currentGroup (Manager.removeSubscribeRecordCore_revision false)
          (not_not.mp failed) (by simp)
  | creatClient eventGroup clientId callback =>
      exact creatClient_serves eventGroup clientId callback
  | destoryClient eventGroup clientId => exact destoryClient_serves own
  | addFilter filter clientId =>
      rw [serve, addFilter]
      split_ifs with failed
      · exact .refl _ service.manager
      · exact serves_of_currentGroup (Manager.insertSubscribeMute_revision filter)
          (not_not.mp failed) (by simp)
  | removeFilter filter clientId =>
      rw [serve, removeFilter]
      split_ifs with failed
      · exact .refl _ service.manager
      · exact serves_of_currentGroup (Manager.removeSubscribeMute_revision filter)
          (not_not.mp failed) (by simp)
  | onRemoteDied callback =>
      obtain ⟨clientId, revision⟩ := Manager.removeSubscribeRecordOnRemoteDied_revision config env
        service.manager callback
      rw [serve, onRemoteDied, removeDeathRecipient_manager]
      refine .of_revision revision ?_ (by simp)
      intro _ _ _ mem
      simp [ServiceCall.eventGroup?] at mem

theorem confined_of_run {world : σ} {final : DataCollectManagerService σ}
    {calls : List (Caller × ServiceCall)}
    (permitted : Transition.Along (next config env) (RevisesOwnGroup config)
      { manager := { world } } calls)
    (reach : Transition.run (next config env) { manager := { world } } calls = some final) :
    final.manager.Confined config := by
  have step {before after : DataCollectManagerService σ} {call : Caller × ServiceCall}
      (confined : before.manager.Confined config) (own : RevisesOwnGroup config before call)
      (taken : next config env before call = some after) : after.manager.Confined config := by
    obtain rfl := Option.some.inj taken
    exact (serve_serves own).confined confined
  have start : ({ manager := { world } } : DataCollectManagerService σ).manager.Confined
      config := by
    intro clientId session cfg found
    simp at found
  exact Transition.run_invariant step start permitted reach

/-- Confinement: in every run in which no call revises a session of another group, sessions have
events of their group only, and the next call for a group leaves every session of another
group as it is. -/
theorem event_groups_confine {world : σ} {final : DataCollectManagerService σ}
    {calls : List (Caller × ServiceCall)}
    (permitted : Transition.Along (next config env) (RevisesOwnGroup config)
      { manager := { world } } calls)
    (reach : Transition.run (next config env) { manager := { world } } calls = some final) :
    final.manager.Confined config ∧
      ∀ caller call eventGroup, RevisesOwnGroup config final (caller, call) →
        call.check config caller final.manager = .success →
        call.eventGroup? final.manager = some eventGroup →
          ∀ clientId session, final.manager.sessionsMap.get? clientId = some session →
            session.eventGroup ≠ "" → session.eventGroup ≠ eventGroup →
              (final.serve config env caller call).2.manager.sessionsMap.get? clientId =
                some session := by
  refine ⟨confined_of_run permitted reach, ?_⟩
  intro caller call eventGroup own _ group clientId session found named foreign
  exact (serve_serves own).keeps eventGroup group clientId session found named foreign

/-- One client in each group. -/
def clientOfEachGroup : List (Caller × ServiceCall) :=
  [(systemCaller, .creatClient "securityGroup" "c" (some 100)),
    (systemCaller, .subscribeEvent 7 "c"),
    (systemCaller, .subscribe 8 "auditGroup" 200 "d")]

/-- The two clients are confined to their groups. -/
theorem event_groups_confine_clientOfEachGroup :
    ∃ final, Transition.run (next twoGroupConfig noExternals) { manager := { world := () } }
        clientOfEachGroup = some final ∧
      final.manager.subscribes "c" 7 = true ∧ final.manager.Confined twoGroupConfig := by
  have evaluated : (Transition.run (next twoGroupConfig noExternals)
      { manager := { world := () } } clientOfEachGroup).any
        (fun final => final.manager.subscribes "c" 7) = true := by
    decide +kernel
  have permitted : Transition.Along (next twoGroupConfig noExternals)
      (RevisesOwnGroup twoGroupConfig) { manager := { world := () } } clientOfEachGroup := by
    decide +kernel
  obtain ⟨final, reach, found⟩ := (Option.any_eq_true _ _).mp evaluated
  exact ⟨final, reach, found, (event_groups_confine permitted reach).1⟩

/-- A client of the security group subscribes an event of the audit group in the older form. -/
def subscribeAcrossGroups : List (Caller × ServiceCall) :=
  [(systemCaller, .creatClient "securityGroup" "c" (some 100)),
    (systemCaller, .subscribe 8 "auditGroup" 100 "c")]

/-- Without the condition a session has an event of another group. -/
theorem session_leaves_its_group :
    ¬ ∀ (calls : List (Caller × ServiceCall)) (final : DataCollectManagerService Unit),
      Transition.run (next twoGroupConfig noExternals) { manager := { world := () } } calls =
          some final →
        final.manager.Confined twoGroupConfig ∧
          ∀ caller call eventGroup,
            call.check twoGroupConfig caller final.manager = .success →
            call.eventGroup? final.manager = some eventGroup →
              ∀ clientId session, final.manager.sessionsMap.get? clientId = some session →
                session.eventGroup ≠ "" → session.eventGroup ≠ eventGroup →
                  (final.serve twoGroupConfig noExternals caller
                    call).2.manager.sessionsMap.get? clientId = some session := by
  intro confinement
  have evaluated : (Transition.run (next twoGroupConfig noExternals)
      { manager := { world := () } } subscribeAcrossGroups).any (fun final =>
        (final.manager.sessionsMap.get? "c").any fun session =>
          session.subEvents.contains 8 = true ∧
            (twoGroupConfig.getEventGroupConfig session.eventGroup).any fun cfg =>
              cfg.eventList.contains 8 = false) = true := by
    decide +kernel
  obtain ⟨final, reach, found⟩ := (Option.any_eq_true _ _).mp evaluated
  obtain ⟨session, present, rest⟩ := (Option.any_eq_true _ _).mp found
  obtain ⟨contains, group⟩ := of_decide_eq_true rest
  obtain ⟨cfg, configured, outside⟩ := (Option.any_eq_true _ _).mp group
  have within := (confinement subscribeAcrossGroups final reach).1 "c" session cfg present
    configured 8 contains
  exact absurd within (by simp [of_decide_eq_true outside])

end DataCollectManagerService

end SecurityGuard
