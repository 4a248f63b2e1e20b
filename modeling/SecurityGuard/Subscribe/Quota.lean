import SecurityGuard.Subscribe.Interleaving
import SecurityGuard.Subscribe.Sessions

/-!
# Quotas of clients

`CreatClient` checks the quotas of an event group and of a process in one section and enters the
session in a second one.  Creators that overlap pass the check before either of them has entered
its session.  The quotas hold while the check still passes when the session is entered; that no
client is created twice is checked again in the second section.
-/

namespace SecurityGuard

namespace Manager

variable {σ : Type} {config : ConfigData} {env : Externals σ} (manager : Manager σ)

/-- The number of sessions of a group. -/
def sessionsOfGroup (eventGroup : String) : Nat :=
  manager.sessionsMap.total fun session => (decide (session.eventGroup = eventGroup)).toNat

/-- The number of sessions of a process. -/
def sessionsOfProcess (pid : Int) : Nat :=
  manager.sessionsMap.total fun session => (decide (session.pid = pid)).toNat

/-- No event group and no process has more sessions than its quota. -/
def Limited : Prop :=
  (∀ eventGroup, manager.sessionsOfGroup eventGroup ≤ maxSessionSize) ∧
    ∀ pid, manager.sessionsOfProcess pid ≤ maxSessionSizeOneProcess

variable {manager}

/-- A client that passes the check leaves room for its session. -/
theorem room_of_not_exceedLimited {clientId eventGroup : String} {callerPid : Int}
    (counted : containsText "sdk" clientId = false)
    (fresh : manager.sessionsMap.contains clientId = false)
    (passes : manager.isExceedLimited clientId eventGroup callerPid = .success) :
    manager.sessionsOfGroup eventGroup < maxSessionSize ∧
      manager.sessionsOfProcess callerPid < maxSessionSizeOneProcess := by
  have others : (manager.sessionsMap.entries.filter fun entry =>
      entry.2.pid = callerPid).all fun entry => entry.1 ≠ clientId := by
    refine List.all_eq_true.mpr fun entry mem => ?_
    have bound := SortedMap.mem_entries_iff.mp (List.mem_filter.mp mem).1
    have ne : entry.1 ≠ clientId := by
      rintro rfl
      rw [SortedMap.contains_iff.mpr ⟨entry.2, bound⟩] at fresh
      exact Bool.noConfusion fresh
    simpa using ne
  rw [isExceedLimited, if_neg (by simp [counted])] at passes
  simp only [others, true_and] at passes
  rw [sessionsOfGroup, sessionsOfProcess,
    ← SortedMap.length_filter_eq_total fun session : ClientSession =>
      decide (session.eventGroup = eventGroup),
    ← SortedMap.length_filter_eq_total fun session : ClientSession =>
      decide (session.pid = callerPid)]
  split_ifs at passes with group process
  · exact absurd passes (by decide)
  · exact absurd passes (by decide)
  · exact ⟨not_le.mp group, not_le.mp process⟩

theorem Limited.of_sessionsMap {after : Manager σ} (limited : manager.Limited)
    (same : after.sessionsMap = manager.sessionsMap) : after.Limited := by
  simp only [Limited, sessionsOfGroup, sessionsOfProcess, same]
  exact limited

theorem Limited.eraseSession (limited : manager.Limited) (clientId : String) :
    (manager.eraseSession clientId).Limited := by
  constructor
  · intro eventGroup
    exact (SortedMap.total_erase_le _ manager.sessionsMap clientId).trans (limited.1 eventGroup)
  · intro pid
    exact (SortedMap.total_erase_le _ manager.sessionsMap clientId).trans (limited.2 pid)

/-- A session that is entered where there is room. -/
theorem Limited.insert (limited : manager.Limited) {clientId : String} {session : ClientSession}
    (fresh : manager.sessionsMap.contains clientId = false)
    (group : manager.sessionsOfGroup session.eventGroup < maxSessionSize)
    (process : manager.sessionsOfProcess session.pid < maxSessionSizeOneProcess) :
    Limited { manager with sessionsMap := manager.sessionsMap.insert clientId session } := by
  have absent : manager.sessionsMap.get? clientId = none := by
    simpa [SortedMap.contains] using fresh
  constructor
  · intro eventGroup
    rw [sessionsOfGroup, SortedMap.total_insert_of_fresh _ session absent, ← sessionsOfGroup]
    by_cases same : session.eventGroup = eventGroup
    · subst same
      simp only [decide_true, Bool.toNat_true]
      omega
    · simpa [same] using limited.1 eventGroup
  · intro pid
    rw [sessionsOfProcess, SortedMap.total_insert_of_fresh _ session absent, ← sessionsOfProcess]
    by_cases same : session.pid = pid
    · subst same
      simp only [decide_true, Bool.toNat_true]
      omega
    · simpa [same] using limited.2 pid

/-- What the calls that create and destroy clients do to the sessions.  A session is entered where
there is room for it, if the check still passes. -/
inductive ClientChange (passes : Prop) (before after : Manager σ) : Prop where
  | kept (same : after.sessionsMap = before.sessionsMap)
  | destroyed (clientId : String)
      (erased : after.sessionsMap = before.sessionsMap.erase clientId)
  | created (clientId : String) (session : ClientSession)
      (fresh : before.sessionsMap.contains clientId = false)
      (room : passes → before.sessionsOfGroup session.eventGroup < maxSessionSize ∧
        before.sessionsOfProcess session.pid < maxSessionSizeOneProcess)
      (entered : after.sessionsMap = before.sessionsMap.insert clientId session)

theorem ClientChange.mono {passes stronger : Prop} {before after : Manager σ}
    (change : ClientChange passes before after) (weaken : stronger → passes) :
    ClientChange stronger before after := by
  cases change with
  | kept same => exact .kept same
  | destroyed clientId erased => exact .destroyed clientId erased
  | created clientId session fresh room entered =>
      exact .created clientId session fresh (fun holds => room (weaken holds)) entered

theorem ClientChange.limited {passes : Prop} {before after : Manager σ}
    (change : ClientChange passes before after) (holds : passes) (limited : before.Limited) :
    after.Limited := by
  cases change with
  | kept same => exact limited.of_sessionsMap same
  | destroyed clientId erased => exact (limited.eraseSession clientId).of_sessionsMap erased
  | created clientId session fresh room entered =>
      obtain ⟨group, process⟩ := room holds
      exact (limited.insert fresh group process).of_sessionsMap entered

/-- A client that exists is not created again. -/
theorem ClientChange.keeps {passes : Prop} {before after : Manager σ}
    (change : ClientChange passes before after) {clientId : String} {session : ClientSession}
    (found : before.sessionsMap.get? clientId = some session) :
    after.sessionsMap.get? clientId = some session ∨ after.sessionsMap.get? clientId = none := by
  cases change with
  | kept same => exact .inl (same ▸ found)
  | destroyed other erased =>
      rw [erased, SortedMap.get?_erase]
      split_ifs
      · exact .inr rfl
      · exact .inl found
  | created other entering fresh room entered =>
      have ne : clientId ≠ other := by
        rintro rfl
        rw [SortedMap.contains_iff.mpr ⟨session, found⟩] at fresh
        exact Bool.noConfusion fresh
      rw [entered, SortedMap.get?_insert, if_neg ne]
      exact .inl found

end Manager

/-- A client is created or destroyed, under an id that counts, or a call moves on. -/
def SubscribeAction.OfClients : SubscribeAction → Prop
  | .call _ (.creatClient _ clientId _ _) => containsText "sdk" clientId = false
  | .call _ (.destoryClient _) => True
  | .call _ _ => False
  | .step _ => True

instance : ∀ action : SubscribeAction, Decidable action.OfClients
  | .call _ (.creatClient _ clientId _ _) =>
      inferInstanceAs (Decidable (containsText "sdk" clientId = false))
  | .call _ (.destoryClient _) => isTrue trivial
  | .call _ (.insertSubscribeRecord _ _) => isFalse id
  | .call _ (.insertSubscribeRecordWith _ _) => isFalse id
  | .call _ (.removeSubscribeRecord _ _ _) => isFalse id
  | .call _ (.removeSubscribeRecordOnRemoteDied _) => isFalse id
  | .step _ => isTrue trivial

/-- The stages of the calls that create and destroy clients. -/
def CallStage.OfClients : CallStage → Prop
  | .free (.enter (.creatClient _ clientId _ _)) => containsText "sdk" clientId = false
  | .free (.enter (.destoryClient _)) => True
  | .free (.create _ clientId _ _) => containsText "sdk" clientId = false
  | .free (.settle (.forgetting _ _ _ _) _) => True
  | .free (.removeMute _ _ _) => True
  | .await (.forgetting _ _ _ _) => True
  | .collect (.forgetting _ _ _ _) => True
  | _ => False

/-- The stage at which a call goes on, if it does. -/
def Decision.OfClients : Decision CallStage → Prop
  | .returns _ => True
  | .continues stage => stage.OfClients

namespace SubscribeSystem

variable {σ : Type} {config : ConfigData} {env : Externals σ} {system : SubscribeSystem σ}

/-- A client that is entered still passes the check of the quotas. -/
def StageKeepsQuota (system : SubscribeSystem σ) : CallStage → Prop
  | .free (.create eventGroup clientId callerPid _) =>
      system.manager.sessionsMap.contains clientId = true ∨
        system.manager.isExceedLimited clientId eventGroup callerPid = .success
  | _ => True

instance (system : SubscribeSystem σ) (stage : CallStage) :
    Decidable (system.StageKeepsQuota stage) := by
  unfold StageKeepsQuota
  split <;> infer_instance

/-- The step creates a session only within the limits. -/
def KeepsQuota (system : SubscribeSystem σ) : SubscribeAction → Prop
  | .call _ _ => True
  | .step id => ∀ stage ∈ system.calls.get? id, system.StageKeepsQuota stage

instance : ∀ (system : SubscribeSystem σ) (action : SubscribeAction),
    Decidable (system.KeepsQuota action)
  | _, .call _ _ => isTrue trivial
  | system, .step id =>
      inferInstanceAs (Decidable (∀ stage ∈ system.calls.get? id, system.StageKeepsQuota stage))

theorem ofClients_removeMutes (clientId : String) (filters : List EventMuteFilter) :
    (Section.removeMutes clientId filters).OfClients := by
  cases filters <;> exact trivial

theorem ofClients_forget (clientId : String) (filters : List EventMuteFilter)
    (events : List Int) : (Section.forget clientId filters events).OfClients := by
  cases events with
  | nil => exact ofClients_removeMutes clientId filters
  | cons eventId todo => exact trivial

variable (config env) in
theorem take_ofClients {step : Section} (within : CallStage.OfClients (.free step)) :
    Manager.ClientChange (system.StageKeepsQuota (.free step)) system.manager
        (step.take config env system.manager).1 ∧
      (step.take config env system.manager).2.OfClients := by
  cases step with
  | enter operation =>
      cases operation with
      | creatClient eventGroup clientId callerPid callback =>
          rw [Section.take, Section.enterOperation]
          split_ifs
          · exact ⟨.kept rfl, trivial⟩
          · exact ⟨.kept rfl, within⟩
      | destoryClient clientId =>
          rw [Section.take, Section.enterOperation, Manager.leaveClient]
          cases system.manager.sessionsMap.get? clientId with
          | none => exact ⟨.kept rfl, trivial⟩
          | some session => exact ⟨.destroyed clientId rfl, ofClients_forget _ _ _⟩
      | insertSubscribeRecord => exact within.elim
      | insertSubscribeRecordWith => exact within.elim
      | removeSubscribeRecord => exact within.elim
      | removeSubscribeRecordOnRemoteDied => exact within.elim
  | create eventGroup clientId callerPid callback =>
      refine ⟨?_, trivial⟩
      rw [Section.take, Manager.enterClient]
      split_ifs with present
      · exact .kept rfl
      · rw [Bool.not_eq_true] at present
        refine .created clientId _ present (fun keeps => ?_) rfl
        have passes := keeps.resolve_left (by simp [present])
        exact Manager.room_of_not_exceedLimited within present passes
  | settle task code =>
      cases task with
      | forgetting eventId todo clientId filters =>
          exact ⟨.kept rfl, ofClients_forget clientId filters todo⟩
      | insertion => exact within.elim
      | removal => exact within.elim
  | removeMute clientId filter todo =>
      obtain ⟨world, same⟩ := Manager.callFilter_world config env system.manager clientId
        FilterPlugin.removeEventFilter filter
      refine ⟨.kept ?_, ofClients_removeMutes clientId todo⟩
      rw [Section.take, Manager.removeMute, same]
      rfl
  | died => exact within.elim
  | checkMute => exact within.elim
  | insertMute => exact within.elim

theorem ofClients_proceed {after : SubscribeSystem σ} {id : CallId}
    {decision : Decision CallStage}
    (within : ∀ id stage, after.calls.get? id = some stage → stage.OfClients)
    (decided : decision.OfClients) :
    ∀ other stage, (after.proceed id decision).calls.get? other = some stage →
      stage.OfClients := by
  intro other stage found
  cases decision with
  | returns code =>
      exact within other stage (SortedMap.get?_erase_eq_some.mp found).2
  | continues next =>
      rcases SortedMap.get?_insert_eq_some.mp found with ⟨-, rfl⟩ | ⟨-, found⟩
      · exact decided
      · exact within other stage found

theorem callStep_clientChange
    (others : ∀ id stage, system.calls.get? id = some stage → stage.OfClients) {id : CallId}
    {stage : CallStage} (within : stage.OfClients) {after : SubscribeSystem σ}
    (taken : system.callStep config env id stage = some after) :
    Manager.ClientChange (system.StageKeepsQuota stage) system.manager after.manager ∧
      ∀ id stage, after.calls.get? id = some stage → stage.OfClients := by
  cases stage with
  | free step =>
      obtain rfl := Option.some.inj taken
      obtain ⟨change, decided⟩ := take_ofClients config env within
      exact ⟨by simpa using change, ofClients_proceed others decided⟩
  | await task =>
      cases task with
      | forgetting eventId todo clientId filters =>
          rw [callStep] at taken
          split_ifs at taken
          · obtain rfl := Option.some.inj taken
            exact ⟨.kept rfl, ofClients_proceed others trivial⟩
          · obtain rfl := Option.some.inj taken
            exact ⟨.kept rfl, ofClients_proceed others trivial⟩
      | insertion => exact within.elim
      | removal => exact within.elim
  | collect task =>
      cases task with
      | forgetting eventId todo clientId filters =>
          obtain rfl := Option.some.inj taken
          refine ⟨.kept ?_, ofClients_proceed others trivial⟩
          exact (Manager.unSubscribeSc_collectorOnly config env system.manager
            eventId).sessionsMap
      | insertion => exact within.elim
      | removal => exact within.elim

theorem next_clientChange
    (others : ∀ id stage, system.calls.get? id = some stage → stage.OfClients)
    {action : SubscribeAction} (ofClients : action.OfClients) {after : SubscribeSystem σ}
    (taken : next config env system action = some after) :
    Manager.ClientChange (system.KeepsQuota action) system.manager after.manager ∧
      ∀ id stage, after.calls.get? id = some stage → stage.OfClients := by
  cases action with
  | call id operation =>
      rw [next] at taken
      split_ifs at taken
      obtain rfl := Option.some.inj taken
      refine ⟨.kept rfl, ofClients_proceed others ?_⟩
      cases operation with
      | creatClient => exact ofClients
      | destoryClient => exact trivial
      | insertSubscribeRecord => exact ofClients.elim
      | insertSubscribeRecordWith => exact ofClients.elim
      | removeSubscribeRecord => exact ofClients.elim
      | removeSubscribeRecordOnRemoteDied => exact ofClients.elim
  | step id =>
      obtain ⟨stage, found, stepped⟩ := Option.bind_eq_some_iff.mp taken
      obtain ⟨change, later⟩ := callStep_clientChange others (others id stage found) stepped
      exact ⟨change.mono fun keeps => keeps stage found, later⟩

/-- Only calls that create and destroy clients are in flight, and the quotas hold. -/
structure Quotas (system : SubscribeSystem σ) : Prop where
  limited : system.manager.Limited
  ofClients : ∀ id stage, system.calls.get? id = some stage → stage.OfClients

theorem quotas_initial (world : σ) :
    ({ manager := { world } } : SubscribeSystem σ).Quotas where
  limited := ⟨fun _ => Nat.zero_le _, fun _ => Nat.zero_le _⟩
  ofClients := fun id stage found => by simp at found

theorem Quotas.next (quotas : system.Quotas) {action : SubscribeAction}
    (permitted : system.KeepsQuota action ∧ action.OfClients) {after : SubscribeSystem σ}
    (taken : next config env system action = some after) : after.Quotas := by
  obtain ⟨change, later⟩ := next_clientChange quotas.ofClients permitted.2 taken
  exact ⟨change.limited permitted.1 quotas.limited, later⟩

/-- The quotas hold, and the next step does not create a client that exists. -/
def KeepsQuotas (config : ConfigData) (env : Externals σ) (system : SubscribeSystem σ) : Prop :=
  system.manager.Limited ∧
    ∀ action after, action.OfClients → next config env system action = some after →
      ∀ clientId session, system.manager.sessionsMap.get? clientId = some session →
        after.manager.sessionsMap.get? clientId = some session ∨
          after.manager.sessionsMap.get? clientId = none

/-- When every session is entered while the check of the quotas passes, the quotas hold in every
interleaving of creators and destroyers, and no client is created twice. -/
theorem client_quotas_hold {world : σ} {actions : List SubscribeAction}
    {final : SubscribeSystem σ} (ofClients : ∀ action ∈ actions, action.OfClients)
    (keeps : Transition.Along (next config env) KeepsQuota { manager := { world } } actions)
    (reach : Transition.run (next config env) { manager := { world } } actions = some final) :
    final.KeepsQuotas config env := by
  have quotas := Transition.run_invariant
    (fun quotas permitted taken => Quotas.next quotas permitted taken) (quotas_initial world)
    (keeps.and_mem ofClients) reach
  refine ⟨quotas.limited, fun action after allowed taken clientId session found => ?_⟩
  exact (next_clientChange quotas.ofClients allowed taken).1.keeps found

/-- A process creates two clients one after the other and gives one of them up for a third. -/
def oneAfterAnother : List SubscribeAction :=
  uninterrupted 0 (.creatClient "auditGroup" "a" 100 10) 2 ++
    uninterrupted 1 (.creatClient "auditGroup" "b" 100 11) 2 ++
    uninterrupted 2 (.destoryClient "a") 1 ++
    uninterrupted 3 (.creatClient "auditGroup" "c" 100 12) 2

/-- The system after a run that begins without sessions. -/
def quotaRun (actions : List SubscribeAction) : SubscribeSystem Unit :=
  (Transition.run (next {} idleExternals) { manager := { world := () } } actions).getD
    { manager := { world := () } }

theorem client_quotas_hold_oneAfterAnother :
    (quotaRun oneAfterAnother).KeepsQuotas {} idleExternals :=
  @client_quotas_hold Unit {} idleExternals () oneAfterAnother _ (by decide +kernel)
    (by decide +kernel) (Transition.run_eq_getD (by decide +kernel))

/-- A process creates three clients, each of them checked before the others are entered. -/
def threeAtOnce : List SubscribeAction :=
  [.call 0 (.creatClient "auditGroup" "a" 100 10), .step 0,
    .call 1 (.creatClient "auditGroup" "b" 100 11), .step 1,
    .call 2 (.creatClient "auditGroup" "c" 100 12), .step 2, .step 0, .step 1, .step 2]

/-- Creators that overlap exceed the quota of their process. -/
theorem overlapping_creators_exceed_quota :
    ¬∀ (actions : List SubscribeAction) (final : SubscribeSystem Unit),
      (∀ action ∈ actions, action.OfClients) →
        Transition.run (next {} idleExternals) { manager := { world := () } } actions =
          some final → final.KeepsQuotas {} idleExternals := by
  intro always
  have quotas := always threeAtOnce (quotaRun threeAtOnce) (by decide +kernel)
    (Transition.run_eq_getD (by decide +kernel))
  have sessions : (quotaRun threeAtOnce).manager.sessionsOfProcess 100 = 3 := by decide +kernel
  have bound := quotas.1.2 100
  rw [sessions] at bound
  exact absurd bound (by decide)

end SubscribeSystem

end SecurityGuard
