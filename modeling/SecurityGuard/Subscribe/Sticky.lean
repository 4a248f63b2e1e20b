import SecurityGuard.Subscribe.Interleaving
import SecurityGuard.Subscribe.Outcome
import SecurityGuard.Subscribe.Publication

/-!
# Sticky events

A mark keeps a sticky event from a client that has received it.  Marks belong to client ids and
only the callback API clears them, one event at a time, so a session that ends in another way
leaves its marks to the next session of its client.  The system counts what a client receives
between the changes of its subscription through the callback API.
-/

namespace SecurityGuard

namespace Manager

variable {σ : Type} {manager : Manager σ} {clientId : String} {eventId : Int}

/-- Sessions carry the ids they are kept under. -/
def Named (manager : Manager σ) : Prop :=
  ∀ clientId session, manager.sessionsMap.get? clientId = some session →
    session.clientId = clientId

/-- Every client with marks has a session. -/
def Live (manager : Manager σ) : Prop :=
  ∀ clientId, manager.reportedStickyEvents.contains clientId = true →
    manager.sessionsMap.contains clientId = true

/-- A step keeps the marks of the sessions that stay, but for those it renews. -/
structure KeepsMarks (renews : String → Int → Bool) (before after : Manager σ) : Prop where
  named : before.Named → after.Named
  live : before.Live → after.Live
  marks : ∀ clientId eventId, after.sessionsMap.contains clientId = true →
    before.hasStickyEventReported eventId clientId = true →
      after.hasStickyEventReported eventId clientId = true ∨ renews clientId eventId = true

variable {renews : String → Int → Bool} {before after : Manager σ}

theorem hasStickyEventReported_congr
    (reported : after.reportedStickyEvents = before.reportedStickyEvents) :
    after.hasStickyEventReported eventId clientId =
      before.hasStickyEventReported eventId clientId := by
  rw [hasStickyEventReported, reported, ← hasStickyEventReported]

namespace KeepsMarks

theorem of_same (reported : after.reportedStickyEvents = before.reportedStickyEvents)
    (sessions : after.sessionsMap = before.sessionsMap) : KeepsMarks renews before after := by
  refine ⟨fun named => ?_, fun live => ?_, fun clientId eventId _ marked => .inl ?_⟩
  · rwa [Named, sessions]
  · rwa [Live, sessions, reported]
  · rwa [hasStickyEventReported_congr reported]

theorem refl (manager : Manager σ) : KeepsMarks renews manager manager := of_same rfl rfl

theorem of_insert {session : ClientSession}
    (reported : after.reportedStickyEvents = before.reportedStickyEvents)
    (sessions : after.sessionsMap = before.sessionsMap.insert clientId session)
    (owner : before.Named → session.clientId = clientId) : KeepsMarks renews before after := by
  refine ⟨fun named other found present => ?_, fun live other marked => ?_,
    fun other event _ marked => .inl ?_⟩
  · rw [sessions] at present
    rcases SortedMap.get?_insert_eq_some.mp present with ⟨rfl, rfl⟩ | ⟨-, present⟩
    · exact owner named
    · exact named other found present
  · rw [reported] at marked
    rw [sessions, SortedMap.contains_insert, live other marked, Bool.or_true]
  · rwa [hasStickyEventReported_congr reported]

theorem of_erase (reported : after.reportedStickyEvents = before.reportedStickyEvents)
    (sessions : after.sessionsMap = before.sessionsMap.erase clientId)
    (unmarked : before.reportedStickyEvents.contains clientId = false) :
    KeepsMarks renews before after := by
  refine ⟨fun named other found present => ?_, fun live other marked => ?_,
    fun other event _ marked => .inl ?_⟩
  · rw [sessions] at present
    exact named other found (SortedMap.get?_erase_eq_some.mp present).2
  · rw [reported] at marked
    have ne : other ≠ clientId := by
      rintro rfl
      rw [unmarked] at marked
      exact Bool.noConfusion marked
    rw [sessions, SortedMap.contains_erase, live other marked]
    simp [ne]
  · rwa [hasStickyEventReported_congr reported]

theorem of_modify {change : ClientSession → ClientSession}
    (reported : after.reportedStickyEvents = before.reportedStickyEvents)
    (sessions : after.sessionsMap = before.sessionsMap.modify clientId change)
    (owner : ∀ session, (change session).clientId = session.clientId) :
    KeepsMarks renews before after := by
  rw [SortedMap.modify] at sessions
  cases found : before.sessionsMap.get? clientId with
  | none =>
      rw [found] at sessions
      exact of_same reported sessions
  | some session =>
      rw [found] at sessions
      exact of_insert reported sessions fun named => (owner session).trans (named clientId _ found)

end KeepsMarks

section

variable (config : ConfigData) (env : Externals σ) (manager eventId)

theorem subscribeSc_reported :
    (manager.subscribeSc config env eventId).2.reportedStickyEvents =
      manager.reportedStickyEvents := by
  rw [subscribeSc]
  cases config.getEventConfig eventId with
  | none => rfl
  | some cfg =>
      dsimp only
      split_ifs
      · rfl
      · rw [subscribeScInSg]
        dsimp only
        split_ifs <;> rfl
      · rw [subscribeScInSc]
        dsimp only
        split_ifs <;> rfl

theorem unSubscribeSc_reported :
    (manager.unSubscribeSc config env eventId).2.reportedStickyEvents =
      manager.reportedStickyEvents := by
  rw [unSubscribeSc]
  cases config.getEventConfig eventId with
  | none => rfl
  | some cfg =>
      dsimp only
      split_ifs <;> rfl

variable {manager}

theorem KeepsMarks.of_world {world : σ} : KeepsMarks renews manager (manager.withWorld world) :=
  .of_same rfl rfl

theorem callFilter_keepsMarks
    (call : FilterPlugin σ → SecurityCollectorEventMuteFilter → σ → Code × σ)
    (filter : EventMuteFilter) (clientId : String) :
    KeepsMarks renews manager (manager.callFilter config env call filter clientId).2 := by
  obtain ⟨world, same⟩ := callFilter_world config env manager clientId call filter
  rw [same]
  exact .of_world

end

end Manager

namespace Manager

/-- The marks without that of one client and event. -/
def clearMark (reported : SortedMap String (SortedSet Int)) (eventId : Int) (clientId : String) :
    SortedMap String (SortedSet Int) :=
  match reported.get? clientId with
  | none => reported
  | some events =>
      if (events.erase eventId).size = 0 then reported.erase clientId
      else reported.insert clientId (events.erase eventId)

theorem cleanupRecord_reported {σ : Type} {manager : Manager σ} (eventId : Int)
    (clientId : String) :
    (manager.cleanupRecord eventId clientId true).reportedStickyEvents =
      clearMark manager.reportedStickyEvents eventId clientId := by
  rw [cleanupRecord, if_neg (by simp), clearMark]
  -- forgetting the session leaves the marks alone
  have same : (if (manager.sessionsMap.get? clientId).any fun session => session.subEvents.size = 0
      then manager.eraseSession clientId else manager).reportedStickyEvents =
      manager.reportedStickyEvents := by
    split_ifs <;> rfl
  dsimp only
  rw [same]
  cases manager.reportedStickyEvents.get? clientId with
  | none => exact same
  | some reported => rfl

variable {reported : SortedMap String (SortedSet Int)} {eventId event : Int}
  {clientId other : String}

theorem contains_of_clearMark
    (marked : (clearMark reported eventId clientId).contains other = true) :
    reported.contains other = true := by
  rw [clearMark] at marked
  cases found : reported.get? clientId with
  | none => rwa [found] at marked
  | some events =>
      rw [found] at marked
      dsimp only at marked
      split_ifs at marked
      · rw [SortedMap.contains_erase, Bool.and_eq_true] at marked
        exact marked.2
      · rw [SortedMap.contains_insert, Bool.or_eq_true, decide_eq_true_eq] at marked
        rcases marked with rfl | marked
        · exact SortedMap.contains_iff.mpr ⟨events, found⟩
        · exact marked

theorem remaining_of_clearMark
    (marked : (clearMark reported eventId clientId).contains clientId = true) :
    ∃ events, reported.get? clientId = some events ∧ (events.erase eventId).size ≠ 0 := by
  obtain ⟨events, found⟩ := SortedMap.contains_iff.mp (contains_of_clearMark marked)
  refine ⟨events, found, fun empty => ?_⟩
  rw [clearMark, found] at marked
  dsimp only at marked
  rw [if_pos empty, SortedMap.contains_erase] at marked
  simp at marked

theorem marked_clearMark :
    ((clearMark reported eventId clientId).get? other).any (fun events => events.contains event) =
      (!decide (event = eventId ∧ other = clientId) &&
        (reported.get? other).any fun events => events.contains event) := by
  rw [clearMark]
  cases found : reported.get? clientId with
  | none => by_cases same : other = clientId <;> simp [same, found]
  | some events =>
      dsimp only
      by_cases same : other = clientId
      · subst same
        split_ifs with empty
        · have none := SortedMap.contains_eq_false_of_size empty event
          rw [SortedMap.contains_erase] at none
          simpa [found] using none.symm
        · simp [found]
      · split_ifs <;> simp [same]

end Manager

/-! ## The system -/

/-- The system with a count of what its clients receive. -/
structure StickySystem (σ : Type) where
  system : SubscribeSystem σ
  /-- How often a client has received a sticky event since it last subscribed it, or stopped
  subscribing it, through the callback API. -/
  deliveries : String → Int → Nat := fun _ _ => 0

/-- An operation arrives or moves on, or an event is published. -/
inductive StickyAction where
  | act (action : SubscribeAction)
  | publish (refused : Bool) (event : PublishedEvent)
  deriving DecidableEq

/-- A section of the callback API that enters a subscription or ends one. -/
def Section.renews {σ : Type} (manager : Manager σ) (clientId : String) (eventId : Int) :
    Section → Bool
  | .enter (.insertSubscribeRecordWith info client) =>
      decide (clientId = client ∧ eventId = info.eventId) && !manager.subscribes clientId eventId
  | .settle (.removal event client true) code =>
      decide (code = .success ∧ clientId = client ∧ eventId = event) &&
        !manager.subscribes clientId eventId
  | _ => false

/-- What a step does to the marks is allowed: a session that ends leaves no marks, and an
unsubscription does not clear the mark of an event that its client subscribes again. -/
def Section.KeepsSticky {σ : Type} (manager : Manager σ) : Section → Prop
  | .enter (.destoryClient clientId) =>
      manager.reportedStickyEvents.contains clientId = false
  | .enter (.removeSubscribeRecordOnRemoteDied callback) =>
      ∀ entry ∈ manager.sessionsMap.entries.find? fun entry => entry.2.callback = callback,
        manager.reportedStickyEvents.contains entry.1 = false
  | .settle (.insertion eventId clientId true _) code =>
      code ≠ .success →
        ∀ session ∈ manager.sessionsMap.get? clientId,
          (session.withoutEvent eventId).subEvents.size = 0 →
            manager.reportedStickyEvents.contains clientId = false
  | .settle (.removal eventId clientId true) code =>
      code = .success →
        (∀ session ∈ manager.sessionsMap.get? clientId, session.subEvents.size = 0 →
          ∀ reported ∈ manager.reportedStickyEvents.get? clientId,
            (reported.erase eventId).size = 0) ∧
          (manager.hasStickyEventReported eventId clientId = true →
            manager.subscribes clientId eventId = false)
  | _ => True

instance {σ : Type} (manager : Manager σ) (step : Section) :
    Decidable (step.KeepsSticky manager) := by
  unfold Section.KeepsSticky
  split <;> infer_instance

namespace Section

variable {σ : Type} {config : ConfigData} {env : Externals σ} {manager : Manager σ}

/-- A step renews what the callback API changes. -/
abbrev Keeps (step : Section) (before after : Manager σ) : Prop :=
  Manager.KeepsMarks (fun clientId eventId => step.renews before clientId eventId) before after

theorem enterOperation_keeps {operation : Operation}
    (allowed : KeepsSticky manager (.enter operation)) :
    Keeps (.enter operation) manager (enterOperation manager operation).1 := by
  cases operation with
  | creatClient eventGroup clientId callerPid callback =>
      rw [enterOperation]
      split_ifs <;> exact .refl manager
  | insertSubscribeRecord eventId clientId =>
      rw [enterOperation, Manager.enterRecord]
      cases found : manager.sessionsMap.get? clientId with
      | none => exact .refl manager
      | some session =>
          dsimp only
          split_ifs
          · exact .refl manager
          · exact .of_insert rfl rfl fun named => named clientId session found
  | insertSubscribeRecordWith info clientId =>
      rw [enterOperation, Manager.enterRecordWith]
      split_ifs
      · exact .refl manager
      · refine .of_insert rfl rfl fun named => ?_
        cases found : manager.sessionsMap.get? clientId with
        | none => rfl
        | some session => exact named clientId session found
  | removeSubscribeRecord eventId clientId cleanupSession =>
      rw [enterOperation, Manager.leaveRecord]
      cases found : manager.sessionsMap.get? clientId with
      | none => exact .refl manager
      | some session =>
          dsimp only
          split_ifs
          · exact .refl manager
          · exact .of_insert rfl rfl fun named => named clientId session found
  | destoryClient clientId =>
      rw [enterOperation, Manager.leaveClient]
      cases manager.sessionsMap.get? clientId with
      | none => exact .refl manager
      | some session => exact .of_erase rfl rfl allowed
  | removeSubscribeRecordOnRemoteDied callback =>
      rw [enterOperation, Manager.leaveCallback]
      cases owner : manager.sessionsMap.entries.find? fun entry =>
          entry.2.callback = callback with
      | none => exact .refl manager
      | some entry => exact .of_erase rfl rfl (allowed entry owner)

theorem rollbackInsert_keeps {eventId : Int} {clientId : String} {sessionCreated : Bool}
    {filters : List EventMuteFilter} {code : Code} (failed : code ≠ .success)
    (allowed : KeepsSticky manager
      (.settle (.insertion eventId clientId sessionCreated filters) code)) :
    Keeps (.settle (.insertion eventId clientId sessionCreated filters) code) manager
      (manager.rollbackInsert eventId clientId sessionCreated) := by
  rw [Manager.rollbackInsert]
  cases found : manager.sessionsMap.get? clientId with
  | none => exact .refl manager
  | some session =>
      dsimp only
      split_ifs with ends
      · obtain ⟨rfl, empty⟩ := ends
        exact .of_erase rfl rfl (allowed failed session found empty)
      · exact .of_insert rfl rfl fun named => named clientId session found

/-- The section that clears a mark renews the subscription, or clears nothing. -/
theorem cleanupRecord_keeps {eventId : Int} {clientId : String}
    (allowed : KeepsSticky manager (.settle (.removal eventId clientId true) .success)) :
    Keeps (.settle (.removal eventId clientId true) .success) manager
      (manager.cleanupRecord eventId clientId true) := by
  obtain ⟨ends, clears⟩ := allowed rfl
  have reported := manager.cleanupRecord_reported eventId clientId
  have sessions := manager.cleanupRecord_sessionsMap clientId eventId true
  constructor
  · intro named other session found
    rw [sessions] at found
    split_ifs at found
    · exact named other session (SortedMap.get?_erase_eq_some.mp found).2
    · exact named other session found
  · intro live other marked
    rw [reported] at marked
    have present := live other (Manager.contains_of_clearMark marked)
    rw [sessions]
    split_ifs with ended
    · rw [SortedMap.contains_erase, present, Bool.and_true]
      by_contra same
      have own : other = clientId := by simpa using same
      subst own
      obtain ⟨session, found, empty⟩ := (Option.any_eq_true _ _).mp ended.2
      obtain ⟨events, kept, more⟩ := Manager.remaining_of_clearMark marked
      exact more (ends session found (of_decide_eq_true empty) events kept)
    · exact present
  · intro other event _ marked
    rw [Manager.hasStickyEventReported, reported, Manager.marked_clearMark]
    by_cases own : event = eventId ∧ other = clientId
    · obtain ⟨rfl, rfl⟩ := own
      have idle := clears marked
      exact .inr (by simp [renews, idle])
    · rw [Manager.hasStickyEventReported] at marked
      exact .inl (by simp only [own, decide_false, Bool.not_false, marked, Bool.and_self])

theorem settleTask_keeps {task : CollectorTask} {code : Code}
    (allowed : KeepsSticky manager (.settle task code)) :
    Keeps (.settle task code) manager (settleTask manager code task).1 := by
  cases task with
  | insertion eventId clientId sessionCreated filters =>
      rw [settleTask]
      split_ifs with failed
      · exact rollbackInsert_keeps failed allowed
      · exact .refl manager
  | removal eventId clientId cleanupSession =>
      rw [settleTask]
      split_ifs with failed
      · exact .of_modify rfl rfl fun _ => rfl
      · obtain rfl := not_not.mp failed
        cases cleanupSession with
        | false => exact .refl manager
        | true => exact cleanupRecord_keeps allowed
  | forgetting eventId todo clientId filters => exact .refl manager

variable (config env) in
theorem take_keeps {step : Section} (allowed : KeepsSticky manager step) :
    Keeps step manager (step.take config env manager).1 := by
  cases step with
  | enter operation => exact enterOperation_keeps allowed
  | create eventGroup clientId callerPid callback =>
      rw [take, Manager.enterClient]
      split_ifs
      · exact .refl manager
      · exact .of_insert rfl rfl fun _ => rfl
  | died clientId events =>
      obtain ⟨world, same⟩ := Manager.removeSdkAllEventFilter_world env manager clientId
      rw [take, same]
      exact .of_world
  | settle task code => exact settleTask_keeps allowed
  | checkMute clientId filter todo =>
      rw [take]
      split_ifs <;> exact .refl manager
  | insertMute clientId filter todo =>
      exact Manager.callFilter_keepsMarks config env FilterPlugin.setEventFilter filter clientId
  | removeMute clientId filter todo =>
      exact Manager.callFilter_keepsMarks config env FilterPlugin.removeEventFilter filter clientId

end Section

namespace SubscribeSystem

variable {σ : Type} {config : ConfigData} {env : Externals σ} {system : SubscribeSystem σ}

/-- The section that a step of the system takes. -/
def section? (system : SubscribeSystem σ) : SubscribeAction → Option Section
  | .call _ _ => none
  | .step id =>
      match system.calls.get? id with
      | some (.free step) => some step
      | _ => none

theorem next_keepsMarks {action : SubscribeAction} {after : SubscribeSystem σ}
    (allowed : ∀ step ∈ system.section? action, step.KeepsSticky system.manager)
    (taken : next config env system action = some after) :
    Manager.KeepsMarks
      (fun clientId eventId => (system.section? action).any fun step =>
        step.renews system.manager clientId eventId) system.manager after.manager := by
  cases action with
  | call id operation =>
      rw [next] at taken
      split_ifs at taken
      obtain rfl := Option.some.inj taken
      exact .refl system.manager
  | step id =>
      obtain ⟨stage, found, stepped⟩ := Option.bind_eq_some_iff.mp taken
      rw [section?, found] at allowed ⊢
      cases stage with
      | free step =>
          obtain rfl := Option.some.inj stepped
          rw [proceed_manager]
          exact Section.take_keeps config env (allowed step rfl)
      | await task =>
          rw [callStep] at stepped
          split_ifs at stepped
          · obtain rfl := Option.some.inj stepped
            exact .refl system.manager
          · obtain rfl := Option.some.inj stepped
            exact .refl system.manager
      | collect task =>
          obtain rfl := Option.some.inj stepped
          rw [proceed_manager]
          cases task with
          | insertion eventId =>
              exact .of_same (Manager.subscribeSc_reported _ _ config env)
                (Manager.subscribeSc_collectorOnly config env _ eventId).sessionsMap
          | removal eventId =>
              exact .of_same (Manager.unSubscribeSc_reported _ _ config env)
                (Manager.unSubscribeSc_collectorOnly config env _ eventId).sessionsMap
          | forgetting eventId =>
              exact .of_same (Manager.unSubscribeSc_reported _ _ config env)
                (Manager.unSubscribeSc_collectorOnly config env _ eventId).sessionsMap

end SubscribeSystem

namespace StickySystem

variable {σ : Type} (config : ConfigData) (env : Externals σ) (state : StickySystem σ)

/-- A session begins, or the callback API changes its subscription. -/
def renewed (action : SubscribeAction) (after : SubscribeSystem σ) (clientId : String)
    (eventId : Int) : Bool :=
  (!state.system.manager.sessionsMap.contains clientId &&
      after.manager.sessionsMap.contains clientId) ||
    (state.system.section? action).any fun step =>
      step.renews state.system.manager clientId eventId

/-- The state after a step that is possible. -/
def next : Transition (StickySystem σ) StickyAction
  | state, .act action =>
      (state.system.next config env action).map fun after =>
        { system := after
          deliveries := fun clientId eventId =>
            -- A new subscription begins a new count.
            if state.renewed action after clientId eventId then 0
            else state.deliveries clientId eventId }
  | state, .publish refused event =>
      let published := state.system.manager.publishEventToSub config refused event
      some
        { system := { state.system with manager := published.2 }
          deliveries := fun clientId eventId =>
            state.deliveries clientId eventId +
              if eventId = event.eventId ∧ config.isStickyEvent eventId then
                Manager.notices clientId published.1
              else 0 }

/-- What a step does to the marks is allowed. -/
def KeepsSticky (state : StickySystem σ) : StickyAction → Prop
  | .act action => ∀ step ∈ state.system.section? action, step.KeepsSticky state.system.manager
  | .publish _ _ => True

instance : ∀ (state : StickySystem σ) (action : StickyAction), Decidable (state.KeepsSticky action)
  | state, .act action => inferInstanceAs
      (Decidable (∀ step ∈ state.system.section? action, step.KeepsSticky state.system.manager))
  | _, .publish _ _ => isTrue trivial

/-- A client receives a sticky event once, clients with marks have sessions, and a session that
begins finds no marks. -/
structure FollowsSessions (state : StickySystem σ) : Prop where
  once : ∀ clientId eventId, state.deliveries clientId eventId ≤ 1
  live : state.system.manager.Live
  fresh : ∀ clientId eventId, state.system.manager.sessionsMap.contains clientId = false →
    state.system.manager.hasStickyEventReported eventId clientId = false

/-- What every allowed step keeps: what a session has received is marked. -/
structure Marked (state : StickySystem σ) : Prop where
  named : state.system.manager.Named
  live : state.system.manager.Live
  marks : ∀ clientId eventId, state.system.manager.sessionsMap.contains clientId = true →
    0 < state.deliveries clientId eventId →
      state.system.manager.hasStickyEventReported eventId clientId = true
  once : ∀ clientId eventId, state.deliveries clientId eventId ≤ 1

variable {config env state}

theorem Marked.act (marked : state.Marked) {action : SubscribeAction}
    {after : SubscribeSystem σ} (allowed : state.KeepsSticky (.act action))
    (taken : SubscribeSystem.next config env state.system action = some after) :
    Marked
      { system := after
        deliveries := fun clientId eventId =>
          if state.renewed action after clientId eventId then 0
          else state.deliveries clientId eventId } := by
  have keeps := SubscribeSystem.next_keepsMarks allowed taken
  refine ⟨keeps.named marked.named, keeps.live marked.live, ?_, ?_⟩
  · intro clientId eventId present received
    dsimp only at present received ⊢
    split_ifs at received with renewed
    · exact absurd received (Nat.lt_irrefl 0)
    rw [StickySystem.renewed, Bool.not_eq_true, Bool.or_eq_false_iff, present] at renewed
    have stayed : state.system.manager.sessionsMap.contains clientId = true := by
      simpa using renewed.1
    have before := marked.marks clientId eventId stayed received
    refine (keeps.marks clientId eventId present before).resolve_right ?_
    rw [renewed.2]
    exact Bool.false_ne_true
  · intro clientId eventId
    dsimp only
    split_ifs
    · exact Nat.zero_le 1
    · exact marked.once clientId eventId

theorem Marked.contains_of_notices (marked : state.Marked) {event : PublishedEvent}
    {after : List ClientSession × Manager σ}
    (round : Manager.StickyRound event state.system.manager.sessionsMap.entries
      state.system.manager after) {clientId : String}
    (pos : 0 < Manager.notices clientId after.1) :
    state.system.manager.sessionsMap.contains clientId = true := by
  obtain ⟨session, mem, own⟩ := List.countP_pos_iff.mp pos
  obtain ⟨key, entry⟩ := round.within session mem
  have found := SortedMap.mem_entries_iff.mp entry
  have named := marked.named key session found
  rw [of_decide_eq_true own] at named
  exact SortedMap.contains_iff.mpr ⟨session, named ▸ found⟩

theorem Marked.publish (marked : state.Marked) (refused : Bool) (event : PublishedEvent)
    {after : StickySystem σ} (taken : next config env state (.publish refused event) = some after) :
    after.Marked := by
  obtain rfl := Option.some.inj taken
  rcases state.system.manager.publishEventToSub_cases config refused event with
    ⟨same, silent⟩ | ⟨sticky, round⟩
  · have silence (clientId : String) (eventId : Int) :
        (if eventId = event.eventId ∧ config.isStickyEvent eventId then
          Manager.notices clientId (state.system.manager.publishEventToSub config refused event).1
          else 0) = 0 := by
      split_ifs with received
      · obtain ⟨rfl, sticky⟩ := received
        rw [silent sticky]
        rfl
      · rfl
    simp only [silence, Nat.add_zero, same]
    exact marked
  · constructor
    · rw [Manager.Named, round.sessionsMap]
      exact marked.named
    · intro clientId reported
      rw [round.sessionsMap]
      rcases round.reported clientId reported with before | pos
      · exact marked.live clientId before
      · exact marked.contains_of_notices round pos
    · intro clientId eventId present received
      rw [round.sessionsMap] at present
      rw [round.marks]
      by_cases before : 0 < state.deliveries clientId eventId
      · rw [marked.marks clientId eventId present before, Bool.or_true]
      · dsimp only at received
        split_ifs at received with own
        · have pos : 0 < Manager.notices clientId
              (state.system.manager.publishEventToSub config refused event).1 := by omega
          simp [own.1, pos]
        · exact absurd received (by simpa using before)
    · intro clientId eventId
      dsimp only
      split_ifs with own
      · obtain ⟨rfl, -⟩ := own
        have once := round.once clientId
        have before := marked.once clientId event.eventId
        by_contra twice
        have pos : 0 < Manager.notices clientId
            (state.system.manager.publishEventToSub config refused event).1 := by omega
        have unmarked := round.unmarked clientId pos
        rw [marked.marks clientId event.eventId (marked.contains_of_notices round pos)
          (by omega)] at unmarked
        exact Bool.noConfusion unmarked
      · exact marked.once clientId eventId

theorem Marked.next {action : StickyAction} {after : StickySystem σ} (marked : state.Marked)
    (allowed : state.KeepsSticky action) (taken : next config env state action = some after) :
    after.Marked := by
  cases action with
  | act action =>
      obtain ⟨system, stepped, rfl⟩ := Option.map_eq_some_iff.mp taken
      exact marked.act allowed stepped
  | publish refused event => exact marked.publish refused event taken

theorem Marked.followsSessions (marked : state.Marked) : state.FollowsSessions where
  once := marked.once
  live := marked.live
  fresh := by
    intro clientId eventId absent
    by_contra reported
    rw [Bool.not_eq_false] at reported
    obtain ⟨events, found, -⟩ := (Option.any_eq_true _ _).mp reported
    rw [marked.live clientId (SortedMap.contains_iff.mpr ⟨events, found⟩)] at absent
    exact Bool.noConfusion absent

theorem marked_initial (world : σ) :
    ({ system := { manager := { world } } } : StickySystem σ).Marked where
  named := fun clientId session found => by simp at found
  live := fun clientId reported => by simp at reported
  marks := fun clientId eventId present => by simp at present
  once := fun _ _ => Nat.zero_le 1

/-- When marks are cleared with the sessions they belong to and not before, sticky events follow
the sessions in every interleaving. -/
theorem sticky_events_follow_sessions {world : σ} {actions : List StickyAction}
    {final : StickySystem σ}
    (allowed : Transition.Along (next config env) KeepsSticky
      { system := { manager := { world } } } actions)
    (reach : Transition.run (next config env) { system := { manager := { world } } } actions =
      some final) : final.FollowsSessions :=
  (Transition.run_invariant (fun marked allowed taken => Marked.next marked allowed taken)
    (marked_initial world) allowed reach).followsSessions

/-- Event 9 is sticky and needs no collector. -/
def stickyConfig : ConfigData where
  eventMap := SortedMap.empty.insert 9 { eventId := 9, isSticky := 1 }

/-- The state after a run that begins without sessions. -/
def stickyRun (actions : List StickyAction) : StickySystem Unit :=
  (Transition.run (next stickyConfig SubscribeSystem.idleExternals)
    { system := { manager := { world := () } } } actions).getD
      { system := { manager := { world := () } } }

/-- A client subscribes the event through the callback API and receives it, twice. -/
def subscribesTwice : List StickyAction :=
  let subscribe := (SubscribeSystem.uninterrupted 0
    (.insertSubscribeRecordWith ⟨9, "securityGroup", 100, 10⟩ "a") 4).map .act
  let unsubscribe := (SubscribeSystem.uninterrupted 0
    (.removeSubscribeRecord 9 "a" true) 4).map .act
  subscribe ++ [.publish false ⟨9, .empty⟩] ++ unsubscribe ++ subscribe ++
    [.publish false ⟨9, .empty⟩]

theorem sticky_events_follow_sessions_subscribesTwice :
    (stickyRun subscribesTwice).FollowsSessions :=
  @sticky_events_follow_sessions Unit stickyConfig SubscribeSystem.idleExternals ()
    subscribesTwice _ (by decide +kernel) (Transition.run_eq_getD (by decide +kernel))

/-- A client receives the event and is destroyed. -/
def receivesAndGoes : List StickyAction :=
  (SubscribeSystem.uninterrupted 0 (.creatClient "securityGroup" "a" 100 10) 2).map .act ++
    (SubscribeSystem.uninterrupted 1 (.insertSubscribeRecord 9 "a") 4).map .act ++
    [.publish false ⟨9, .empty⟩] ++
    (SubscribeSystem.uninterrupted 2 (.destoryClient "a") 4).map .act

/-- The mark of a client outlives its session, so that its next session misses the event. -/
theorem mark_outlives_session :
    ¬∀ (actions : List StickyAction) (final : StickySystem Unit),
      Transition.run (next stickyConfig SubscribeSystem.idleExternals)
          { system := { manager := { world := () } } } actions = some final →
        final.FollowsSessions := by
  intro always
  have follows := always receivesAndGoes (stickyRun receivesAndGoes)
    (Transition.run_eq_getD (by decide +kernel))
  have ended : (stickyRun receivesAndGoes).system.manager.sessionsMap.contains "a" = false := by
    decide +kernel
  have marked : (stickyRun receivesAndGoes).system.manager.hasStickyEventReported 9 "a" =
      true := by
    decide +kernel
  rw [follows.fresh "a" 9 ended] at marked
  exact Bool.noConfusion marked

end StickySystem

end SecurityGuard
