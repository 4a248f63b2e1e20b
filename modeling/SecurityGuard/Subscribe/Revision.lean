import SecurityGuard.Subscribe.Sessions

/-!
# Which session an operation revises

An operation of a client revises the session of that client only.  The session keeps its group,
and it has no event afterwards that it did not have before, except the one that the operation
enters.
-/

namespace SecurityGuard

namespace Manager

variable {σ : Type} {config : ConfigData} {env : Externals σ} {manager : Manager σ}
  {clientId : String} {eventId : Int} {added : Option Int}

/-- The session of one client is revised: it may go, or change other than in its group, and
gains at most one event. -/
structure Revision (clientId : String) (added : Option Int) (before after : Manager σ) :
    Prop where
  others : ∀ other ≠ clientId, after.sessionsMap.get? other = before.sessionsMap.get? other
  own : ∀ session, after.sessionsMap.get? clientId = some session →
    ∃ old, before.sessionsMap.get? clientId = some old ∧ session.eventGroup = old.eventGroup ∧
      ∀ event, session.subEvents.contains event = true →
        event ∈ added ∨ old.subEvents.contains event = true

namespace Revision

theorem of_sessionsMap {before after : Manager σ} (same : after.sessionsMap = before.sessionsMap) :
    Revision clientId added before after := by
  refine ⟨fun _ _ => by rw [same], fun session found => ?_⟩
  rw [same] at found
  exact ⟨session, found, rfl, fun _ contains => .inr contains⟩

theorem refl (manager : Manager σ) : Revision clientId added manager manager :=
  of_sessionsMap rfl

theorem trans {before middle after : Manager σ} (first : Revision clientId added before middle)
    (second : Revision clientId added middle after) : Revision clientId added before after := by
  constructor
  · intro other ne
    rw [second.others other ne, first.others other ne]
  · intro session found
    obtain ⟨later, foundLater, group, events⟩ := second.own session found
    obtain ⟨old, foundOld, oldGroup, oldEvents⟩ := first.own later foundLater
    refine ⟨old, foundOld, group.trans oldGroup, fun event contains => ?_⟩
    rcases events event contains with mem | contains
    · exact .inl mem
    · exact oldEvents event contains

theorem mono {before after : Manager σ} (revision : Revision clientId none before after) :
    Revision clientId added before after := by
  refine ⟨revision.others, fun session found => ?_⟩
  obtain ⟨old, foundOld, group, events⟩ := revision.own session found
  exact ⟨old, foundOld, group, fun event contains => .inr ((events event contains).resolve_left
    (by simp))⟩

theorem drop {before after : Manager σ} (had : before.subscribes clientId eventId = true)
    (revision : Revision clientId (some eventId) before after) :
    Revision clientId none before after := by
  refine ⟨revision.others, fun session found => ?_⟩
  obtain ⟨old, foundOld, group, events⟩ := revision.own session found
  refine ⟨old, foundOld, group, fun event contains => .inr ?_⟩
  rcases events event contains with mem | contains
  · obtain rfl := Option.some.inj mem
    rwa [subscribes_of_get? foundOld] at had
  · exact contains

theorem eraseSession : Revision clientId added manager (manager.eraseSession clientId) := by
  refine ⟨fun other ne => by simp [Manager.eraseSession, ne], fun session found => ?_⟩
  simp [Manager.eraseSession] at found

theorem insert {old session : ClientSession}
    (found : manager.sessionsMap.get? clientId = some old)
    (group : session.eventGroup = old.eventGroup)
    (events : ∀ event, session.subEvents.contains event = true →
      event ∈ added ∨ old.subEvents.contains event = true) :
    Revision clientId added manager
      { manager with sessionsMap := manager.sessionsMap.insert clientId session } := by
  refine ⟨fun other ne => by simp [ne], fun later foundLater => ?_⟩
  obtain rfl : session = later := by simpa using foundLater
  exact ⟨old, found, group, events⟩

theorem updateSession {change : ClientSession → ClientSession}
    (group : ∀ session, (change session).eventGroup = session.eventGroup)
    (events : ∀ session event, (change session).subEvents.contains event = true →
      event ∈ added ∨ session.subEvents.contains event = true) :
    Revision clientId added manager (manager.updateSession clientId change) := by
  refine ⟨fun other ne => by simp [Manager.updateSession, ne], fun session found => ?_⟩
  cases present : manager.sessionsMap.get? clientId with
  | none => simp [Manager.updateSession, present] at found
  | some old =>
      obtain rfl : change old = session := by
        simpa [Manager.updateSession, present] using found
      exact ⟨old, rfl, group old, events old⟩

end Revision

theorem gained_of_insert {events : SortedSet Int} {event : Int}
    (contains : (events.insert eventId ()).contains event = true) :
    event ∈ some eventId ∨ events.contains event = true := by
  rw [SortedMap.contains_insert, Bool.or_eq_true, decide_eq_true_iff] at contains
  exact contains.imp (fun same => congrArg some same.symm) id

theorem had_of_erase {events : SortedSet Int} {event : Int}
    (contains : (events.erase eventId).contains event = true) : events.contains event = true := by
  rw [SortedMap.contains_erase, Bool.and_eq_true] at contains
  exact contains.2

theorem enterRecord_revision {entered : Manager σ × List EventMuteFilter}
    (taken : manager.enterRecord eventId clientId = .continues entered) :
    Revision clientId (some eventId) manager entered.1 := by
  rw [enterRecord] at taken
  cases found : manager.sessionsMap.get? clientId with
  | none => simp [found] at taken
  | some session =>
      simp only [found] at taken
      split_ifs at taken
      cases taken
      exact .insert found rfl fun event contains => gained_of_insert contains

/-- The manager with a session for a client, a new one if it has none. -/
def withSession (manager : Manager σ) (info : SubscribeInfo) (clientId : String) : Manager σ :=
  if manager.sessionsMap.contains clientId then manager
  else
    { manager with
      sessionsMap := manager.sessionsMap.insert clientId (info.session clientId) }

theorem withSession_get? (info : SubscribeInfo) :
    (manager.withSession info clientId).sessionsMap.get? clientId =
      some ((manager.sessionsMap.get? clientId).getD (info.session clientId)) := by
  rw [withSession]
  cases found : manager.sessionsMap.get? clientId with
  | none => simp [SortedMap.contains, found]
  | some session => simp [SortedMap.contains, found]

theorem withSession_get?_of_ne (info : SubscribeInfo) {other : String} (ne : other ≠ clientId) :
    (manager.withSession info clientId).sessionsMap.get? other =
      manager.sessionsMap.get? other := by
  rw [withSession]
  split_ifs
  · rfl
  · simp [ne]

/-- The older form of `InsertSubscribeRecord` creates the session first. -/
theorem enterRecordWith_revision {info : SubscribeInfo} {entered : Manager σ × Bool}
    (taken : manager.enterRecordWith info clientId = .continues entered) :
    Revision clientId (some info.eventId) (manager.withSession info clientId) entered.1 := by
  rw [enterRecordWith] at taken
  split_ifs at taken
  cases taken
  constructor
  · intro other ne
    rw [withSession_get?_of_ne info ne]
    simp [ne]
  · intro session found
    refine ⟨_, withSession_get? info, ?_⟩
    simp only [SortedMap.get?_insert, if_true, Option.some.injEq] at found
    subst found
    exact ⟨rfl, fun event contains => gained_of_insert contains⟩

theorem leaveRecord_revision {left : Manager σ}
    (taken : manager.leaveRecord eventId clientId = .continues left) :
    Revision clientId none manager left := by
  rw [leaveRecord] at taken
  cases found : manager.sessionsMap.get? clientId with
  | none => simp [found] at taken
  | some session =>
      simp only [found] at taken
      split_ifs at taken
      cases taken
      exact .insert found rfl fun event contains => .inr (had_of_erase contains)

theorem rollbackInsert_revision (sessionCreated : Bool) :
    Revision clientId none manager (manager.rollbackInsert eventId clientId sessionCreated) := by
  rw [rollbackInsert]
  cases found : manager.sessionsMap.get? clientId with
  | none => exact .refl manager
  | some session =>
      dsimp only
      split_ifs
      · exact .eraseSession
      · exact .insert found rfl fun event contains => .inr (had_of_erase contains)

theorem rollbackRemove_revision :
    Revision clientId (some eventId) manager (manager.rollbackRemove eventId clientId) :=
  .updateSession (fun _ => rfl) fun _ _ contains => gained_of_insert contains

theorem cleanupRecord_revision (cleanupSession : Bool) :
    Revision clientId none manager (manager.cleanupRecord eventId clientId cleanupSession) := by
  rw [cleanupRecord]
  split_ifs
  · exact .refl manager
  · dsimp only
    cases (manager.eraseSession clientId).reportedStickyEvents.get? clientId with
    | none => exact .eraseSession
    | some reported =>
        exact Revision.eraseSession.trans (.of_sessionsMap rfl)
  · dsimp only
    cases manager.reportedStickyEvents.get? clientId with
    | none => exact .refl manager
    | some reported => exact .of_sessionsMap rfl

theorem addFilter_revision (filter : EventMuteFilter) :
    Revision clientId none manager (manager.addFilter filter clientId) :=
  .updateSession (fun _ => rfl) fun _ _ contains => .inr contains

theorem eraseFilterFromSession_revision (filter : EventMuteFilter) :
    Revision clientId none manager (manager.eraseFilterFromSession clientId filter) :=
  .updateSession (fun _ => rfl) fun _ _ contains => .inr contains

theorem CollectorOnly.revision {before after : Manager σ} {event : Int}
    (only : before.CollectorOnly event after) : Revision clientId added before after :=
  .of_sessionsMap only.sessionsMap

variable (config env manager clientId added) in
theorem callFilter_revision
    (call : FilterPlugin σ → SecurityCollectorEventMuteFilter → σ → Code × σ)
    (filter : EventMuteFilter) (instance' : String) :
    Revision clientId added manager (manager.callFilter config env call filter instance').2 := by
  obtain ⟨world, same⟩ := callFilter_world config env manager instance' call filter
  rw [same]
  exact .of_sessionsMap rfl

theorem insertMutes_revision (filters : List EventMuteFilter) :
    Revision clientId added manager (insertMutes config env clientId filters manager) := by
  induction filters generalizing manager with
  | nil => exact .refl manager
  | cons filter rest ih =>
      rw [insertMutes]
      split_ifs
      · exact (callFilter_revision _ _ _ _ _ FilterPlugin.setEventFilter filter clientId).trans ih
      · exact ih

theorem removeMutes_revision (filters : List EventMuteFilter) :
    Revision clientId added manager (removeMutes config env clientId filters manager) := by
  induction filters generalizing manager with
  | nil => exact .refl manager
  | cons filter rest ih =>
      exact (callFilter_revision _ _ _ _ _ FilterPlugin.removeEventFilter filter clientId).trans ih

theorem unSubscribeAll_revision (events : List Int) :
    Revision clientId added manager (unSubscribeAll config env events manager) := by
  induction events generalizing manager with
  | nil => exact .refl manager
  | cons event rest ih =>
      exact (unSubscribeScIfLast_collectorOnly config env manager event).revision.trans ih

theorem insertSubscribeRecord_revision :
    Revision clientId (some eventId) manager
      (manager.insertSubscribeRecord config env eventId clientId).2 := by
  rw [insertSubscribeRecord]
  cases taken : manager.enterRecord eventId clientId with
  | returns code => exact .refl manager
  | continues entered =>
      have collected := (enterRecord_revision taken).trans
        (subscribeScIfNeeded_collectorOnly config env _ eventId).revision
      dsimp only
      split_ifs
      · exact collected.trans (rollbackInsert_revision false).mono
      · exact collected.trans (insertMutes_revision entered.2)

variable (config env manager clientId) in
theorem insertSubscribeRecordWith_of_subscribes (info : SubscribeInfo)
    (had : manager.subscribes clientId info.eventId = true) :
    (manager.insertSubscribeRecordWith config env info clientId).2 = manager := by
  obtain ⟨session, found, contains⟩ := (Option.any_eq_true _ _).mp had
  have entered : manager.enterRecordWith info clientId = .returns .success := by
    simp [enterRecordWith, found, contains]
  rw [insertSubscribeRecordWith, entered]

theorem insertSubscribeRecordWith_revision (info : SubscribeInfo)
    (fresh : manager.subscribes clientId info.eventId = false) :
    Revision clientId (some info.eventId) (manager.withSession info clientId)
      (manager.insertSubscribeRecordWith config env info clientId).2 := by
  obtain ⟨entered, taken⟩ := enterRecordWith_of_fresh fresh
  have collected := (enterRecordWith_revision taken).trans
    (subscribeScIfNeeded_collectorOnly config env _ info.eventId).revision
  rw [insertSubscribeRecordWith, taken]
  dsimp only
  split_ifs
  · exact collected.trans (rollbackInsert_revision entered.2).mono
  · exact collected

theorem removeSubscribeRecordCore_of_not_subscribes {cleanupSession : Bool}
    (absent : manager.subscribes clientId eventId = false) :
    (manager.removeSubscribeRecordCore config env eventId clientId cleanupSession).2 =
      manager := by
  rw [removeSubscribeRecordCore]
  cases taken : manager.leaveRecord eventId clientId with
  | returns code => rfl
  | continues left => exact absurd (leaveRecord_continues taken).2.1 (by simp [absent])

theorem removeSubscribeRecordCore_revision (cleanupSession : Bool) :
    Revision clientId none manager
      (manager.removeSubscribeRecordCore config env eventId clientId cleanupSession).2 := by
  rw [removeSubscribeRecordCore]
  cases taken : manager.leaveRecord eventId clientId with
  | returns code => exact .refl manager
  | continues left =>
      have had := (leaveRecord_continues taken).2.1
      have collected := (leaveRecord_revision taken).trans
        (unSubscribeScIfLast_collectorOnly config env _ eventId).revision
      dsimp only
      split_ifs
      · exact .drop had (collected.mono.trans rollbackRemove_revision)
      · exact collected.trans (cleanupRecord_revision cleanupSession)

theorem destoryClient_revision :
    Revision clientId none manager (manager.destoryClient config env clientId).2 := by
  rw [destoryClient]
  cases taken : manager.leaveClient clientId with
  | returns code => exact .refl manager
  | continues left =>
      have erased : left.1 = manager.eraseSession clientId := by
        rw [leaveClient] at taken
        cases found : manager.sessionsMap.get? clientId with
        | none => simp [found] at taken
        | some session =>
            simp only [found] at taken
            cases taken
            rfl
      have forgotten : Revision clientId none manager left.1 := by
        rw [erased]
        exact .eraseSession
      exact (forgotten.trans (unSubscribeAll_revision left.2.1)).trans
        (removeMutes_revision left.2.2)

variable (manager clientId) in
theorem creatClient_cases (eventGroup : String) (callerPid : Int) (callback : Address) :
    let info : SubscribeInfo := { eventId := 0, eventGroup, callback, callerPid }
    let created := manager.creatClient eventGroup clientId callerPid callback
    (created.1 ≠ .success ∧ created.2 = manager) ∨
      (created.1 = .success ∧ manager.sessionsMap.get? clientId = none ∧
        created.2 = manager.withSession info clientId) := by
  rw [creatClient]
  dsimp only
  split_ifs with refused
  · exact .inl ⟨refused, rfl⟩
  · rw [enterClient, withSession]
    split_ifs with present
    · exact .inl ⟨by simp [Code.badParam, Code.success], rfl⟩
    · exact .inr ⟨rfl, by simpa [SortedMap.contains] using present, rfl⟩

theorem insertSubscribeMute_revision (filter : EventMuteFilter) :
    Revision clientId none manager
      (manager.insertSubscribeMute config env filter clientId).2 := by
  have applied := callFilter_revision config env manager clientId none
    FilterPlugin.setEventFilter filter clientId
  rw [insertSubscribeMute]
  dsimp only
  split_ifs
  · exact .refl manager
  · exact addFilter_revision filter
  · exact applied
  · exact applied.trans (addFilter_revision filter)

theorem removeSubscribeMute_revision (filter : EventMuteFilter) :
    Revision clientId none manager
      (manager.removeSubscribeMute config env filter clientId).2 := by
  have removed := callFilter_revision config env manager clientId none
    FilterPlugin.removeEventFilter filter clientId
  rw [removeSubscribeMute]
  dsimp only
  split_ifs
  · exact .refl manager
  · exact eraseFilterFromSession_revision filter
  · exact removed
  · exact removed.trans (eraseFilterFromSession_revision filter)

variable (config env manager) in
theorem removeSubscribeRecordOnRemoteDied_revision (callback : Address) :
    ∃ clientId, Revision clientId none manager
      (manager.removeSubscribeRecordOnRemoteDied config env callback) := by
  rw [removeSubscribeRecordOnRemoteDied]
  cases taken : manager.leaveCallback callback with
  | returns code => exact ⟨"", .refl manager⟩
  | continues left =>
      have erased : left.1 = manager.eraseSession left.2.1 := by
        rw [leaveCallback] at taken
        cases owner : manager.sessionsMap.entries.find? fun entry =>
            entry.2.callback = callback with
        | none => simp [owner] at taken
        | some entry =>
            simp only [owner] at taken
            cases taken
            rfl
      obtain ⟨world, filtered⟩ := removeSdkAllEventFilter_world env left.1 left.2.1
      refine ⟨left.2.1, Revision.trans ?_ (unSubscribeAll_revision left.2.2)⟩
      rw [filtered, erased]
      exact Revision.eraseSession.trans (.of_sessionsMap rfl)

end Manager

end SecurityGuard
