import SecurityGuard.Subscribe.Manager

/-!
# What the critical sections do to subscriptions

Every section changes who subscribes which event in one simple way and leaves the record of the
collectors alone.  A collector call is the other way round: it changes the record of its own
event and no session.
-/

namespace SecurityGuard

namespace Manager

variable {σ : Type} {config : ConfigData} {env : Externals σ} {manager : Manager σ}
  {clientId other : String} {eventId event : Int}

/-- Only the sessions and what is kept for them differ. -/
structure SessionsOnly (before after : Manager σ) : Prop where
  eventToListenner : after.eventToListenner = before.eventToListenner
  scSubscribeMap : after.scSubscribeMap = before.scSubscribeMap
  world : after.world = before.world

theorem SessionsOnly.refl (manager : Manager σ) : SessionsOnly manager manager := ⟨rfl, rfl, rfl⟩

theorem isAnySessionSubscribes_iff :
    manager.isAnySessionSubscribes event = true ↔
      ∃ clientId, manager.subscribes clientId event := by
  simp only [isAnySessionSubscribes, List.any_eq_true, subscribes, Option.any_eq_true]
  constructor
  · rintro ⟨⟨clientId, session⟩, mem, found⟩
    exact ⟨clientId, session, SortedMap.mem_entries_iff.mp mem, found⟩
  · rintro ⟨clientId, session, found, contains⟩
    exact ⟨(clientId, session), SortedMap.mem_entries_iff.mpr found, contains⟩

theorem isAnySessionSubscribes_congr {left right : Manager σ}
    (same : ∀ clientId, left.subscribes clientId event = right.subscribes clientId event) :
    left.isAnySessionSubscribes event = right.isAnySessionSubscribes event := by
  rw [Bool.eq_iff_iff, isAnySessionSubscribes_iff, isAnySessionSubscribes_iff]
  simp only [same]

theorem isAnySessionSubscribes_mono {left right : Manager σ}
    (fewer : ∀ clientId, left.subscribes clientId event → right.subscribes clientId event)
    (any : left.isAnySessionSubscribes event = true) :
    right.isAnySessionSubscribes event = true := by
  obtain ⟨clientId, subscribes⟩ := isAnySessionSubscribes_iff.mp any
  exact isAnySessionSubscribes_iff.mpr ⟨clientId, fewer clientId subscribes⟩

theorem subscribes_insert (session : ClientSession) :
    { manager with sessionsMap := manager.sessionsMap.insert clientId session }.subscribes other
        event =
      if other = clientId then session.subEvents.contains event
      else manager.subscribes other event := by
  by_cases same : other = clientId <;> simp [subscribes, same]

theorem subscribes_eraseSession :
    (manager.eraseSession clientId).subscribes other event =
      (!decide (other = clientId) && manager.subscribes other event) := by
  by_cases same : other = clientId <;> simp [subscribes, eraseSession, same]

theorem subscribes_updateSession {change : ClientSession → ClientSession} :
    (manager.updateSession clientId change).subscribes other event =
      if other = clientId then
        (manager.sessionsMap.get? clientId).any fun session =>
          (change session).subEvents.contains event
      else manager.subscribes other event := by
  by_cases same : other = clientId
  · subst same
    cases found : manager.sessionsMap.get? other <;> simp [subscribes, updateSession, found]
  · simp [subscribes, updateSession, same]

theorem subscribes_of_get? {session : ClientSession}
    (found : manager.sessionsMap.get? clientId = some session) :
    manager.subscribes clientId event = session.subEvents.contains event := by
  simp [subscribes, found]

theorem enterRecord_continues {entered : Manager σ × List EventMuteFilter}
    (taken : manager.enterRecord eventId clientId = .continues entered) :
    manager.SessionsOnly entered.1 ∧ ¬ manager.subscribes clientId eventId ∧
      ∀ other event, entered.1.subscribes other event =
        (decide (other = clientId ∧ event = eventId) || manager.subscribes other event) := by
  rw [enterRecord] at taken
  cases found : manager.sessionsMap.get? clientId with
  | none => simp [found] at taken
  | some session =>
      simp only [found] at taken
      split_ifs at taken with contains
      cases taken
      refine ⟨⟨rfl, rfl, rfl⟩, by simpa [subscribes_of_get? found] using contains, ?_⟩
      intro other event
      rw [subscribes_insert]
      by_cases same : other = clientId
      · simp [same, subscribes_of_get? found]
      · simp [same]

theorem enterRecordWith_continues {info : SubscribeInfo} {entered : Manager σ × Bool}
    (taken : manager.enterRecordWith info clientId = .continues entered) :
    manager.SessionsOnly entered.1 ∧ ¬ manager.subscribes clientId info.eventId ∧
      ∀ other event, entered.1.subscribes other event =
        (decide (other = clientId ∧ event = info.eventId) || manager.subscribes other event) := by
  rw [enterRecordWith] at taken
  split_ifs at taken with contains
  cases taken
  have own (event : Int) : manager.subscribes clientId event =
      ((manager.sessionsMap.get? clientId).getD
        (info.session clientId)).subEvents.contains event := by
    cases found : manager.sessionsMap.get? clientId <;>
      simp [subscribes, found, SubscribeInfo.session]
  refine ⟨⟨rfl, rfl, rfl⟩, by simpa [own] using contains, ?_⟩
  intro other event
  rw [subscribes_insert]
  by_cases same : other = clientId
  · simp [same, own]
  · simp [same]

theorem contains_of_enterRecord {entered : Manager σ × List EventMuteFilter}
    (taken : manager.enterRecord eventId clientId = .continues entered) :
    manager.sessionsMap.contains clientId = true := by
  rw [enterRecord] at taken
  cases found : manager.sessionsMap.get? clientId with
  | none => simp [found] at taken
  | some session => exact SortedMap.contains_iff.mpr ⟨session, found⟩

theorem enterRecord_of_fresh (present : manager.sessionsMap.contains clientId = true)
    (fresh : manager.subscribes clientId eventId = false) :
    ∃ entered, manager.enterRecord eventId clientId = .continues entered := by
  obtain ⟨session, found⟩ := SortedMap.contains_iff.mp present
  rw [subscribes_of_get? found] at fresh
  simp [enterRecord, found, fresh]

theorem enterRecordWith_of_fresh {info : SubscribeInfo}
    (fresh : manager.subscribes clientId info.eventId = false) :
    ∃ entered, manager.enterRecordWith info clientId = .continues entered := by
  cases found : manager.sessionsMap.get? clientId with
  | none => simp [enterRecordWith, found, SubscribeInfo.session]
  | some session =>
      rw [subscribes_of_get? found] at fresh
      simp [enterRecordWith, found, fresh]

variable (manager clientId eventId) in
theorem rollbackRemove_spec :
    manager.SessionsOnly (manager.rollbackRemove eventId clientId) ∧
      ∀ other event, (manager.rollbackRemove eventId clientId).subscribes other event =
        (decide (other = clientId ∧ event = eventId ∧
          manager.sessionsMap.contains clientId = true) || manager.subscribes other event) := by
  refine ⟨⟨rfl, rfl, rfl⟩, ?_⟩
  intro other event
  rw [rollbackRemove, subscribes_updateSession]
  by_cases same : other = clientId
  · subst same
    cases found : manager.sessionsMap.get? other with
    | none => simp [subscribes, SortedMap.contains, found]
    | some session =>
        have present := SortedMap.contains_iff.mpr ⟨session, found⟩
        simp [subscribes_of_get? found, present]
  · simp [same]

variable (manager clientId) in
theorem enterClient_spec (eventGroup : String) (callerPid : Int) (callback : Address) :
    manager.SessionsOnly (manager.enterClient eventGroup clientId callerPid callback).2 ∧
      ∀ other event,
        (manager.enterClient eventGroup clientId callerPid callback).2.subscribes other event =
          manager.subscribes other event := by
  rw [enterClient]
  split_ifs with present
  · exact ⟨.refl manager, fun _ _ => rfl⟩
  · refine ⟨⟨rfl, rfl, rfl⟩, fun other event => ?_⟩
    rw [subscribes_insert]
    have absent : manager.sessionsMap.get? clientId = none := by
      simpa [SortedMap.contains] using present
    by_cases same : other = clientId <;> simp [same, subscribes, absent]

theorem leaveRecord_continues {left : Manager σ}
    (taken : manager.leaveRecord eventId clientId = .continues left) :
    manager.SessionsOnly left ∧ manager.subscribes clientId eventId ∧
      ∀ other event, left.subscribes other event =
        (!decide (other = clientId ∧ event = eventId) && manager.subscribes other event) := by
  rw [leaveRecord] at taken
  cases found : manager.sessionsMap.get? clientId with
  | none => simp [found] at taken
  | some session =>
      simp only [found] at taken
      split_ifs at taken with absent
      cases taken
      refine ⟨⟨rfl, rfl, rfl⟩, by simpa [subscribes_of_get? found] using absent, ?_⟩
      intro other event
      rw [subscribes_insert]
      by_cases same : other = clientId
      · simp [same, subscribes_of_get? found]
      · simp [same]

variable (manager clientId eventId) in
theorem rollbackInsert_spec (sessionCreated : Bool) :
    manager.SessionsOnly (manager.rollbackInsert eventId clientId sessionCreated) ∧
      ∀ other event,
        (manager.rollbackInsert eventId clientId sessionCreated).subscribes other event =
          (!decide (other = clientId ∧ event = eventId) && manager.subscribes other event) := by
  rw [rollbackInsert]
  cases found : manager.sessionsMap.get? clientId with
  | none =>
      refine ⟨.refl manager, fun other event => ?_⟩
      by_cases same : other = clientId <;> simp [same, subscribes, found]
  | some session =>
      dsimp only
      split_ifs with emptied
      · refine ⟨⟨rfl, rfl, rfl⟩, fun other event => ?_⟩
        have none := SortedMap.contains_eq_false_of_size emptied.2 event
        rw [subscribes_eraseSession]
        by_cases same : other = clientId
        · simpa [same, subscribes_of_get? found, imp_iff_not_or] using none
        · simp [same]
      · refine ⟨⟨rfl, rfl, rfl⟩, fun other event => ?_⟩
        rw [subscribes_insert]
        by_cases same : other = clientId <;> simp [same, subscribes_of_get? found]

variable (other event) in
theorem subscribes_eraseSession_of_empty {session : ClientSession}
    (found : manager.sessionsMap.get? clientId = some session)
    (empty : session.subEvents.size = 0) :
    (manager.eraseSession clientId).subscribes other event = manager.subscribes other event := by
  have none := SortedMap.contains_eq_false_of_size empty event
  rw [subscribes_eraseSession]
  by_cases same : other = clientId
  · simp [same, subscribes_of_get? found, none]
  · simp [same]

variable (manager clientId eventId) in
theorem cleanupRecord_spec (cleanupSession : Bool) :
    manager.SessionsOnly (manager.cleanupRecord eventId clientId cleanupSession) ∧
      ∀ other event,
        (manager.cleanupRecord eventId clientId cleanupSession).subscribes other event =
          manager.subscribes other event := by
  rw [cleanupRecord]
  split_ifs with keep emptied
  · exact ⟨.refl manager, fun _ _ => rfl⟩
  · obtain ⟨session, found, empty⟩ := (Option.any_eq_true _ _).mp emptied
    have same := fun other event =>
      subscribes_eraseSession_of_empty other event found
        (of_decide_eq_true empty)
    dsimp only
    cases (manager.eraseSession clientId).reportedStickyEvents.get? clientId with
    | none => exact ⟨⟨rfl, rfl, rfl⟩, same⟩
    | some reported => exact ⟨⟨rfl, rfl, rfl⟩, same⟩
  · dsimp only
    cases manager.reportedStickyEvents.get? clientId with
    | none => exact ⟨.refl manager, fun _ _ => rfl⟩
    | some reported => exact ⟨⟨rfl, rfl, rfl⟩, fun _ _ => rfl⟩

theorem leaveClient_continues {left : Manager σ × List Int × List EventMuteFilter}
    (taken : manager.leaveClient clientId = .continues left) :
    manager.SessionsOnly left.1 ∧ (∀ event, event ∈ left.2.1 ↔ manager.subscribes clientId event) ∧
      ∀ other event, left.1.subscribes other event =
        (!decide (other = clientId) && manager.subscribes other event) := by
  rw [leaveClient] at taken
  cases found : manager.sessionsMap.get? clientId with
  | none => simp [found] at taken
  | some session =>
      simp only [found] at taken
      cases taken
      refine ⟨⟨rfl, rfl, rfl⟩, fun event => ?_, fun other event => subscribes_eraseSession⟩
      rw [SortedMap.mem_keys_iff, subscribes_of_get? found]

theorem leaveClient_nodup {left : Manager σ × List Int × List EventMuteFilter}
    (taken : manager.leaveClient clientId = .continues left) : left.2.1.Nodup := by
  rw [leaveClient] at taken
  cases found : manager.sessionsMap.get? clientId with
  | none => simp [found] at taken
  | some session =>
      simp only [found] at taken
      cases taken
      exact session.subEvents.keys_nodup

theorem leaveCallback_continues {callback : Address} {left : Manager σ × String × List Int}
    (taken : manager.leaveCallback callback = .continues left) :
    manager.SessionsOnly left.1 ∧
      (∀ event, event ∈ left.2.2 ↔ manager.subscribes left.2.1 event) ∧
      ∀ other event, left.1.subscribes other event =
        (!decide (other = left.2.1) && manager.subscribes other event) := by
  rw [leaveCallback] at taken
  cases owner : manager.sessionsMap.entries.find? fun entry => entry.2.callback = callback with
  | none => simp [owner] at taken
  | some entry =>
      simp only [owner] at taken
      cases taken
      have found := SortedMap.mem_entries_iff.mp (List.mem_of_find?_eq_some owner)
      refine ⟨⟨rfl, rfl, rfl⟩, fun event => ?_, fun other event => subscribes_eraseSession⟩
      rw [SortedMap.mem_keys_iff, subscribes_of_get? found]

theorem leaveCallback_nodup {callback : Address} {left : Manager σ × String × List Int}
    (taken : manager.leaveCallback callback = .continues left) : left.2.2.Nodup := by
  rw [leaveCallback] at taken
  cases owner : manager.sessionsMap.entries.find? fun entry => entry.2.callback = callback with
  | none => simp [owner] at taken
  | some entry =>
      simp only [owner] at taken
      cases taken
      exact entry.2.subEvents.keys_nodup

variable (config env manager clientId) in
theorem callFilter_world (call : FilterPlugin σ → SecurityCollectorEventMuteFilter → σ → Code × σ)
    (filter : EventMuteFilter) :
    ∃ world, (manager.callFilter config env call filter clientId).2 = manager.withWorld world := by
  rw [callFilter]
  split
  · exact ⟨manager.world, rfl⟩
  · exact ⟨manager.world, rfl⟩
  · exact ⟨_, rfl⟩

variable (env manager clientId) in
theorem removeSdkAllEventFilter_world :
    ∃ world, manager.removeSdkAllEventFilter env clientId = manager.withWorld world := by
  rw [removeSdkAllEventFilter]
  split
  · exact ⟨manager.world, rfl⟩
  · split_ifs
    · exact ⟨manager.world, rfl⟩
    · exact ⟨_, rfl⟩

/-- The collector of an event is recorded as subscribed. -/
def collected (config : ConfigData) (manager : Manager σ) (eventId : Int) : Bool :=
  (config.getEventConfig eventId).any fun cfg =>
    if cfg.prog = securityGuardProg then manager.eventToListenner.contains eventId
    else manager.scSubscribeMap.contains eventId

theorem SessionsOnly.collected {before after : Manager σ} (only : before.SessionsOnly after)
    (eventId : Int) : after.collected config eventId = before.collected config eventId := by
  rw [Manager.collected, Manager.collected, only.eventToListenner, only.scSubscribeMap]

/-- No session differs, and only the collector of one event. -/
structure CollectorOnly (eventId : Int) (before after : Manager σ) : Prop where
  sessionsMap : after.sessionsMap = before.sessionsMap
  eventToListenner : ∀ other ≠ eventId,
    after.eventToListenner.contains other = before.eventToListenner.contains other
  scSubscribeMap : ∀ other ≠ eventId,
    after.scSubscribeMap.contains other = before.scSubscribeMap.contains other

theorem CollectorOnly.withWorld (eventId : Int) (manager : Manager σ) (world : σ) :
    manager.CollectorOnly eventId (manager.withWorld world) :=
  ⟨rfl, fun _ _ => rfl, fun _ _ => rfl⟩

theorem CollectorOnly.subscribes {before after : Manager σ}
    (only : before.CollectorOnly eventId after) (clientId : String) (event : Int) :
    after.subscribes clientId event = before.subscribes clientId event := by
  rw [Manager.subscribes, Manager.subscribes, only.sessionsMap]

theorem CollectorOnly.isAnySessionSubscribes {before after : Manager σ}
    (only : before.CollectorOnly eventId after) (event : Int) :
    after.isAnySessionSubscribes event = before.isAnySessionSubscribes event :=
  isAnySessionSubscribes_congr fun clientId => only.subscribes clientId event

theorem CollectorOnly.collected {before after : Manager σ}
    (only : before.CollectorOnly eventId after) {other : Int} (ne : other ≠ eventId) :
    after.collected config other = before.collected config other := by
  rw [Manager.collected, Manager.collected, only.eventToListenner other ne,
    only.scSubscribeMap other ne]

theorem subscribeScInSg_collectorOnly (isSticky : Nat) :
    manager.CollectorOnly eventId (manager.subscribeScInSg env eventId isSticky).2 := by
  rw [subscribeScInSg]
  dsimp only
  split_ifs
  · exact ⟨rfl, fun _ _ => rfl, fun _ _ => rfl⟩
  · exact ⟨rfl, fun other ne => by simp [withWorld, ne], fun _ _ => rfl⟩
  · exact .withWorld eventId manager _
  · exact .withWorld eventId manager _

theorem subscribeScInSc_collectorOnly :
    manager.CollectorOnly eventId (manager.subscribeScInSc env eventId).2 := by
  rw [subscribeScInSc]
  dsimp only
  split_ifs
  · exact ⟨rfl, fun _ _ => rfl, fun _ _ => rfl⟩
  · exact ⟨rfl, fun _ _ => rfl, fun other ne => by simp [withWorld, ne]⟩
  · exact .withWorld eventId manager _

variable (config env manager eventId) in
theorem subscribeSc_collectorOnly :
    manager.CollectorOnly eventId (manager.subscribeSc config env eventId).2 := by
  rw [subscribeSc]
  cases config.getEventConfig eventId with
  | none => exact ⟨rfl, fun _ _ => rfl, fun _ _ => rfl⟩
  | some cfg =>
      dsimp only
      split_ifs
      · exact ⟨rfl, fun _ _ => rfl, fun _ _ => rfl⟩
      · exact subscribeScInSg_collectorOnly cfg.isSticky
      · exact subscribeScInSc_collectorOnly

variable (config env manager eventId) in
theorem unSubscribeSc_collectorOnly :
    manager.CollectorOnly eventId (manager.unSubscribeSc config env eventId).2 := by
  rw [unSubscribeSc]
  cases config.getEventConfig eventId with
  | none => exact ⟨rfl, fun _ _ => rfl, fun _ _ => rfl⟩
  | some cfg =>
      dsimp only
      split_ifs
      · exact ⟨rfl, fun _ _ => rfl, fun _ _ => rfl⟩
      · exact ⟨rfl, fun _ _ => rfl, fun _ _ => rfl⟩
      · exact .withWorld eventId manager _
      · exact ⟨rfl, fun other ne => by simp [withWorld, ne], fun _ _ => rfl⟩
      · exact .withWorld eventId manager _
      · exact ⟨rfl, fun _ _ => rfl, fun _ _ => rfl⟩
      · exact .withWorld eventId manager _
      · exact ⟨rfl, fun _ _ => rfl, fun other ne => by simp [withWorld, ne]⟩

variable (config env manager eventId) in
theorem subscribeScIfNeeded_collectorOnly :
    manager.CollectorOnly eventId (manager.subscribeScIfNeeded config env eventId).2 := by
  rw [subscribeScIfNeeded]
  split_ifs
  · exact ⟨rfl, fun _ _ => rfl, fun _ _ => rfl⟩
  · exact subscribeSc_collectorOnly _ _ _ _

variable (config env manager eventId) in
theorem unSubscribeScIfLast_collectorOnly :
    manager.CollectorOnly eventId (manager.unSubscribeScIfLast config env eventId).2 := by
  rw [unSubscribeScIfLast]
  split_ifs
  · exact ⟨rfl, fun _ _ => rfl, fun _ _ => rfl⟩
  · exact unSubscribeSc_collectorOnly _ _ _ _

end Manager

/-- Every collector call succeeds. -/
structure Externals.CollectorsSucceed {σ : Type} (env : Externals σ) : Prop where
  subscribeCollectors : ∀ eventId world, (env.subscribeCollectors eventId world).1 = .success
  unsubscribeCollectors : ∀ eventId world, (env.unsubscribeCollectors eventId world).1 = .success
  scSubscribe : ∀ eventId world, (env.scSubscribe eventId world).1 = .success
  scUnsubscribe : ∀ eventId world, (env.scUnsubscribe eventId world).1 = .success

/-- The event is subscribed through a collector and is not sticky. -/
def ConfigData.PlainSubscribeColl (config : ConfigData) (eventId : Int) : Prop :=
  ∃ cfg, config.getEventConfig eventId = some cfg ∧ cfg.eventType = .subscribeColl ∧
    cfg.isSticky = 0

namespace Manager

variable {σ : Type} {config : ConfigData} {env : Externals σ} {manager : Manager σ} {eventId : Int}

theorem subscribeSc_collects (succeeds : env.CollectorsSucceed)
    (plain : config.PlainSubscribeColl eventId) :
    (manager.subscribeSc config env eventId).1 = .success ∧
      (manager.subscribeSc config env eventId).2.collected config eventId = true := by
  obtain ⟨cfg, configured, type, sticky⟩ := plain
  by_cases here : cfg.prog = securityGuardProg
  · cases running : manager.eventToListenner.contains eventId <;>
      simp [subscribeSc, subscribeScInSg, collected, configured, type, sticky, here, running,
        succeeds.subscribeCollectors]
  · cases running : manager.scSubscribeMap.contains eventId <;>
      simp [subscribeSc, subscribeScInSc, collected, configured, type, here, running,
        succeeds.scSubscribe]

theorem unSubscribeSc_releases (succeeds : env.CollectorsSucceed)
    (plain : config.PlainSubscribeColl eventId) :
    ((manager.unSubscribeSc config env eventId).1 = .success ↔
        manager.collected config eventId = true) ∧
      (manager.unSubscribeSc config env eventId).2.collected config eventId = false := by
  obtain ⟨cfg, configured, type, sticky⟩ := plain
  by_cases here : cfg.prog = securityGuardProg
  · cases running : manager.eventToListenner.contains eventId <;>
      simp [unSubscribeSc, collected, configured, type, sticky, here, running,
        succeeds.unsubscribeCollectors, Code.failed, Code.success]
  · cases running : manager.scSubscribeMap.contains eventId <;>
      simp [unSubscribeSc, collected, configured, type, here, running, succeeds.scUnsubscribe,
        Code.failed, Code.success]

end Manager

end SecurityGuard
