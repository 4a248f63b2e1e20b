import SecurityGuard.Subscribe.Sessions

/-!
# What an operation leaves of the sessions

An operation that is not interrupted either leaves the sessions as they were, because it was
refused or because it took its change back, or it changes the session of one client.  Only the
answer of a collector decides between the two.
-/

namespace SecurityGuard

namespace ClientSession

variable (session : ClientSession) (eventId : Int)

/-- The session with one more event. -/
def withEvent : ClientSession :=
  { session with subEvents := session.subEvents.insert eventId () }

/-- The session without an event. -/
def withoutEvent : ClientSession :=
  { session with subEvents := session.subEvents.erase eventId }

variable {session eventId}

theorem withoutEvent_withEvent (fresh : session.subEvents.contains eventId = false) :
    (session.withEvent eventId).withoutEvent eventId = session := by
  have absent : session.subEvents.get? eventId = none := by
    simpa [SortedMap.contains] using fresh
  simp [withEvent, withoutEvent, SortedMap.erase_insert, SortedMap.erase_of_absent absent]

theorem withEvent_withoutEvent (had : session.subEvents.contains eventId = true) :
    (session.withoutEvent eventId).withEvent eventId = session := by
  obtain ⟨_, found⟩ := SortedMap.contains_iff.mp had
  have same : (session.subEvents.erase eventId).insert eventId () = session.subEvents := by
    apply SortedMap.ext_get?
    intro other
    by_cases same : other = eventId
    · simp [same, found]
    · simp [same]
  simp [withEvent, withoutEvent, same]

end ClientSession

namespace Manager

variable {σ : Type} {config : ConfigData} {env : Externals σ} {manager : Manager σ}
  {clientId : String} {eventId : Int}

theorem subscribeSc_code {left right : Manager σ} (world : left.world = right.world)
    (listener : left.eventToListenner = right.eventToListenner)
    (service : left.scSubscribeMap = right.scSubscribeMap) :
    (left.subscribeSc config env eventId).1 = (right.subscribeSc config env eventId).1 := by
  rw [subscribeSc, subscribeSc]
  cases config.getEventConfig eventId with
  | none => rfl
  | some cfg =>
      simp only [subscribeScInSg, subscribeScInSc, world, listener, service]
      split_ifs <;> rfl

theorem unSubscribeAll_sessionsMap (events : List Int) :
    (unSubscribeAll config env events manager).sessionsMap = manager.sessionsMap := by
  induction events generalizing manager with
  | nil => rfl
  | cons event rest ih =>
      rw [unSubscribeAll, ih]
      exact (unSubscribeScIfLast_collectorOnly config env manager event).sessionsMap

theorem callFilter_sessionsMap
    (call : FilterPlugin σ → SecurityCollectorEventMuteFilter → σ → Code × σ)
    (filter : EventMuteFilter) :
    (manager.callFilter config env call filter clientId).2.sessionsMap = manager.sessionsMap := by
  obtain ⟨world, same⟩ := callFilter_world config env manager clientId call filter
  rw [same]
  rfl

theorem insertMutes_sessionsMap (filters : List EventMuteFilter) :
    (insertMutes config env clientId filters manager).sessionsMap = manager.sessionsMap := by
  induction filters generalizing manager with
  | nil => rfl
  | cons filter rest ih =>
      rw [insertMutes]
      split_ifs
      · rw [ih]
        exact callFilter_sessionsMap FilterPlugin.setEventFilter filter
      · exact ih

theorem removeMutes_sessionsMap (filters : List EventMuteFilter) :
    (removeMutes config env clientId filters manager).sessionsMap = manager.sessionsMap := by
  induction filters generalizing manager with
  | nil => rfl
  | cons filter rest ih =>
      rw [removeMutes, ih]
      exact callFilter_sessionsMap FilterPlugin.removeEventFilter filter

theorem removeSdkAllEventFilter_sessionsMap :
    (manager.removeSdkAllEventFilter env clientId).sessionsMap = manager.sessionsMap := by
  obtain ⟨world, same⟩ := removeSdkAllEventFilter_world env manager clientId
  rw [same]
  rfl

/-- Taking back what was entered restores the session, or forgets it if it was new. -/
theorem rollbackInsert_sessionsMap {before : SortedMap String ClientSession}
    {session : ClientSession}
    (entered : manager.sessionsMap = before.insert clientId (session.withEvent eventId))
    (fresh : session.subEvents.contains eventId = false) (sessionCreated : Bool) :
    (manager.rollbackInsert eventId clientId sessionCreated).sessionsMap =
      if sessionCreated ∧ session.subEvents.size = 0 then before.erase clientId
      else before.insert clientId session := by
  have found : manager.sessionsMap.get? clientId = some (session.withEvent eventId) := by
    rw [entered, SortedMap.get?_insert_self]
  have reverted : (session.withEvent eventId).subEvents.erase eventId = session.subEvents :=
    congrArg ClientSession.subEvents (ClientSession.withoutEvent_withEvent fresh)
  rw [rollbackInsert, found]
  simp only [reverted]
  split_ifs
  · rw [eraseSession, entered, SortedMap.erase_insert]
  · rw [entered, SortedMap.insert_insert]
    rfl

/-- The manager while the collector of an event that entered a session is started. -/
def withSubscription (manager : Manager σ) (eventId : Int) (clientId : String)
    (session : ClientSession) : Manager σ :=
  { manager with
    sessionsMap := manager.sessionsMap.insert clientId (session.withEvent eventId) }

variable (config env manager clientId eventId) in
theorem subscribeScIfNeeded_withSubscription (session : ClientSession) :
    (manager.withSubscription eventId clientId session).subscribeScIfNeeded config env eventId =
      (manager.withSubscription eventId clientId session).subscribeSc config env eventId := by
  have any : (manager.withSubscription eventId clientId session).isAnySessionSubscribes
      eventId = true := by
    refine isAnySessionSubscribes_iff.mpr ⟨clientId, ?_⟩
    simp [subscribes, withSubscription, ClientSession.withEvent]
  rw [subscribeScIfNeeded, any]
  rfl

theorem subscribeScIfNeeded_code (session : ClientSession) :
    ((manager.withSubscription eventId clientId session).subscribeScIfNeeded config env
        eventId).1 = (manager.subscribeSc config env eventId).1 := by
  rw [subscribeScIfNeeded_withSubscription]
  exact subscribeSc_code rfl rfl rfl

theorem enterRecord_of_not_subscribed {session : ClientSession}
    (found : manager.sessionsMap.get? clientId = some session)
    (fresh : session.subEvents.contains eventId = false) :
    manager.enterRecord eventId clientId =
      .continues (manager.withSubscription eventId clientId session,
        filtersOf session eventId) := by
  simp only [enterRecord, found, fresh, Bool.false_eq_true, if_false]
  rfl

variable (config env manager clientId eventId) in
theorem insertSubscribeRecord_cases :
    let after := manager.insertSubscribeRecord config env eventId clientId
    after.2.sessionsMap = manager.sessionsMap ∨
      ∃ session, manager.sessionsMap.get? clientId = some session ∧
        after.2.sessionsMap = manager.sessionsMap.insert clientId (session.withEvent eventId) := by
  rw [insertSubscribeRecord]
  cases found : manager.sessionsMap.get? clientId with
  | none =>
      rw [enterRecord, found]
      exact .inl rfl
  | some session =>
      cases fresh : session.subEvents.contains eventId with
      | true =>
          rw [enterRecord, found]
          simp only [fresh, if_true, true_or]
      | false =>
          have collected := (subscribeScIfNeeded_collectorOnly config env
            (manager.withSubscription eventId clientId session) eventId).sessionsMap
          rw [enterRecord_of_not_subscribed found fresh]
          dsimp only
          split_ifs
          · refine .inl ((rollbackInsert_sessionsMap collected fresh false).trans ?_)
            rw [if_neg (by simp), SortedMap.insert_of_get? found]
          · exact .inr ⟨session, rfl, (insertMutes_sessionsMap _).trans collected⟩

/-- The older form forgets the session that it created for nothing. -/
theorem rollbackInsert_restores {before : SortedMap String ClientSession} {info : SubscribeInfo}
    (entered : manager.sessionsMap = before.insert clientId
      (((before.get? clientId).getD (info.session clientId)).withEvent info.eventId))
    (fresh : ((before.get? clientId).getD (info.session clientId)).subEvents.contains
      info.eventId = false) :
    (manager.rollbackInsert info.eventId clientId (!before.contains clientId)).sessionsMap =
      before := by
  rw [rollbackInsert_sessionsMap entered fresh]
  cases found : before.get? clientId with
  | none =>
      have absent : before.contains clientId = false := by simp [SortedMap.contains, found]
      rw [if_pos (by simp [absent, SubscribeInfo.session]), SortedMap.erase_of_absent found]
  | some session =>
      have present : before.contains clientId = true :=
        SortedMap.contains_iff.mpr ⟨session, found⟩
      rw [if_neg (by simp [present]), Option.getD_some, SortedMap.insert_of_get? found]

/-- The session that the older form subscribes in. -/
def sessionFor (manager : Manager σ) (info : SubscribeInfo) (clientId : String) : ClientSession :=
  (manager.sessionsMap.get? clientId).getD (info.session clientId)

theorem enterRecordWith_of_not_subscribed {info : SubscribeInfo}
    (fresh : (manager.sessionFor info clientId).subEvents.contains info.eventId = false) :
    manager.enterRecordWith info clientId =
      .continues (manager.withSubscription info.eventId clientId
        (manager.sessionFor info clientId), !manager.sessionsMap.contains clientId) := by
  rw [sessionFor] at fresh
  simp only [enterRecordWith, fresh, Bool.false_eq_true, if_false]
  rfl

variable (manager clientId) in
theorem sessionFor_contains (info : SubscribeInfo) (event : Int) :
    (manager.sessionFor info clientId).subEvents.contains event =
      manager.subscribes clientId event := by
  rw [sessionFor, subscribes]
  cases manager.sessionsMap.get? clientId with
  | none => simp [SubscribeInfo.session]
  | some session => rfl

variable (config env manager clientId) in
/-- The older form enters the event if it is new and its collector starts. -/
theorem insertSubscribeRecordWith_sessionsMap (info : SubscribeInfo) :
    (manager.insertSubscribeRecordWith config env info clientId).2.sessionsMap =
      if manager.subscribes clientId info.eventId = false ∧
          (manager.subscribeSc config env info.eventId).1 = .success then
        manager.sessionsMap.insert clientId
          ((manager.sessionFor info clientId).withEvent info.eventId)
      else manager.sessionsMap := by
  have same := sessionFor_contains manager clientId info info.eventId
  rw [insertSubscribeRecordWith]
  cases fresh : manager.subscribes clientId info.eventId with
  | true =>
      rw [fresh, sessionFor] at same
      simp [enterRecordWith, same]
  | false =>
      rw [fresh] at same
      have sessions := (subscribeScIfNeeded_collectorOnly config env
        (manager.withSubscription info.eventId clientId (manager.sessionFor info clientId))
        info.eventId).sessionsMap
      rw [enterRecordWith_of_not_subscribed same]
      dsimp only
      rw [subscribeScIfNeeded_code]
      by_cases starts : (manager.subscribeSc config env info.eventId).1 = .success
      · rw [if_neg (not_not.mpr starts), if_pos ⟨rfl, starts⟩]
        exact sessions
      · rw [if_pos starts, if_neg (fun both => starts both.2)]
        exact rollbackInsert_restores sessions same

variable (config env manager clientId) in
theorem insertSubscribeRecordWith_cases (info : SubscribeInfo) :
    let after := manager.insertSubscribeRecordWith config env info clientId
    after.2.sessionsMap = manager.sessionsMap ∨
      after.2.sessionsMap = manager.sessionsMap.insert clientId
        (((manager.sessionsMap.get? clientId).getD (info.session clientId)).withEvent
          info.eventId) := by
  intro after
  have sessions := insertSubscribeRecordWith_sessionsMap config env manager clientId info
  split_ifs at sessions
  · exact .inr sessions
  · exact .inl sessions

variable (manager clientId eventId) in
theorem cleanupRecord_sessionsMap (cleanupSession : Bool) :
    (manager.cleanupRecord eventId clientId cleanupSession).sessionsMap =
      if cleanupSession ∧
          ((manager.sessionsMap.get? clientId).any fun session => session.subEvents.size = 0) then
        manager.sessionsMap.erase clientId
      else manager.sessionsMap := by
  rw [cleanupRecord]
  cases cleanupSession with
  | false => simp
  | true =>
      simp only [Bool.not_true, Bool.false_eq_true, if_false, true_and]
      split_ifs <;> (split <;> rfl)

/-- The manager while the collector of an event that left a session is given up. -/
def withoutSubscription (manager : Manager σ) (eventId : Int) (clientId : String)
    (session : ClientSession) : Manager σ :=
  { manager with
    sessionsMap := manager.sessionsMap.insert clientId (session.withoutEvent eventId) }

theorem leaveRecord_of_subscribes {session : ClientSession}
    (found : manager.sessionsMap.get? clientId = some session)
    (had : session.subEvents.contains eventId = true) :
    manager.leaveRecord eventId clientId =
      .continues (manager.withoutSubscription eventId clientId session) := by
  simp only [leaveRecord, found, had, Bool.not_true, Bool.false_eq_true, if_false]
  rfl

theorem leaveRecord_of_not_subscribes
    (absent : ∀ session, manager.sessionsMap.get? clientId = some session →
      session.subEvents.contains eventId = false) :
    manager.leaveRecord eventId clientId = .returns .success := by
  rw [leaveRecord]
  cases found : manager.sessionsMap.get? clientId with
  | none => rfl
  | some session => simp [absent session found]

theorem rollbackRemove_sessionsMap {before : SortedMap String ClientSession}
    {session : ClientSession} (found : before.get? clientId = some session)
    (had : session.subEvents.contains eventId = true)
    (left : manager.sessionsMap = before.insert clientId (session.withoutEvent eventId)) :
    (manager.rollbackRemove eventId clientId).sessionsMap = before := by
  have restored := ClientSession.withEvent_withoutEvent had
  rw [ClientSession.withEvent] at restored
  simp only [rollbackRemove, updateSession, SortedMap.modify, left, SortedMap.get?_insert_self,
    restored, SortedMap.insert_insert, SortedMap.insert_of_get? found]

variable (config env) in
/-- An event leaves the session when its collector is given up; the session goes with its last
event in the older form. -/
theorem removeSubscribeRecordCore_of_subscribes {session : ClientSession}
    (found : manager.sessionsMap.get? clientId = some session)
    (had : session.subEvents.contains eventId = true) (cleanupSession : Bool) :
    (manager.removeSubscribeRecordCore config env eventId clientId cleanupSession).2.sessionsMap =
      if ((manager.withoutSubscription eventId clientId session).unSubscribeScIfLast config env
          eventId).1 ≠ .success then manager.sessionsMap
      else if cleanupSession ∧ (session.withoutEvent eventId).subEvents.size = 0 then
        manager.sessionsMap.erase clientId
      else manager.sessionsMap.insert clientId (session.withoutEvent eventId) := by
  have collected : ((manager.withoutSubscription eventId clientId session).unSubscribeScIfLast
      config env eventId).2.sessionsMap =
        manager.sessionsMap.insert clientId (session.withoutEvent eventId) :=
    (unSubscribeScIfLast_collectorOnly config env _ eventId).sessionsMap
  rw [removeSubscribeRecordCore, leaveRecord_of_subscribes found had]
  dsimp only
  split_ifs with stopped emptied
  · exact rollbackRemove_sessionsMap found had collected
  · rw [cleanupRecord_sessionsMap, if_pos (by simpa [collected] using emptied), collected,
      SortedMap.erase_insert]
  · rw [cleanupRecord_sessionsMap, if_neg (by simpa [collected] using emptied), collected]

variable (config env manager clientId eventId) in
theorem removeSubscribeRecordCore_cases (cleanupSession : Bool) :
    let after := manager.removeSubscribeRecordCore config env eventId clientId cleanupSession
    after.2.sessionsMap = manager.sessionsMap ∨
      ∃ session, manager.sessionsMap.get? clientId = some session ∧
        session.subEvents.contains eventId = true ∧
        ((manager.withoutSubscription eventId clientId session).unSubscribeScIfLast config env
          eventId).1 = .success ∧
        after.2.sessionsMap =
          if cleanupSession ∧ (session.withoutEvent eventId).subEvents.size = 0 then
            manager.sessionsMap.erase clientId
          else manager.sessionsMap.insert clientId (session.withoutEvent eventId) := by
  cases had : manager.subscribes clientId eventId with
  | false =>
      have absent (session : ClientSession)
          (found : manager.sessionsMap.get? clientId = some session) :
          session.subEvents.contains eventId = false := by
        rwa [subscribes_of_get? found] at had
      rw [removeSubscribeRecordCore, leaveRecord_of_not_subscribes absent]
      exact .inl rfl
  | true =>
      obtain ⟨session, found, had⟩ := (Option.any_eq_true _ _).mp had
      have left := removeSubscribeRecordCore_of_subscribes config env found had cleanupSession
      by_cases stopped : ((manager.withoutSubscription eventId clientId
          session).unSubscribeScIfLast config env eventId).1 = .success
      · rw [if_neg (not_not.mpr stopped)] at left
        exact .inr ⟨session, found, had, stopped, left⟩
      · rw [if_pos stopped] at left
        exact .inl left

variable (config env manager clientId) in
theorem insertSubscribeMute_cases (filter : EventMuteFilter) :
    let after := manager.insertSubscribeMute config env filter clientId
    after.2.sessionsMap = manager.sessionsMap ∨
      after.2.sessionsMap = (manager.addFilter filter clientId).sessionsMap := by
  have applied : (manager.insertMute config env filter clientId).2.sessionsMap =
      manager.sessionsMap := callFilter_sessionsMap FilterPlugin.setEventFilter filter
  rw [insertSubscribeMute]
  dsimp only
  split_ifs
  · exact .inl rfl
  · exact .inr rfl
  · exact .inl applied
  · refine .inr ?_
    simp only [addFilter, updateSession, applied]

variable (config env manager clientId) in
theorem removeSubscribeMute_cases (filter : EventMuteFilter) :
    let after := manager.removeSubscribeMute config env filter clientId
    after.2.sessionsMap = manager.sessionsMap ∨
      after.2.sessionsMap = (manager.eraseFilterFromSession clientId filter).sessionsMap := by
  have removed : (manager.removeMute config env filter clientId).2.sessionsMap =
      manager.sessionsMap := callFilter_sessionsMap FilterPlugin.removeEventFilter filter
  rw [removeSubscribeMute]
  dsimp only
  split_ifs
  · exact .inl rfl
  · exact .inr rfl
  · exact .inl removed
  · refine .inr ?_
    simp only [eraseFilterFromSession, updateSession, removed]

variable (config env manager clientId) in
theorem destoryClient_sessionsMap :
    (manager.destoryClient config env clientId).2.sessionsMap =
      manager.sessionsMap.erase clientId := by
  rw [destoryClient, leaveClient]
  cases found : manager.sessionsMap.get? clientId with
  | none => exact (SortedMap.erase_of_absent found).symm
  | some session =>
      dsimp only
      rw [removeMutes_sessionsMap, unSubscribeAll_sessionsMap]
      rfl

variable (config env manager) in
theorem removeSubscribeRecordOnRemoteDied_sessionsMap (callback : Address) :
    (manager.removeSubscribeRecordOnRemoteDied config env callback).sessionsMap =
      match manager.sessionsMap.entries.find? fun entry => entry.2.callback = callback with
      | none => manager.sessionsMap
      | some entry => manager.sessionsMap.erase entry.1 := by
  rw [removeSubscribeRecordOnRemoteDied, leaveCallback]
  cases owner : manager.sessionsMap.entries.find? fun entry => entry.2.callback = callback with
  | none => rfl
  | some entry =>
      dsimp only
      rw [unSubscribeAll_sessionsMap, removeSdkAllEventFilter_sessionsMap]
      rfl

end Manager

end SecurityGuard
