import SecurityGuard.Subscribe.Mutes

/-!
# Operations that fail

An operation enters its change into the sessions before it calls a collector, and takes it back
when the call fails.  What is left then differs from what was there before only in the world
outside.
-/

namespace SecurityGuard

namespace Manager

variable {σ : Type} {config : ConfigData} {env : Externals σ} {manager : Manager σ}
  {clientId : String} {eventId : Int}

/-- The sessions and the records of what is subscribed and reported are the same. -/
structure SameRecords (before after : Manager σ) : Prop where
  sessionsMap : after.sessionsMap = before.sessionsMap
  reportedStickyEvents : after.reportedStickyEvents = before.reportedStickyEvents
  eventToListenner : after.eventToListenner = before.eventToListenner
  scSubscribeMap : after.scSubscribeMap = before.scSubscribeMap

theorem SameRecords.refl (manager : Manager σ) : manager.SameRecords manager :=
  ⟨rfl, rfl, rfl, rfl⟩

theorem SameRecords.withWorld (manager : Manager σ) (world : σ) :
    manager.SameRecords (manager.withWorld world) :=
  ⟨rfl, rfl, rfl, rfl⟩

theorem subscribeScInSg_failed {isSticky : Nat}
    (failed : (manager.subscribeScInSg env eventId isSticky).1 ≠ .success) :
    manager.SameRecords (manager.subscribeScInSg env eventId isSticky).2 := by
  rw [subscribeScInSg] at failed ⊢
  dsimp only at failed ⊢
  split_ifs at failed ⊢
  · exact .refl manager
  · exact absurd rfl failed
  · exact .withWorld manager _
  · exact .withWorld manager _

theorem subscribeScInSc_failed (failed : (manager.subscribeScInSc env eventId).1 ≠ .success) :
    manager.SameRecords (manager.subscribeScInSc env eventId).2 := by
  rw [subscribeScInSc] at failed ⊢
  dsimp only at failed ⊢
  split_ifs at failed ⊢
  · exact .refl manager
  · exact absurd rfl failed
  · exact .withWorld manager _

theorem subscribeSc_failed (failed : (manager.subscribeSc config env eventId).1 ≠ .success) :
    manager.SameRecords (manager.subscribeSc config env eventId).2 := by
  rw [subscribeSc] at failed ⊢
  cases found : config.getEventConfig eventId with
  | none => exact .refl manager
  | some cfg =>
      simp only [found] at failed ⊢
      split_ifs at failed ⊢
      · exact .refl manager
      · exact subscribeScInSg_failed failed
      · exact subscribeScInSc_failed failed

theorem unSubscribeSc_failed (failed : (manager.unSubscribeSc config env eventId).1 ≠ .success) :
    manager.SameRecords (manager.unSubscribeSc config env eventId).2 := by
  rw [unSubscribeSc] at failed ⊢
  cases found : config.getEventConfig eventId with
  | none => exact .refl manager
  | some cfg =>
      simp only [found] at failed ⊢
      split_ifs at failed ⊢
      · exact .refl manager
      · exact .refl manager
      · exact .withWorld manager _
      · exact absurd rfl failed
      · exact absurd rfl failed
      · exact .refl manager
      · exact .withWorld manager _
      · exact absurd rfl failed

theorem subscribeScIfNeeded_failed
    (failed : (manager.subscribeScIfNeeded config env eventId).1 ≠ .success) :
    manager.SameRecords (manager.subscribeScIfNeeded config env eventId).2 := by
  rw [subscribeScIfNeeded] at failed ⊢
  split_ifs at failed ⊢
  · exact .refl manager
  · exact subscribeSc_failed failed

theorem unSubscribeScIfLast_failed
    (failed : (manager.unSubscribeScIfLast config env eventId).1 ≠ .success) :
    manager.SameRecords (manager.unSubscribeScIfLast config env eventId).2 := by
  rw [unSubscribeScIfLast] at failed ⊢
  split_ifs at failed ⊢
  · exact .refl manager
  · exact unSubscribeSc_failed failed

theorem callFilter_sameRecords
    (call : FilterPlugin σ → SecurityCollectorEventMuteFilter → σ → Code × σ)
    (filter : EventMuteFilter) :
    manager.SameRecords (manager.callFilter config env call filter clientId).2 := by
  obtain ⟨world, same⟩ := callFilter_world config env manager clientId call filter
  rw [same]
  exact .withWorld manager world

theorem rollbackInsert_reportedStickyEvents (sessionCreated : Bool) :
    (manager.rollbackInsert eventId clientId sessionCreated).reportedStickyEvents =
      manager.reportedStickyEvents := by
  rw [rollbackInsert]
  cases manager.sessionsMap.get? clientId with
  | none => rfl
  | some session =>
      dsimp only
      split_ifs <;> rfl

theorem rollbackInsert_sameRecords {session : ClientSession} {called : Manager σ}
    (kept : (manager.withSubscription eventId clientId session).SameRecords called)
    {sessionCreated : Bool}
    (restored : (called.rollbackInsert eventId clientId sessionCreated).sessionsMap =
      manager.sessionsMap) :
    manager.SameRecords (called.rollbackInsert eventId clientId sessionCreated) := by
  have only := (rollbackInsert_spec called clientId eventId sessionCreated).1
  exact
    { sessionsMap := restored
      reportedStickyEvents :=
        (rollbackInsert_reportedStickyEvents sessionCreated).trans kept.reportedStickyEvents
      eventToListenner := only.eventToListenner.trans kept.eventToListenner
      scSubscribeMap := only.scSubscribeMap.trans kept.scSubscribeMap }

theorem insertSubscribeRecord_failed
    (failed : (manager.insertSubscribeRecord config env eventId clientId).1 ≠ .success) :
    manager.SameRecords (manager.insertSubscribeRecord config env eventId clientId).2 := by
  rw [insertSubscribeRecord] at failed ⊢
  cases found : manager.sessionsMap.get? clientId with
  | none =>
      rw [enterRecord, found]
      exact .refl manager
  | some session =>
      cases fresh : session.subEvents.contains eventId with
      | true => simp [enterRecord, found, fresh] at failed
      | false =>
          rw [enterRecord_of_not_subscribed found fresh] at failed ⊢
          dsimp only at failed ⊢
          split_ifs at failed ⊢ with stopped
          · have kept := subscribeScIfNeeded_failed stopped
            refine rollbackInsert_sameRecords kept ?_
            rw [rollbackInsert_sessionsMap kept.sessionsMap fresh false, if_neg (by simp),
              SortedMap.insert_of_get? found]
          · exact absurd rfl failed

theorem insertSubscribeRecordWith_failed {info : SubscribeInfo}
    (failed : (manager.insertSubscribeRecordWith config env info clientId).1 ≠ .success) :
    manager.SameRecords (manager.insertSubscribeRecordWith config env info clientId).2 := by
  rw [insertSubscribeRecordWith] at failed ⊢
  cases fresh : (manager.sessionFor info clientId).subEvents.contains info.eventId with
  | true =>
      rw [sessionFor] at fresh
      simp [enterRecordWith, fresh] at failed
  | false =>
      rw [enterRecordWith_of_not_subscribed fresh] at failed ⊢
      dsimp only at failed ⊢
      split_ifs at failed ⊢ with stopped
      · have kept := subscribeScIfNeeded_failed stopped
        exact rollbackInsert_sameRecords kept (rollbackInsert_restores kept.sessionsMap fresh)
      · exact absurd rfl failed

theorem removeSubscribeRecordCore_failed {cleanupSession : Bool}
    (failed : (manager.removeSubscribeRecordCore config env eventId clientId cleanupSession).1 ≠
      .success) :
    manager.SameRecords
      (manager.removeSubscribeRecordCore config env eventId clientId cleanupSession).2 := by
  rw [removeSubscribeRecordCore] at failed ⊢
  cases had : manager.subscribes clientId eventId with
  | false =>
      have absent (session : ClientSession)
          (found : manager.sessionsMap.get? clientId = some session) :
          session.subEvents.contains eventId = false := by
        rwa [subscribes_of_get? found] at had
      rw [leaveRecord_of_not_subscribes absent] at failed
      exact absurd rfl failed
  | true =>
      obtain ⟨session, found, had⟩ := (Option.any_eq_true _ _).mp had
      rw [leaveRecord_of_subscribes found had] at failed ⊢
      dsimp only at failed ⊢
      split_ifs at failed ⊢ with stopped
      · have kept := unSubscribeScIfLast_failed stopped
        exact
          { sessionsMap := rollbackRemove_sessionsMap found had kept.sessionsMap
            reportedStickyEvents := kept.reportedStickyEvents
            eventToListenner := kept.eventToListenner
            scSubscribeMap := kept.scSubscribeMap }
      · exact absurd rfl failed

theorem insertSubscribeMute_failed {filter : EventMuteFilter}
    (failed : (manager.insertSubscribeMute config env filter clientId).1 ≠ .success) :
    manager.SameRecords (manager.insertSubscribeMute config env filter clientId).2 := by
  rw [insertSubscribeMute] at failed ⊢
  dsimp only at failed ⊢
  split_ifs at failed ⊢
  · exact .refl manager
  · exact absurd rfl failed
  · exact callFilter_sameRecords FilterPlugin.setEventFilter filter
  · exact absurd rfl failed

theorem removeSubscribeMute_failed {filter : EventMuteFilter}
    (failed : (manager.removeSubscribeMute config env filter clientId).1 ≠ .success) :
    manager.SameRecords (manager.removeSubscribeMute config env filter clientId).2 := by
  rw [removeSubscribeMute] at failed ⊢
  dsimp only at failed ⊢
  split_ifs at failed ⊢
  · exact .refl manager
  · exact absurd rfl failed
  · exact callFilter_sameRecords FilterPlugin.removeEventFilter filter
  · exact absurd rfl failed

theorem creatClient_failed {eventGroup : String} {callerPid : Int} {callback : Address}
    (failed : (manager.creatClient eventGroup clientId callerPid callback).1 ≠ .success) :
    manager.SameRecords (manager.creatClient eventGroup clientId callerPid callback).2 := by
  rw [creatClient, enterClient] at failed ⊢
  dsimp only at failed ⊢
  split_ifs at failed ⊢
  · exact .refl manager
  · exact .refl manager
  · exact absurd rfl failed

theorem destoryClient_failed (failed : (manager.destoryClient config env clientId).1 ≠ .success) :
    manager.SameRecords (manager.destoryClient config env clientId).2 := by
  rw [destoryClient, leaveClient] at failed ⊢
  cases found : manager.sessionsMap.get? clientId with
  | none => exact .refl manager
  | some session =>
      rw [found] at failed
      exact absurd rfl failed

/-- An operation on sessions or filters, with the code that it returns. -/
def performMutes (config : ConfigData) (env : Externals σ) (manager : Manager σ) :
    MuteOperation → Code × Manager σ
  | .operation operation => SubscribeSystem.perform config env manager operation
  | .insertSubscribeMute filter clientId =>
      manager.insertSubscribeMute config env filter clientId
  | .removeSubscribeMute filter clientId =>
      manager.removeSubscribeMute config env filter clientId

/-- An operation that fails leaves the sessions and all records as they were. -/
theorem failed_operation_rolls_back {operation : MuteOperation}
    (failed : (manager.performMutes config env operation).1 ≠ .success) :
    manager.SameRecords (manager.performMutes config env operation).2 := by
  cases operation with
  | operation operation =>
      cases operation with
      | creatClient _ _ _ _ => exact creatClient_failed failed
      | insertSubscribeRecord _ _ => exact insertSubscribeRecord_failed failed
      | insertSubscribeRecordWith _ _ => exact insertSubscribeRecordWith_failed failed
      | removeSubscribeRecord _ _ _ => exact removeSubscribeRecordCore_failed failed
      | destoryClient _ => exact destoryClient_failed failed
      | removeSubscribeRecordOnRemoteDied _ => exact absurd rfl failed
  | insertSubscribeMute _ _ => exact insertSubscribeMute_failed failed
  | removeSubscribeMute _ _ => exact removeSubscribeMute_failed failed

/-- Every collector call fails. -/
def refusingExternals : Externals Unit where
  subscribeCollectors _ world := (.failed, world)
  subscribeCollectorsBySticky _ world := (.failed, world)
  unsubscribeCollectors _ world := (.failed, world)
  scSubscribe _ world := (.failed, world)
  scUnsubscribe _ world := (.failed, world)
  eventFilter := none

/-- A subscription that creates a session and a removal from one, whose collector calls fail. -/
theorem failed_operation_rolls_back_two :
    let info : SubscribeInfo :=
      { eventId := 7, eventGroup := "auditGroup", callback := 10, callerPid := 100 }
    let subscription := MuteOperation.operation (.insertSubscribeRecordWith info "a")
    let removal := MuteOperation.operation (.removeSubscribeRecord 7 "a" true)
    let subscribed : Manager Unit :=
      { sessionsMap := SortedMap.empty.insert "a" ((info.session "a").withEvent 7)
        eventToListenner := SortedMap.empty.insert 7 ()
        world := () }
    SameRecords { world := () }
        (performMutes mutableConfig refusingExternals { world := () } subscription).2 ∧
      SameRecords subscribed
        (performMutes mutableConfig refusingExternals subscribed removal).2 := by
  intro info subscription removal subscribed
  exact ⟨failed_operation_rolls_back (by decide +kernel),
    failed_operation_rolls_back (by decide +kernel)⟩

end Manager

end SecurityGuard
