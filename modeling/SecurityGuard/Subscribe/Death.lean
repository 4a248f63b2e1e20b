import SecurityGuard.Subscribe.Interleaving
import SecurityGuard.Subscribe.Outcome

/-!
# Cleaning up after a death

A death ends the first session of the callback that died.  Nothing keeps several sessions from
holding one callback, and a death is noticed once, so the cleanup is complete exactly if at most
one session holds the callback.
-/

namespace SecurityGuard

namespace Manager

variable {σ : Type} (config : ConfigData) (env : Externals σ) (manager : Manager σ)

/-- The number of sessions that hold a callback. -/
def holders (callback : Address) : Nat :=
  manager.sessionsMap.total fun session => (decide (session.callback = callback)).toNat

/-- The events of a list that `unSubscribeAll` hands to `UnSubscribeSc`. -/
def unSubscribed : List Int → Manager σ → List Int
  | [], _ => []
  | eventId :: rest, manager =>
      let later := unSubscribed rest (manager.unSubscribeScIfLast config env eventId).2
      if manager.isAnySessionSubscribes eventId then later else eventId :: later

/-- The events that a death hands to `UnSubscribeSc`. -/
def unSubscribedOnRemoteDied (callback : Address) : List Int :=
  match manager.leaveCallback callback with
  | .returns _ => []
  | .continues (left, clientId, events) =>
      unSubscribed config env events (left.removeSdkAllEventFilter env clientId)

/-- After the death of a callback no session holds it, the events that only such sessions
subscribed have been given up, and the other sessions are as they were. -/
structure CleansUp (callback : Address) : Prop where
  forgotten : ∀ clientId session,
    (manager.removeSubscribeRecordOnRemoteDied config env callback).sessionsMap.get? clientId =
      some session → session.callback ≠ callback
  givenUp : ∀ clientId session eventId, manager.sessionsMap.get? clientId = some session →
    session.callback = callback → session.subEvents.contains eventId = true →
      (∀ other otherSession, manager.sessionsMap.get? other = some otherSession →
        otherSession.callback ≠ callback →
          otherSession.subEvents.contains eventId = false) →
        eventId ∈ manager.unSubscribedOnRemoteDied config env callback
  others : ∀ clientId session, manager.sessionsMap.get? clientId = some session →
    session.callback ≠ callback →
      (manager.removeSubscribeRecordOnRemoteDied config env callback).sessionsMap.get? clientId =
        some session

variable {config env manager} {callback : Address}

/-- Every event of the list that nobody subscribes is given up. -/
theorem mem_unSubscribed {events : List Int} {eventId : Int} :
    eventId ∈ unSubscribed config env events manager ↔
      eventId ∈ events ∧ manager.isAnySessionSubscribes eventId = false := by
  induction events generalizing manager with
  | nil => simp [unSubscribed]
  | cons event rest ih =>
      have same := (unSubscribeScIfLast_collectorOnly config env manager
        event).isAnySessionSubscribes eventId
      rw [unSubscribed, List.mem_cons]
      split_ifs with any
      · rw [ih, same]
        constructor
        · rintro ⟨mem, none⟩
          exact ⟨.inr mem, none⟩
        · rintro ⟨rfl | mem, none⟩
          · rw [any] at none
            exact Bool.noConfusion none
          · exact ⟨mem, none⟩
      · rw [List.mem_cons, ih, same]
        constructor
        · rintro (rfl | ⟨mem, none⟩)
          · exact ⟨.inl rfl, Bool.not_eq_true _ ▸ any⟩
          · exact ⟨.inr mem, none⟩
        · rintro ⟨rfl | mem, none⟩
          · exact .inl rfl
          · exact .inr ⟨mem, none⟩

theorem holder_counts {sessions : SortedMap String ClientSession} {clientId : String}
    {session : ClientSession} (found : sessions.get? clientId = some session)
    (holds : session.callback = callback) :
    0 < sessions.total fun session => (decide (session.callback = callback)).toNat := by
  have counted := SortedMap.le_total
    (fun session : ClientSession => (decide (session.callback = callback)).toNat) found
  rw [decide_eq_true holds] at counted
  exact counted

theorem exists_holder {sessions : SortedMap String ClientSession}
    (pos : 0 < sessions.total fun session => (decide (session.callback = callback)).toNat) :
    ∃ clientId session, sessions.get? clientId = some session ∧ session.callback = callback := by
  obtain ⟨clientId, session, found, counted⟩ := SortedMap.exists_of_total_pos _ pos
  refine ⟨clientId, session, found, ?_⟩
  by_contra foreign
  simp [foreign] at counted

/-- The first session of a callback is one of its holders. -/
theorem find?_callback {entry : String × ClientSession}
    (first : (manager.sessionsMap.entries.find? fun entry => entry.2.callback = callback) =
      some entry) :
    entry.2.callback = callback ∧ manager.sessionsMap.get? entry.1 = some entry.2 ∧
      manager.holders callback =
        1 + (manager.sessionsMap.erase entry.1).total
          fun session => (decide (session.callback = callback)).toNat := by
  have holds : entry.2.callback = callback := by simpa using List.find?_some first
  have found := SortedMap.mem_entries_iff.mp (List.mem_of_find?_eq_some first)
  refine ⟨holds, found, ?_⟩
  rw [holders, SortedMap.total_of_get? _ found, decide_eq_true holds]
  rfl

theorem no_holder
    (none : (manager.sessionsMap.entries.find? fun entry => entry.2.callback = callback) = none)
    {clientId : String} {session : ClientSession}
    (found : manager.sessionsMap.get? clientId = some session) : session.callback ≠ callback := by
  have absent := List.find?_eq_none.mp none (clientId, session)
    (SortedMap.mem_entries_iff.mpr found)
  simpa using absent

/-- With one holder at most, the first session is the only one. -/
theorem cleansUp_of_holders (single : manager.holders callback ≤ 1) :
    manager.CleansUp config env callback := by
  have ended := removeSubscribeRecordOnRemoteDied_sessionsMap config env manager callback
  cases first : manager.sessionsMap.entries.find? fun entry => entry.2.callback = callback with
  | none =>
      rw [first] at ended
      refine ⟨fun clientId session found => ?_, fun clientId session eventId found holds => ?_,
        fun clientId session found _ => ended ▸ found⟩
      · rw [ended] at found
        exact no_holder first found
      · exact absurd holds (no_holder first found)
  | some entry =>
      obtain ⟨holds, present, counted⟩ := find?_callback first
      rw [first] at ended
      have alone {clientId : String} {session : ClientSession}
          (found : (manager.sessionsMap.erase entry.1).get? clientId = some session) :
          session.callback ≠ callback := by
        intro same
        have others := holder_counts found same
        omega
      constructor
      · intro clientId session found
        rw [ended] at found
        exact alone found
      · intro clientId session eventId found same contains onlyHere
        have own : clientId = entry.1 := by
          by_contra ne
          have kept : (manager.sessionsMap.erase entry.1).get? clientId = some session := by
            rw [SortedMap.get?_erase, if_neg ne, found]
          exact alone kept same
        subst own
        obtain rfl := Option.some.inj (present.symm.trans found)
        have left : manager.leaveCallback callback =
            .continues (manager.eraseSession entry.1, entry.1, entry.2.subEvents.keys) := by
          rw [leaveCallback, first]
        rw [unSubscribedOnRemoteDied, left]
        refine mem_unSubscribed.mpr ⟨SortedMap.mem_keys_iff.mpr contains, ?_⟩
        by_contra any
        rw [Bool.not_eq_false, isAnySessionSubscribes_iff] at any
        obtain ⟨other, subscribes⟩ := any
        obtain ⟨remaining, kept, subscribed⟩ := (Option.any_eq_true _ _).mp subscribes
        rw [removeSdkAllEventFilter_sessionsMap] at kept
        have before : manager.sessionsMap.get? other = some remaining := by
          exact (SortedMap.get?_erase_eq_some.mp kept).2
        rw [onlyHere other remaining before (alone kept)] at subscribed
        exact Bool.noConfusion subscribed
      · intro clientId session found foreign
        have ne : clientId ≠ entry.1 := by
          rintro rfl
          obtain rfl := Option.some.inj (present.symm.trans found)
          exact foreign holds
        rw [ended, SortedMap.get?_erase, if_neg ne, found]

/-- A death cleans up completely exactly if at most one session holds its callback. -/
theorem died_cleans_up_iff :
    manager.CleansUp config env callback ↔ manager.holders callback ≤ 1 := by
  constructor
  · intro cleans
    have ended := removeSubscribeRecordOnRemoteDied_sessionsMap config env manager callback
    by_contra several
    cases first : manager.sessionsMap.entries.find? fun entry => entry.2.callback = callback with
    | none =>
        have pos : 0 < manager.holders callback := by omega
        obtain ⟨clientId, session, found, holds⟩ := exists_holder pos
        exact no_holder first found holds
    | some entry =>
        obtain ⟨-, -, counted⟩ := find?_callback first
        have pos : 0 < (manager.sessionsMap.erase entry.1).total
            fun session => (decide (session.callback = callback)).toNat := by omega
        obtain ⟨clientId, session, found, holds⟩ := exists_holder pos
        rw [first] at ended
        exact cleans.forgotten clientId session (ended ▸ found) holds
  · exact cleansUp_of_holders

end Manager

namespace SubscribeSystem

/-- A process creates two clients with one callback. -/
def sharedCallback : List SubscribeAction :=
  uninterrupted 0 (.creatClient "auditGroup" "a" 100 10) 2 ++
    uninterrupted 1 (.creatClient "auditGroup" "b" 100 10) 2

/-- A callback that two sessions hold is still held after its death. -/
theorem second_session_survives :
    ¬∀ (actions : List SubscribeAction) (final : SubscribeSystem Unit) (callback : Address),
      Transition.run (next {} idleExternals) { manager := { world := () } } actions =
        some final → final.manager.CleansUp {} idleExternals callback := by
  intro always
  have completes : (Transition.run (next {} idleExternals) { manager := { world := () } }
      sharedCallback).any (fun final => ((final.manager.removeSubscribeRecordOnRemoteDied {}
        idleExternals 10).sessionsMap.get? "b").any fun session => session.callback = 10) =
          true := by
    decide +kernel
  obtain ⟨final, reach, left⟩ := (Option.any_eq_true _ _).mp completes
  obtain ⟨session, found, holds⟩ := (Option.any_eq_true _ _).mp left
  exact (always sharedCallback final 10 reach).forgotten "b" session found (of_decide_eq_true holds)

end SubscribeSystem

end SecurityGuard
