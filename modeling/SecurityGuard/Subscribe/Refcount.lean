import SecurityGuard.Foundation.Execution
import SecurityGuard.Subscribe.Hosted

/-!
# The subscribe count follows the sessions

`DataCollection` counts how often an event is subscribed, and the manager decides when to
subscribe and to unsubscribe it.  The manager unsubscribes when the last session leaves.  It
subscribes a plain event when the first session enters, but a sticky event whenever a session
enters.  The count follows the sessions exactly in the runs in which no session enters a sticky
event that another one subscribes.
-/

namespace SecurityGuard

namespace Manager

variable {ω : Type} {config : ConfigData} {plugins : ω → Plugins} {others : OtherCalls ω}
  {manager : Manager (Hosted ω)} {clientId : String} {eventId : Int} {cfg : EventCfg}
  {subscribed : Bool}

/-- The collector of an event is in this process, and the calls to collectors succeed. -/
structure HostedEvent (config : ConfigData) (plugins : ω → Plugins) (eventId : Int)
    (cfg : EventCfg) : Prop where
  succeed : ∀ rest, (plugins rest).Succeed
  configured : config.getEventConfig eventId = some cfg
  prog : cfg.prog = securityGuardProg

/-- The share of the start of the service in the count of an event. -/
def onStartCount (cfg : EventCfg) : Nat := if cfg.collectOnStart = 1 then 1 else 0

/-- The share of the sessions. -/
def sessionCount (subscribed : Bool) : Nat := if subscribed then 1 else 0

/-- The bookkeeping of an event fits sessions that subscribe it, or do not. -/
structure Counted (eventId : Int) (cfg : EventCfg) (manager : Manager (Hosted ω))
    (subscribed : Bool) : Prop where
  count : manager.world.collection.subscribeCount eventId =
    onStartCount cfg + sessionCount subscribed
  started : manager.world.collection.isCollectorStarted eventId =
    decide (0 < manager.world.collection.subscribeCount eventId)
  listener : manager.eventToListenner.contains eventId =
    (subscribed && decide (cfg.isSticky = 0))

theorem Counted.of_sameHosted {after : Manager (Hosted ω)}
    (counted : Counted eventId cfg manager subscribed)
    (same : SameHosted eventId manager after) : Counted eventId cfg after subscribed where
  count := same.collection.1.trans counted.count
  started := by rw [same.collection.1, same.collection.2, counted.started]
  listener := same.listener.trans counted.listener

theorem Counted.count_le (counted : Counted eventId cfg manager subscribed) :
    manager.world.collection.subscribeCount eventId ≤ 2 := by
  have count := counted.count
  rw [onStartCount, sessionCount] at count
  split_ifs at count <;> omega

/-- A session that enters an event may find it subscribed, unless the event is sticky. -/
def EntersOnce (cfg : EventCfg) (subscribed : Bool) : Prop :=
  cfg.eventType = .subscribeColl ∧ (cfg.isSticky ≠ 0 → subscribed = false)

instance : Decidable (EntersOnce cfg subscribed) :=
  inferInstanceAs (Decidable (_ ∧ _))

theorem Counted.increment {after : Manager (Hosted ω)}
    (counted : Counted eventId cfg manager false)
    (count : after.world.collection.subscribeCount eventId =
      manager.world.collection.subscribeCount eventId + 1)
    (started : after.world.collection.isCollectorStarted eventId = true)
    (listener : after.eventToListenner.contains eventId = decide (cfg.isSticky = 0)) :
    Counted eventId cfg after true where
  count := by rw [count, counted.count]; rfl
  started := by rw [started, count]; simp
  listener := by rw [listener, Bool.true_and]

/-- The collector call of a session that enters an event succeeds, and brings the count to its
share exactly under `EntersOnce`. -/
theorem Counted.subscribeSc (counted : Counted eventId cfg manager subscribed)
    (hosted : HostedEvent config plugins eventId cfg)
    (typed : subscribed = true → cfg.eventType = .subscribeColl) {code : Code}
    {after : Manager (Hosted ω)}
    (called : manager.subscribeSc config (Hosted.externals plugins others) eventId =
      (code, after)) :
    code = .success ∧ (EntersOnce cfg subscribed → Counted eventId cfg after true) ∧
      (after.world.collection.subscribeCount eventId = onStartCount cfg + 1 →
        EntersOnce cfg subscribed) := by
  have small := counted.count_le
  have fits : manager.world.collection.subscribeCount eventId + 1 < DataCollection.countRange := by
    rw [DataCollection.countRange]
    omega
  obtain ⟨served, count, started⟩ := DataCollection.subscribeCollectors_self
    (plugins manager.world.rest) (hosted.succeed _) fits
  have share := counted.count
  have listener := counted.listener
  simp only [Manager.subscribeSc, hosted.configured, hosted.prog, if_true] at called
  split_ifs at called with other
  · obtain ⟨rfl, rfl⟩ := Prod.mk.inj called
    refine ⟨rfl, fun enters => absurd enters.1 other, fun full => ?_⟩
    cases subscribed with
    | false => simp [share, sessionCount] at full
    | true => exact absurd (typed rfl) other
  · have type := not_not.mp other
    by_cases plain : cfg.isSticky = 0
    · have enters : EntersOnce cfg subscribed := ⟨type, fun sticky => absurd plain sticky⟩
      cases subscribed with
      | false =>
          simp only [subscribeScInSg, listener, plain, Hosted.externals, Hosted.onCollection,
            served, Bool.false_and, Bool.false_eq_true, if_false, if_true] at called
          obtain ⟨rfl, rfl⟩ := Prod.mk.inj called
          exact ⟨rfl, fun _ => counted.increment count started (by simp [plain]), fun _ => enters⟩
      | true =>
          simp only [subscribeScInSg, listener, plain, decide_true, Bool.and_self,
            if_true] at called
          obtain ⟨rfl, rfl⟩ := Prod.mk.inj called
          exact ⟨rfl, fun _ => counted, fun _ => enters⟩
    · simp only [subscribeScInSg, listener, plain, Hosted.externals, Hosted.onCollection,
        DataCollection.subscribeCollectorsBySticky, served, collectorCode, decide_false,
        Bool.and_false, Bool.false_eq_true, if_false, or_true, if_true] at called
      obtain ⟨rfl, rfl⟩ := Prod.mk.inj called
      refine ⟨rfl, fun enters => ?_, fun full => ⟨type, fun _ => ?_⟩⟩
      · obtain rfl := enters.2 plain
        exact counted.increment count started (by simpa [withWorld, plain] using listener)
      · cases subscribed with
        | false => rfl
        | true =>
            rw [withWorld, count, share, sessionCount] at full
            simp at full

/-- The collector call after the last session left takes one subscription off. -/
theorem Counted.unSubscribeSc (counted : Counted eventId cfg manager true)
    (hosted : HostedEvent config plugins eventId cfg)
    (type : cfg.eventType = .subscribeColl) {code : Code} {after : Manager (Hosted ω)}
    (called : manager.unSubscribeSc config (Hosted.externals plugins others) eventId =
      (code, after)) :
    code = .success ∧ Counted eventId cfg after false := by
  have share := counted.count
  have positive : 0 < manager.world.collection.subscribeCount eventId := by
    rw [share, sessionCount]
    simp
  have runs : manager.world.collection.isCollectorStarted eventId = true := by
    rw [counted.started]
    exact decide_eq_true positive
  obtain ⟨served, count, started⟩ := DataCollection.unsubscribeCollectors_self
    (plugins manager.world.rest) (hosted.succeed _) runs positive
  have listener := counted.listener
  have countAfter : ((manager.world.collection.unsubscribeCollectors (plugins manager.world.rest)
      [eventId]).2).subscribeCount eventId = onStartCount cfg + sessionCount false := by
    rw [count, share]
    rfl
  have startedAfter : ((manager.world.collection.unsubscribeCollectors
      (plugins manager.world.rest) [eventId]).2).isCollectorStarted eventId =
      decide (0 < ((manager.world.collection.unsubscribeCollectors (plugins manager.world.rest)
        [eventId]).2).subscribeCount eventId) := by
    rw [started, count]
    exact decide_eq_decide.mpr (by omega)
  by_cases plain : cfg.isSticky = 0
  · simp only [Manager.unSubscribeSc, hosted.configured, type, hosted.prog, plain, listener,
      Hosted.externals, Hosted.onCollection, served, decide_true, Bool.and_self, Bool.not_true,
      Bool.false_eq_true, and_false, ne_eq, not_true_eq_false, if_false, if_true] at called
    obtain ⟨rfl, rfl⟩ := Prod.mk.inj called
    exact ⟨rfl, countAfter, startedAfter, by simp⟩
  · simp only [Manager.unSubscribeSc, hosted.configured, type, hosted.prog, plain, Hosted.externals,
      Hosted.onCollection, served, false_and, ne_eq, not_true_eq_false, if_false,
      if_true] at called
    obtain ⟨rfl, rfl⟩ := Prod.mk.inj called
    exact ⟨rfl, countAfter, startedAfter, by simpa [withWorld, plain] using listener⟩

variable (others) in
theorem Counted.unSubscribeScIfLast (counted : Counted eventId cfg manager true)
    (hosted : HostedEvent config plugins eventId cfg)
    (type : cfg.eventType = .subscribeColl) {code : Code} {after : Manager (Hosted ω)}
    (called : manager.unSubscribeScIfLast config (Hosted.externals plugins others) eventId =
      (code, after)) :
    code = .success ∧ Counted eventId cfg after (manager.isAnySessionSubscribes eventId) := by
  rw [Manager.unSubscribeScIfLast] at called
  split_ifs at called with any
  · obtain ⟨rfl, rfl⟩ := Prod.mk.inj called
    exact ⟨rfl, any ▸ counted⟩
  · rw [Bool.eq_false_iff.mpr any]
    exact counted.unSubscribeSc hosted type called

variable (others) in
/-- Giving up the events of a forgotten session settles the count of each of them. -/
theorem Counted.unSubscribeAll (counted : Counted eventId cfg manager subscribed)
    (hosted : HostedEvent config plugins eventId cfg)
    (typed : subscribed = true → cfg.eventType = .subscribeColl) {events : List Int}
    (nodup : events.Nodup) (mem : eventId ∈ events → subscribed = true)
    (absent : eventId ∉ events → subscribed = manager.isAnySessionSubscribes eventId) :
    let after := Manager.unSubscribeAll config (Hosted.externals plugins others) events manager
    Counted eventId cfg after (manager.isAnySessionSubscribes eventId) ∧
      ∀ clientId, after.subscribes clientId eventId = manager.subscribes clientId eventId := by
  induction events generalizing manager with
  | nil => exact ⟨absent List.not_mem_nil ▸ counted, fun _ => rfl⟩
  | cons event rest ih =>
      obtain ⟨fresh, nodup⟩ := List.nodup_cons.mp nodup
      rw [Manager.unSubscribeAll]
      by_cases same : event = eventId
      · subst same
        obtain rfl := mem List.mem_cons_self
        have only := unSubscribeScIfLast_collectorOnly config (Hosted.externals plugins others)
          manager event
        have settled := counted.unSubscribeScIfLast others hosted
          (typed rfl) rfl
        have untouched := unSubscribeAll_untouched config plugins others
          (manager.unSubscribeScIfLast config (Hosted.externals plugins others) event).2 fresh
        refine ⟨settled.2.of_sameHosted untouched.toSameHosted, fun clientId => ?_⟩
        rw [untouched.subscribes, only.subscribes]
      · have untouched := unSubscribeScIfLast_untouched config plugins others manager (Ne.symm same)
        have any := untouched.isAnySessionSubscribes
        obtain ⟨settled, subscribes⟩ := ih (counted.of_sameHosted untouched.toSameHosted) nodup
          (fun later => mem (List.mem_cons_of_mem event later))
          (fun later => by
            rw [any]
            exact absent (mt List.mem_cons.mp (not_or.mpr ⟨Ne.symm same, later⟩)))
        exact ⟨any ▸ settled, fun clientId =>
          (subscribes clientId).trans (untouched.subscribes clientId)⟩

/-- The bookkeeping of an event fits the sessions, and sessions subscribe it only if it has a
collector to subscribe. -/
structure Balanced (eventId : Int) (cfg : EventCfg) (manager : Manager (Hosted ω)) : Prop where
  counted : Counted eventId cfg manager (manager.isAnySessionSubscribes eventId)
  typed : manager.isAnySessionSubscribes eventId = true → cfg.eventType = .subscribeColl

theorem Balanced.of_untouched {after : Manager (Hosted ω)}
    (balanced : Balanced eventId cfg manager) (untouched : Untouched eventId manager after) :
    Balanced eventId cfg after := by
  have any := untouched.isAnySessionSubscribes
  exact ⟨any ▸ balanced.counted.of_sameHosted untouched.toSameHosted,
    fun subscribed => balanced.typed (any ▸ subscribed)⟩

variable (clientId) in
/-- A session has entered an event and its collector call has been made. -/
theorem Balanced.entered (balanced : Balanced eventId cfg manager)
    (hosted : HostedEvent config plugins eventId cfg)
    {entered after : Manager (Hosted ω)} {code : Code} (only : manager.SessionsOnly entered)
    (subscribes : entered.subscribes clientId eventId = true)
    (called : entered.subscribeScIfNeeded config (Hosted.externals plugins others) eventId =
      (code, after)) :
    code = .success ∧ after.isAnySessionSubscribes eventId = true ∧
      (EntersOnce cfg (manager.isAnySessionSubscribes eventId) → Balanced eventId cfg after) ∧
      (after.world.collection.subscribeCount eventId = onStartCount cfg + 1 →
        EntersOnce cfg (manager.isAnySessionSubscribes eventId)) := by
  have any : entered.isAnySessionSubscribes eventId = true :=
    isAnySessionSubscribes_iff.mpr ⟨clientId, subscribes⟩
  have collector := subscribeScIfNeeded_collectorOnly config (Hosted.externals plugins others)
    entered eventId
  rw [called] at collector
  have anyAfter : after.isAnySessionSubscribes eventId = true := by
    rw [collector.isAnySessionSubscribes, any]
  have counted := balanced.counted.of_sameHosted only.sameHosted
  rw [subscribeScIfNeeded, any] at called
  obtain ⟨success, settles, exact_count⟩ :=
    counted.subscribeSc hosted balanced.typed called
  refine ⟨success, anyAfter, fun enters => ⟨?_, fun _ => enters.1⟩, exact_count⟩
  rw [anyAfter]
  exact settles enters

theorem Balanced.insertSubscribeRecord (balanced : Balanced eventId cfg manager)
    (hosted : HostedEvent config plugins eventId cfg)
    {event : Int}
    (once : event = eventId → manager.sessionsMap.contains clientId = true →
      manager.subscribes clientId eventId = false →
        EntersOnce cfg (manager.isAnySessionSubscribes eventId)) :
    Balanced eventId cfg
      (manager.insertSubscribeRecord config (Hosted.externals plugins others) event
        clientId).2 := by
  rw [Manager.insertSubscribeRecord]
  cases taken : manager.enterRecord event clientId with
  | returns code => exact balanced
  | continues entry =>
      obtain ⟨only, fresh, subscribes⟩ := enterRecord_continues taken
      dsimp only
      rcases called : entry.1.subscribeScIfNeeded config (Hosted.externals plugins others) event
        with ⟨code, after⟩
      dsimp only
      by_cases same : event = eventId
      · subst same
        obtain ⟨rfl, -, settles, -⟩ := balanced.entered clientId hosted only
          (by simp [subscribes]) called
        rw [if_neg (by simp)]
        have settled := settles
          (once rfl (contains_of_enterRecord taken) (Bool.eq_false_iff.mpr fresh))
        exact settled.of_untouched (insertMutes_untouched entry.2)
      · have entered : Untouched eventId manager entry.1 :=
          only.untouched fun clientId => by simp [subscribes, Ne.symm same]
        have collected := subscribeScIfNeeded_untouched config plugins others entry.1 (Ne.symm same)
        rw [called] at collected
        have settled := balanced.of_untouched (entered.trans collected)
        split_ifs
        · obtain ⟨reverts, kept⟩ := rollbackInsert_spec after clientId event false
          exact settled.of_untouched
            (reverts.untouched fun clientId => by simp [kept, Ne.symm same])
        · exact settled.of_untouched (insertMutes_untouched entry.2)

theorem Balanced.insertSubscribeRecordWith (balanced : Balanced eventId cfg manager)
    (hosted : HostedEvent config plugins eventId cfg)
    {info : SubscribeInfo}
    (once : info.eventId = eventId → manager.subscribes clientId eventId = false →
      EntersOnce cfg (manager.isAnySessionSubscribes eventId)) :
    Balanced eventId cfg
      (manager.insertSubscribeRecordWith config (Hosted.externals plugins others) info
        clientId).2 := by
  rw [Manager.insertSubscribeRecordWith]
  cases taken : manager.enterRecordWith info clientId with
  | returns code => exact balanced
  | continues entry =>
      obtain ⟨only, fresh, subscribes⟩ := enterRecordWith_continues taken
      dsimp only
      rcases called : entry.1.subscribeScIfNeeded config (Hosted.externals plugins others)
        info.eventId with ⟨code, after⟩
      dsimp only
      by_cases same : info.eventId = eventId
      · subst same
        obtain ⟨rfl, -, settles, -⟩ := balanced.entered clientId hosted only
          (by simp [subscribes]) called
        rw [if_neg (by simp)]
        exact settles (once rfl (Bool.eq_false_iff.mpr fresh))
      · have entered : Untouched eventId manager entry.1 :=
          only.untouched fun clientId => by simp [subscribes, Ne.symm same]
        have collected := subscribeScIfNeeded_untouched config plugins others entry.1 (Ne.symm same)
        rw [called] at collected
        have settled := balanced.of_untouched (entered.trans collected)
        split_ifs
        · obtain ⟨reverts, kept⟩ := rollbackInsert_spec after clientId info.eventId entry.2
          exact settled.of_untouched
            (reverts.untouched fun clientId => by simp [kept, Ne.symm same])
        · exact settled

theorem Balanced.removeSubscribeRecordCore (balanced : Balanced eventId cfg manager)
    (hosted : HostedEvent config plugins eventId cfg)
    (event : Int) (cleanupSession : Bool) :
    Balanced eventId cfg
      (manager.removeSubscribeRecordCore config (Hosted.externals plugins others) event clientId
        cleanupSession).2 := by
  rw [Manager.removeSubscribeRecordCore]
  cases taken : manager.leaveRecord event clientId with
  | returns code => exact balanced
  | continues left =>
      obtain ⟨only, before, subscribes⟩ := leaveRecord_continues taken
      dsimp only
      rcases called : left.unSubscribeScIfLast config (Hosted.externals plugins others) event
        with ⟨code, after⟩
      obtain ⟨cleans, kept⟩ := cleanupRecord_spec after clientId event cleanupSession
      have cleaned : Untouched eventId after (after.cleanupRecord event clientId cleanupSession) :=
        cleans.untouched fun clientId => kept clientId eventId
      dsimp only
      by_cases same : event = eventId
      · subst same
        have any : manager.isAnySessionSubscribes event = true :=
          isAnySessionSubscribes_iff.mpr ⟨clientId, before⟩
        have collector := unSubscribeScIfLast_collectorOnly config
          (Hosted.externals plugins others) left event
        rw [called] at collector
        have counted := (any ▸ balanced.counted).of_sameHosted only.sameHosted
        obtain ⟨rfl, settled⟩ := counted.unSubscribeScIfLast others hosted
          (balanced.typed any) called
        rw [if_neg (by simp)]
        refine Balanced.of_untouched ⟨?_, fun _ => balanced.typed any⟩ cleaned
        rw [collector.isAnySessionSubscribes]
        exact settled
      · have leaves : Untouched eventId manager left :=
          only.untouched fun clientId => by simp [subscribes, Ne.symm same]
        have collected := unSubscribeScIfLast_untouched config plugins others left (Ne.symm same)
        rw [called] at collected
        have settled := balanced.of_untouched (leaves.trans collected)
        split_ifs
        · obtain ⟨reverts, kept⟩ := rollbackRemove_spec after clientId event
          exact settled.of_untouched
            (reverts.untouched fun clientId => by simp [kept, Ne.symm same])
        · exact settled.of_untouched cleaned

variable (others) in
/-- Giving up all events of a session that has been forgotten. -/
theorem Balanced.forget (balanced : Balanced eventId cfg manager)
    (hosted : HostedEvent config plugins eventId cfg)
    {left : Manager (Hosted ω)} {events : List Int} (same : SameHosted eventId manager left)
    (nodup : events.Nodup)
    (mem : ∀ event, event ∈ events ↔ manager.subscribes clientId event = true)
    (subscribes : ∀ other, left.subscribes other eventId =
      (!decide (other = clientId) && manager.subscribes other eventId)) :
    Balanced eventId cfg
      (unSubscribeAll config (Hosted.externals plugins others) events left) := by
  have typed : left.isAnySessionSubscribes eventId = true → cfg.eventType = .subscribeColl :=
    fun any => balanced.typed (isAnySessionSubscribes_mono (fun other => by simp [subscribes]) any)
  obtain ⟨settled, kept⟩ := (balanced.counted.of_sameHosted same).unSubscribeAll others
    hosted balanced.typed nodup
    (fun own => isAnySessionSubscribes_iff.mpr ⟨clientId, (mem eventId).mp own⟩)
    (fun foreign => isAnySessionSubscribes_congr fun other => by
      by_cases own : other = clientId
      · subst own
        simpa [subscribes] using mt (mem eventId).mpr foreign
      · simp [subscribes, own])
  have any := isAnySessionSubscribes_congr kept
  exact ⟨any ▸ settled, fun subscribed => typed (any ▸ subscribed)⟩

theorem Balanced.destoryClient (balanced : Balanced eventId cfg manager)
    (hosted : HostedEvent config plugins eventId cfg) :
    Balanced eventId cfg
      (manager.destoryClient config (Hosted.externals plugins others) clientId).2 := by
  rw [Manager.destoryClient]
  cases taken : manager.leaveClient clientId with
  | returns code => exact balanced
  | continues left =>
      obtain ⟨only, mem, subscribes⟩ := leaveClient_continues taken
      have forgotten := balanced.forget others hosted only.sameHosted
        (leaveClient_nodup taken) mem fun other => subscribes other eventId
      exact forgotten.of_untouched (removeMutes_untouched left.2.2)

theorem Balanced.removeSubscribeRecordOnRemoteDied (balanced : Balanced eventId cfg manager)
    (hosted : HostedEvent config plugins eventId cfg) (callback : Address) :
    Balanced eventId cfg
      (manager.removeSubscribeRecordOnRemoteDied config (Hosted.externals plugins others)
        callback) := by
  rw [Manager.removeSubscribeRecordOnRemoteDied]
  cases taken : manager.leaveCallback callback with
  | returns code => exact balanced
  | continues left =>
      obtain ⟨only, mem, subscribes⟩ := leaveCallback_continues taken
      have filters := removeSdkAllEventFilter_untouched plugins others left.1 left.2.1 eventId
      refine balanced.forget others hosted
        (only.sameHosted.trans filters.toSameHosted) (leaveCallback_nodup taken) mem
        fun other => ?_
      rw [filters.subscribes, subscribes]

theorem Balanced.creatClient (balanced : Balanced eventId cfg manager) (eventGroup : String)
    (callerPid : Int) (callback : Address) :
    Balanced eventId cfg (manager.creatClient eventGroup clientId callerPid callback).2 := by
  rw [Manager.creatClient]
  split_ifs
  · exact balanced
  · obtain ⟨only, subscribes⟩ := enterClient_spec manager clientId
      eventGroup callerPid callback
    exact balanced.of_untouched (only.untouched fun clientId => subscribes clientId eventId)

end Manager

/-! ## Runs -/

/-- The operation enters an event in a session that does not have it. -/
def Operation.Enters {σ : Type} (eventId : Int) (manager : Manager σ) : Operation → Prop
  | .insertSubscribeRecord event clientId =>
      event = eventId ∧ manager.sessionsMap.contains clientId = true ∧
        manager.subscribes clientId eventId = false
  | .insertSubscribeRecordWith info clientId =>
      info.eventId = eventId ∧ manager.subscribes clientId eventId = false
  | _ => False

instance {σ : Type} (eventId : Int) (manager : Manager σ) :
    ∀ operation : Operation, Decidable (operation.Enters eventId manager)
  | .insertSubscribeRecord _ _ => inferInstanceAs (Decidable (_ ∧ _ ∧ _))
  | .insertSubscribeRecordWith _ _ => inferInstanceAs (Decidable (_ ∧ _))
  | .creatClient _ _ _ _ | .removeSubscribeRecord _ _ _ | .destoryClient _
  | .removeSubscribeRecordOnRemoteDied _ => inferInstanceAs (Decidable False)

namespace Manager

variable {ω : Type} {config : ConfigData} {plugins : ω → Plugins} {others : OtherCalls ω}
  {manager : Manager (Hosted ω)} {eventId : Int} {cfg : EventCfg} {operation : Operation}
  {rest : ω}

/-- One operation after another. -/
def operate (config : ConfigData) (plugins : ω → Plugins) (others : OtherCalls ω) :
    Transition (Manager (Hosted ω)) Operation := fun manager operation =>
  some (SubscribeSystem.perform config (Hosted.externals plugins others) manager operation).2

/-- The state after `SubscriberEventOnSgStart`. -/
def started (config : ConfigData) (plugins : ω → Plugins) (rest : ω) : Manager (Hosted ω) where
  world :=
    { collection := DataCollection.subscriberEventOnSgStart config (plugins rest) {}
      rest }

/-- The count of an event is its share, and its collector runs exactly while it is needed. -/
def CountAgrees (eventId : Int) (cfg : EventCfg) (manager : Manager (Hosted ω)) : Prop :=
  manager.world.collection.subscribeCount eventId =
      onStartCount cfg + sessionCount (manager.isAnySessionSubscribes eventId) ∧
    (manager.world.collection.isCollectorStarted eventId = true ↔
      cfg.collectOnStart = 1 ∨ manager.isAnySessionSubscribes eventId = true)

/-- A session enters the event only if the event is subscribed through a collector and, when it
is sticky, no session subscribes it yet. -/
def EntersStickyOnce (eventId : Int) (cfg : EventCfg) (manager : Manager (Hosted ω))
    (operation : Operation) : Prop :=
  operation.Enters eventId manager → EntersOnce cfg (manager.isAnySessionSubscribes eventId)

instance : Decidable (EntersStickyOnce eventId cfg manager operation) :=
  inferInstanceAs (Decidable (_ → _))

theorem Balanced.agrees (balanced : Balanced eventId cfg manager) :
    CountAgrees eventId cfg manager := by
  have count := balanced.counted.count
  refine ⟨count, ?_⟩
  rw [balanced.counted.started, decide_eq_true_iff, count, onStartCount, sessionCount]
  split_ifs <;> simp_all

theorem Balanced.perform (balanced : Balanced eventId cfg manager)
    (hosted : HostedEvent config plugins eventId cfg)
    (once : EntersStickyOnce eventId cfg manager operation) :
    Balanced eventId cfg
      (SubscribeSystem.perform config (Hosted.externals plugins others) manager operation).2 := by
  cases operation with
  | creatClient eventGroup clientId callerPid callback =>
      exact balanced.creatClient eventGroup callerPid callback
  | insertSubscribeRecord event clientId =>
      exact balanced.insertSubscribeRecord hosted fun same present fresh =>
        once ⟨same, present, fresh⟩
  | insertSubscribeRecordWith info clientId =>
      exact balanced.insertSubscribeRecordWith hosted fun same fresh => once ⟨same, fresh⟩
  | removeSubscribeRecord event clientId cleanupSession =>
      exact balanced.removeSubscribeRecordCore hosted event cleanupSession
  | destoryClient clientId => exact balanced.destoryClient hosted
  | removeSubscribeRecordOnRemoteDied callback =>
      exact balanced.removeSubscribeRecordOnRemoteDied hosted callback

/-- An operation that leaves the count at its share has entered the event under `EntersOnce`. -/
theorem Balanced.once_of_agrees (balanced : Balanced eventId cfg manager)
    (hosted : HostedEvent config plugins eventId cfg)
    (agrees : CountAgrees eventId cfg
      (SubscribeSystem.perform config (Hosted.externals plugins others) manager operation).2) :
    EntersStickyOnce eventId cfg manager operation := by
  intro enters
  cases operation with
  | insertSubscribeRecord event clientId =>
      obtain ⟨rfl, present, fresh⟩ := enters
      obtain ⟨entry, taken⟩ := enterRecord_of_fresh present fresh
      obtain ⟨only, -, subscribes⟩ := enterRecord_continues taken
      rcases called : entry.1.subscribeScIfNeeded config (Hosted.externals plugins others) event
        with ⟨code, after⟩
      obtain ⟨rfl, any, -, exact_count⟩ := balanced.entered clientId hosted only
        (by simp [subscribes]) called
      have untouched : Untouched event after
          (insertMutes config (Hosted.externals plugins others) clientId entry.2 after) :=
        insertMutes_untouched entry.2
      have count := agrees.1
      simp only [SubscribeSystem.perform, Manager.insertSubscribeRecord, taken, called, ne_eq,
        not_true_eq_false, if_false] at count
      rw [untouched.isAnySessionSubscribes, untouched.collection.1, any] at count
      exact exact_count count
  | insertSubscribeRecordWith info clientId =>
      obtain ⟨rfl, fresh⟩ := enters
      obtain ⟨entry, taken⟩ := enterRecordWith_of_fresh fresh
      obtain ⟨only, -, subscribes⟩ := enterRecordWith_continues taken
      rcases called : entry.1.subscribeScIfNeeded config (Hosted.externals plugins others)
        info.eventId with ⟨code, after⟩
      obtain ⟨rfl, any, -, exact_count⟩ := balanced.entered clientId hosted only
        (by simp [subscribes]) called
      have count := agrees.1
      simp only [SubscribeSystem.perform, Manager.insertSubscribeRecordWith, taken, called, ne_eq,
        not_true_eq_false, if_false] at count
      rw [any] at count
      exact exact_count count
  | _ => exact enters.elim

theorem mem_onStartEvents (configured : config.getEventConfig eventId = some cfg) :
    eventId ∈ config.onStartEvents ↔ cfg.collectOnStart = 1 := by
  have present : eventId ∈ config.getAllEventIds :=
    SortedMap.mem_keys_iff.mpr (SortedMap.contains_iff.mpr ⟨cfg, configured⟩)
  simp [ConfigData.onStartEvents, present, configured]

variable (config) in
/-- The start of the service counts every event that is collected from the start once. -/
theorem subscriberEventOnSgStart_spec (succeed : (plugins rest).Succeed) (event : Int) :
    let after := DataCollection.subscriberEventOnSgStart config (plugins rest) {}
    after.subscribeCount event = config.onStartEvents.count event ∧
      after.isCollectorStarted event = decide (event ∈ config.onStartEvents) := by
  have nodup : config.onStartEvents.Nodup := config.eventMap.keys_nodup.filter _
  have fits : ∀ event ∈ config.onStartEvents,
      ({} : DataCollection).subscribeCount event + config.onStartEvents.count event <
        DataCollection.countRange := by
    intro event mem
    have once := List.nodup_iff_count_le_one.mp nodup event
    have none : ({} : DataCollection).subscribeCount event = 0 := rfl
    rw [none, DataCollection.countRange]
    omega
  obtain ⟨-, spec⟩ := DataCollection.subscribeEach_success [] succeed.serve
    (fun event _ => .inr (succeed.getCollectorPath event)) fits
  rw [DataCollection.subscriberEventOnSgStart, DataCollection.subscribeCollectors]
  split_ifs with none
  · simp [none, DataCollection.subscribeCount, DataCollection.isCollectorStarted]
  · obtain ⟨count, starts⟩ := spec event
    exact ⟨by rw [count]; simp [DataCollection.subscribeCount],
      by rw [starts]; simp [DataCollection.isCollectorStarted]⟩

theorem balanced_started (hosted : HostedEvent config plugins eventId cfg) (rest : ω) :
    Balanced eventId cfg (started config plugins rest) := by
  obtain ⟨count, starts⟩ := subscriberEventOnSgStart_spec config
    (hosted.succeed rest) eventId
  have nodup : config.onStartEvents.Nodup := config.eventMap.keys_nodup.filter _
  have mem := mem_onStartEvents hosted.configured
  have nobody : (started config plugins rest).isAnySessionSubscribes eventId = false := rfl
  have share : config.onStartEvents.count eventId = onStartCount cfg := by
    rw [nodup.count, onStartCount]
    simp only [mem]
  refine ⟨⟨?_, ?_, ?_⟩, fun any => absurd any (by simp [nobody])⟩
  · rw [nobody, started, count, share]
    rfl
  · rw [started, starts, count, share]
    refine decide_eq_decide.mpr ?_
    rw [mem, onStartCount]
    split_ifs with onStart <;> simp [onStart]
  · rw [nobody]
    rfl

/-- The count of an event hosted here is one if it is collected from the start, plus one if some
session subscribes it, and its collector runs exactly while it is needed, after every operation
of a run exactly when every session that enters the event finds it subscribed through a
collector and, if it is sticky, by no other session. -/
theorem subscribeCount_follows_sessions (hosted : HostedEvent config plugins eventId cfg)
    (rest : ω) (operations : List Operation) :
    Transition.Visits (operate config plugins others) (CountAgrees eventId cfg)
        (started config plugins rest) operations ↔
      Transition.Along (operate config plugins others) (EntersStickyOnce eventId cfg)
        (started config plugins rest) operations := by
  refine Transition.visits_iff_along (fun manager operation => ⟨_, rfl⟩) ?_ ?_
    (fun manager balanced => balanced.agrees) (balanced_started hosted rest)
  · rintro before after operation balanced once taken
    obtain rfl := Option.some.inj taken
    exact balanced.perform hosted once
  · rintro before after operation balanced taken
    obtain rfl := Option.some.inj taken
    exact ⟨balanced.once_of_agrees hosted, fun once => (balanced.perform hosted once).agrees⟩

/-- Every collector is in one library and works. -/
def workingPlugins : Plugins where
  getCollectorPath _ := .ok "libcollector.z.so"
  loadLib _ := true
  callGetCollector _ := true
  start _ := 0
  stop _ := 0

theorem workingPlugins_succeed : workingPlugins.Succeed :=
  ⟨fun _ => ⟨_, rfl⟩, fun _ => rfl, fun _ => rfl, fun _ => rfl, fun _ => rfl⟩

/-- Nothing else is outside. -/
def noOtherCalls : OtherCalls Unit where
  scSubscribe _ _ := (.success, ())
  scUnsubscribe _ _ := (.success, ())
  eventFilter := none
  called _ := ()

def plainCfg : EventCfg :=
  { eventId := 7, eventType := .subscribeColl, collectOnStart := 1, prog := securityGuardProg }

def stickyCfg : EventCfg :=
  { eventId := 9, eventType := .subscribeColl, prog := securityGuardProg, isSticky := 1 }

/-- Event 7 is collected from the start and event 9 is sticky. -/
def twoEventConfig : ConfigData where
  eventMap := (SortedMap.empty.insert 7 plainCfg).insert 9 stickyCfg

theorem plain_hosted : HostedEvent twoEventConfig (fun _ : Unit => workingPlugins) 7 plainCfg :=
  ⟨fun _ => workingPlugins_succeed, rfl, rfl⟩

/-- Two clients subscribe an event, and both leave. -/
def comeAndGo (eventId : Int) : List Operation :=
  [.insertSubscribeRecordWith ⟨eventId, "securityGroup", 100, 10⟩ "a",
    .insertSubscribeRecordWith ⟨eventId, "securityGroup", 200, 20⟩ "b",
    .removeSubscribeRecord eventId "a" true, .destoryClient "b"]

/-- The count of the plain event follows the two clients. -/
theorem subscribeCount_follows_sessions_plain :
    Transition.Visits (operate twoEventConfig (fun _ => workingPlugins) noOtherCalls)
      (CountAgrees 7 plainCfg) (started twoEventConfig (fun _ => workingPlugins) ())
      (comeAndGo 7) := by
  have once : Transition.Along (operate twoEventConfig (fun _ => workingPlugins) noOtherCalls)
      (EntersStickyOnce 7 plainCfg) (started twoEventConfig (fun _ => workingPlugins) ())
      (comeAndGo 7) := by
    decide +kernel
  exact (subscribeCount_follows_sessions plain_hosted () (comeAndGo 7)).mpr once

/-- Two clients of the sticky event are counted twice. -/
theorem sticky_counted_twice :
    ¬ ∀ (operations : List Operation) (final : Manager (Hosted Unit)),
      Transition.run (operate twoEventConfig (fun _ => workingPlugins) noOtherCalls)
          (started twoEventConfig (fun _ => workingPlugins) ()) operations = some final →
        CountAgrees 9 stickyCfg final := by
  intro agreement
  have evaluated : (Transition.run
      (operate twoEventConfig (fun _ => workingPlugins) noOtherCalls)
      (started twoEventConfig (fun _ => workingPlugins) ()) ((comeAndGo 9).take 2)).any
        (fun final => final.world.collection.subscribeCount 9 = 2 ∧
          final.isAnySessionSubscribes 9 = true) = true := by
    decide +kernel
  obtain ⟨final, reach, found⟩ := (Option.any_eq_true _ _).mp evaluated
  obtain ⟨two, any⟩ := of_decide_eq_true found
  have one := (agreement _ final reach).1
  rw [two, any] at one
  exact absurd one (by decide)

end Manager

end SecurityGuard
