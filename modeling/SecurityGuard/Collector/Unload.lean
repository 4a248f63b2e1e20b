import SecurityGuard.Collector.Service

/-!
# When the collector service may be unloaded

A call in flight holds the counter from its increment until it has entered a user or taken the
increment back, and from the removal of a user until its decrement.  The counter is then the
number of users and of calls that hold it, as long as every decrement that follows a removal
follows the removal of exactly one user.
-/

namespace SecurityGuard

namespace CollectorServiceStage

/-- What a call holds of the counter. -/
def holds : CollectorServiceStage → Nat
  | subscribing _ _ | starting _ | querying | removed | releasing _ => 1
  | unsubscribing _ | stopping _ _ | dying _ => 0

end CollectorServiceStage

namespace CollectorService

/-- What a call holds of the counter after a step. -/
def heldAfter : Decision CollectorServiceStage → Nat
  | .returns _ => 0
  | .continues stage => stage.holds

/-- The counter is never negative, it is the number of users when no call is in flight, and the
unload loop then finds no user. -/
def CountsUsers (state : CollectorService) : Prop :=
  0 ≤ state.refCount ∧ (state.inFlight = .empty →
    state.refCount = state.inUse ∧ (state.isIdle = true → state.inUse = 0))

/-- A callback that leaves takes one subscription away or none, as its call counts, and a stop
succeeds. -/
def BalancedStage (state : CollectorService) (answers : CollectorAnswers) :
    CollectorServiceStage → Prop
  | .unsubscribing callback => state.subscribers.LeavesOne callback
  | .dying remote => state.subscribers.LeavesOne remote
  | .stopping eventId appName =>
      state.starters.isStartedBy eventId appName = true ∧ answers.stopCollectors = true
  | _ => True

/-- The counter has room for a call that begins, and a call in flight goes on in balance. -/
def Balanced (state : CollectorService) : Label → Prop
  | .begins _ _ _ => state.refCount < 2147483647
  | .continues id answers =>
      ∀ stage ∈ state.inFlight.get? id, state.BalancedStage answers stage

instance (state : CollectorService) (answers : CollectorAnswers) (stage : CollectorServiceStage) :
    Decidable (state.BalancedStage answers stage) := by
  cases stage <;> (unfold BalancedStage; infer_instance)

instance : ∀ (state : CollectorService) (label : Label), Decidable (state.Balanced label)
  | state, .begins _ _ _ => inferInstanceAs (Decidable (state.refCount < 2147483647))
  | state, .continues id _ =>
      inferInstanceAs (Decidable (∀ stage ∈ state.inFlight.get? id, _))

/-- What every step keeps. -/
structure Counted (state : CollectorService) : Prop where
  single : state.subscribers.Single
  fits : state.refCount ≤ 2147483647
  count : state.refCount =
    state.inUse + state.inFlight.total CollectorServiceStage.holds

/-- A step of a call that held some of the counter accounts for the users it enters or removes and
for what the call holds afterwards. -/
structure Accounts (held : Nat) (before : CollectorService)
    (outcome : CollectorService × Decision CollectorServiceStage) : Prop where
  inFlight : outcome.1.inFlight = before.inFlight
  single : outcome.1.subscribers.Single
  fits : outcome.1.refCount ≤ 2147483647
  count : outcome.1.refCount + before.inUse + held =
    before.refCount + outcome.1.inUse + heldAfter outcome.2

variable {state : CollectorService} {answers : CollectorAnswers}

theorem int32_of_fits {value : Int} (nonneg : 0 ≤ value) (fits : value ≤ 2147483647) :
    int32 value = value := by
  rw [int32]
  omega

theorem Counted.accounts_self (counted : state.Counted)
    {decision : Decision CollectorServiceStage} {held : Nat} (same : heldAfter decision = held) :
    Accounts held state (state, decision) where
  inFlight := rfl
  single := counted.single
  fits := counted.fits
  count := by rw [same]

theorem Counted.accounts_fetchAdd (counted : state.Counted) (room : state.refCount < 2147483647)
    {stage : CollectorServiceStage} (holds : stage.holds = 1) :
    Accounts 0 state (state.fetchAdd, .continues stage) := by
  have count := counted.count
  have value : state.fetchAdd.refCount = state.refCount + 1 :=
    int32_of_fits (by omega) (by omega)
  refine ⟨rfl, counted.single, by rw [value]; omega, ?_⟩
  change state.fetchAdd.refCount + state.inUse + 0 = state.refCount + state.inUse + stage.holds
  rw [value, holds]
  omega

theorem Counted.accounts_fetchSub (counted : state.Counted) {id : Nat} {code : Code}
    (found : state.inFlight.get? id = some (.releasing code)) :
    Accounts 1 state (state.fetchSub, .returns code) := by
  have count := counted.count
  have fits := counted.fits
  have held := SortedMap.le_total CollectorServiceStage.holds found
  rw [CollectorServiceStage.holds] at held
  have value : state.fetchSub.refCount = state.refCount - 1 :=
    int32_of_fits (by omega) (by omega)
  refine ⟨rfl, counted.single, by rw [value]; omega, ?_⟩
  change state.fetchSub.refCount + state.inUse + 1 = state.refCount + state.inUse + 0
  rw [value]
  omega

theorem Counted.enter (counted : state.Counted) (room : state.refCount < 2147483647)
    (call : CollectorServiceCall) : Accounts 0 state (state.enter answers call) := by
  cases call with
  | subscribe eventId callback => exact counted.accounts_fetchAdd room rfl
  | unsubscribe callback =>
      rw [CollectorService.enter]
      split_ifs <;> exact counted.accounts_self rfl
  | collectorStart eventId => exact counted.accounts_fetchAdd room rfl
  | collectorStop eventId =>
      rw [CollectorService.enter]
      split_ifs <;> exact counted.accounts_self rfl
  | querySecurityEvent => exact counted.accounts_fetchAdd room rfl
  | querySecurityEventBatch => exact counted.accounts_fetchAdd room rfl
  | onRemoteDied remote => exact counted.accounts_self rfl

theorem Counted.subscribe (counted : state.Counted) (eventId : Int) (callback : Address) :
    Accounts 1 state (state.subscribe answers eventId callback) := by
  have spec := counted.single.subscribeCollector answers.subscribeCollectors
    (state.newSubscriber notifyAppName eventId (some callback)) rfl
  obtain ⟨single, registered⟩ := spec
  rw [CollectorService.subscribe]
  dsimp only
  split_ifs with _ _ failed
  · exact counted.accounts_self rfl
  · exact counted.accounts_self rfl
  · refine ⟨rfl, single, counted.fits, ?_⟩
    rw [Bool.not_eq_true'] at failed
    simp only [failed, Bool.toNat_false, Nat.add_zero] at registered
    simp only [inUse, registered, heldAfter, CollectorServiceStage.holds]
  · refine ⟨rfl, single, counted.fits, ?_⟩
    rw [Bool.not_eq_true', Bool.not_eq_false] at failed
    simp only [failed, Bool.toNat_true] at registered
    simp only [inUse, registered, heldAfter]
    omega

theorem Counted.collectorStart (counted : state.Counted) (eventId : Int) :
    Accounts 1 state (state.collectorStart answers eventId) := by
  have started := state.starters.startCollector_started answers.startCollectors
    (state.newSubscriber answers.getAppName eventId none)
  rw [CollectorService.collectorStart]
  cases answers.getCollectorType with
  | error code => split_ifs <;> exact counted.accounts_self rfl
  | ok collectorType =>
      dsimp only
      split_ifs with _ _ _ failed
      · exact counted.accounts_self rfl
      · exact counted.accounts_self rfl
      · exact counted.accounts_self rfl
      · refine ⟨rfl, counted.single, counted.fits, ?_⟩
        rw [Bool.not_eq_true'] at failed
        simp only [failed, Bool.toNat_false, Nat.add_zero] at started
        simp only [inUse, started, heldAfter, CollectorServiceStage.holds]
      · refine ⟨rfl, counted.single, counted.fits, ?_⟩
        rw [Bool.not_eq_true', Bool.not_eq_false] at failed
        simp only [failed, Bool.toNat_true] at started
        simp only [inUse, started, heldAfter]
        omega

theorem Counted.collectorStop (counted : state.Counted) {eventId : Int} {appName : String}
    (starter : state.starters.isStartedBy eventId appName = true)
    (stops : answers.stopCollectors = true) :
    Accounts 0 state (state.collectorStop answers eventId appName) := by
  obtain ⟨stopped, started⟩ := SecurityCollectorRunManager.stopCollector_started
    (state.newSubscriber appName eventId none) starter
  rw [CollectorService.collectorStop, stops]
  simp only [stopped, Bool.not_true, Bool.false_eq_true, if_false]
  refine ⟨rfl, counted.single, counted.fits, ?_⟩
  simp only [inUse, heldAfter, CollectorServiceStage.holds]
  omega

theorem Counted.query (counted : state.Counted) : Accounts 1 state (state.query answers) := by
  rw [CollectorService.query]
  split_ifs <;> exact counted.accounts_self rfl

/-- The users after a callback has left. -/
theorem Counted.cleanSubscriber (counted : state.Counted) {remote : Address}
    (leaves : state.subscribers.LeavesOne remote) :
    let cleaned := state.cleanSubscriber remote
    cleaned.2.subscribers.Single ∧ cleaned.2.inUse + cleaned.1.toNat = state.inUse := by
  obtain ⟨single, registered⟩ := counted.single.unsubscribeCollector leaves
  refine ⟨single, ?_⟩
  simp only [CollectorService.cleanSubscriber, inUse]
  omega

theorem Counted.unsubscribe (counted : state.Counted) {callback : Address}
    (leaves : state.subscribers.LeavesOne callback) :
    Accounts 0 state (state.unsubscribe callback) := by
  obtain ⟨single, users⟩ := counted.cleanSubscriber leaves
  rw [CollectorService.unsubscribe]
  split_ifs with kept
  · refine ⟨rfl, single, counted.fits, ?_⟩
    rw [Bool.not_eq_true'] at kept
    rw [← users, kept]
    rfl
  · refine ⟨rfl, single, counted.fits, ?_⟩
    rw [Bool.not_eq_true', Bool.not_eq_false] at kept
    rw [← users, kept]
    simp only [CollectorService.cleanSubscriber, heldAfter, CollectorServiceStage.holds,
      Bool.toNat_true]
    omega

theorem Counted.onRemoteDied (counted : state.Counted) {remote : Address}
    (leaves : state.subscribers.LeavesOne remote) :
    Accounts 0 state (state.onRemoteDied remote) := by
  obtain ⟨single, users⟩ := counted.cleanSubscriber leaves
  rw [CollectorService.onRemoteDied]
  split_ifs with removed
  · refine ⟨rfl, single, counted.fits, ?_⟩
    rw [← users, removed]
    simp only [CollectorService.cleanSubscriber, heldAfter, CollectorServiceStage.holds,
      Bool.toNat_true]
    omega
  · refine ⟨rfl, single, counted.fits, ?_⟩
    rw [Bool.not_eq_true] at removed
    rw [← users, removed]
    rfl

/-- A call in flight that goes on in balance. -/
theorem Counted.resume (counted : state.Counted) {id : Nat} {stage : CollectorServiceStage}
    (found : state.inFlight.get? id = some stage)
    (balanced : state.BalancedStage answers stage) :
    Accounts stage.holds state (state.resume answers stage) := by
  cases stage with
  | subscribing eventId callback => exact counted.subscribe eventId callback
  | unsubscribing callback => exact counted.unsubscribe balanced
  | starting eventId => exact counted.collectorStart eventId
  | stopping eventId appName => exact counted.collectorStop balanced.1 balanced.2
  | querying => exact counted.query
  | dying remote => exact counted.onRemoteDied balanced
  | removed =>
      have count := counted.count
      have held := SortedMap.le_total CollectorServiceStage.holds found
      rw [CollectorServiceStage.holds] at held
      rw [CollectorService.resume, if_neg (by omega)]
      exact counted.accounts_self rfl
  | releasing code => exact counted.accounts_fetchSub found

/-- What a call holds beside the other calls, before and after its step. -/
theorem Accounts.settle (counted : state.Counted) {id : Nat} {held : Nat}
    {outcome : CollectorService × Decision CollectorServiceStage}
    (accounts : Accounts held state outcome)
    (others : state.inFlight.total CollectorServiceStage.holds =
      held + (state.inFlight.erase id).total CollectorServiceStage.holds) :
    (settle id outcome).Counted := by
  obtain ⟨after, decision⟩ := outcome
  obtain ⟨inFlight, single, fits, count⟩ := accounts
  have before := counted.count
  cases decision with
  | returns code =>
      refine ⟨single, fits, ?_⟩
      change after.refCount =
        after.inUse + (after.inFlight.erase id).total CollectorServiceStage.holds
      simp only [heldAfter] at count
      rw [inFlight]
      omega
  | continues stage =>
      refine ⟨single, fits, ?_⟩
      change after.refCount =
        after.inUse + (after.inFlight.insert id stage).total CollectorServiceStage.holds
      simp only [heldAfter] at count
      rw [SortedMap.total_insert, inFlight]
      omega

theorem counted_empty : ({} : CollectorService).Counted where
  single := fun eventId =>
    ⟨Nat.zero_le 1, fun _ _ found => absurd found (Option.some_ne_none _ ∘ Eq.symm)⟩
  fits := by decide
  count := rfl

theorem Counted.next {label : Label} {after : CollectorService} (counted : state.Counted)
    (balanced : state.Balanced label) (taken : next state label = some after) :
    after.Counted := by
  cases label with
  | begins id call answers =>
      rw [CollectorService.next] at taken
      split_ifs at taken with busy
      obtain rfl := Option.some.inj taken
      have absent : state.inFlight.get? id = none := by
        simpa [SortedMap.contains] using busy
      refine (counted.enter balanced call).settle counted ?_
      rw [SortedMap.erase_of_absent absent, Nat.zero_add]
  | continues id answers =>
      obtain ⟨stage, found, rfl⟩ := Option.map_eq_some_iff.mp taken
      exact (counted.resume found (balanced stage found)).settle counted
        (SortedMap.total_of_get? _ found)

theorem Counted.countsUsers (counted : state.Counted) : state.CountsUsers := by
  have count := counted.count
  constructor
  · omega
  · intro rest
    rw [rest, SortedMap.total_empty] at count
    refine ⟨by omega, fun idle => ?_⟩
    have none : state.refCount ≤ 0 := of_decide_eq_true idle
    omega

/-- In a balanced run the counter never gets negative, and counts the users whenever no call is in
flight. -/
theorem refCount_counts_users {labels : List Label} {final : CollectorService}
    (balanced : Transition.Along next Balanced {} labels)
    (reach : Transition.run next {} labels = some final) : final.CountsUsers :=
  (Transition.run_invariant Counted.next counted_empty balanced reach).countsUsers

/-- A call that is not interrupted takes its steps one after the other. -/
def alone (call : CollectorServiceCall) (steps : Nat) : List Label :=
  .begins 0 call {} :: List.replicate steps (.continues 0 {})

/-- A subscription, a start, and the subscriber leaves. -/
def startedAndLeft : List Label :=
  alone (.subscribe 5 7) 1 ++ alone (.collectorStart 6) 1 ++ alone (.unsubscribe 7) 2

theorem refCount_counts_users_startedAndLeft :
    ((Transition.run next {} startedAndLeft).getD {}).CountsUsers :=
  @refCount_counts_users startedAndLeft _ (by decide +kernel) rfl

/-- A stop that finds no collector takes a subscription's share of the counter. -/
theorem failed_stop_unloads :
    ¬∀ (labels : List Label) (final : CollectorService),
      Transition.run next {} labels = some final → final.CountsUsers := by
  intro always
  have users := always (alone (.subscribe 5 7) 1 ++ alone (.collectorStop 6) 2) _ rfl
  have rest := (users.2 (by decide +kernel)).1
  exact absurd rest (by decide +kernel)

end CollectorService

end SecurityGuard
