import SecurityGuard.Collector.Subscribers
import SecurityGuard.Foundation.Execution

/-!
# The limit of subscriptions of an application

`SubscribeCollector` counts the subscriptions of an application in a loop that overwrites the
count at every event, so that the limit is void.  It reads the subscribers of an event with an
operator that enters the event, which stays without subscribers if its collector does not start.
-/

namespace SecurityGuard

namespace SubscriberSet

variable {subscribers kept : SubscriberSet} {address : Address}

theorem appCount_insert (subscriber : SecurityCollectorSubscriber)
    (fresh : subscribers.get? address = none) (appName : String) :
    SubscriberSet.appCount (subscribers.insert address subscriber) appName =
      subscribers.appCount appName + if subscriber.appName = appName then 1 else 0 := by
  have bound := SortedMap.perm_erase (subscribers.get?_insert_self address subscriber)
  rw [SortedMap.erase_insert, SortedMap.erase_of_absent fresh] at bound
  rw [appCount, bound.countP_eq, List.countP_cons, appCount]
  simp

theorem appCount_le (within : ∀ address subscriber, kept.get? address = some subscriber →
    subscribers.get? address = some subscriber) (appName : String) :
    kept.appCount appName ≤ subscribers.appCount appName :=
  (SortedMap.entries_subperm within).countP_le _

end SubscriberSet

namespace SecurityCollectorSubscriberManager

variable {manager after : SecurityCollectorSubscriberManager} {eventId : Int}

/-- The subscribers of an application, over all events. -/
def appTotal (manager : SecurityCollectorSubscriberManager) (appName : String) : Nat :=
  manager.eventToSubscribers.total fun subscribers => SubscriberSet.appCount subscribers appName

/-- An application stays within its limit and subscribes an event once, and no event is entered
without subscribers. -/
structure Limited (manager : SecurityCollectorSubscriberManager) : Prop where
  total : ∀ appName, manager.appTotal appName ≤ maxAppSubscribeCount
  once : ∀ appName eventId, (manager.subscribersOf eventId).appCount appName ≤ 1
  occupied : ∀ eventId subscribers, manager.eventToSubscribers.get? eventId = some subscribers →
    subscribers.size ≠ 0

theorem get?_of_occupied (occupied : (manager.subscribersOf eventId).size ≠ 0) :
    manager.eventToSubscribers.get? eventId = some (manager.subscribersOf eventId) := by
  rw [subscribersOf] at occupied ⊢
  cases found : manager.eventToSubscribers.get? eventId with
  | none =>
      rw [found] at occupied
      exact absurd SortedMap.size_empty occupied
  | some subscribers => rfl

theorem getAppSubscribeCountOf_pos {appName : String} :
    0 < manager.getAppSubscribeCountOf appName eventId ↔
      0 < (manager.subscribersOf eventId).appCount appName := by
  rw [getAppSubscribeCountOf, SubscriberSet.appCount, List.countP_pos_iff, List.any_eq_true.symm]
  split_ifs with any
  · exact iff_of_true Nat.one_pos (by simpa using any)
  · exact iff_of_false (Nat.lt_irrefl 0) (by simpa using any)

/-- Subscribers only leave, and an event goes with its last one. -/
def Shrinks (before after : SecurityCollectorSubscriberManager) : Prop :=
  ∀ eventId kept, after.eventToSubscribers.get? eventId = some kept →
    ∃ subscribers, before.eventToSubscribers.get? eventId = some subscribers ∧
      (∀ address subscriber, kept.get? address = some subscriber →
        subscribers.get? address = some subscriber) ∧
      (kept.size = 0 → subscribers.size = 0)

theorem Shrinks.refl (manager : SecurityCollectorSubscriberManager) : manager.Shrinks manager :=
  fun _ kept found => ⟨kept, found, fun _ _ same => same, id⟩

theorem Shrinks.trans {before middle : SecurityCollectorSubscriberManager}
    (first : before.Shrinks middle) (second : middle.Shrinks after) : before.Shrinks after := by
  intro eventId kept found
  obtain ⟨between, present, within, empty⟩ := second eventId kept found
  obtain ⟨subscribers, earlier, within', empty'⟩ := first eventId between present
  exact ⟨subscribers, earlier, fun address subscriber mem =>
    within' address subscriber (within address subscriber mem), fun none => empty' (empty none)⟩

theorem removeSubscriber_shrinks (removal : Removal) (subscriber : SecurityCollectorSubscriber) :
    removal.manager.Shrinks (removeSubscriber eventId removal subscriber).manager := by
  intro other kept found
  rw [removeSubscriber] at found
  split_ifs at found with last
  · exact Shrinks.refl _ other kept (SortedMap.get?_erase_eq_some.mp found).2
  · rcases SortedMap.get?_insert_eq_some.mp found with ⟨rfl, rfl⟩ | ⟨-, found⟩
    · have occupied : (removal.manager.subscribersOf other).size ≠ 0 := by
        intro empty
        have none := List.length_eq_zero_iff.mp empty
        exact last (by simp [SortedMap.size, SortedMap.erase, none])
      refine ⟨_, get?_of_occupied occupied, fun address subscriber mem => ?_,
        fun empty => absurd empty last⟩
      exact (SortedMap.get?_erase_eq_some.mp mem).2
    · exact Shrinks.refl _ other kept found

theorem removeEach_shrinks (removal : Removal) (subscribers : SubscriberSet) :
    removal.manager.Shrinks (removeEach eventId removal subscribers).manager := by
  rw [removeEach]
  induction subscribers.entries generalizing removal with
  | nil => exact .refl _
  | cons entry rest ih => exact (removeSubscriber_shrinks removal entry.2).trans (ih _)

theorem unsubscribeEach_shrinks (remote : Address) (eventIds : List Int) (removal : Removal) :
    removal.manager.Shrinks (unsubscribeEach remote eventIds removal).2.manager := by
  induction eventIds generalizing removal with
  | nil => exact .refl _
  | cons eventId rest ih =>
      rw [unsubscribeEach]
      dsimp only
      split_ifs
      · exact .refl _
      · exact .refl _
      · exact (removeEach_shrinks removal _).trans (ih _)

theorem unsubscribeCollector_shrinks (manager : SecurityCollectorSubscriberManager)
    (remote : Address) : manager.Shrinks (manager.unsubscribeCollector remote).2.manager := by
  rw [unsubscribeCollector]
  split_ifs
  · exact .refl _
  · exact unsubscribeEach_shrinks remote _ { manager }

theorem Limited.shrink (limited : manager.Limited) (shrinks : manager.Shrinks after) :
    after.Limited where
  total appName := by
    refine Nat.le_trans (SortedMap.total_le_total _ fun eventId kept found => ?_)
      (limited.total appName)
    obtain ⟨subscribers, earlier, within, -⟩ := shrinks eventId kept found
    exact ⟨subscribers, earlier, SubscriberSet.appCount_le within appName⟩
  once appName eventId := by
    cases found : after.eventToSubscribers.get? eventId with
    | none => simp [subscribersOf, found, SubscriberSet.appCount, SortedMap.empty]
    | some kept =>
        obtain ⟨subscribers, earlier, within, -⟩ := shrinks eventId kept found
        have before := limited.once appName eventId
        rw [subscribersOf, earlier] at before
        rw [subscribersOf, found]
        exact Nat.le_trans (SubscriberSet.appCount_le within appName) before
  occupied eventId kept found := by
    obtain ⟨subscribers, earlier, -, empty⟩ := shrinks eventId kept found
    exact fun none => limited.occupied eventId subscribers earlier (empty none)

/-- The count of the last event is never the limit, so that nobody is refused for it. -/
theorem Limited.count_lt (limited : manager.Limited) (appName : String) :
    manager.getAppSubscribeCount appName < maxAppSubscribeCount := by
  have small : manager.getAppSubscribeCount appName ≤ 1 := by
    rw [getAppSubscribeCount]
    rcases List.eq_nil_or_concat manager.eventToSubscribers.entries with none | ⟨front, last, split⟩
    · rw [none]
      exact Nat.zero_le 1
    · rw [split, List.concat_eq_append, List.foldl_append]
      have found : manager.eventToSubscribers.get? last.1 = some last.2 :=
        SortedMap.mem_entries_iff.mp (by rw [split]; simp)
      have once := limited.once appName last.1
      rw [subscribersOf, found] at once
      exact once
  exact Nat.lt_of_le_of_lt small (by decide)

/-- An operation on the subscribers, with the answer of `SubscribeCollectors`. -/
inductive SubscriberAction where
  | subscribeCollector (subscribeCollectors : Code) (subscriber : SecurityCollectorSubscriber)
  | unsubscribeCollector (remote : Address)
  deriving DecidableEq

/-- An object at the address of a subscriber is that subscriber. -/
def agrees (manager : SecurityCollectorSubscriberManager)
    (subscriber : SecurityCollectorSubscriber) : Bool :=
  manager.eventToSubscribers.entries.all fun element =>
    (element.2.get? subscriber.address).all fun held => held = subscriber

/-- The calls that the manager takes one after the other. -/
def next : Transition SecurityCollectorSubscriberManager SubscriberAction
  | manager, .subscribeCollector answer subscriber =>
      if manager.agrees subscriber then some (manager.subscribeCollector answer subscriber).2
      else none
  | manager, .unsubscribeCollector remote =>
      some (manager.unsubscribeCollector remote).2.manager

theorem eq_of_agrees {subscriber held : SecurityCollectorSubscriber}
    (agrees : manager.agrees subscriber = true)
    (found : (manager.subscribersOf eventId).get? subscriber.address = some held) :
    held = subscriber := by
  rw [subscribersOf] at found
  cases entered : manager.eventToSubscribers.get? eventId with
  | none => simp [entered] at found
  | some subscribers =>
      rw [entered, Option.getD_some] at found
      have all := List.all_eq_true.mp agrees _ (SortedMap.mem_entries_iff.mpr entered)
      rw [found] at all
      simpa using all

/-- The condition on a step: a subscriber that is not refused enters below the limit, or fails to
start an event that others subscribe. -/
def Admissible (manager : SecurityCollectorSubscriberManager) : SubscriberAction → Prop
  | .subscribeCollector answer subscriber =>
      manager.agrees subscriber = true →
        0 < (manager.subscribersOf subscriber.eventId).appCount subscriber.appName ∨
          if answer = 0 then manager.appTotal subscriber.appName < maxAppSubscribeCount
          else (manager.subscribersOf subscriber.eventId).size ≠ 0
  | .unsubscribeCollector _ => True

instance (manager : SecurityCollectorSubscriberManager) :
    ∀ action, Decidable (manager.Admissible action)
  | .subscribeCollector answer subscriber => inferInstanceAs (Decidable
      (manager.agrees subscriber = true →
        0 < (manager.subscribersOf subscriber.eventId).appCount subscriber.appName ∨
          if answer = 0 then manager.appTotal subscriber.appName < maxAppSubscribeCount
          else (manager.subscribersOf subscriber.eventId).size ≠ 0))
  | .unsubscribeCollector _ => isTrue trivial

theorem setSubscribers_of_occupied (occupied : (manager.subscribersOf eventId).size ≠ 0) :
    manager.setSubscribers eventId (manager.subscribersOf eventId) = manager := by
  rw [setSubscribers, SortedMap.insert_of_get? (get?_of_occupied occupied)]

theorem size_of_appCount_pos {subscribers : SubscriberSet} {appName : String}
    (some_own : 0 < subscribers.appCount appName) : subscribers.size ≠ 0 := by
  have bound := List.countP_le_length
    (p := fun entry : Address × SecurityCollectorSubscriber => entry.2.appName = appName)
    (l := subscribers.entries)
  rw [SubscriberSet.appCount] at some_own
  rw [SortedMap.size]
  omega

section Subscribe

variable {subscriber : SecurityCollectorSubscriber}

theorem fresh_of_agrees (agrees : manager.agrees subscriber = true)
    (none : ¬0 < (manager.subscribersOf subscriber.eventId).appCount subscriber.appName) :
    (manager.subscribersOf subscriber.eventId).get? subscriber.address = .none := by
  rw [Option.eq_none_iff_forall_ne_some]
  intro held found
  obtain rfl := eq_of_agrees agrees found
  exact none (List.countP_pos_iff.mpr ⟨(held.address, held), SortedMap.mem_entries_iff.mpr found,
    by simp⟩)

variable (manager) in
theorem appTotal_setSubscribers (eventId : Int) (subscribers : SubscriberSet) (appName : String) :
    (manager.setSubscribers eventId subscribers).appTotal appName +
        (manager.subscribersOf eventId).appCount appName =
      manager.appTotal appName + subscribers.appCount appName := by
  rw [appTotal, setSubscribers, SortedMap.total_insert, appTotal, subscribersOf]
  cases found : manager.eventToSubscribers.get? eventId with
  | none =>
      rw [SortedMap.erase_of_absent found, Option.getD_none]
      exact Nat.add_comm (subscribers.appCount appName) _
  | some held =>
      rw [SortedMap.total_of_get? _ found, Option.getD_some]
      omega

/-- Entering a new subscriber keeps the limits exactly if its application is below its own. -/
theorem Limited.enter_iff (limited : manager.Limited)
    (none : ¬0 < (manager.subscribersOf subscriber.eventId).appCount subscriber.appName)
    (fresh : (manager.subscribersOf subscriber.eventId).get? subscriber.address = .none) :
    (manager.setSubscribers subscriber.eventId
        ((manager.subscribersOf subscriber.eventId).insert subscriber.address
          subscriber)).Limited ↔
      manager.appTotal subscriber.appName < maxAppSubscribeCount := by
  have counts := SubscriberSet.appCount_insert subscriber fresh
  have totals := manager.appTotal_setSubscribers subscriber.eventId
    ((manager.subscribersOf subscriber.eventId).insert subscriber.address subscriber)
  constructor
  · intro after
    have total := after.total subscriber.appName
    have grown := totals subscriber.appName
    rw [counts, if_pos rfl] at grown
    omega
  · intro below
    refine ⟨fun appName => ?_, fun appName eventId => ?_, fun eventId subscribers found => ?_⟩
    · have grown := totals appName
      have before := limited.total appName
      rw [counts] at grown
      split_ifs at grown with own
      · subst own
        omega
      · omega
    · rw [subscribersOf_setSubscribers]
      split_ifs with same
      · rw [counts]
        have before := limited.once appName subscriber.eventId
        split_ifs with own
        · subst own
          omega
        · omega
      · exact limited.once appName eventId
    · rcases SortedMap.get?_insert_eq_some.mp found with ⟨-, rfl⟩ | ⟨-, found⟩
      · have entered := SortedMap.size_erase (SortedMap.contains_iff.mpr ⟨subscriber,
          (manager.subscribersOf subscriber.eventId).get?_insert_self subscriber.address
            subscriber⟩)
        omega
      · exact limited.occupied eventId subscribers found

/-- A subscription keeps the limits exactly under its condition. -/
theorem Limited.subscribe_iff (limited : manager.Limited)
    (agrees : manager.agrees subscriber = true) (answer : Code) :
    (manager.subscribeCollector answer subscriber).2.Limited ↔
      manager.Admissible (.subscribeCollector answer subscriber) := by
  rw [subscribeCollector, if_neg (Nat.not_le.mpr (limited.count_lt _)), Admissible,
    forall_prop_of_true agrees]
  by_cases present : 0 < (manager.subscribersOf subscriber.eventId).appCount subscriber.appName
  · rw [if_pos (getAppSubscribeCountOf_pos.mpr present),
      setSubscribers_of_occupied (size_of_appCount_pos present)]
    exact iff_of_true limited (.inl present)
  · rw [if_neg (getAppSubscribeCountOf_pos.not.mpr present), or_iff_right present]
    by_cases success : answer = 0
    · rw [if_neg (not_not.mpr success), if_pos success]
      exact limited.enter_iff present (fresh_of_agrees agrees present)
    · rw [if_pos success, if_neg success]
      constructor
      · intro after
        exact after.occupied _ _ (SortedMap.get?_insert_self _ _ _)
      · intro occupied
        rw [setSubscribers_of_occupied occupied]
        exact limited

end Subscribe

theorem Limited.next_iff (limited : manager.Limited) {action : SubscriberAction}
    (taken : next manager action = some after) : after.Limited ↔ manager.Admissible action := by
  cases action with
  | subscribeCollector answer subscriber =>
      rw [next] at taken
      split_ifs at taken with agrees
      obtain rfl := Option.some.inj taken
      exact limited.subscribe_iff agrees answer
  | unsubscribeCollector remote =>
      obtain rfl := Option.some.inj taken
      exact iff_of_true (limited.shrink (unsubscribeCollector_shrinks manager remote)) trivial

theorem limited_empty : ({} : SecurityCollectorSubscriberManager).Limited where
  total _ := Nat.zero_le _
  once _ _ := Nat.zero_le 1
  occupied _ _ found := absurd found (Option.some_ne_none _ ∘ Eq.symm)

/-- The limits hold throughout a run exactly if every step meets its condition. -/
theorem apps_stay_limited_iff (actions : List SubscriberAction) :
    Transition.Visits next Limited {} actions ↔ Transition.Along next Admissible {} actions := by
  refine Transition.visits_iff_along_of_refused (fun {manager action} refused => ?_)
    (fun limited admissible taken => (limited.next_iff taken).mpr admissible)
    (fun limited taken => limited.next_iff taken) (fun _ limited => limited) limited_empty
  cases action with
  | subscribeCollector answer subscriber =>
      intro agrees
      rw [next, if_pos agrees] at refused
      exact absurd refused (Option.some_ne_none _)
  | unsubscribeCollector remote => exact trivial

/-- One application subscribes each event up to a number. -/
def subscribeEvents (number : Nat) : List SubscriberAction :=
  (List.range number).map fun index =>
    .subscribeCollector .success ⟨index, "", -index, none⟩

/-- An application subscribes one event more than it may, and an event whose collector does not
start stays without subscribers. -/
theorem limits_are_broken :
    ¬Transition.Visits next Limited {} (subscribeEvents 101) ∧
      ¬Transition.Visits next Limited {}
        [.subscribeCollector .failed ⟨0, notifyAppName, 5, some 7⟩] := by
  constructor
  · intro visits
    have exceeds : (Transition.run next {} (subscribeEvents 101)).any
        (fun manager => maxAppSubscribeCount < manager.appTotal "") = true := by decide +kernel
    obtain ⟨manager, reach, more⟩ := (Option.any_eq_true _ _).mp exceeds
    exact Nat.not_lt.mpr ((visits.last reach).total "") (of_decide_eq_true more)
  · intro visits
    exact (visits.last rfl).occupied 5 .empty rfl rfl

end SecurityCollectorSubscriberManager

end SecurityGuard
