import Mathlib.Algebra.Order.Ring.Int
import SecurityGuard.Define
import SecurityGuard.Foundation.SortedMap

/-!
# Subscribers and starters of collectors

The collector service keeps a set of subscribers for each event and one starter for each started
collector.  Both managers call `DataCollection`, whose answers are arguments here.  A subscriber
leaves with its callback, so one call may take several subscriptions away.
-/

namespace SecurityGuard

/-- A subscriber or starter, known by the address of its object. -/
structure SecurityCollectorSubscriber where
  address : Address
  appName : String
  eventId : Int
  remote : Option Address
  deriving DecidableEq

def notifyAppName : String := "security_guard"
def maxAppSubscribeCount : Nat := 100

/-- A set of pointers to subscribers, which a loop visits in the order of their addresses. -/
abbrev SubscriberSet := SortedMap Address SecurityCollectorSubscriber

/-- How many subscribers of a set belong to an application. -/
def SubscriberSet.appCount (subscribers : SubscriberSet) (appName : String) : Nat :=
  subscribers.entries.countP fun entry => entry.2.appName = appName

/-- The subscribers of each event. -/
structure SecurityCollectorSubscriberManager where
  eventToSubscribers : SortedMap Int SubscriberSet := .empty
  deriving DecidableEq

namespace SecurityCollectorSubscriberManager

/-- What a removal has left, and the calls of `UnsubscribeCollectors` it has made, which are only
logged when they fail. -/
structure Removal where
  manager : SecurityCollectorSubscriberManager
  unsubscribed : List Int := []
  deriving DecidableEq

variable (manager : SecurityCollectorSubscriberManager)

/-- The subscribers of an event; reading them enters the event. -/
def subscribersOf (eventId : Int) : SubscriberSet :=
  (manager.eventToSubscribers.get? eventId).getD .empty

/-- Replace the subscribers of an event. -/
def setSubscribers (eventId : Int) (subscribers : SubscriberSet) :
    SecurityCollectorSubscriberManager :=
  ⟨manager.eventToSubscribers.insert eventId subscribers⟩

/-- The count of the last event only, as every event overwrites the one before. -/
def getAppSubscribeCount (appName : String) : Nat :=
  manager.eventToSubscribers.entries.foldl
    (fun _ element => SubscriberSet.appCount element.2 appName) 0

/-- Whether an application subscribes an event, as a number. -/
def getAppSubscribeCountOf (appName : String) (eventId : Int) : Nat :=
  if (manager.subscribersOf eventId).entries.any fun entry => entry.2.appName = appName then 1
  else 0

/-- Enter a subscriber, if `SubscribeCollectors` answers with success. -/
def subscribeCollector (subscribeCollectors : Code) (subscriber : SecurityCollectorSubscriber) :
    Bool × SecurityCollectorSubscriberManager :=
  if maxAppSubscribeCount ≤ manager.getAppSubscribeCount subscriber.appName then (false, manager)
  else
    let subscribers := manager.subscribersOf subscriber.eventId
    if 0 < manager.getAppSubscribeCountOf subscriber.appName subscriber.eventId then
      -- Reading the set of an event has entered an empty one for it.
      (false, manager.setSubscribers subscriber.eventId subscribers)
    else if subscribeCollectors ≠ 0 then
      (false, manager.setSubscribers subscriber.eventId subscribers)
    else
      (true, manager.setSubscribers subscriber.eventId
        (subscribers.insert subscriber.address subscriber))

/-- The first subscriber of a set with a callback. -/
def findSubscriber (subscribers : SubscriberSet) (remote : Address) :
    Option SecurityCollectorSubscriber :=
  (subscribers.entries.find? fun entry => entry.2.remote = some remote).map Prod.snd

/-- The first subscriber of each event with a callback. -/
def findSubscribers (remote : Address) : List (Int × SecurityCollectorSubscriber) :=
  manager.eventToSubscribers.entries.filterMap fun element =>
    (findSubscriber element.2 remote).map fun subscriber => (element.1, subscriber)

/-- The events that a callback object subscribes. -/
def findEventIds (remote : Address) : List Int := (manager.findSubscribers remote).map Prod.fst

/-- The subscriber objects of a callback object. -/
def findSecurityCollectorSubscribers (remote : Address) : SubscriberSet :=
  (manager.findSubscribers remote).foldl
    (fun subscribers found => subscribers.insert found.2.address found.2) .empty

/-- Take a subscriber from an event, which goes with its last subscriber. -/
def removeSubscriber (eventId : Int) (removal : Removal)
    (subscriber : SecurityCollectorSubscriber) : Removal :=
  let subscribers := (removal.manager.subscribersOf eventId).erase subscriber.address
  if subscribers.size = 0 then
    { manager := ⟨removal.manager.eventToSubscribers.erase eventId⟩
      unsubscribed := removal.unsubscribed ++ [eventId] }
  else { removal with manager := removal.manager.setSubscribers eventId subscribers }

/-- Take the subscribers of a set from an event. -/
def removeEach (eventId : Int) (removal : Removal) (subscribers : SubscriberSet) : Removal :=
  subscribers.entries.foldl (fun removal entry => removeSubscriber eventId removal entry.2) removal

/-- Take a callback object out of some events, up to the first failure. -/
def unsubscribeEach (remote : Address) : List Int → Removal → Bool × Removal
  | [], removal => (true, removal)
  | eventId :: rest, removal =>
      if eventId = -1 then (false, removal)
      else
        let subscribers := removal.manager.findSecurityCollectorSubscribers remote
        if subscribers.size = 0 then (false, removal)
        else unsubscribeEach remote rest (removeEach eventId removal subscribers)

/-- Take every subscription of a callback away. -/
def unsubscribeCollector (remote : Address) : Bool × Removal :=
  let eventIds := manager.findEventIds remote
  if eventIds = [] then (false, { manager }) else unsubscribeEach remote eventIds { manager }

/-- The number of subscriptions. -/
def registered : Nat := manager.eventToSubscribers.total SortedMap.size

/-- An event has at most one subscriber, as all of them carry one application name. -/
def Single (manager : SecurityCollectorSubscriberManager) : Prop :=
  ∀ eventId, (manager.subscribersOf eventId).size ≤ 1 ∧
    ∀ address subscriber, (manager.subscribersOf eventId).get? address = some subscriber →
      subscriber.address = address ∧ subscriber.appName = notifyAppName

/-- Leaving takes as many subscriptions away as the caller counts: a callback has at most one
subscription, or the invalid event stops the loop before the first one. -/
def LeavesOne (remote : Address) : Prop :=
  (-1 ∈ manager.findEventIds remote → ∀ eventId ∈ manager.findEventIds remote, -1 ≤ eventId) ∧
    (-1 ∉ manager.findEventIds remote → (manager.findEventIds remote).length ≤ 1)

instance (remote : Address) : Decidable (manager.LeavesOne remote) :=
  inferInstanceAs (Decidable ((_ → _) ∧ (_ → _)))

variable {manager}

theorem registered_split (eventId : Int) :
    manager.registered = (manager.subscribersOf eventId).size +
      (manager.eventToSubscribers.erase eventId).total SortedMap.size := by
  rw [registered, subscribersOf]
  cases found : manager.eventToSubscribers.get? eventId with
  | none => simp [SortedMap.erase_of_absent found]
  | some subscribers => exact SortedMap.total_of_get? SortedMap.size found

theorem registered_setSubscribers (eventId : Int) (subscribers : SubscriberSet) :
    (manager.setSubscribers eventId subscribers).registered +
      (manager.subscribersOf eventId).size = manager.registered + subscribers.size := by
  have split := manager.registered_split eventId
  have bound := SortedMap.total_insert SortedMap.size manager.eventToSubscribers eventId subscribers
  rw [registered, setSubscribers, bound]
  omega

@[simp]
theorem subscribersOf_setSubscribers (eventId other : Int) (subscribers : SubscriberSet) :
    (manager.setSubscribers eventId subscribers).subscribersOf other =
      if other = eventId then subscribers else manager.subscribersOf other := by
  by_cases same : other = eventId <;> simp [subscribersOf, setSubscribers, same]

@[simp]
theorem subscribersOf_erase (eventId other : Int) :
    subscribersOf ⟨manager.eventToSubscribers.erase eventId⟩ other =
      if other = eventId then .empty else manager.subscribersOf other := by
  by_cases same : other = eventId <;> simp [subscribersOf, same]

theorem Single.setSubscribers (single : manager.Single) {eventId : Int}
    {subscribers : SubscriberSet} (short : subscribers.size ≤ 1)
    (named : ∀ address subscriber, subscribers.get? address = some subscriber →
      subscriber.address = address ∧ subscriber.appName = notifyAppName) :
    (manager.setSubscribers eventId subscribers).Single := by
  intro other
  rw [subscribersOf_setSubscribers]
  split_ifs
  · exact ⟨short, named⟩
  · exact single other

/-- Subscribing counts exactly if it succeeds. -/
theorem Single.subscribeCollector (single : manager.Single) (answer : Code)
    (subscriber : SecurityCollectorSubscriber) (named : subscriber.appName = notifyAppName) :
    let after := manager.subscribeCollector answer subscriber
    after.2.Single ∧ after.2.registered = manager.registered + after.1.toNat := by
  obtain ⟨short, names⟩ := single subscriber.eventId
  have touched := manager.registered_setSubscribers subscriber.eventId
    (manager.subscribersOf subscriber.eventId)
  rw [SecurityCollectorSubscriberManager.subscribeCollector]
  dsimp only
  split_ifs with _ present
  · exact ⟨single, rfl⟩
  · exact ⟨single.setSubscribers short names, by simpa using touched⟩
  · exact ⟨single.setSubscribers short names, by simpa using touched⟩
  · have none : manager.subscribersOf subscriber.eventId = .empty := by
      refine SortedMap.ext_get? fun address => ?_
      rw [SortedMap.get?_empty, Option.eq_none_iff_forall_ne_some]
      intro other found
      have any : ((manager.subscribersOf subscriber.eventId).entries.any fun entry =>
          entry.2.appName = subscriber.appName) = true :=
        List.any_eq_true.mpr ⟨(address, other), SortedMap.mem_entries_iff.mpr found,
          by simp [(names address other found).2, named]⟩
      rw [getAppSubscribeCountOf, if_pos any] at present
      exact present Nat.one_pos
    have entered := manager.registered_setSubscribers subscriber.eventId
      (SortedMap.empty.insert subscriber.address subscriber)
    have one : (SortedMap.empty.insert subscriber.address subscriber :
        SubscriberSet).size = 1 := rfl
    rw [none]
    refine ⟨single.setSubscribers (Nat.le_of_eq one) fun address other found => ?_, ?_⟩
    · rcases SortedMap.get?_insert_eq_some.mp found with ⟨rfl, rfl⟩ | ⟨-, found⟩
      · exact ⟨rfl, named⟩
      · simp at found
    · simpa [none, one] using entered

theorem findSubscriber_eq_some {subscribers : SubscriberSet} {remote : Address}
    {subscriber : SecurityCollectorSubscriber}
    (found : findSubscriber subscribers remote = some subscriber) :
    ∃ address, subscribers.get? address = some subscriber ∧ subscriber.remote = some remote := by
  obtain ⟨⟨address, first⟩, search, rfl⟩ := Option.map_eq_some_iff.mp found
  exact ⟨address, SortedMap.mem_entries_iff.mp (List.mem_of_find?_eq_some search),
    by simpa using List.find?_some search⟩

theorem mem_findSubscribers {remote : Address} {eventId : Int}
    {subscriber : SecurityCollectorSubscriber} :
    (eventId, subscriber) ∈ manager.findSubscribers remote ↔
      findSubscriber (manager.subscribersOf eventId) remote = some subscriber := by
  rw [findSubscribers, List.mem_filterMap]
  constructor
  · rintro ⟨⟨key, subscribers⟩, entry, found⟩
    obtain ⟨first, search, equal⟩ := Option.map_eq_some_iff.mp found
    obtain ⟨rfl, rfl⟩ := Prod.mk.inj equal
    rwa [subscribersOf, SortedMap.mem_entries_iff.mp entry]
  · intro search
    cases found : manager.eventToSubscribers.get? eventId with
    | none =>
        rw [subscribersOf, found] at search
        exact absurd search (by simp [findSubscriber, SortedMap.empty])
    | some subscribers =>
        rw [subscribersOf, found, Option.getD_some] at search
        exact ⟨(eventId, subscribers), SortedMap.mem_entries_iff.mpr found,
          Option.map_eq_some_iff.mpr ⟨subscriber, search, rfl⟩⟩

theorem findEventIds_increasing (remote : Address) :
    (manager.findEventIds remote).Pairwise (· < ·) := by
  refine List.pairwise_map.mpr
    (manager.eventToSubscribers.increasing.filterMap _ fun left right below => ?_)
  intro first firstFound second secondFound
  obtain ⟨_, _, rfl⟩ := Option.map_eq_some_iff.mp firstFound
  obtain ⟨_, _, rfl⟩ := Option.map_eq_some_iff.mp secondFound
  exact below

/-- The only subscriber of an event goes with the event. -/
theorem Single.removeSubscriber (single : manager.Single) {eventId : Int}
    {subscriber : SecurityCollectorSubscriber} {address : Address}
    (found : (manager.subscribersOf eventId).get? address = some subscriber) :
    let after := removeSubscriber eventId { manager } subscriber
    after.manager.Single ∧ after.manager.registered + 1 = manager.registered := by
  obtain ⟨short, names⟩ := single eventId
  obtain ⟨rfl, -⟩ := names address subscriber found
  have split := manager.registered_split eventId
  have one := SortedMap.size_erase (SortedMap.contains_iff.mpr ⟨subscriber, found⟩)
  have last : ((manager.subscribersOf eventId).erase subscriber.address).size = 0 := by omega
  rw [SecurityCollectorSubscriberManager.removeSubscriber]
  simp only [last, if_true]
  constructor
  · intro other
    rw [subscribersOf_erase]
    split_ifs
    · exact ⟨Nat.zero_le 1, fun _ _ absent => by simp at absent⟩
    · exact single other
  · rw [split, one, last]
    exact Nat.add_comm _ 1

/-- A callback that leaves as the caller counts takes one subscription away exactly if the call
says so. -/
theorem Single.unsubscribeCollector (single : manager.Single) {remote : Address}
    (leaves : manager.LeavesOne remote) :
    let after := manager.unsubscribeCollector remote
    after.2.manager.Single ∧ after.2.manager.registered + after.1.toNat = manager.registered := by
  obtain ⟨invalid, valid⟩ := leaves
  have increasing := manager.findEventIds_increasing remote
  rw [SecurityCollectorSubscriberManager.unsubscribeCollector]
  cases events : manager.findEventIds remote with
  | nil => exact ⟨single, rfl⟩
  | cons first rest =>
      rw [events] at invalid valid increasing
      simp only [reduceCtorEq, if_false]
      rw [unsubscribeEach]
      dsimp only
      split_ifs with stops
      · exact ⟨single, rfl⟩
      · exact ⟨single, rfl⟩
      · have absent : (-1 : Int) ∉ first :: rest := by
          intro mem
          have bound := invalid mem first List.mem_cons_self
          rcases List.mem_cons.mp mem with same | later
          · exact stops same.symm
          · have below := (List.pairwise_cons.mp increasing).1 _ later
            omega
        have last : rest = [] := by simpa using valid absent
        have one : (manager.findEventIds remote).length = 1 := by rw [events, last]; rfl
        rw [findEventIds, List.length_map] at one
        obtain ⟨⟨key, subscriber⟩, found⟩ := List.length_eq_one_iff.mp one
        have same : key = first := by
          rw [findEventIds, found] at events
          exact (List.cons.inj events).1
        subst same
        obtain ⟨address, mem, -⟩ :=
          findSubscriber_eq_some (mem_findSubscribers.mp (found ▸ List.mem_singleton_self _))
        have removed := single.removeSubscriber mem
        rw [last, findSecurityCollectorSubscribers, found]
        exact removed

end SecurityCollectorSubscriberManager

/-- The starter of each event. -/
structure SecurityCollectorRunManager where
  collectorRunManager : SortedMap Int SecurityCollectorSubscriber := .empty
  deriving DecidableEq

namespace SecurityCollectorRunManager

variable (manager : SecurityCollectorRunManager)

/-- Enter a starter, if `StartCollectors` answers with success. -/
def startCollector (startCollectors : Bool) (subscriber : SecurityCollectorSubscriber) :
    Bool × SecurityCollectorRunManager :=
  if manager.collectorRunManager.contains subscriber.eventId then (false, manager)
  else if !startCollectors then (false, manager)
  else (true, ⟨manager.collectorRunManager.insert subscriber.eventId subscriber⟩)

/-- Whether the collector of an event was started by an application. -/
def isStartedBy (eventId : Int) (appName : String) : Bool :=
  (manager.collectorRunManager.get? eventId).any fun starter => starter.appName = appName

/-- Forget a starter, if `StopCollectors` answers with success. -/
def stopCollector (stopCollectors : Bool) (subscriber : SecurityCollectorSubscriber) :
    Bool × SecurityCollectorRunManager :=
  match manager.collectorRunManager.get? subscriber.eventId with
  | none => (false, manager)
  | some starter =>
      if starter.appName ≠ subscriber.appName then (false, manager)
      else if !stopCollectors then (false, manager)
      else (true, ⟨manager.collectorRunManager.erase subscriber.eventId⟩)

/-- The number of collectors that were started and not stopped. -/
def started : Nat := manager.collectorRunManager.size

variable {manager}

theorem startCollector_started (answer : Bool) (subscriber : SecurityCollectorSubscriber) :
    (manager.startCollector answer subscriber).2.started =
      manager.started + (manager.startCollector answer subscriber).1.toNat := by
  rw [startCollector]
  split_ifs with present
  · rfl
  · rfl
  · exact SortedMap.size_insert_of_fresh subscriber (by simpa using present)

theorem stopCollector_started (subscriber : SecurityCollectorSubscriber)
    (starter : manager.isStartedBy subscriber.eventId subscriber.appName = true) :
    (manager.stopCollector true subscriber).1 = true ∧
      (manager.stopCollector true subscriber).2.started + 1 = manager.started := by
  obtain ⟨first, found, same⟩ := (Option.any_eq_true _ _).mp starter
  have named : first.appName = subscriber.appName := by simpa using same
  have erased := (SortedMap.perm_erase found).length_eq
  rw [stopCollector, found]
  simp only [named, ne_eq, not_true_eq_false, if_false, Bool.not_true, Bool.false_eq_true]
  exact ⟨trivial, erased.symm⟩

end SecurityCollectorRunManager

end SecurityGuard
