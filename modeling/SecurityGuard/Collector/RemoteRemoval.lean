import SecurityGuard.Collector.AppLimit

/-!
# Removing the subscribers of a callback

`UnsubscribeCollector` takes one subscriber of the callback from every event, but it tries each of
them on each event.  The operator that reads the subscribers of an event enters an event that has
just gone, so that every later try on it calls `UnsubscribeCollectors` again.
-/

namespace SecurityGuard

namespace SecurityCollectorSubscriberManager

variable {manager after : SecurityCollectorSubscriberManager} {removal : Removal}
  {remote : Address} {eventId other : Int} {address : Address}
  {subscriber held : SecurityCollectorSubscriber}

/-- Every subscriber stands at its own address and event, and nothing else has its address. -/
structure Filed (manager : SecurityCollectorSubscriberManager) : Prop where
  own : ∀ {eventId address subscriber},
    (manager.subscribersOf eventId).get? address = some subscriber →
      subscriber.address = address ∧ subscriber.eventId = eventId
  one : ∀ {eventId other address subscriber held},
    (manager.subscribersOf eventId).get? address = some subscriber →
      (manager.subscribersOf other).get? address = some held → held = subscriber

theorem Filed.apart (filed : manager.Filed)
    (found : (manager.subscribersOf eventId).get? address = some subscriber)
    (found' : (manager.subscribersOf other).get? address = some held) : other = eventId := by
  rw [← (filed.own found).2, ← (filed.own found').2, filed.one found found']

theorem Shrinks.get?_subscribersOf (shrinks : manager.Shrinks after)
    (found : (after.subscribersOf eventId).get? address = some subscriber) :
    (manager.subscribersOf eventId).get? address = some subscriber := by
  cases entered : after.eventToSubscribers.get? eventId with
  | none =>
      rw [subscribersOf, entered] at found
      simp at found
  | some kept =>
      obtain ⟨subscribers, earlier, within, -⟩ := shrinks eventId kept entered
      rw [subscribersOf, entered] at found
      rw [subscribersOf, earlier]
      exact within address subscriber found

theorem Filed.shrink (filed : manager.Filed) (shrinks : manager.Shrinks after) : after.Filed where
  own found := filed.own (shrinks.get?_subscribersOf found)
  one found found' := filed.one (shrinks.get?_subscribersOf found)
    (shrinks.get?_subscribersOf found')

theorem Filed.enter (filed : manager.Filed) (agrees : manager.agrees subscriber = true) :
    (manager.setSubscribers subscriber.eventId
      ((manager.subscribersOf subscriber.eventId).insert subscriber.address subscriber)).Filed := by
  -- A subscriber of the larger set is the new one, or it was there before.
  have entered {eventId address held}
      (found : ((manager.setSubscribers subscriber.eventId
        ((manager.subscribersOf subscriber.eventId).insert subscriber.address
          subscriber)).subscribersOf eventId).get? address = some held) :
      (eventId = subscriber.eventId ∧ address = subscriber.address ∧ held = subscriber) ∨
        (manager.subscribersOf eventId).get? address = some held := by
    rw [subscribersOf_setSubscribers] at found
    split_ifs at found with same
    · subst same
      rcases SortedMap.get?_insert_eq_some.mp found with ⟨rfl, rfl⟩ | ⟨-, found⟩
      · exact .inl ⟨rfl, rfl, rfl⟩
      · exact .inr found
    · exact .inr found
  constructor
  · intro eventId address held found
    rcases entered found with ⟨rfl, rfl, rfl⟩ | found
    · exact ⟨rfl, rfl⟩
    · exact filed.own found
  · intro eventId other address first second found found'
    rcases entered found with ⟨-, rfl, rfl⟩ | old
    · rcases entered found' with ⟨-, -, rfl⟩ | old'
      · rfl
      · exact eq_of_agrees agrees old'
    · rcases entered found' with ⟨-, rfl, rfl⟩ | old'
      · exact (eq_of_agrees agrees old).symm
      · exact filed.one old old'

theorem Filed.setSubscribers_self (filed : manager.Filed) (eventId : Int) :
    (manager.setSubscribers eventId (manager.subscribersOf eventId)).Filed := by
  have same (other : Int) :
      (manager.setSubscribers eventId (manager.subscribersOf eventId)).subscribersOf other =
        manager.subscribersOf other := by
    rw [subscribersOf_setSubscribers]
    split_ifs with equal
    · rw [equal]
    · rfl
  constructor
  · intro other address held found
    exact filed.own (same other ▸ found)
  · intro first second address held held' found found'
    exact filed.one (same first ▸ found) (same second ▸ found')

theorem filed_empty : ({} : SecurityCollectorSubscriberManager).Filed where
  own found := absurd found (by simp [subscribersOf])
  one found := absurd found (by simp [subscribersOf])

theorem Filed.next (filed : manager.Filed) {action : SubscriberAction}
    (taken : next manager action = some after) : after.Filed := by
  cases action with
  | subscribeCollector answer subscriber =>
      rw [SecurityCollectorSubscriberManager.next] at taken
      split_ifs at taken with agrees
      obtain rfl := Option.some.inj taken
      rw [subscribeCollector]
      dsimp only
      split_ifs
      · exact filed
      · exact filed.setSubscribers_self _
      · exact filed.setSubscribers_self _
      · exact filed.enter agrees
  | unsubscribeCollector remote =>
      obtain rfl := Option.some.inj taken
      exact filed.shrink (unsubscribeCollector_shrinks manager remote)

variable (removal) in
/-- The removals from an event concern no other event. -/
theorem removeEach_of_ne (different : other ≠ eventId) (subscribers : SubscriberSet) :
    (removeEach eventId removal subscribers).manager.subscribersOf other =
        removal.manager.subscribersOf other ∧
      (removeEach eventId removal subscribers).unsubscribed.count other =
        removal.unsubscribed.count other := by
  rw [removeEach]
  induction subscribers.entries generalizing removal with
  | nil => exact ⟨rfl, rfl⟩
  | cons entry rest ih =>
      have step : (removeSubscriber eventId removal entry.2).manager.subscribersOf other =
            removal.manager.subscribersOf other ∧
          (removeSubscriber eventId removal entry.2).unsubscribed.count other =
            removal.unsubscribed.count other := by
        rw [removeSubscriber]
        split_ifs
        · simp [different, List.count_append, Ne.symm different]
        · simp [different]
      rw [List.foldl_cons]
      exact ⟨(ih _).1.trans step.1, (ih _).2.trans step.2⟩

theorem subscribersOf_removeSubscriber (eventId : Int) (removal : Removal)
    (subscriber : SecurityCollectorSubscriber) :
    (removeSubscriber eventId removal subscriber).manager.subscribersOf eventId =
      (removal.manager.subscribersOf eventId).erase subscriber.address := by
  rw [removeSubscriber]
  split_ifs with last
  · refine SortedMap.ext_get? fun address => ?_
    rw [subscribersOf_erase, if_pos rfl, SortedMap.get?_eq_none_of_size last]
    rfl
  · rw [subscribersOf_setSubscribers, if_pos rfl]

theorem get?_removeAll (subscribers : List (Address × SecurityCollectorSubscriber)) :
    ((subscribers.foldl (fun removal entry => removeSubscriber eventId removal entry.2)
        removal).manager.subscribersOf eventId).get? address = some held ↔
      (∀ entry ∈ subscribers, entry.2.address ≠ address) ∧
        (removal.manager.subscribersOf eventId).get? address = some held := by
  induction subscribers generalizing removal with
  | nil => simp
  | cons entry rest ih =>
      rw [List.foldl_cons, ih, subscribersOf_removeSubscriber, SortedMap.get?_erase_eq_some,
        List.forall_mem_cons, ne_comm (a := address)]
      tauto

/-- While a subscriber is left on the event, no collector stops. -/
theorem unsubscribed_of_kept {subscribers : List (Address × SecurityCollectorSubscriber)}
    (kept : ∀ entry ∈ subscribers, entry.2.address ≠ address)
    (found : (removal.manager.subscribersOf eventId).get? address = some held) :
    (subscribers.foldl (fun removal entry => removeSubscriber eventId removal entry.2)
      removal).unsubscribed = removal.unsubscribed := by
  induction subscribers generalizing removal with
  | nil => rfl
  | cons entry rest ih =>
      obtain ⟨different, others⟩ := List.forall_mem_cons.mp kept
      have left : ((removal.manager.subscribersOf eventId).erase entry.2.address).get? address =
          some held := SortedMap.get?_erase_eq_some.mpr ⟨different.symm, found⟩
      have step : (removeSubscriber eventId removal entry.2).unsubscribed =
          removal.unsubscribed := by
        rw [removeSubscriber]
        split_ifs with last
        · exact absurd (SortedMap.get?_eq_none_of_size last address) (by simp [left])
        · rfl
      rw [List.foldl_cons, ih others (by rw [subscribersOf_removeSubscriber, left]), step]

/-- On an event without subscribers, every try stops the collector again. -/
theorem unsubscribed_of_empty {subscribers : List (Address × SecurityCollectorSubscriber)}
    (empty : (removal.manager.subscribersOf eventId).size = 0) :
    (subscribers.foldl (fun removal entry => removeSubscriber eventId removal entry.2)
      removal).unsubscribed =
        removal.unsubscribed ++ List.replicate subscribers.length eventId := by
  induction subscribers generalizing removal with
  | nil => simp
  | cons entry rest ih =>
      have none : ((removal.manager.subscribersOf eventId).erase entry.2.address).size = 0 := by
        rw [SortedMap.erase_of_absent (SortedMap.get?_eq_none_of_size empty _), empty]
      have step : (removeSubscriber eventId removal entry.2).unsubscribed =
          removal.unsubscribed ++ [eventId] := by
        rw [removeSubscriber, if_pos none]
      rw [List.foldl_cons, ih (by rw [subscribersOf_removeSubscriber, none]), step,
        List.append_assoc, List.length_cons, List.replicate_succ, List.singleton_append]

/-- The last subscriber of an event stops the collector once, and every later try once more. -/
theorem unsubscribed_of_last {front back : List (Address × SecurityCollectorSubscriber)}
    {entry : Address × SecurityCollectorSubscriber}
    (kept : ∀ before ∈ front, before.2.address ≠ entry.2.address)
    (found : (removal.manager.subscribersOf eventId).get? entry.2.address = some held)
    (last : (removal.manager.subscribersOf eventId).size = 1) :
    ((front ++ entry :: back).foldl
      (fun removal entry => removeSubscriber eventId removal entry.2) removal).unsubscribed =
        removal.unsubscribed ++ List.replicate (back.length + 1) eventId := by
  have none (middle : Removal)
      (within : ∀ {address held}, (middle.manager.subscribersOf eventId).get? address = some held →
        (removal.manager.subscribersOf eventId).get? address = some held) :
      ((middle.manager.subscribersOf eventId).erase entry.2.address).size = 0 := by
    by_contra some
    obtain ⟨address, other, left⟩ := SortedMap.exists_of_size_pos (Nat.pos_of_ne_zero some)
    obtain ⟨different, left⟩ := SortedMap.get?_erase_eq_some.mp left
    exact different (SortedMap.eq_of_size_le_one (Nat.le_of_eq last)
      (SortedMap.contains_iff.mpr ⟨held, found⟩) (SortedMap.contains_iff.mpr ⟨_, within left⟩))
  have before := unsubscribed_of_kept kept found
  have gone := none _ fun left => ((get?_removeAll front).mp left).2
  rw [List.foldl_append, List.foldl_cons]
  generalize front.foldl (fun removal entry => removeSubscriber eventId removal entry.2)
    removal = middle at before gone ⊢
  have step : (removeSubscriber eventId middle entry.2).unsubscribed =
      removal.unsubscribed ++ [eventId] := by
    rw [removeSubscriber, if_pos gone, before]
  rw [unsubscribed_of_empty (by rw [subscribersOf_removeSubscriber, gone]), step,
    List.append_assoc, List.replicate_succ, List.singleton_append]

/-! ## Every event of a callback -/

/-- A callback has one subscriber at most on an event. -/
def Once (manager : SecurityCollectorSubscriberManager) (remote : Address) : Prop :=
  ∀ {eventId address address' subscriber held},
    (manager.subscribersOf eventId).get? address = some subscriber →
    subscriber.remote = some remote →
    (manager.subscribersOf eventId).get? address' = some held → held.remote = some remote →
      address' = address

theorem findSubscriber_isSome (found : (manager.subscribersOf eventId).get? address = some held)
    (own : held.remote = some remote) :
    ∃ first, findSubscriber (manager.subscribersOf eventId) remote = some first := by
  refine Option.isSome_iff_exists.mp ?_
  rw [findSubscriber, Option.isSome_map, List.find?_isSome]
  exact ⟨(address, held), SortedMap.mem_entries_iff.mpr found, by simpa using own⟩

theorem mem_findEventIds : eventId ∈ manager.findEventIds remote ↔
    ∃ address held, (manager.subscribersOf eventId).get? address = some held ∧
      held.remote = some remote := by
  rw [findEventIds, List.mem_map]
  constructor
  · rintro ⟨⟨key, subscriber⟩, mem, rfl⟩
    obtain ⟨address, found, own⟩ := findSubscriber_eq_some (mem_findSubscribers.mp mem)
    exact ⟨address, subscriber, found, own⟩
  · rintro ⟨address, held, found, own⟩
    obtain ⟨first, search⟩ := findSubscriber_isSome found own
    exact ⟨(eventId, first), mem_findSubscribers.mpr search, rfl⟩

/-- The subscribers that are tried are the first ones of their events. -/
theorem Filed.get?_findSecurityCollectorSubscribers (filed : manager.Filed) :
    (manager.findSecurityCollectorSubscribers remote).get? address = some subscriber ↔
      subscriber.address = address ∧
        ∃ eventId, findSubscriber (manager.subscribersOf eventId) remote = some subscriber := by
  have stands {found : Int × SecurityCollectorSubscriber}
      (mem : found ∈ manager.findSubscribers remote) :
      (manager.subscribersOf found.1).get? found.2.address = some found.2 := by
    obtain ⟨address, held, -⟩ := findSubscriber_eq_some (mem_findSubscribers.mp mem)
    rwa [(filed.own held).1]
  rw [findSecurityCollectorSubscribers, SortedMap.get?_foldl_insert fun first mem other mem' same =>
    (filed.one (stands mem') (same ▸ stands mem) : first.2 = other.2)]
  constructor
  · rintro (⟨⟨eventId, first⟩, mem, rfl, rfl⟩ | ⟨-, absent⟩)
    · exact ⟨rfl, eventId, mem_findSubscribers.mp mem⟩
    · simp at absent
  · rintro ⟨rfl, eventId, search⟩
    exact .inl ⟨(eventId, subscriber), mem_findSubscribers.mpr search, rfl, rfl⟩

/-- A callback leaves an event with the subscriber that is found there. -/
theorem Filed.get?_removeEach (filed : removal.manager.Filed) :
    ((removeEach eventId removal
        (removal.manager.findSecurityCollectorSubscribers remote)).manager.subscribersOf
          eventId).get? address = some held ↔
      (removal.manager.subscribersOf eventId).get? address = some held ∧
        findSubscriber (removal.manager.subscribersOf eventId) remote ≠ some held := by
  rw [removeEach, get?_removeAll]
  constructor
  · rintro ⟨others, found⟩
    refine ⟨found, fun search => ?_⟩
    have tried := filed.get?_findSecurityCollectorSubscribers.mpr
      ⟨(filed.own found).1, eventId, search⟩
    exact others _ (SortedMap.mem_entries_iff.mpr tried) (filed.own found).1
  · rintro ⟨found, unsought⟩
    refine ⟨fun entry mem same => ?_, found⟩
    obtain ⟨-, other, search⟩ :=
      filed.get?_findSecurityCollectorSubscribers.mp (SortedMap.mem_entries_iff.mp mem)
    obtain ⟨place, there, -⟩ := findSubscriber_eq_some search
    obtain rfl : entry.2.address = place := (filed.own there).1
    obtain rfl := filed.apart found (same ▸ there)
    exact unsought (filed.one found (same ▸ there) ▸ search)

/-- On the events of a callback with one subscriber on each, all its subscribers are tried. -/
theorem Filed.tried_iff (filed : manager.Filed) (once : manager.Once remote) :
    (manager.findSecurityCollectorSubscribers remote).get? address = some subscriber ↔
      subscriber.remote = some remote ∧
        ∃ eventId, (manager.subscribersOf eventId).get? address = some subscriber := by
  rw [filed.get?_findSecurityCollectorSubscribers]
  constructor
  · rintro ⟨rfl, eventId, search⟩
    obtain ⟨place, found, own⟩ := findSubscriber_eq_some search
    obtain rfl := (filed.own found).1
    exact ⟨own, eventId, found⟩
  · rintro ⟨own, eventId, found⟩
    obtain ⟨first, search⟩ := findSubscriber_isSome found own
    obtain ⟨place, there, own'⟩ := findSubscriber_eq_some search
    obtain rfl := once found own there own'
    obtain rfl := filed.one found there
    exact ⟨(filed.own found).1, eventId, search⟩

theorem Filed.get?_removeEach_of_once (filed : removal.manager.Filed)
    (once : removal.manager.Once remote) :
    ((removeEach eventId removal
        (removal.manager.findSecurityCollectorSubscribers remote)).manager.subscribersOf
          eventId).get? address = some held ↔
      (removal.manager.subscribersOf eventId).get? address = some held ∧
        held.remote ≠ some remote := by
  rw [filed.get?_removeEach]
  refine and_congr_right fun found => not_congr ⟨fun search => ?_, fun own => ?_⟩
  · obtain ⟨-, -, own⟩ := findSubscriber_eq_some search
    exact own
  · obtain ⟨first, search⟩ := findSubscriber_isSome found own
    obtain ⟨place, there, own'⟩ := findSubscriber_eq_some search
    obtain rfl := once found own there own'
    rw [search, filed.one found there]

/-- The collector of an event is stopped once if its last subscriber has left, and not else. -/
def StopsAsDue (before after : Removal) (eventId : Int) : Prop :=
  after.unsubscribed.count eventId = before.unsubscribed.count eventId +
    if (before.manager.subscribersOf eventId).size ≠ 0 ∧
      (after.manager.subscribersOf eventId).size = 0 then 1 else 0

/-- An event that only a callback subscribes comes after every event on which the callback has a
subscriber at a higher address. -/
def InOrder (manager : SecurityCollectorSubscriberManager) (remote : Address) (eventId : Int) :
    Prop :=
  ∀ address subscriber, (manager.subscribersOf eventId).get? address = some subscriber →
    subscriber.remote = some remote → (manager.subscribersOf eventId).size = 1 →
    ∀ other address' held, eventId < other →
      (manager.subscribersOf other).get? address' = some held → held.remote = some remote →
        address' < address

section Due

variable (filed : removal.manager.Filed) (once : removal.manager.Once remote)
  (found : (removal.manager.subscribersOf eventId).get? address = some subscriber)
  (own : subscriber.remote = some remote)
include filed once found own

/-- An event with another subscriber stops nothing. -/
theorem stopsAsDue_of_shared (shared : (removal.manager.subscribersOf eventId).size ≠ 1) :
    StopsAsDue removal (removeEach eventId removal
      (removal.manager.findSecurityCollectorSubscribers remote)) eventId := by
  obtain ⟨place, stranger, different, there⟩ := SortedMap.exists_other found shared
  have others : stranger.remote ≠ some remote := fun own' => different (once found own there own')
  have left := (filed.get?_removeEach_of_once once).mpr ⟨there, others⟩
  have unstopped : (removeEach eventId removal
      (removal.manager.findSecurityCollectorSubscribers remote)).unsubscribed =
        removal.unsubscribed := by
    rw [removeEach]
    refine unsubscribed_of_kept (fun entry mem same => ?_) there
    obtain ⟨own', event, found'⟩ := (filed.tried_iff once).mp (SortedMap.mem_entries_iff.mp mem)
    rw [← (filed.own found').1, same] at found'
    exact others (filed.one there found' ▸ own')
  rw [StopsAsDue, unstopped, if_neg fun due => SortedMap.size_ne_zero left due.2]
  rfl

/-- The only subscriber of an event stops its collector as often as the callback has subscribers
at its address or above. -/
theorem unsubscribed_of_alone (alone : (removal.manager.subscribersOf eventId).size = 1) :
    ∃ front back, (removal.manager.findSecurityCollectorSubscribers remote).entries =
        front ++ (address, subscriber) :: back ∧
      (removeEach eventId removal
        (removal.manager.findSecurityCollectorSubscribers remote)).unsubscribed =
          removal.unsubscribed ++ List.replicate (back.length + 1) eventId := by
  have tried := (filed.tried_iff once).mpr ⟨own, eventId, found⟩
  obtain ⟨front, back, split⟩ := List.append_of_mem (SortedMap.mem_entries_iff.mpr tried)
  refine ⟨front, back, split, ?_⟩
  have placed {entry : Address × SecurityCollectorSubscriber}
      (mem : entry ∈ front ++ (address, subscriber) :: back) : entry.2.address = entry.1 :=
    (filed.get?_findSecurityCollectorSubscribers.mp
      (SortedMap.mem_entries_iff.mp (split ▸ mem))).1
  have increasing := (removal.manager.findSecurityCollectorSubscribers remote).increasing
  rw [split, List.pairwise_append] at increasing
  obtain ⟨-, -, below⟩ := increasing
  rw [removeEach, split]
  have last : (removal.manager.subscribersOf eventId).get? subscriber.address =
      some subscriber := by rwa [(filed.own found).1]
  refine unsubscribed_of_last (fun before earlier => ?_) last alone
  rw [placed (List.mem_append_left _ earlier), (filed.own found).1]
  exact ne_of_lt (below before earlier _ List.mem_cons_self)

theorem size_removeEach_of_alone (alone : (removal.manager.subscribersOf eventId).size = 1) :
    ((removeEach eventId removal
      (removal.manager.findSecurityCollectorSubscribers remote)).manager.subscribersOf
        eventId).size = 0 := by
  by_contra some
  obtain ⟨place, stranger, left⟩ := SortedMap.exists_of_size_pos (Nat.pos_of_ne_zero some)
  obtain ⟨there, others⟩ := (filed.get?_removeEach_of_once once).mp left
  obtain rfl := SortedMap.eq_of_size_le_one (Nat.le_of_eq alone)
    (SortedMap.contains_iff.mpr ⟨_, found⟩) (SortedMap.contains_iff.mpr ⟨_, there⟩)
  exact others (filed.one found there ▸ own)

/-- A collector is stopped as due exactly if no later event has a subscriber at a higher
address. -/
theorem stopsAsDue_iff (first : ∀ other ∈ removal.manager.findEventIds remote, eventId ≤ other) :
    StopsAsDue removal (removeEach eventId removal
        (removal.manager.findSecurityCollectorSubscribers remote)) eventId ↔
      removal.manager.InOrder remote eventId := by
  by_cases alone : (removal.manager.subscribersOf eventId).size = 1
  · obtain ⟨front, back, split, stopped⟩ := unsubscribed_of_alone filed once found own alone
    have gone := size_removeEach_of_alone filed once found own alone
    have increasing := (removal.manager.findSecurityCollectorSubscribers remote).increasing
    rw [split, List.pairwise_append, List.pairwise_cons] at increasing
    obtain ⟨-, ⟨above, -⟩, below⟩ := increasing
    rw [StopsAsDue, stopped, List.count_append, List.count_replicate_self,
      if_pos ⟨by omega, gone⟩]
    constructor
    · intro due place held there own' _ other address' later after' found' own''
      obtain rfl := once found own there own'
      have none : back = [] := List.length_eq_zero_iff.mp (by omega)
      have tried := SortedMap.mem_entries_iff.mpr
        ((filed.tried_iff once).mpr ⟨own'', other, found'⟩)
      rw [split, none, List.mem_append, List.mem_singleton] at tried
      rcases tried with earlier | same
      · exact below _ earlier _ List.mem_cons_self
      · obtain ⟨rfl, rfl⟩ := Prod.mk.inj same
        exact absurd (filed.apart found found') (ne_of_gt after')
    · intro inOrder
      cases back with
      | nil => rfl
      | cons next rest =>
          have higher := above next List.mem_cons_self
          have tried : next ∈ (removal.manager.findSecurityCollectorSubscribers remote).entries :=
            split ▸ by simp
          obtain ⟨own', other, found'⟩ :=
            (filed.tried_iff once).mp (SortedMap.mem_entries_iff.mp tried)
          have later : eventId < other := by
            refine lt_of_le_of_ne (first other (mem_findEventIds.mpr ⟨_, _, found', own'⟩)) ?_
            rintro rfl
            exact absurd (once found own found' own') (ne_of_gt higher)
          exact absurd (inOrder _ _ found own alone _ _ _ later found' own') (lt_asymm higher)
  · exact iff_of_true (stopsAsDue_of_shared filed once found own alone)
      fun _ _ _ _ one => absurd one alone

end Due

variable (removal remote) in
/-- Events that are not in the list, and the invalid one, keep their subscribers. -/
theorem unsubscribeEach_of_untouched {eventIds : List Int}
    (untouched : eventId ∈ eventIds → eventId = -1) :
    (unsubscribeEach remote eventIds removal).2.manager.subscribersOf eventId =
        removal.manager.subscribersOf eventId ∧
      (unsubscribeEach remote eventIds removal).2.unsubscribed.count eventId =
        removal.unsubscribed.count eventId := by
  induction eventIds generalizing removal with
  | nil => exact ⟨rfl, rfl⟩
  | cons head rest ih =>
      rw [unsubscribeEach]
      dsimp only
      split_ifs with invalid
      · exact ⟨rfl, rfl⟩
      · exact ⟨rfl, rfl⟩
      · have different : eventId ≠ head := by
          rintro rfl
          exact invalid (untouched List.mem_cons_self)
        have step := removeEach_of_ne removal different
          (removal.manager.findSecurityCollectorSubscribers remote)
        obtain ⟨same, counts⟩ := ih (removeEach head removal
          (removal.manager.findSecurityCollectorSubscribers remote))
          fun later => untouched (List.mem_cons_of_mem head later)
        exact ⟨same.trans step.1, counts.trans step.2⟩

variable (removal) in
/-- The second subscriber of a callback on an event stays. -/
theorem Filed.keeps_second (filed : removal.manager.Filed) {eventIds : List Int}
    (distinct : eventIds.Nodup)
    (found : (removal.manager.subscribersOf eventId).get? address = some held)
    (second : findSubscriber (removal.manager.subscribersOf eventId) remote ≠ some held) :
    ((unsubscribeEach remote eventIds removal).2.manager.subscribersOf eventId).get? address =
      some held := by
  induction eventIds generalizing removal with
  | nil => exact found
  | cons head rest ih =>
      obtain ⟨fresh, distinct⟩ := List.nodup_cons.mp distinct
      rw [unsubscribeEach]
      dsimp only
      split_ifs
      · exact found
      · exact found
      · by_cases same : eventId = head
        · subst same
          rw [(unsubscribeEach_of_untouched _ remote fun later => absurd later fresh).1]
          exact filed.get?_removeEach.mpr ⟨found, second⟩
        · have step := (removeEach_of_ne removal same
            (removal.manager.findSecurityCollectorSubscribers remote)).1
          exact ih _ (filed.shrink (removeEach_shrinks removal _)) distinct (step ▸ found)
            (step ▸ second)

theorem Once.shrink (once : manager.Once remote) (shrinks : manager.Shrinks after) :
    after.Once remote :=
  fun found own found' own' =>
    once (shrinks.get?_subscribersOf found) own (shrinks.get?_subscribersOf found') own'

theorem remote_ne_of_unlisted (unlisted : eventId ∉ removal.manager.findEventIds remote)
    (found : (removal.manager.subscribersOf eventId).get? address = some held) :
    held.remote ≠ some remote :=
  fun own => unlisted (mem_findEventIds.mpr ⟨address, held, found, own⟩)

theorem stopsAsDue_self_iff (unlisted : eventId ∉ removal.manager.findEventIds remote) :
    StopsAsDue removal removal eventId ↔ removal.manager.InOrder remote eventId := by
  refine iff_of_true ?_ fun _ _ found own => absurd own (remote_ne_of_unlisted unlisted found)
  rw [StopsAsDue, if_neg fun due => due.1 due.2]
  rfl

section Turn

variable (filed : removal.manager.Filed) (once : removal.manager.Once remote)
include filed once

theorem get?_turn (turn eventId : Int) :
    ((removeEach turn removal
        (removal.manager.findSecurityCollectorSubscribers remote)).manager.subscribersOf
          eventId).get? address = some held ↔
      (removal.manager.subscribersOf eventId).get? address = some held ∧
        (eventId = turn → held.remote ≠ some remote) := by
  by_cases same : eventId = turn
  · subst same
    rw [filed.get?_removeEach_of_once once, forall_prop_of_true rfl]
  · rw [(removeEach_of_ne removal same _).1, and_iff_left fun equal => absurd equal same]

theorem mem_findEventIds_turn (turn eventId : Int) :
    eventId ∈ (removeEach turn removal
        (removal.manager.findSecurityCollectorSubscribers remote)).manager.findEventIds remote ↔
      eventId ≠ turn ∧ eventId ∈ removal.manager.findEventIds remote := by
  simp only [mem_findEventIds, get?_turn filed once]
  constructor
  · rintro ⟨address, held, ⟨found, others⟩, own⟩
    exact ⟨fun same => others same own, address, held, found, own⟩
  · rintro ⟨different, address, held, found, own⟩
    exact ⟨address, held, ⟨found, fun same => absurd same different⟩, own⟩

theorem listed_turn {head : Int} {rest : List Int} (above : ∀ later ∈ rest, head < later)
    (listed : ∀ eventId, eventId ∈ removal.manager.findEventIds remote ↔ eventId ∈ head :: rest)
    (eventId : Int) :
    eventId ∈ (removeEach head removal
        (removal.manager.findSecurityCollectorSubscribers remote)).manager.findEventIds remote ↔
      eventId ∈ rest := by
  rw [mem_findEventIds_turn filed once, listed, List.mem_cons]
  constructor
  · rintro ⟨different, same | later⟩
    · exact absurd same different
    · exact later
  · exact fun later => ⟨ne_of_gt (above eventId later), .inr later⟩

theorem inOrder_turn_iff {turn : Int}
    (first : ∀ other ∈ removal.manager.findEventIds remote, turn ≤ other)
    (different : eventId ≠ turn) :
    (removeEach turn removal
        (removal.manager.findSecurityCollectorSubscribers remote)).manager.InOrder remote eventId ↔
      removal.manager.InOrder remote eventId := by
  rw [InOrder, InOrder, (removeEach_of_ne removal different _).1]
  refine forall₂_congr fun address subscriber => forall₄_congr fun found own alone other => ?_
  refine forall₃_congr fun address' held later => ?_
  rw [get?_turn filed once, and_iff_left]
  rintro rfl
  exact absurd (first eventId (mem_findEventIds.mpr ⟨_, _, found, own⟩)) (not_le_of_gt later)

end Turn

variable (removal) in
/-- The subscribers of a callback with one on each event are taken in the order of the events. -/
theorem Filed.unsubscribeEach_spec (filed : removal.manager.Filed)
    (once : removal.manager.Once remote) {eventIds : List Int}
    (increasing : eventIds.Pairwise (· < ·)) (valid : -1 ∉ eventIds)
    (listed : ∀ eventId, eventId ∈ removal.manager.findEventIds remote ↔ eventId ∈ eventIds) :
    (∀ eventId address held,
      ((unsubscribeEach remote eventIds removal).2.manager.subscribersOf eventId).get? address =
          some held ↔
        (removal.manager.subscribersOf eventId).get? address = some held ∧
          held.remote ≠ some remote) ∧
      ∀ eventId, StopsAsDue removal (unsubscribeEach remote eventIds removal).2 eventId ↔
        removal.manager.InOrder remote eventId := by
  induction eventIds generalizing removal with
  | nil =>
      have unlisted (eventId : Int) : eventId ∉ removal.manager.findEventIds remote :=
        fun mem => absurd ((listed eventId).mp mem) List.not_mem_nil
      exact ⟨fun eventId address held => (and_iff_left_of_imp (remote_ne_of_unlisted
        (unlisted eventId))).symm, fun eventId => stopsAsDue_self_iff (unlisted eventId)⟩
  | cons head rest ih =>
      obtain ⟨above, increasing⟩ := List.pairwise_cons.mp increasing
      obtain ⟨invalid, valid⟩ := not_or.mp (List.mem_cons.not.mp valid)
      have first (other : Int) (mem : other ∈ removal.manager.findEventIds remote) :
          head ≤ other := by
        rcases List.mem_cons.mp ((listed other).mp mem) with rfl | later
        · exact le_rfl
        · exact le_of_lt (above other later)
      obtain ⟨address, subscriber, found, own⟩ :=
        mem_findEventIds.mp ((listed head).mpr List.mem_cons_self)
      have tried : (removal.manager.findSecurityCollectorSubscribers remote).size ≠ 0 :=
        SortedMap.size_ne_zero ((filed.tried_iff once).mpr ⟨own, head, found⟩)
      have shrinks : removal.manager.Shrinks (removeEach head removal
          (removal.manager.findSecurityCollectorSubscribers remote)).manager :=
        removeEach_shrinks removal _
      obtain ⟨kept, due⟩ := ih _ (filed.shrink shrinks) (once.shrink shrinks) increasing valid
        (listed_turn filed once above listed)
      rw [unsubscribeEach, if_neg (Ne.symm invalid)]
      dsimp only
      rw [if_neg tried]
      refine ⟨fun eventId address held => ?_, fun eventId => ?_⟩
      · rw [kept, get?_turn filed once, and_assoc,
          and_iff_right_of_imp fun others _ => others]
      · by_cases same : eventId = head
        · subst same
          have rest' := unsubscribeEach_of_untouched (removeEach eventId removal
              (removal.manager.findSecurityCollectorSubscribers remote)) remote
            fun later => absurd (above eventId later) (lt_irrefl eventId)
          rw [StopsAsDue, rest'.1, rest'.2]
          exact stopsAsDue_iff filed once found own first
        · have turn := removeEach_of_ne removal same
            (removal.manager.findSecurityCollectorSubscribers remote)
          have later := due eventId
          rw [StopsAsDue, turn.1, turn.2] at later
          rw [StopsAsDue, later, inOrder_turn_iff filed once first same]

/-- A removal takes exactly the subscribers of a callback, and stops the collector of an event
once if its last subscriber has left, and not else. -/
structure Unsubscribed (manager : SecurityCollectorSubscriberManager) (remote : Address)
    (removal : Removal) : Prop where
  kept : ∀ eventId address subscriber,
    (removal.manager.subscribersOf eventId).get? address = some subscriber ↔
      (manager.subscribersOf eventId).get? address = some subscriber ∧
        subscriber.remote ≠ some remote
  stopped : ∀ eventId, removal.unsubscribed.count eventId =
    if (manager.subscribersOf eventId).size ≠ 0 ∧
      (removal.manager.subscribersOf eventId).size = 0 then 1 else 0

/-- A callback has not the invalid event, has one subscriber on an event at most, and subscribes
alone only events that come after those of its subscribers at higher addresses. -/
structure Leaves (manager : SecurityCollectorSubscriberManager) (remote : Address) : Prop where
  valid : -1 ∉ manager.findEventIds remote
  once : manager.Once remote
  inOrder : ∀ eventId, manager.InOrder remote eventId

theorem stopsAsDue_init {removal : Removal} :
    StopsAsDue { manager } removal eventId ↔ removal.unsubscribed.count eventId =
      if (manager.subscribersOf eventId).size ≠ 0 ∧
        (removal.manager.subscribersOf eventId).size = 0 then 1 else 0 := by
  rw [StopsAsDue, List.count_nil, Nat.zero_add]

theorem unsubscribeCollector_eq (manager : SecurityCollectorSubscriberManager)
    (remote : Address) : (manager.unsubscribeCollector remote).2 =
      (unsubscribeEach remote (manager.findEventIds remote) { manager }).2 := by
  rw [unsubscribeCollector]
  split_ifs with none
  · rw [none]
    rfl
  · rfl

theorem Filed.unsubscribed_iff (filed : manager.Filed) (remote : Address) :
    manager.Unsubscribed remote (manager.unsubscribeCollector remote).2 ↔
      manager.Leaves remote := by
  have increasing := manager.findEventIds_increasing remote
  rw [unsubscribeCollector_eq]
  constructor
  · rintro ⟨kept, stopped⟩
    have valid : -1 ∉ manager.findEventIds remote := by
      intro invalid
      obtain ⟨address, subscriber, found, own⟩ := mem_findEventIds.mp invalid
      have untouched : -1 ∈ manager.findEventIds remote → (-1 : Int) = -1 := fun _ => rfl
      have same := (unsubscribeEach_of_untouched { manager } remote untouched).1
      exact ((kept (-1) address subscriber).mp (same ▸ found)).2 own
    have once : manager.Once remote := by
      intro eventId address address' subscriber held found own found' own'
      -- Whoever is not found first stays.
      have sought {address subscriber}
          (found : (manager.subscribersOf eventId).get? address = some subscriber)
          (own : subscriber.remote = some remote) :
          findSubscriber (manager.subscribersOf eventId) remote = some subscriber := by
        by_contra second
        have left := filed.keeps_second { manager }
          (increasing.imp ne_of_lt) found second
        exact ((kept eventId address subscriber).mp left).2 own
      obtain rfl : subscriber = held :=
        Option.some.inj ((sought found own).symm.trans (sought found' own'))
      rw [← (filed.own found).1, ← (filed.own found').1]
    refine ⟨valid, once, fun eventId => ?_⟩
    obtain ⟨-, due⟩ := filed.unsubscribeEach_spec { manager } once increasing valid
      fun _ => Iff.rfl
    exact (due eventId).mp (stopsAsDue_init.mpr (stopped eventId))
  · rintro ⟨valid, once, inOrder⟩
    obtain ⟨kept, due⟩ := filed.unsubscribeEach_spec { manager } once increasing valid
      fun _ => Iff.rfl
    exact ⟨kept, fun eventId => stopsAsDue_init.mp ((due eventId).mpr (inOrder eventId))⟩

/-- After any run, a callback leaves exactly as asked under its condition. -/
theorem unsubscribes_exactly_iff {actions : List SubscriberAction}
    (reach : Transition.run next {} actions = some manager) (remote : Address) :
    manager.Unsubscribed remote (manager.unsubscribeCollector remote).2 ↔
      manager.Leaves remote :=
  (Transition.run_stable (fun filed taken => Filed.next filed taken) filed_empty
    reach).unsubscribed_iff remote

/-- One callback on two events, at the higher address on the later one. -/
def twoSubscriptions : List SubscriberAction :=
  [.subscribeCollector .success ⟨10, "com.app", 1, some 7⟩,
    .subscribeCollector .success ⟨20, "com.app", 2, some 7⟩]

/-- A callback that subscribes one event leaves it exactly as asked. -/
theorem one_event_unsubscribes_exactly :
    ((Transition.run next {} (twoSubscriptions.take 1)).getD {}).Unsubscribed 7
        (((Transition.run next {} (twoSubscriptions.take 1)).getD {}).unsubscribeCollector 7).2 ↔
      ((Transition.run next {} (twoSubscriptions.take 1)).getD {}).Leaves 7 :=
  unsubscribes_exactly_iff (Transition.run_eq_getD (by decide +kernel)) 7

/-- The collector of the first event is stopped twice. -/
theorem first_event_is_stopped_twice :
    ∃ manager, Transition.run next {} twoSubscriptions = some manager ∧
      ¬manager.Unsubscribed 7 (manager.unsubscribeCollector 7).2 := by
  refine ⟨(Transition.run next {} twoSubscriptions).getD {},
    Transition.run_eq_getD (by decide +kernel), fun unsubscribed => ?_⟩
  have stopped := unsubscribed.stopped 1
  have twice : (((Transition.run next {} twoSubscriptions).getD {}).unsubscribeCollector
      7).2.unsubscribed.count 1 = 2 := by decide +kernel
  rw [twice] at stopped
  exact absurd stopped (by split_ifs <;> decide)

end SecurityCollectorSubscriberManager

end SecurityGuard
