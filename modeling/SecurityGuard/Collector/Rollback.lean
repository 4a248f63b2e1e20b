import SecurityGuard.Collector.DataCollection

/-!
# What a failed subscription leaves behind

A subscription that fails takes back the collectors it has started.  The event that failed is
not among them, and its count was raised before anything was tried, so every failure of a
nonempty list shows in the counts.
-/

namespace SecurityGuard

/-- The collector of an event is found, loads and starts. -/
def Plugins.Serves (plugins : Plugins) (eventId : Int) : Prop :=
  ∃ path, plugins.getCollectorPath eventId = .ok path ∧ plugins.loadLib path = true ∧
    plugins.callGetCollector path = true ∧ plugins.start eventId = 0

namespace DataCollection

/-- An operation that reports an error leaves the counts and the set of loaders as they were. -/
def LeavesNoTrace (before : DataCollection) (answer : Code × DataCollection) : Prop :=
  answer.1 ≠ .success →
    answer.2.eventIdToSubscribeCount = before.eventIdToSubscribeCount ∧
      answer.2.eventIdToLoaderMap.keys = before.eventIdToLoaderMap.keys

variable {plugins : Plugins} {collection : DataCollection} {eventId other : Int}

variable (plugins collection) in
theorem loadCollector_code (path : String) :
    (collection.loadCollector plugins eventId path).1 = .success ↔
      plugins.loadLib path = true ∧ plugins.callGetCollector path = true ∧
        plugins.start eventId = 0 := by
  rw [loadCollector]
  cases loads : plugins.loadLib path with
  | false => simp [Code.success, Code.failed]
  | true =>
      cases has : plugins.callGetCollector path with
      | false => simp [Code.success, Code.failed]
      | true =>
          by_cases starts : plugins.start eventId = 0
          · simp [starts]
          · simp [starts, Code.success]

variable (plugins collection) in
theorem loadCollector_counts (path : String) :
    (collection.loadCollector plugins eventId path).2.eventIdToSubscribeCount =
      collection.eventIdToSubscribeCount := by
  rw [loadCollector]
  dsimp only
  split_ifs <;> rfl

theorem loadCollector_started {path : String}
    (loaded : (collection.loadCollector plugins eventId path).1 = .success) (other : Int) :
    (collection.loadCollector plugins eventId path).2.isCollectorStarted other =
      (decide (other = eventId) || collection.isCollectorStarted other) := by
  obtain ⟨loads, has, starts⟩ := (loadCollector_code plugins collection path).mp loaded
  rw [loadCollector]
  simp only [loads, has, starts]
  cases present : collection.eventIdToLoaderMap.contains eventId with
  | false => simp [isCollectorStarted, emplace, present]
  | true => by_cases same : other = eventId <;> simp [isCollectorStarted, emplace, present, same]

/-- A subscription succeeds when each event runs already or is served; that an event comes
twice does not matter. -/
theorem subscribeEach_code (reports : ∀ event, plugins.getCollectorPath event ≠ .error .success)
    (events loaded : List Int) :
    (subscribeEach plugins events loaded collection).1 = .success ↔
      ∀ event ∈ events, collection.isCollectorStarted event = true ∨ plugins.Serves event := by
  induction events generalizing loaded collection with
  | nil => simp [subscribeEach]
  | cons event rest ih =>
      rw [subscribeEach]
      dsimp only
      rw [List.forall_mem_cons]
      split_ifs with started
      · rw [ih]
        rw [isCollectorStarted_increment] at started
        simp [started]
      · rw [isCollectorStarted_increment] at started
        cases found : plugins.getCollectorPath event with
        | error code =>
            have unserved : ¬plugins.Serves event := by
              rintro ⟨path, library, -⟩
              exact absurd (found.symm.trans library) (by simp)
            have failed : code ≠ .success := by
              rintro rfl
              exact reports event found
            simp [started, unserved, failed]
        | ok path =>
            have serves : plugins.Serves event ↔
                ((collection.incrementSubscribeCount event).loadCollector plugins event path).1 =
                  .success := by
              rw [loadCollector_code, Plugins.Serves]
              simp [found]
            dsimp only
            split_ifs with failed
            · simp [started, serves, failed]
            · have succeeded := not_not.mp failed
              rw [ih]
              simp only [loadCollector_started succeeded, isCollectorStarted_increment, started,
                serves.mpr succeeded]
              constructor
              · intro each
                refine ⟨.inr trivial, fun later mem => ?_⟩
                by_cases same : later = event
                · exact .inr (same ▸ serves.mpr succeeded)
                · simpa [same] using each later mem
              · rintro ⟨-, each⟩ later mem
                rcases each later mem with runs | served
                · simp [runs]
                · exact .inr served

theorem decrementSubscribeCount_get? (ne : other ≠ eventId) :
    (collection.decrementSubscribeCount eventId).2.eventIdToSubscribeCount.get? other =
      collection.eventIdToSubscribeCount.get? other := by
  rw [decrementSubscribeCount]
  split
  · rfl
  · dsimp only
    split_ifs <;> simp [ne]

theorem releaseEach_get? {events : List Int} (absent : other ∉ events) :
    (releaseEach events collection).2.eventIdToSubscribeCount.get? other =
      collection.eventIdToSubscribeCount.get? other := by
  induction events generalizing collection with
  | nil => rfl
  | cons event rest ih =>
      obtain ⟨ne, absent⟩ := not_or.mp (mt List.mem_cons.mpr absent)
      rw [releaseEach]
      dsimp only
      split_ifs
      · exact ih absent
      · exact (ih absent).trans (decrementSubscribeCount_get? ne)
      · exact (ih absent).trans (decrementSubscribeCount_get? ne)

/-- Taking subscriptions back leaves the count of every other event. -/
theorem unsubscribeCollectorsLocked_get? {events : List Int} (absent : other ∉ events) :
    (collection.unsubscribeCollectorsLocked plugins events).2.eventIdToSubscribeCount.get? other =
      collection.eventIdToSubscribeCount.get? other := by
  rw [unsubscribeCollectorsLocked, stopEach_counts, releaseEach_get? absent]

theorem incrementSubscribeCount_get? (ne : other ≠ eventId) :
    (collection.incrementSubscribeCount eventId).eventIdToSubscribeCount.get? other =
      collection.eventIdToSubscribeCount.get? other := by
  rw [incrementSubscribeCount]
  split <;> simp [ne]

theorem incrementSubscribeCount_get?_ne :
    (collection.incrementSubscribeCount eventId).eventIdToSubscribeCount.get? eventId ≠
      collection.eventIdToSubscribeCount.get? eventId := by
  rw [incrementSubscribeCount]
  cases found : collection.eventIdToSubscribeCount.get? eventId with
  | none => simp
  | some count =>
      have wraps : (count + 1) % countRange ≠ count := by
        rw [countRange]
        omega
      simpa using wraps

/-- A failure leaves the count of the event that failed raised: it did not run, so it was not
counted before it was tried, and the rollback only visits the events that were started. -/
theorem subscribeEach_trace {events loaded : List Int}
    (runs : ∀ event ∈ loaded, collection.isCollectorStarted event = true)
    (failed : (subscribeEach plugins events loaded collection).1 ≠ .success) :
    ∃ event, collection.isCollectorStarted event = false ∧
      (subscribeEach plugins events loaded collection).2.eventIdToSubscribeCount.get? event ≠
        collection.eventIdToSubscribeCount.get? event := by
  induction events generalizing loaded collection with
  | nil => exact absurd rfl failed
  | cons event rest ih =>
      rw [subscribeEach] at failed ⊢
      dsimp only at failed ⊢
      split_ifs at failed ⊢ with started
      · obtain ⟨trace, idle, differs⟩ := ih
          (fun item mem => by rw [isCollectorStarted_increment]; exact runs item mem) failed
        have ne : trace ≠ event := by
          rintro rfl
          exact absurd (started.symm.trans idle) (by simp)
        rw [isCollectorStarted_increment] at idle
        rw [incrementSubscribeCount_get? ne] at differs
        exact ⟨trace, idle, differs⟩
      · rw [isCollectorStarted_increment] at started
        have idle : collection.isCollectorStarted event = false := Bool.not_eq_true _ ▸ started
        have absent : event ∉ loaded := fun mem => started (runs event mem)
        cases found : plugins.getCollectorPath event with
        | error code =>
            refine ⟨event, idle, ?_⟩
            dsimp only
            rw [unsubscribeCollectorsLocked_get? absent]
            exact incrementSubscribeCount_get?_ne
        | ok path =>
            rw [found] at failed
            dsimp only at failed ⊢
            split_ifs at failed ⊢ with unloaded
            · refine ⟨event, idle, ?_⟩
              dsimp only
              rw [unsubscribeCollectorsLocked_get? absent, loadCollector_counts]
              exact incrementSubscribeCount_get?_ne
            · have succeeded := not_not.mp unloaded
              have keeps : ∀ item ∈ loaded ++ [event],
                  ((collection.incrementSubscribeCount event).loadCollector plugins event
                    path).2.isCollectorStarted item = true := by
                intro item mem
                rw [loadCollector_started succeeded, isCollectorStarted_increment]
                rcases List.mem_append.mp mem with earlier | last
                · simp [runs item earlier]
                · simp [List.mem_singleton.mp last]
              obtain ⟨trace, quiet, differs⟩ := ih keeps failed
              rw [loadCollector_started succeeded, isCollectorStarted_increment,
                Bool.or_eq_false_iff, decide_eq_false_iff_not] at quiet
              rw [loadCollector_counts, incrementSubscribeCount_get? quiet.1] at differs
              exact ⟨trace, quiet.2, differs⟩

/-- Subscribing leaves no trace of a failure exactly when it does not fail beyond its check of
the list. -/
theorem subscribeCollectors_leavesNoTrace
    (reports : ∀ event, plugins.getCollectorPath event ≠ .error .success) (eventIds : List Int) :
    LeavesNoTrace collection (collection.subscribeCollectors plugins eventIds) ↔
      eventIds = [] ∨
        ∀ event ∈ eventIds, collection.isCollectorStarted event = true ∨ plugins.Serves event := by
  rw [subscribeCollectors]
  split_ifs with empty
  · exact ⟨fun _ => .inl empty, fun _ _ => ⟨rfl, rfl⟩⟩
  · rw [← subscribeEach_code reports eventIds []]
    constructor
    · intro traceless
      refine .inr ?_
      by_contra failed
      obtain ⟨event, -, differs⟩ := subscribeEach_trace (by simp) failed
      exact differs (by rw [(traceless failed).1])
    · rintro (rfl | succeeded)
      · exact absurd rfl empty
      · exact fun failed => absurd succeeded failed

/-- For both ways to subscribe: the counts and the set of loaders survive a failure exactly when
the list is empty or nothing on it fails. -/
theorem failed_subscription_leaves_no_trace_iff
    (reports : ∀ event, plugins.getCollectorPath event ≠ .error .success) (eventIds : List Int) :
    (LeavesNoTrace collection (collection.subscribeCollectors plugins eventIds) ↔
      eventIds = [] ∨
        ∀ event ∈ eventIds, collection.isCollectorStarted event = true ∨ plugins.Serves event) ∧
    (LeavesNoTrace collection (collection.subscribeCollectorsBySticky plugins eventIds) ↔
      eventIds = [] ∨
        ∀ event ∈ eventIds, collection.isCollectorStarted event = true ∨ plugins.Serves event) :=
  ⟨subscribeCollectors_leavesNoTrace reports eventIds,
    subscribeCollectors_leavesNoTrace reports eventIds⟩

/-- A configuration that names no collector, beside a loader that would work. -/
def unconfigured : Plugins where
  getCollectorPath _ := .error .failed
  loadLib _ := true
  callGetCollector _ := true
  start _ := 0
  stop _ := 0

/-- An event without a collector keeps the count that its failed subscription gave it. -/
theorem failed_subscription_stays_counted :
    ¬(LeavesNoTrace {} (subscribeCollectors unconfigured {} [1]) ∧
      LeavesNoTrace {} (subscribeCollectorsBySticky unconfigured {} [1])) := by
  rintro ⟨direct, -⟩
  exact absurd (direct (by decide)).1 (by decide)

theorem failed_subscription_leaves_no_trace_unconfigured :
    (LeavesNoTrace {} (subscribeCollectors unconfigured {} [1]) ↔
      [(1 : Int)] = [] ∨ ∀ event ∈ [(1 : Int)],
        isCollectorStarted {} event = true ∨ unconfigured.Serves event) ∧
    (LeavesNoTrace {} (subscribeCollectorsBySticky unconfigured {} [1]) ↔
      [(1 : Int)] = [] ∨ ∀ event ∈ [(1 : Int)],
        isCollectorStarted {} event = true ∨ unconfigured.Serves event) :=
  have reports (event : Int) : unconfigured.getCollectorPath event ≠ .error .success := by
    simp [unconfigured, Code.success, Code.failed]
  failed_subscription_leaves_no_trace_iff reports [1]

end DataCollection

end SecurityGuard
