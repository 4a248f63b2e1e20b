import SecurityGuard.Collector.DataCollection
import SecurityGuard.Foundation.Execution

/-!
# Which collectors run

Two kinds of users keep a collector alive: subscriptions, which are counted, and a start, which
is not.  Both share the map of loaders, so a stop takes the collector away from the subscribers
and the last unsubscription takes it away from the starter.  Without such steps a collector runs
exactly while a user needs it.
-/

namespace SecurityGuard

namespace DataCollection

variable {plugins : Plugins} {collection : DataCollection} {eventId other : Int}

/-- Every library that is loaded returns its collector. -/
def Works (plugins : Plugins) (collection : DataCollection) : Prop :=
  ∀ eventId path, collection.eventIdToLoaderMap.get? eventId = some path →
    plugins.callGetCollector path = true

theorem Works.of_serve (serve : plugins.Serve) : Works plugins collection :=
  fun _ path _ => serve.callGetCollector path

theorem Works.getCollector (works : Works plugins collection) :
    collection.getCollector plugins eventId = collection.isCollectorStarted eventId := by
  cases found : collection.eventIdToLoaderMap.get? eventId with
  | none => simp [DataCollection.getCollector, isCollectorStarted, SortedMap.contains, found]
  | some path =>
      simp [DataCollection.getCollector, isCollectorStarted, SortedMap.contains, found,
        works eventId path found]

theorem Works.eraseLoader (works : Works plugins collection) :
    Works plugins (collection.eraseLoader eventId) := by
  intro other path found
  exact works other path (SortedMap.get?_erase_eq_some.mp found).2

/-- The collectors of a list are stopped and the others still run. -/
theorem stopEach_started (works : Works plugins collection) (events : List Int) (code : Code) :
    (stopEach plugins events code collection).2.isCollectorStarted other =
      (decide (other ∉ events) && collection.isCollectorStarted other) := by
  induction events generalizing code collection with
  | nil => simp [stopEach]
  | cons event rest ih =>
      rw [stopEach, works.getCollector]
      by_cases same : other = event
      · subst same
        split_ifs with idle
        · simpa [ih works] using fun _ => idle
        · simp [ih works.eraseLoader]
      · split_ifs
        · simp [ih works, same]
        · simp [ih works.eraseLoader, same]

theorem stopCollectorsLocked_counts (events : List Int) :
    (collection.stopCollectorsLocked plugins events).2.eventIdToSubscribeCount =
      collection.eventIdToSubscribeCount :=
  stopEach_counts _ .success

theorem stopCollectorsLocked_started (serve : plugins.Serve) (events : List Int) :
    (collection.stopCollectorsLocked plugins events).2.isCollectorStarted other =
      (decide (other ∉ events) && collection.isCollectorStarted other) := by
  rw [stopCollectorsLocked, stopEach_started (.of_serve serve)]
  cases running : collection.isCollectorStarted other with
  | false => simp
  | true => simp [running]

/-- Starting a list loads every event of it, or none besides those that ran. -/
theorem startEach_spec (serve : plugins.Serve) (before : DataCollection) (events loaded : List Int)
    (idle : ∀ event ∈ loaded, before.isCollectorStarted event = false)
    (running : ∀ event, collection.isCollectorStarted event =
      (decide (event ∈ loaded) || before.isCollectorStarted event)) :
    let after := startEach plugins events loaded collection
    after.2.eventIdToSubscribeCount = collection.eventIdToSubscribeCount ∧
      ∀ event, after.2.isCollectorStarted event =
        (after.1 && (decide (event ∈ events) || collection.isCollectorStarted event) ||
          before.isCollectorStarted event) := by
  induction events generalizing loaded collection with
  | nil => exact ⟨rfl, fun event => by simp [startEach, running]⟩
  | cons event rest ih =>
      rw [startEach]
      split_ifs with started
      · obtain ⟨counts, runs⟩ := ih loaded idle running
        refine ⟨counts, fun other => ?_⟩
        rw [runs]
        by_cases same : other = event
        · simp [same, started]
        · simp [same]
      · have fresh : event ∉ loaded ∧ before.isCollectorStarted event = false := by
          simpa [running] using started
        cases plugins.getCollectorPath event with
        | error code =>
            refine ⟨stopCollectorsLocked_counts loaded, fun other => ?_⟩
            have kept := fun mem => idle other mem
            dsimp only
            rw [stopCollectorsLocked_started serve, running]
            by_cases mem : other ∈ loaded <;> simp_all
        | ok path =>
            obtain ⟨loadCode, sameCount, loads⟩ :=
              loadCollector_success collection event serve path
            simp only [loadCode, ne_eq, not_true_eq_false, if_false]
            obtain ⟨counts, runs⟩ := ih (loaded ++ [event])
              (fun other mem => by
                rcases List.mem_append.mp mem with old | new
                · exact idle other old
                · rw [List.mem_singleton.mp new, fresh.2])
              (fun other => by
                rw [loads, running]
                by_cases same : other = event <;> simp [same])
            refine ⟨counts.trans sameCount, fun other => ?_⟩
            rw [runs, loads]
            by_cases same : other = event <;> simp [same]

variable (collection) in
theorem startCollectors_spec (serve : plugins.Serve) (events : List Int) :
    let after := collection.startCollectors plugins events
    after.2.eventIdToSubscribeCount = collection.eventIdToSubscribeCount ∧
      ∀ event, after.2.isCollectorStarted event =
        (after.1 && decide (event ∈ events) || collection.isCollectorStarted event) := by
  rw [startCollectors]
  split_ifs
  · exact ⟨rfl, fun event => by simp⟩
  · obtain ⟨counts, runs⟩ := startEach_spec serve collection events []
      (fun event mem => absurd mem List.not_mem_nil) (fun event => (Bool.false_or _).symm)
    refine ⟨counts, fun event => ?_⟩
    rw [runs]
    cases collection.isCollectorStarted event <;> simp

/-- No event has a subscribe count of 0 in the map. -/
def PositiveCounts (collection : DataCollection) : Prop :=
  ∀ eventId, collection.eventIdToSubscribeCount.get? eventId ≠ some 0

theorem PositiveCounts.of_counts {after : DataCollection} (positive : collection.PositiveCounts)
    (same : after.eventIdToSubscribeCount = collection.eventIdToSubscribeCount) :
    after.PositiveCounts := by
  rw [PositiveCounts, same]
  exact positive

variable (eventId) in
theorem PositiveCounts.decrement (positive : collection.PositiveCounts) :
    let after := collection.decrementSubscribeCount eventId
    after.2.PositiveCounts ∧ after.1 = decide (1 < collection.subscribeCount eventId) ∧
      ∀ other, after.2.subscribeCount other =
        collection.subscribeCount other - if other = eventId then 1 else 0 := by
  rw [decrementSubscribeCount]
  cases found : collection.eventIdToSubscribeCount.get? eventId with
  | none =>
      have zero : collection.subscribeCount eventId = 0 := by simp [subscribeCount, found]
      refine ⟨positive, by simp [zero], fun other => ?_⟩
      by_cases same : other = eventId <;> simp [same, zero]
  | some count =>
      have pos : count ≠ 0 := fun zero => positive eventId (zero ▸ found)
      have value : collection.subscribeCount eventId = count := by simp [subscribeCount, found]
      dsimp only
      rw [if_neg pos, value]
      split_ifs with remain
      · refine ⟨fun other => ?_, by simp; omega, fun other => ?_⟩
        · by_cases same : other = eventId
          · simp [same]
            omega
          · simpa [same] using positive other
        · by_cases same : other = eventId <;> simp [subscribeCount, same, found]
      · refine ⟨fun other => ?_, by simp; omega, fun other => ?_⟩
        · by_cases same : other = eventId
          · simp [same]
          · simpa [same] using positive other
        · by_cases same : other = eventId
          · simp [subscribeCount, same, found]
            omega
          · simp [subscribeCount, same]

/-- Releasing a list takes one subscription off each running event for each of its occurrences,
and lists those that lose their last one. -/
theorem releaseEach_spec (positive : collection.PositiveCounts) (events : List Int) :
    let after := releaseEach events collection
    after.2.PositiveCounts ∧
      after.2.eventIdToLoaderMap = collection.eventIdToLoaderMap ∧
        ∀ event, (collection.isCollectorStarted event = true →
            after.2.subscribeCount event =
              collection.subscribeCount event - events.count event) ∧
          (collection.isCollectorStarted event = false →
            after.2.subscribeCount event = collection.subscribeCount event) ∧
          (event ∈ after.1 ↔ event ∈ events ∧ collection.isCollectorStarted event = true ∧
            collection.subscribeCount event ≤ events.count event) := by
  induction events generalizing collection with
  | nil => exact ⟨positive, rfl, fun event => by simp [releaseEach]⟩
  | cons event rest ih =>
      have total (other : Int) : (event :: rest).count other =
          rest.count other + if other = event then 1 else 0 := by
        by_cases same : other = event
        · simp [same]
        · simp [same, Ne.symm same]
      rw [releaseEach]
      cases started : collection.isCollectorStarted event with
      | false =>
          obtain ⟨positive, loaders, spec⟩ := ih positive
          simp only [Bool.not_false, if_true]
          refine ⟨positive, loaders, fun other => ?_⟩
          obtain ⟨runs, idle, mem⟩ := spec other
          by_cases same : other = event
          · subst same
            simp [started, idle, mem]
          · exact ⟨fun running => by rw [runs running, total, if_neg same, Nat.add_zero], idle,
              by rw [mem, total, if_neg same, Nat.add_zero, List.mem_cons]; simp [same]⟩
      | true =>
          obtain ⟨decremented, remains, counts⟩ := positive.decrement event
          have loader : (collection.decrementSubscribeCount event).2.eventIdToLoaderMap =
              collection.eventIdToLoaderMap := by
            rw [decrementSubscribeCount]
            split
            · rfl
            · dsimp only
              split_ifs <;> rfl
          have running (other : Int) :
              (collection.decrementSubscribeCount event).2.isCollectorStarted other =
                collection.isCollectorStarted other := by
            rw [isCollectorStarted, loader, ← isCollectorStarted]
          obtain ⟨positive, loaders, spec⟩ := ih decremented
          have later (other : Int) := spec other
          simp only [running, counts] at later
          simp only [Bool.not_true, Bool.false_eq_true, if_false, remains, decide_eq_true_eq]
          split_ifs with several
          · refine ⟨positive, loaders.trans loader, fun other => ?_⟩
            obtain ⟨runs, idle, mem⟩ := later other
            by_cases same : other = event
            · subst same
              have occurs : other ∈ rest ↔ 0 < rest.count other := List.count_pos_iff.symm
              simp only [started, if_true, true_and, true_implies] at runs mem
              refine ⟨fun _ => ?_, fun stopped => by simp [started] at stopped, ?_⟩
              · rw [runs, total, if_pos rfl]
                omega
              · rw [mem, occurs, total, if_pos rfl]
                constructor
                · rintro ⟨-, few⟩
                  exact ⟨List.mem_cons_self, started, by omega⟩
                · rintro ⟨-, -, few⟩
                  exact ⟨by omega, by omega⟩
            · simp only [total, Nat.add_zero, Nat.sub_zero, List.mem_cons, same, if_false,
                false_or] at runs idle mem ⊢
              exact ⟨runs, idle, mem⟩
          · refine ⟨positive, loaders.trans loader, fun other => ?_⟩
            obtain ⟨runs, idle, mem⟩ := later other
            by_cases same : other = event
            · subst same
              simp only [started, if_true, true_implies] at runs
              refine ⟨fun _ => ?_, fun stopped => by simp [started] at stopped, ?_⟩
              · rw [runs, total, if_pos rfl]
                omega
              · rw [total, if_pos rfl]
                exact iff_of_true List.mem_cons_self ⟨List.mem_cons_self, started, by omega⟩
            · simp only [total, Nat.add_zero, Nat.sub_zero, List.mem_cons, same, if_false,
                false_or] at runs idle mem ⊢
              exact ⟨runs, idle, mem⟩

variable (eventId) in
theorem PositiveCounts.increment (positive : collection.PositiveCounts)
    (fits : collection.subscribeCount eventId + 1 < countRange) :
    (collection.incrementSubscribeCount eventId).PositiveCounts := by
  intro event
  rw [incrementSubscribeCount]
  cases found : collection.eventIdToSubscribeCount.get? eventId with
  | none =>
      by_cases same : event = eventId
      · simp [same]
      · simpa [same] using positive event
  | some count =>
      have value : collection.subscribeCount eventId = count := by simp [subscribeCount, found]
      have small : (count + 1) % countRange = count + 1 := Nat.mod_eq_of_lt (by omega)
      by_cases same : event = eventId
      · simp [same, small]
      · simpa [same] using positive event

theorem PositiveCounts.subscribeEach (positive : collection.PositiveCounts)
    (serve : plugins.Serve) {events : List Int} (loaded : List Int)
    (found : ∀ event ∈ events, collection.isCollectorStarted event = true ∨
      ∃ path, plugins.getCollectorPath event = .ok path)
    (fits : ∀ event ∈ events, collection.subscribeCount event + events.count event < countRange) :
    (DataCollection.subscribeEach plugins events loaded collection).2.PositiveCounts := by
  induction events generalizing loaded collection with
  | nil => exact positive
  | cons event rest ih =>
      have first := fits event List.mem_cons_self
      rw [List.count_cons_self] at first
      have counted (other : Int) :
          (collection.incrementSubscribeCount event).subscribeCount other =
            collection.subscribeCount other + if other = event then 1 else 0 :=
        subscribeCount_increment (by omega)
      have incremented := positive.increment event (by omega)
      have later {after : DataCollection}
          (same : after.eventIdToSubscribeCount =
            (collection.incrementSubscribeCount event).eventIdToSubscribeCount) (other : Int)
          (mem : other ∈ rest) : after.subscribeCount other + rest.count other < countRange := by
        have bound := fits other (List.mem_cons_of_mem event mem)
        rw [subscribeCount, same, ← subscribeCount, counted]
        rw [List.count_cons] at bound
        by_cases equal : other = event
        · subst equal
          simp at bound ⊢
          omega
        · simp [equal, Ne.symm equal] at bound ⊢
          omega
      have founds := fun other mem => found other (List.mem_cons_of_mem event mem)
      rw [DataCollection.subscribeEach]
      dsimp only
      split_ifs with started
      · refine ih incremented loaded (fun other mem => ?_) (later rfl)
        rw [isCollectorStarted_increment]
        exact founds other mem
      · rw [isCollectorStarted_increment] at started
        obtain ⟨path, library⟩ := (found event List.mem_cons_self).resolve_left started
        obtain ⟨loadCode, sameCount, loads⟩ := loadCollector_success
          (collection.incrementSubscribeCount event) event serve path
        simp only [library, loadCode, ne_eq, not_true_eq_false, if_false]
        refine ih (incremented.of_counts sameCount) (loaded ++ [event]) (fun other mem => ?_)
          (later sameCount)
        rw [loads, isCollectorStarted_increment]
        exact (founds other mem).imp_left fun runs => by simp [runs]

end DataCollection

/-! ## Users -/

/-- A call with which a user asks for collectors or gives them up. -/
inductive CollectorCall where
  | startCollectors (eventIds : List Int)
  | stopCollectors (eventIds : List Int)
  | subscribeCollectors (eventIds : List Int)
  | unsubscribeCollectors (eventIds : List Int)
  deriving DecidableEq

/-- A call during which the plugins serve. -/
structure CollectorStep where
  plugins : Plugins
  serve : plugins.Serve
  call : CollectorCall

/-- The collectors with the events that `StartCollectors` has started and `StopCollectors` has not
stopped since. -/
structure CollectorUse where
  collection : DataCollection := {}
  started : SortedSet Int := .empty

namespace CollectorUse

variable (plugins : Plugins) (state : CollectorUse)

/-- Serve a call and note what has been started. -/
def serve : CollectorCall → CollectorUse
  | .startCollectors eventIds =>
      let after := state.collection.startCollectors plugins eventIds
      { collection := after.2
        started :=
          if after.1 then eventIds.foldl (fun started eventId => started.insert eventId ())
            state.started
          else state.started }
  | .stopCollectors eventIds =>
      { collection := (state.collection.stopCollectors plugins eventIds).2
        started := eventIds.foldl (fun started eventId => started.erase eventId) state.started }
  | .subscribeCollectors eventIds =>
      { state with collection := (state.collection.subscribeCollectors plugins eventIds).2 }
  | .unsubscribeCollectors eventIds =>
      { state with collection := (state.collection.unsubscribeCollectors plugins eventIds).2 }

/-- Every call is served at once. -/
def next : Transition CollectorUse CollectorStep := fun state step =>
  some (state.serve step.plugins step.call)

/-- A collector runs exactly if it has subscriptions or was started and not stopped. -/
def RunsAsNeeded (state : CollectorUse) : Prop :=
  ∀ eventId, state.collection.isCollectorStarted eventId = true ↔
    0 < state.collection.subscribeCount eventId ∨ state.started.contains eventId = true

/-- The call takes no collector from a user of the other kind, and a subscription finds the
libraries it has to load and does not overflow a count. -/
def Considerate (state : CollectorUse) (step : CollectorStep) : Prop :=
  match step.call with
  | .startCollectors _ => True
  | .stopCollectors eventIds => ∀ eventId ∈ eventIds, state.collection.subscribeCount eventId = 0
  | .subscribeCollectors eventIds => ∀ eventId ∈ eventIds,
      (state.collection.isCollectorStarted eventId = true ∨
        (step.plugins.getCollectorPath eventId).isOk = true) ∧
      state.collection.subscribeCount eventId + eventIds.count eventId <
        DataCollection.countRange
  | .unsubscribeCollectors eventIds => ∀ eventId ∈ eventIds,
      state.started.contains eventId = true →
        eventIds.count eventId < state.collection.subscribeCount eventId

instance : ∀ (state : CollectorUse) (step : CollectorStep), Decidable (state.Considerate step)
  | _, ⟨_, _, .startCollectors _⟩ => isTrue trivial
  | _, ⟨_, _, .stopCollectors eventIds⟩ =>
      inferInstanceAs (Decidable (∀ eventId ∈ eventIds, _))
  | _, ⟨_, _, .subscribeCollectors eventIds⟩ =>
      inferInstanceAs (Decidable (∀ eventId ∈ eventIds, _ ∧ _))
  | _, ⟨_, _, .unsubscribeCollectors eventIds⟩ =>
      inferInstanceAs (Decidable (∀ eventId ∈ eventIds, _ → _))

variable {plugins state}

theorem RunsAsNeeded.start (needed : state.RunsAsNeeded) (serve : plugins.Serve)
    (eventIds : List Int) : (state.serve plugins (.startCollectors eventIds)).RunsAsNeeded := by
  intro eventId
  obtain ⟨counts, runs⟩ := state.collection.startCollectors_spec serve eventIds
  have before := needed eventId
  have count : (state.collection.startCollectors plugins eventIds).2.subscribeCount eventId =
      state.collection.subscribeCount eventId := by
    rw [DataCollection.subscribeCount, counts, ← DataCollection.subscribeCount]
  rw [CollectorUse.serve, runs, count]
  cases (state.collection.startCollectors plugins eventIds).1 with
  | false => simpa using before
  | true =>
      simp only [if_true, SortedMap.contains_foldl_insert, Bool.true_and, Bool.or_eq_true, before]
      exact or_left_comm

theorem RunsAsNeeded.stop (needed : state.RunsAsNeeded) (serve : plugins.Serve)
    {eventIds : List Int}
    (unsubscribed : ∀ eventId ∈ eventIds, state.collection.subscribeCount eventId = 0) :
    (state.serve plugins (.stopCollectors eventIds)).RunsAsNeeded := by
  intro eventId
  have before := needed eventId
  have count : (state.collection.stopCollectors plugins eventIds).2.subscribeCount eventId =
      state.collection.subscribeCount eventId := by
    rw [DataCollection.subscribeCount, DataCollection.stopCollectors,
      DataCollection.stopCollectorsLocked_counts, ← DataCollection.subscribeCount]
  rw [CollectorUse.serve, count, DataCollection.stopCollectors,
    DataCollection.stopCollectorsLocked_started serve, SortedMap.contains_foldl_erase]
  by_cases mem : eventId ∈ eventIds
  · simp [mem, unsubscribed eventId mem]
  · simpa [mem] using before

theorem RunsAsNeeded.subscribe (needed : state.RunsAsNeeded) (serve : plugins.Serve)
    {eventIds : List Int}
    (found : ∀ event ∈ eventIds, state.collection.isCollectorStarted event = true ∨
      ∃ path, plugins.getCollectorPath event = .ok path)
    (fits : ∀ event ∈ eventIds, state.collection.subscribeCount event + eventIds.count event <
      DataCollection.countRange) :
    (state.serve plugins (.subscribeCollectors eventIds)).RunsAsNeeded := by
  intro eventId
  have before := needed eventId
  obtain ⟨-, spec⟩ := DataCollection.subscribeEach_success [] serve found fits
  obtain ⟨count, runs⟩ := spec eventId
  rw [CollectorUse.serve, DataCollection.subscribeCollectors]
  split_ifs with none
  · exact before
  · have occurs : eventId ∈ eventIds ↔ 0 < eventIds.count eventId := List.count_pos_iff.symm
    have counted : 0 < state.collection.subscribeCount eventId + eventIds.count eventId ↔
        0 < state.collection.subscribeCount eventId ∨ 0 < eventIds.count eventId := by omega
    rw [count, runs, Bool.or_eq_true, decide_eq_true_eq, before, occurs, counted]
    exact or_left_comm.trans or_assoc.symm

theorem RunsAsNeeded.unsubscribe (needed : state.RunsAsNeeded)
    (positive : state.collection.PositiveCounts) (serve : plugins.Serve) {eventIds : List Int}
    (kept : ∀ eventId ∈ eventIds, state.started.contains eventId = true →
      eventIds.count eventId < state.collection.subscribeCount eventId) :
    (state.serve plugins (.unsubscribeCollectors eventIds)).RunsAsNeeded := by
  intro eventId
  have before := needed eventId
  obtain ⟨-, loaders, spec⟩ := DataCollection.releaseEach_spec positive eventIds
  obtain ⟨running, idle, mem⟩ := spec eventId
  rw [CollectorUse.serve, DataCollection.unsubscribeCollectors,
    DataCollection.unsubscribeCollectorsLocked, DataCollection.stopEach_started (.of_serve serve),
    DataCollection.isCollectorStarted, loaders, ← DataCollection.isCollectorStarted,
    DataCollection.subscribeCount, DataCollection.stopEach_counts, ← DataCollection.subscribeCount,
    Bool.and_eq_true, decide_eq_true_eq, mem]
  cases runs : state.collection.isCollectorStarted eventId with
  | false =>
      rw [idle runs]
      simpa [runs] using before
  | true =>
      rw [running runs]
      have kept := kept eventId
      have user := before.mp runs
      have occurs : eventId ∈ eventIds ↔ 0 < eventIds.count eventId := List.count_pos_iff.symm
      rw [occurs] at kept ⊢
      simp only [true_and, and_true]
      rcases user with subscribed | started
      · by_cases started : state.started.contains eventId = true
        · simp only [started, or_true, iff_true]
          have := fun occurs => kept occurs started
          omega
        · simp only [started, Bool.false_eq_true, or_false]
          omega
      · simp only [started, or_true, iff_true]
        have := fun occurs => kept occurs started
        omega

/-- What every call keeps: the collectors that run are the needed ones, and no count is 0. -/
def Accounted (state : CollectorUse) : Prop :=
  state.RunsAsNeeded ∧ state.collection.PositiveCounts

theorem accounted_empty : ({} : CollectorUse).Accounted := by
  constructor
  · intro eventId
    simp [DataCollection.isCollectorStarted, DataCollection.subscribeCount]
  · intro eventId
    simp

theorem Accounted.next {step : CollectorStep} {after : CollectorUse}
    (accounted : state.Accounted) (considerate : state.Considerate step)
    (taken : next state step = some after) : after.Accounted := by
  obtain ⟨needed, positive⟩ := accounted
  obtain ⟨plugins, serve, call⟩ := step
  obtain rfl := Option.some.inj taken
  cases call with
  | startCollectors eventIds =>
      exact ⟨needed.start serve eventIds,
        positive.of_counts (state.collection.startCollectors_spec serve eventIds).1⟩
  | stopCollectors eventIds =>
      exact ⟨needed.stop serve considerate,
        positive.of_counts (DataCollection.stopCollectorsLocked_counts eventIds)⟩
  | subscribeCollectors eventIds =>
      have found (event : Int) (mem : event ∈ eventIds) :
          state.collection.isCollectorStarted event = true ∨
            ∃ path, plugins.getCollectorPath event = .ok path := by
        refine (considerate event mem).1.imp_right fun known => ?_
        cases library : plugins.getCollectorPath event with
        | error code => simp [library, Except.isOk, Except.toBool] at known
        | ok path => exact ⟨path, rfl⟩
      have fits := fun event mem => (considerate event mem).2
      refine ⟨needed.subscribe serve found fits, ?_⟩
      change (state.collection.subscribeCollectors plugins eventIds).2.PositiveCounts
      rw [DataCollection.subscribeCollectors]
      split_ifs
      · exact positive
      · exact positive.subscribeEach serve [] found fits
  | unsubscribeCollectors eventIds =>
      exact ⟨needed.unsubscribe positive serve considerate,
        (DataCollection.releaseEach_spec positive eventIds).1.of_counts
          (DataCollection.stopEach_counts _ .success)⟩

/-- In a run of considerate calls a collector runs exactly while a user needs it. -/
theorem collectors_run_as_needed {steps : List CollectorStep} {final : CollectorUse}
    (considerate : Transition.Along next Considerate {} steps)
    (reach : Transition.run next {} steps = some final) : final.RunsAsNeeded :=
  (Transition.run_invariant Accounted.next accounted_empty considerate reach).1

/-- Plugins of which one library holds every collector. -/
def onePlugin : Plugins where
  getCollectorPath := fun _ => .ok "libcollector.z.so"
  loadLib := fun _ => true
  callGetCollector := fun _ => true
  start := fun _ => 0
  stop := fun _ => 0

theorem onePlugin_serve : onePlugin.Serve :=
  ⟨fun _ => rfl, fun _ => rfl, fun _ => rfl, fun _ => rfl⟩

/-- A call that finds the collectors in one library. -/
def ofCall (call : CollectorCall) : CollectorStep := ⟨onePlugin, onePlugin_serve, call⟩

/-- The state after calls that find the collectors in one library. -/
def afterCalls (calls : List CollectorCall) : CollectorUse := calls.foldl (serve onePlugin) {}

theorem collectors_run_as_needed_bothUsers :
    (afterCalls [.subscribeCollectors [5], .subscribeCollectors [5], .startCollectors [5],
      .unsubscribeCollectors [5]]).RunsAsNeeded :=
  @collectors_run_as_needed ([.subscribeCollectors [5], .subscribeCollectors [5],
    .startCollectors [5], .unsubscribeCollectors [5]].map ofCall) _ (by decide +kernel) rfl

/-- The last unsubscription stops a collector that has been started and not stopped. -/
theorem unsubscribing_stops_started_collector :
    ¬∀ (steps : List CollectorStep) (final : CollectorUse),
      Transition.run next {} steps = some final → final.RunsAsNeeded := by
  intro always
  have needed := always
    ([.subscribeCollectors [5], .startCollectors [5], .unsubscribeCollectors [5]].map ofCall)
    (afterCalls [.subscribeCollectors [5], .startCollectors [5], .unsubscribeCollectors [5]])
    rfl 5
  have idle : (afterCalls [.subscribeCollectors [5], .startCollectors [5],
      .unsubscribeCollectors [5]]).collection.isCollectorStarted 5 = false := by decide +kernel
  have started : (afterCalls [.subscribeCollectors [5], .startCollectors [5],
      .unsubscribeCollectors [5]]).started.contains 5 = true := by decide +kernel
  rw [idle, started] at needed
  exact absurd (needed.mpr (.inr rfl)) Bool.false_ne_true

end CollectorUse

end SecurityGuard
