import SecurityGuard.Collector.Liveness
import SecurityGuard.Collector.Rollback
import SecurityGuard.Subscribe.Hosted

/-!
# Collectors that start with the service

`SubscriberEventOnSgStart` subscribes every id of the configuration whose entry asks for it, the
old ids included, as one list.  One id without a collector takes all of them back.
-/

namespace SecurityGuard

namespace DataCollection

variable {plugins : Plugins} {collection : DataCollection} {eventId other : Int}

theorem loadCollector_failed {path : String}
    (failed : (collection.loadCollector plugins eventId path).1 ≠ .success) :
    (collection.loadCollector plugins eventId path).2.eventIdToLoaderMap =
      collection.eventIdToLoaderMap := by
  rw [loadCollector] at failed ⊢
  dsimp only at failed ⊢
  split_ifs at failed ⊢
  · rfl
  · rfl
  · rfl
  · exact absurd rfl failed

theorem Works.loadCollector (works : Works plugins collection) {path : String}
    (loaded : (collection.loadCollector plugins eventId path).1 = .success) :
    Works plugins (collection.loadCollector plugins eventId path).2 := by
  obtain ⟨loads, has, starts⟩ := (loadCollector_code plugins collection path).mp loaded
  intro other otherPath
  simp only [DataCollection.loadCollector, loads, has, starts, emplace]
  cases present : collection.eventIdToLoaderMap.contains eventId with
  | true => exact works other otherPath
  | false =>
      intro found
      rcases SortedMap.get?_insert_eq_some.mp found with ⟨-, rfl⟩ | ⟨-, earlier⟩
      · exact has
      · exact works other otherPath earlier

/-- Taking back the events of all collectors that run stops them if each is subscribed once. -/
theorem unsubscribeCollectorsLocked_stops (works : Works plugins collection)
    (positive : collection.PositiveCounts) {loaded : List Int}
    (once : ∀ event, collection.isCollectorStarted event = true →
      event ∈ loaded ∧ collection.subscribeCount event ≤ 1) (event : Int) :
    (collection.unsubscribeCollectorsLocked plugins loaded).2.isCollectorStarted event = false := by
  obtain ⟨-, loaders, spec⟩ := releaseEach_spec positive loaded
  have stillWorks : Works plugins (releaseEach loaded collection).2 := by
    rw [Works, loaders]
    exact works
  rw [unsubscribeCollectorsLocked, stopEach_started stillWorks, isCollectorStarted, loaders,
    ← isCollectorStarted]
  cases started : collection.isCollectorStarted event with
  | false => exact Bool.and_false _
  | true =>
      obtain ⟨mem, single⟩ := once event started
      have occurs : 0 < loaded.count event := List.count_pos_iff.mpr mem
      have released := (spec event).2.2.mpr ⟨mem, started, by omega⟩
      simp [released]

/-- The subscription of a list has started these collectors, each once. -/
structure Halfway (plugins : Plugins) (loaded : List Int) (collection : DataCollection) : Prop where
  works : Works plugins collection
  positive : collection.PositiveCounts
  started : ∀ event, collection.isCollectorStarted event = decide (event ∈ loaded)
  counted : ∀ event, collection.subscribeCount event = if event ∈ loaded then 1 else 0

theorem halfway_fresh : Halfway plugins [] {} where
  works _ _ found := nomatch found
  positive _ found := nomatch found
  started _ := by simp [isCollectorStarted]
  counted _ := by simp [subscribeCount]

variable {loaded : List Int}

theorem Halfway.increment (halfway : Halfway plugins loaded collection) (new : eventId ∉ loaded) :
    (collection.incrementSubscribeCount eventId).PositiveCounts ∧
      ∀ event, (collection.incrementSubscribeCount eventId).subscribeCount event =
        if event ∈ loaded ++ [eventId] then 1 else 0 := by
  have none : collection.subscribeCount eventId = 0 := by rw [halfway.counted, if_neg new]
  have fits : collection.subscribeCount eventId + 1 < countRange := by
    rw [none, countRange]
    omega
  refine ⟨halfway.positive.increment eventId fits, fun event => ?_⟩
  rw [subscribeCount_increment fits, halfway.counted]
  by_cases same : event = eventId
  · subst same
    simp [new]
  · simp [same]

/-- An event whose collector is served joins the ones before it. -/
theorem Halfway.load (halfway : Halfway plugins loaded collection) (new : eventId ∉ loaded)
    {path : String}
    (succeeded : ((collection.incrementSubscribeCount eventId).loadCollector plugins eventId
      path).1 = .success) :
    Halfway plugins (loaded ++ [eventId])
      ((collection.incrementSubscribeCount eventId).loadCollector plugins eventId path).2 := by
  obtain ⟨positive, counted⟩ := halfway.increment new
  have works : Works plugins (collection.incrementSubscribeCount eventId) := by
    rw [incrementSubscribeCount]
    split <;> exact halfway.works
  refine ⟨works.loadCollector succeeded, positive.of_counts (loadCollector_counts plugins _ path),
    fun event => ?_, fun event => ?_⟩
  · rw [loadCollector_started succeeded, isCollectorStarted_increment, halfway.started]
    by_cases same : event = eventId <;> simp [same]
  · rw [subscribeCount, loadCollector_counts, ← subscribeCount, counted]

/-- An event that fails takes back the ones before it. -/
theorem Halfway.takeBack (halfway : Halfway plugins loaded collection) (new : eventId ∉ loaded)
    {failed : DataCollection}
    (loaders : failed.eventIdToLoaderMap = collection.eventIdToLoaderMap)
    (counts : failed.eventIdToSubscribeCount =
      (collection.incrementSubscribeCount eventId).eventIdToSubscribeCount) (event : Int) :
    (failed.unsubscribeCollectorsLocked plugins loaded).2.isCollectorStarted event = false := by
  obtain ⟨positive, counted⟩ := halfway.increment new
  refine unsubscribeCollectorsLocked_stops ?_ (positive.of_counts counts) (fun item runs => ?_)
    event
  · rw [Works, loaders]
    exact halfway.works
  · have known : failed.isCollectorStarted item = collection.isCollectorStarted item := by
      rw [isCollectorStarted, loaders, isCollectorStarted]
    rw [known, halfway.started, decide_eq_true_eq] at runs
    refine ⟨runs, ?_⟩
    rw [subscribeCount, counts, ← subscribeCount, counted]
    split_ifs <;> omega

/-- A list of distinct events is subscribed as a whole or not at all. -/
theorem Halfway.subscribeEach (halfway : Halfway plugins loaded collection) {events : List Int}
    (distinct : (loaded ++ events).Nodup) :
    let after := (DataCollection.subscribeEach plugins events loaded collection).2
    ((∀ event ∈ events, plugins.Serves event) → Halfway plugins (loaded ++ events) after) ∧
      ((∃ event ∈ events, ¬plugins.Serves event) →
        ∀ event, after.isCollectorStarted event = false) := by
  induction events generalizing loaded collection with
  | nil => simpa [DataCollection.subscribeEach] using halfway
  | cons event rest ih =>
      have new : event ∉ loaded := fun mem =>
        (List.nodup_append.mp distinct).2.2 event mem event List.mem_cons_self rfl
      have idle : (collection.incrementSubscribeCount event).isCollectorStarted event = false := by
        rw [isCollectorStarted_increment, halfway.started]
        simp [new]
      have sameLoaders : (collection.incrementSubscribeCount event).eventIdToLoaderMap =
          collection.eventIdToLoaderMap := by
        rw [incrementSubscribeCount]
        split <;> rfl
      dsimp only
      rw [DataCollection.subscribeEach, if_neg (by rw [idle]; exact Bool.false_ne_true)]
      cases found : plugins.getCollectorPath event with
      | error code =>
          refine ⟨fun each => ?_, fun _ => halfway.takeBack new sameLoaders rfl⟩
          obtain ⟨path, library, -⟩ := each event List.mem_cons_self
          exact absurd (found.symm.trans library) (by simp)
      | ok path =>
          have serves : plugins.Serves event ↔
              ((collection.incrementSubscribeCount event).loadCollector plugins event path).1 =
                .success := by
            rw [loadCollector_code, Plugins.Serves]
            simp [found]
          dsimp only
          split_ifs with failed
          · refine ⟨fun each => absurd (serves.mp (each event List.mem_cons_self)) failed,
              fun _ => halfway.takeBack new ?_ ?_⟩
            · exact (loadCollector_failed failed).trans sameLoaders
            · exact loadCollector_counts plugins _ path
          · have succeeded := not_not.mp failed
            have later := ih (halfway.load new succeeded)
              (by rwa [List.append_assoc, List.singleton_append])
            rw [List.append_assoc, List.singleton_append] at later
            refine ⟨fun each => later.1 fun item mem => each item (List.mem_cons_of_mem event mem),
              ?_⟩
            rintro ⟨item, mem, unserved⟩
            rcases List.mem_cons.mp mem with rfl | inside
            · exact absurd (serves.mpr succeeded) unserved
            · exact later.2 ⟨item, inside, unserved⟩

end DataCollection

namespace ConfigData

/-- The ids whose collectors start with the service, in the order of a walk over the map. -/
def onStartEventList (config : ConfigData) (eventIds : List Int) : List Int :=
  eventIds.filter fun eventId =>
    (config.getEventConfig eventId).any fun cfg => cfg.collectOnStart = 1

/-- An id of the configuration has an entry that starts with the service. -/
def StartsAs (config : ConfigData) (eventId : Int) (cfg : EventCfg) : Prop :=
  config.getEventConfig eventId = some cfg ∧ cfg.collectOnStart = 1

variable {config : ConfigData} {eventIds : List Int} {eventId : Int}

theorem mem_onStartEventList (perm : eventIds.Perm config.getAllEventIds) :
    eventId ∈ config.onStartEventList eventIds ↔ ∃ cfg, config.StartsAs eventId cfg := by
  rw [onStartEventList, List.mem_filter, perm.mem_iff, getAllEventIds, SortedMap.mem_keys_iff]
  constructor
  · rintro ⟨-, starts⟩
    simpa [Option.any_eq_true, StartsAs] using starts
  · rintro ⟨cfg, found, starts⟩
    have present : config.eventMap.get? eventId = some cfg := found
    exact ⟨by simp [SortedMap.contains, present], by simp [found, starts]⟩

theorem nodup_onStartEventList (perm : eventIds.Perm config.getAllEventIds) :
    (config.onStartEventList eventIds).Nodup :=
  (perm.nodup_iff.mpr (SortedMap.keys_nodup _)).filter _

end ConfigData

namespace DataCollection

/-- `SubscriberEventOnSgStart`, when the map is walked in this order. -/
def subscriberEventOnSgStartIn (eventIds : List Int) (config : ConfigData) (plugins : Plugins)
    (collection : DataCollection) : DataCollection :=
  (collection.subscribeCollectors plugins (config.onStartEventList eventIds)).2

theorem subscriberEventOnSgStart_eq (config : ConfigData) (plugins : Plugins)
    (collection : DataCollection) :
    collection.subscriberEventOnSgStart config plugins =
      collection.subscriberEventOnSgStartIn config.getAllEventIds config plugins := rfl

/-- Every event of the configuration that starts with the service runs and is counted once. -/
def CoversOnStart (config : ConfigData) (collection : DataCollection) : Prop :=
  ∀ eventId cfg, config.StartsAs eventId cfg →
    collection.isCollectorStarted cfg.eventId = true ∧ collection.subscribeCount cfg.eventId = 1

/-- The start of the service covers its events exactly if a collector is served under every id
that starts, the old ids included, and the own id of every entry is among them. -/
theorem subscriberEventOnSgStart_covers_iff {config : ConfigData} {plugins : Plugins}
    {eventIds : List Int} (perm : eventIds.Perm config.getAllEventIds) :
    CoversOnStart config (({} : DataCollection).subscriberEventOnSgStartIn eventIds config
        plugins) ↔
      ∀ eventId cfg, config.StartsAs eventId cfg →
        plugins.Serves eventId ∧ ∃ own, config.StartsAs cfg.eventId own := by
  have distinct : ([] ++ config.onStartEventList eventIds).Nodup :=
    ConfigData.nodup_onStartEventList perm
  have whole := (@halfway_fresh plugins).subscribeEach distinct
  rw [subscriberEventOnSgStartIn, subscribeCollectors]
  split_ifs with empty
  · have none (eventId : Int) (cfg : EventCfg) : ¬config.StartsAs eventId cfg := fun starts => by
      have mem := (ConfigData.mem_onStartEventList perm).mpr ⟨cfg, starts⟩
      rw [empty] at mem
      exact List.not_mem_nil mem
    exact ⟨fun _ eventId cfg starts => absurd starts (none eventId cfg),
      fun _ eventId cfg starts => absurd starts (none eventId cfg)⟩
  · constructor
    · intro covers
      have each : ∀ event ∈ config.onStartEventList eventIds, plugins.Serves event := by
        intro event mem
        obtain ⟨cfg, starts⟩ := (ConfigData.mem_onStartEventList perm).mp mem
        by_contra unserved
        have stopped := whole.2 ⟨event, mem, unserved⟩ cfg.eventId
        exact absurd ((covers event cfg starts).1.symm.trans stopped) Bool.false_ne_true.symm
      intro eventId cfg starts
      have mem := (ConfigData.mem_onStartEventList perm).mpr ⟨cfg, starts⟩
      have runs := (covers eventId cfg starts).1
      rw [(whole.1 each).started, List.nil_append, decide_eq_true_eq,
        ConfigData.mem_onStartEventList perm] at runs
      exact ⟨each eventId mem, runs⟩
    · intro found eventId cfg starts
      have each : ∀ event ∈ config.onStartEventList eventIds, plugins.Serves event := by
        intro event mem
        obtain ⟨cfg, starts⟩ := (ConfigData.mem_onStartEventList perm).mp mem
        exact (found event cfg starts).1
      have own : cfg.eventId ∈ config.onStartEventList eventIds :=
        (ConfigData.mem_onStartEventList perm).mpr (found eventId cfg starts).2
      rw [(whole.1 each).started, (whole.1 each).counted]
      simp [own]

/-- An event that starts with the service and has an old id. -/
def renamedCfg : EventCfg :=
  { eventId := 2, oldEventId := 1, collectOnStart := 1, prog := securityGuardProg }

/-- The configuration of the event, under both ids. -/
def renamedConfig : ConfigData where
  eventMap := (SortedMap.empty.insert 2 renamedCfg).insert 1 renamedCfg

/-- The only collector is found under the new id. -/
def renamedPlugins : Plugins where
  getCollectorPath eventId := if eventId = 2 then .ok "libcollector.z.so" else .error .failed
  loadLib _ := true
  callGetCollector _ := true
  start _ := 0
  stop _ := 0

theorem startsAs_renamed {eventId : Int} {cfg : EventCfg}
    (starts : renamedConfig.StartsAs eventId cfg) : cfg = renamedCfg := by
  rcases SortedMap.get?_insert_eq_some.mp starts.1 with ⟨-, same⟩ | ⟨-, found⟩
  · exact same.symm
  · rcases SortedMap.get?_insert_eq_some.mp found with ⟨-, same⟩ | ⟨-, found⟩
    · exact same.symm
    · exact absurd found (by simp)

theorem renamed_served (eventId : Int) (cfg : EventCfg)
    (starts : renamedConfig.StartsAs eventId cfg) : renamedPlugins.Serves cfg.eventId := by
  rw [startsAs_renamed starts]
  exact ⟨"libcollector.z.so", rfl, rfl, rfl, rfl⟩

theorem subscriberEventOnSgStart_covers_iff_renamed :
    CoversOnStart renamedConfig
        (({} : DataCollection).subscriberEventOnSgStartIn [2, 1] renamedConfig renamedPlugins) ↔
      ∀ eventId cfg, renamedConfig.StartsAs eventId cfg →
        renamedPlugins.Serves eventId ∧ ∃ own, renamedConfig.StartsAs cfg.eventId own :=
  subscriberEventOnSgStart_covers_iff (by decide)

/-- The collector that was found under the new id is stopped because none is found under the old
one. -/
theorem old_id_takes_collector_back :
    ¬([2, 1].Perm renamedConfig.getAllEventIds →
      (∀ eventId cfg, renamedConfig.StartsAs eventId cfg → renamedPlugins.Serves cfg.eventId) →
        CoversOnStart renamedConfig (({} : DataCollection).subscriberEventOnSgStartIn [2, 1]
          renamedConfig renamedPlugins)) := by
  intro covers
  have runs := (covers (by decide) renamed_served 2 renamedCfg ⟨by decide, rfl⟩).1
  exact absurd runs (by decide)

end DataCollection

end SecurityGuard
