import SecurityGuard.RiskClassify.PluginAnswers

/-!
# Events of detection plugins

The first plugin of an event subscribes it.  From then on the event is subscribed once or waits in
the set of failed events, from which a turn of the task takes it and into which it puts it back.
-/

namespace SecurityGuard

namespace DetectPluginManager

variable {σ : Type} (calls : PluginCalls σ) (manager : DetectPluginManager σ)

/-- An event is subscribed once, or it is to be subscribed again. -/
def SubscribedOrPending (eventId : Int) : Prop :=
  (manager.subscribed.count eventId = 1 ∧ manager.failedEventIdset.contains eventId = false) ∨
    manager.subscribed.count eventId = 0 ∧ manager.failedEventIdset.contains eventId = true

/-- Nobody has tried to subscribe an event. -/
def Untried (eventId : Int) : Prop :=
  manager.subscribed.count eventId = 0 ∧ manager.failedEventIdset.contains eventId = false

/-- An event is subscribed or pending from its first plugin on. -/
def Attended (eventId : Int) : Prop :=
  if manager.eventIdMap.contains eventId then manager.SubscribedOrPending eventId
  else manager.Untried eventId

/-- The plugins of an event, in the order in which they were loaded. -/
def pluginsOf (eventId : Int) : List DetectPluginAttrs :=
  (manager.eventIdMap.get? eventId).getD []

/-- The initialised plugins that depend on an event. -/
def dependents (eventId : Int) : List PluginCfg :=
  manager.initialised.filter fun plugin => plugin.depEventIds.contains eventId

variable {calls manager} {after : DetectPluginManager σ} {eventId other : Int}

variable (calls manager) in
theorem subscribeEvent_of_ne (different : other ≠ eventId) :
    (manager.subscribeEvent calls eventId).subscribed.count other =
        manager.subscribed.count other ∧
      (manager.subscribeEvent calls eventId).failedEventIdset.contains other =
        manager.failedEventIdset.contains other := by
  rw [subscribeEvent]
  dsimp only
  split_ifs
  · exact ⟨rfl, by simp [call, different]⟩
  · exact ⟨by simp [call, different.symm], rfl⟩

theorem Untried.subscribeEvent (untried : manager.Untried eventId) :
    (manager.subscribeEvent calls eventId).SubscribedOrPending eventId := by
  obtain ⟨none, absent⟩ := untried
  rw [DetectPluginManager.subscribeEvent]
  dsimp only
  split_ifs
  · exact .inr ⟨none, by simp [call]⟩
  · exact .inl ⟨by simp [call, none], absent⟩

variable (calls manager eventId) in
theorem subscribeEvent_same :
    (manager.subscribeEvent calls eventId).eventIdMap = manager.eventIdMap ∧
      (manager.subscribeEvent calls eventId).initialised = manager.initialised ∧
        (manager.subscribeEvent calls eventId).retryTask = manager.retryTask := by
  rw [subscribeEvent]
  dsimp only
  split_ifs <;> exact ⟨rfl, rfl, rfl⟩

theorem Attended.same (attended : manager.Attended eventId)
    (bound : after.eventIdMap.contains eventId = manager.eventIdMap.contains eventId)
    (count : after.subscribed.count eventId = manager.subscribed.count eventId)
    (failed : after.failedEventIdset.contains eventId =
      manager.failedEventIdset.contains eventId) : after.Attended eventId := by
  rw [Attended, SubscribedOrPending, Untried, bound, count, failed]
  exact attended

theorem Attended.of_entered (entered : manager.eventIdMap.contains eventId = true)
    (either : manager.SubscribedOrPending eventId) : manager.Attended eventId := by
  rwa [Attended, if_pos entered]

theorem pluginsOf_emplaceBack (plugin : DetectPluginAttrs) :
    (manager.emplaceBack eventId plugin).pluginsOf other =
      manager.pluginsOf other ++ if other = eventId then [plugin] else [] := by
  rw [pluginsOf, emplaceBack]
  dsimp only
  rw [SortedMap.get?_insert]
  split_ifs with same
  · rw [same]
    rfl
  · rw [List.append_nil]
    rfl

theorem pluginsOf_registerEvent (plugin : DetectPluginAttrs) :
    (manager.registerEvent calls plugin eventId).pluginsOf other =
      manager.pluginsOf other ++ if other = eventId then [plugin] else [] := by
  rw [registerEvent]
  split_ifs
  · rw [pluginsOf_emplaceBack, if_pos ‹_›]
  · rw [pluginsOf_emplaceBack, if_neg ‹_›]
  · rw [pluginsOf_emplaceBack, if_pos ‹_›, pluginsOf, (subscribeEvent_same ..).1]
    rfl
  · rw [pluginsOf_emplaceBack, if_neg ‹_›, pluginsOf, (subscribeEvent_same ..).1]
    rfl

theorem contains_emplaceBack (plugin : DetectPluginAttrs) :
    (manager.emplaceBack eventId plugin).eventIdMap.contains other =
      (decide (other = eventId) || manager.eventIdMap.contains other) :=
  SortedMap.contains_insert ..

/-- A plugin that is entered under an event leaves every event attended. -/
theorem Attended.registerEvent (attended : manager.Attended other) (plugin : DetectPluginAttrs)
    (eventId : Int) : (manager.registerEvent calls plugin eventId).Attended other := by
  rw [DetectPluginManager.registerEvent]
  by_cases same : other = eventId
  · subst same
    rw [Attended] at attended
    refine .of_entered ?_ ?_
    · split_ifs <;> simp [contains_emplaceBack]
    · split_ifs at attended ⊢
      · exact attended
      · exact attended.subscribeEvent
  · obtain ⟨count, failed⟩ := subscribeEvent_of_ne calls manager same
    split_ifs
    · exact attended.same (by simp [contains_emplaceBack, same]) rfl rfl
    · refine attended.same ?_ count failed
      simp [contains_emplaceBack, same, (subscribeEvent_same calls manager eventId).1]

variable (calls manager eventId) in
theorem registerEvent_same (plugin : DetectPluginAttrs) :
    (manager.registerEvent calls plugin eventId).initialised = manager.initialised ∧
      (manager.registerEvent calls plugin eventId).retryTask = manager.retryTask := by
  rw [registerEvent]
  split_ifs
  · exact ⟨rfl, rfl⟩
  · exact (subscribeEvent_same calls manager eventId).2

variable (calls) in
/-- Entering a plugin under the events of a list, each of them once. -/
theorem registerEvents_spec (plugin : DetectPluginAttrs) {events : List Int}
    (distinct : events.Nodup) (manager : DetectPluginManager σ) :
    let after := events.foldl
      (fun manager eventId => manager.registerEvent calls plugin eventId) manager
    (after.initialised = manager.initialised ∧ after.retryTask = manager.retryTask) ∧
      (∀ other, after.pluginsOf other =
        manager.pluginsOf other ++ if other ∈ events then [plugin] else []) ∧
      ∀ other, manager.Attended other → after.Attended other := by
  induction events generalizing manager with
  | nil => simp
  | cons event rest ih =>
      obtain ⟨fresh, distinct⟩ := List.nodup_cons.mp distinct
      obtain ⟨⟨initialised, task⟩, plugins, attended⟩ :=
        ih distinct (manager.registerEvent calls plugin event)
      obtain ⟨before, taskBefore⟩ := registerEvent_same calls manager event plugin
      rw [List.foldl_cons]
      refine ⟨⟨initialised.trans before, task.trans taskBefore⟩, fun other => ?_,
        fun other before => attended other (before.registerEvent plugin event)⟩
      rw [plugins, pluginsOf_registerEvent, List.append_assoc]
      by_cases same : other = event
      · simp [same, fresh]
      · simp [same]

/-- Every event but that of the plugins without dependencies has its plugins and is attended. -/
structure Registered (manager : DetectPluginManager σ) : Prop where
  entered : ∀ eventId, eventId ≠ specialId →
    manager.pluginsOf eventId =
      (manager.dependents eventId).map fun plugin => { pluginName := plugin.pluginName }
  attended : ∀ eventId, eventId ≠ specialId → manager.Attended eventId

theorem Registered.same (registered : manager.Registered)
    (eventIdMap : after.eventIdMap = manager.eventIdMap)
    (failed : after.failedEventIdset = manager.failedEventIdset)
    (initialised : after.initialised = manager.initialised)
    (subscribed : after.subscribed = manager.subscribed) : after.Registered where
  entered eventId ordinary := by
    rw [pluginsOf, dependents, eventIdMap, initialised]
    exact registered.entered eventId ordinary
  attended eventId ordinary :=
    (registered.attended eventId ordinary).same (by rw [eventIdMap]) (by rw [subscribed])
      (by rw [failed])

/-- The plugins without dependencies are entered under an event of their own. -/
theorem Registered.emplaceBack_specialId (registered : manager.Registered)
    (plugin : DetectPluginAttrs) : (manager.emplaceBack specialId plugin).Registered where
  entered eventId ordinary := by
    rw [pluginsOf_emplaceBack, if_neg ordinary, List.append_nil]
    exact registered.entered eventId ordinary
  attended eventId ordinary :=
    (registered.attended eventId ordinary).same (by simp [contains_emplaceBack, ordinary]) rfl rfl

variable (calls) in
theorem Registered.registerPlugin (registered : manager.Registered) (pluginCfg : PluginCfg) :
    (manager.registerPlugin calls pluginCfg).Registered ∧
      (manager.registerPlugin calls pluginCfg).initialised =
        manager.initialised ++ [pluginCfg] ∧
      (manager.registerPlugin calls pluginCfg).retryTask = manager.retryTask := by
  have visited := calls.order_perm pluginCfg.depEventIds manager.world
  obtain ⟨⟨initialised, task⟩, plugins, attended⟩ := registerEvents_spec calls
    { pluginName := pluginCfg.pluginName }
    (visited.nodup_iff.mpr pluginCfg.depEventIds.keys_nodup)
    { manager with initialised := manager.initialised ++ [pluginCfg] }
  rw [DetectPluginManager.registerPlugin]
  dsimp only at initialised task plugins attended ⊢
  generalize (calls.order pluginCfg.depEventIds manager.world).foldl _ _ = entered
    at initialised task plugins attended ⊢
  have loaded : entered.Registered := by
    constructor
    · intro eventId ordinary
      have before := registered.entered eventId ordinary
      have depends : eventId ∈ calls.order pluginCfg.depEventIds manager.world ↔
          pluginCfg.depEventIds.contains eventId = true :=
        visited.mem_iff.trans SortedMap.mem_keys_iff
      have same : pluginsOf { manager with initialised := manager.initialised ++ [pluginCfg] }
          eventId = manager.pluginsOf eventId := rfl
      rw [plugins, same, before, dependents, dependents, initialised, List.filter_append,
        List.map_append]
      by_cases needs : pluginCfg.depEventIds.contains eventId = true
      · simp [depends.mpr needs, needs]
      · simp [depends.not.mpr needs, needs]
    · exact fun eventId ordinary => attended eventId (registered.attended eventId ordinary)
  split_ifs
  · exact ⟨loaded.emplaceBack_specialId _, initialised, task⟩
  · exact ⟨loaded, initialised, task⟩

theorem Registered.call (registered : manager.Registered) {α : Type} (outside : σ → α × σ) :
    (manager.call outside).2.Registered :=
  registered.same rfl rfl rfl rfl

variable (calls) in
/-- Loading a plugin initialises it or leaves the plugins as they are. -/
theorem Registered.loadPlugin (registered : manager.Registered) (pluginCfg : PluginCfg) :
    (manager.loadPlugin calls pluginCfg).Registered ∧
      ((manager.loadPlugin calls pluginCfg).initialised = manager.initialised ∨
        (manager.loadPlugin calls pluginCfg).initialised =
          manager.initialised ++ [pluginCfg]) ∧
      (manager.loadPlugin calls pluginCfg).retryTask = manager.retryTask := by
  have opened := registered.call (calls.dlopen pluginCfg.pluginPath)
  have found := opened.call (calls.dlsym pluginCfg.pluginPath)
  have created := found.call (calls.createDetectPlugin pluginCfg.pluginPath)
  have initialised := created.call (calls.init pluginCfg.pluginPath)
  rw [DetectPluginManager.loadPlugin]
  dsimp only
  split_ifs
  · exact ⟨opened, .inl rfl, rfl⟩
  · exact ⟨found, .inl rfl, rfl⟩
  · exact ⟨created, .inl rfl, rfl⟩
  · exact ⟨initialised, .inl rfl, rfl⟩
  · obtain ⟨registered, grown, task⟩ := initialised.registerPlugin calls pluginCfg
    exact ⟨registered, .inr grown, task⟩

/-- The names of some plugins. -/
def names (plugins : List PluginCfg) : List String := plugins.map PluginCfg.pluginName

variable (calls) in
/-- Plugins with names of their own keep them while they are loaded. -/
theorem Registered.loadPlugins (registered : manager.Registered) {plugins : List PluginCfg}
    (distinct : (names (manager.initialised ++ plugins)).Nodup) :
    let after := plugins.foldl (fun manager plugin => manager.loadPlugin calls plugin) manager
    after.Registered ∧ (names after.initialised).Nodup ∧
      after.retryTask = manager.retryTask := by
  induction plugins generalizing manager with
  | nil => exact ⟨registered, by simpa using distinct, rfl⟩
  | cons plugin rest ih =>
      obtain ⟨loaded, initialised, task⟩ := registered.loadPlugin calls plugin
      have kept : (names ((manager.loadPlugin calls plugin).initialised ++ rest)).Nodup := by
        rcases initialised with same | grown
        · rw [same]
          refine distinct.sublist (List.Sublist.map _ ?_)
          exact (List.sublist_cons_self plugin rest).append_left manager.initialised
        · rw [grown, List.append_assoc]
          exact distinct
      obtain ⟨registered, distinct, later⟩ := ih loaded kept
      exact ⟨registered, distinct, later.trans task⟩

/-- A plugin is admitted under a name that no other one has. -/
theorem checkPluginNameAndSize_fresh {plugins : List PluginCfg} {newPlugin plugin : PluginCfg}
    {world : σ}
    (admitted : (checkPluginNameAndSize calls plugins newPlugin world).1 = some plugin) :
    plugin.pluginName ∉ names plugins := by
  rw [checkPluginNameAndSize] at admitted
  dsimp only at admitted
  cases resolved : (calls.pathToRealPath (pluginPrefixPath ++ newPlugin.pluginName) world).1 with
  | none =>
      rw [resolved] at admitted
      split_ifs at admitted
  | some pluginPath =>
      rw [resolved] at admitted
      dsimp only at admitted
      split_ifs at admitted with _ _ present
      obtain rfl := Option.some.inj admitted
      intro mem
      obtain ⟨other, among, same⟩ := List.mem_map.mp mem
      exact present (List.any_eq_true.mpr ⟨other, among, by simpa using same⟩)

variable (calls) in
/-- The plugins that are admitted have names of their own. -/
theorem parsePluginConfigObjArray_distinct {items : List Json} {plugins : List PluginCfg}
    (distinct : (names plugins).Nodup) (world : σ) :
    (names (parsePluginConfigObjArray calls items plugins world).1).Nodup := by
  induction items generalizing plugins world with
  | nil => exact distinct
  | cons item rest ih =>
      rw [parsePluginConfigObjArray]
      dsimp only
      split
      · next pluginName version depEventIds _ _ _ =>
        cases admitted : (checkPluginNameAndSize calls plugins
            { pluginName, version, depEventIds } world).1 with
        | none => exact ih distinct _
        | some plugin =>
            refine ih ?_ _
            rw [names, List.map_append, List.map_singleton, ← List.concat_eq_append]
            exact distinct.concat (checkPluginNameAndSize_fresh admitted)
      · exact ih distinct world

variable (calls) in
theorem parsePluginConfig_distinct (cJsonParse : List UInt8 → Option Json)
    (file : Option (List UInt8)) (world : σ) :
    (names (parsePluginConfig calls cJsonParse file [] world).2.1).Nodup := by
  have none : (names []).Nodup := List.nodup_nil
  cases file with
  | none => exact none
  | some content =>
      rw [parsePluginConfig]
      split_ifs
      · exact none
      · split
        · exact parsePluginConfigObjArray_distinct calls none world
        · exact none

/-! ## Runs -/

/-- What holds after the plugins are loaded: the set that the task goes through is a part of the
failed events, and the task ends with none or when it is told to stop. -/
structure Settled (manager : DetectPluginManager σ) : Prop where
  registered : manager.Registered
  distinct : (names manager.initialised).Nodup
  task : match manager.retryTask with
    | .retrying tmpSet _ =>
        tmpSet.Nodup ∧ ∀ eventId ∈ tmpSet, manager.failedEventIdset.contains eventId = true
    | .ended => manager.failedEventIdset.size = 0 ∨ manager.isStopRetry = true
    | _ => True

theorem settled_loadAllPlugins (cJsonParse : List UInt8 → Option Json)
    (file : Option (List UInt8)) (world : σ) (isStopRetry : Bool) :
    (loadAllPlugins calls { world, isStopRetry } cJsonParse file).Settled := by
  have distinct := parsePluginConfig_distinct calls cJsonParse file world
  rw [loadAllPlugins]
  dsimp only
  generalize parsePluginConfig calls cJsonParse file [] world = parsed at distinct ⊢
  have start : ({ world := parsed.2.2, isStopRetry, plugins := parsed.2.1 } :
      DetectPluginManager σ).Registered := ⟨fun _ _ => rfl, fun _ _ => ⟨rfl, rfl⟩⟩
  obtain ⟨registered, loaded, task⟩ := start.loadPlugins calls distinct
  dsimp only at registered loaded task
  split_ifs
  · exact ⟨start, List.nodup_nil, trivial⟩
  · refine ⟨registered, loaded, ?_⟩
    rw [task]
    trivial
  · refine ⟨registered.same rfl rfl rfl rfl, loaded, ?_⟩
    dsimp only
    rw [task]
    trivial
  · exact ⟨registered.same rfl rfl rfl rfl, loaded, trivial⟩

/-- A failed event that is subscribed again is subscribed or pending again. -/
theorem Registered.retry (registered : manager.Registered)
    (failed : manager.failedEventIdset.contains eventId = true) :
    (subscribeEvent calls
      { manager with failedEventIdset := manager.failedEventIdset.erase eventId }
        eventId).Registered := by
  obtain ⟨eventIdMap, initialised, -⟩ := subscribeEvent_same calls
    { manager with failedEventIdset := manager.failedEventIdset.erase eventId } eventId
  constructor
  · intro other ordinary
    rw [pluginsOf, dependents, eventIdMap, initialised]
    exact registered.entered other ordinary
  · intro other ordinary
    have attended := registered.attended other ordinary
    by_cases same : other = eventId
    · subst same
      rw [Attended] at attended ⊢
      rw [eventIdMap]
      split_ifs at attended ⊢ with entered
      · have untried : Untried
            { manager with failedEventIdset := manager.failedEventIdset.erase other } other := by
          rcases attended with ⟨-, absent⟩ | ⟨none, -⟩
          · exact absurd failed (by simp [absent])
          · exact ⟨none, by simp⟩
        exact untried.subscribeEvent
      · exact absurd failed (by simp [attended.2])
    · have kept := subscribeEvent_of_ne calls
        { manager with failedEventIdset := manager.failedEventIdset.erase eventId } same
      refine attended.same (by rw [eventIdMap]) kept.1 (kept.2.trans ?_)
      simp [same]

theorem Settled.retrySubscriptionTask (settled : manager.Settled)
    (taken : manager.retrySubscriptionTask calls = some after) : after.Settled := by
  obtain ⟨registered, distinct, task⟩ := settled
  rw [DetectPluginManager.retrySubscriptionTask] at taken
  split at taken
  · contradiction
  · contradiction
  · split_ifs at taken with goes
    · obtain rfl := Option.some.inj taken
      refine ⟨registered.same rfl rfl rfl rfl, distinct, ?_⟩
      have visited := calls.order_perm manager.failedEventIdset manager.world
      exact ⟨visited.nodup_iff.mpr manager.failedEventIdset.keys_nodup,
        fun eventId mem => SortedMap.mem_keys_iff.mp (visited.mem_iff.mp mem)⟩
    · obtain rfl := Option.some.inj taken
      refine ⟨registered.same rfl rfl rfl rfl, distinct, ?_⟩
      dsimp only
      rw [not_and_or, not_not] at goes
      exact goes.symm.imp id fun stopped => by simpa using stopped
  · next eventId rest retryInterval running =>
    rw [running] at task
    obtain ⟨⟨fresh, distinct'⟩, failed⟩ := task.imp List.nodup_cons.mp List.forall_mem_cons.mp
    split_ifs at taken
    · obtain rfl := Option.some.inj taken
      exact ⟨registered.same rfl rfl rfl rfl, distinct, List.nodup_nil, by simp⟩
    · obtain rfl := Option.some.inj taken
      refine ⟨(registered.retry failed.1).same rfl rfl rfl rfl, ?_, distinct', fun other mem => ?_⟩
      · dsimp only
        rw [(subscribeEvent_same ..).2.1]
        exact distinct
      · have different : other ≠ eventId := fun same => fresh (same ▸ mem)
        refine (subscribeEvent_of_ne calls _ different).2.trans ?_
        simpa [different] using failed.2 other mem
  · split_ifs at taken with finished
    · obtain rfl := Option.some.inj taken
      exact ⟨registered.same rfl rfl rfl rfl, distinct, finished⟩
    · obtain rfl := Option.some.inj taken
      exact ⟨registered.same rfl rfl rfl rfl, distinct, trivial⟩
  · split_ifs at taken
    · obtain rfl := Option.some.inj taken
      exact ⟨registered.same rfl rfl rfl rfl, distinct, trivial⟩
    · obtain rfl := Option.some.inj taken
      exact ⟨registered.same rfl rfl rfl rfl, distinct, trivial⟩

theorem Settled.next (settled : manager.Settled) {action : PluginAction}
    (taken : next calls manager action = some after) : after.Settled := by
  cases action with
  | retrySubscriptionTask => exact settled.retrySubscriptionTask taken
  | stopRetryTask =>
      obtain rfl := Option.some.inj taken
      obtain ⟨registered, distinct, task⟩ := settled
      refine ⟨registered.same rfl rfl rfl rfl, distinct, ?_⟩
      dsimp only
      split
      · next running => rwa [running] at task
      · exact .inr rfl
      · trivial

/-- Every event of an initialised plugin is subscribed once or pending, the task ends only with
no failed event or when it is told to stop, and an event is passed once to every plugin that
depends on it. -/
structure Covered (print : Json → Option String) (manager : DetectPluginManager σ) : Prop where
  attended : ∀ plugin ∈ manager.initialised, ∀ eventId,
    plugin.depEventIds.contains eventId = true → eventId ≠ specialId →
      manager.SubscribedOrPending eventId
  ends : manager.retryTask = .ended →
    manager.failedEventIdset.size = 0 ∨ manager.isStopRetry = true
  dispatched : ∀ plugin ∈ manager.initialised, ∀ event : CollectorEvent,
    plugin.depEventIds.contains event.eventId = true → event.eventId ≠ specialId →
      (manager.dispatchEvent print event).countP
        (fun handled => handled.pluginName = plugin.pluginName) = 1

theorem mem_dependents {plugin : PluginCfg} (mem : plugin ∈ manager.initialised)
    (depends : plugin.depEventIds.contains eventId = true) :
    plugin ∈ manager.dependents eventId :=
  List.mem_filter.mpr ⟨mem, depends⟩

/-- The event of a plugin is entered with its plugins. -/
theorem Registered.get?_eventIdMap (registered : manager.Registered) {plugin : PluginCfg}
    (mem : plugin ∈ manager.initialised) (depends : plugin.depEventIds.contains eventId = true)
    (ordinary : eventId ≠ specialId) :
    manager.eventIdMap.get? eventId =
      some ((manager.dependents eventId).map fun plugin =>
        { pluginName := plugin.pluginName }) := by
  have entered := registered.entered eventId ordinary
  rw [pluginsOf] at entered
  cases found : manager.eventIdMap.get? eventId with
  | none =>
      rw [found, Option.getD_none] at entered
      exact absurd (mem_dependents mem depends) (by simp [List.map_eq_nil_iff.mp entered.symm])
  | some plugins =>
      rw [found, Option.getD_some] at entered
      rw [entered]

theorem Settled.covered (settled : manager.Settled) (print : Json → Option String) :
    manager.Covered print := by
  obtain ⟨registered, distinct, task⟩ := settled
  constructor
  · intro plugin mem eventId depends ordinary
    have attended := registered.attended eventId ordinary
    rwa [Attended, if_pos (SortedMap.contains_iff.mpr
      ⟨_, registered.get?_eventIdMap mem depends ordinary⟩)] at attended
  · intro ended
    rwa [ended] at task
  · intro plugin mem event depends ordinary
    rw [dispatchEvent, registered.get?_eventIdMap mem depends ordinary]
    dsimp only
    rw [List.map_map, List.countP_map]
    have once : (names (manager.dependents event.eventId)).count plugin.pluginName = 1 :=
      List.count_eq_one_of_mem (distinct.sublist (List.filter_sublist.map _))
        (List.mem_map_of_mem (mem_dependents mem depends))
    rw [names, List.count, List.countP_map] at once
    rw [← once]
    refine List.countP_congr fun other _ => ?_
    simp

/-- Once the plugins are loaded, their events stay covered, whatever fails and whenever the task
is told to stop.  The initialised plugins are the admitted ones whose four calls succeeded, and the
subscribed events are those whose subscription succeeded, both by the answers to the calls. -/
theorem plugins_stay_covered (calls : PluginCalls σ) (cJsonParse : List UInt8 → Option Json)
    (print : Json → Option String) (file : Option (List UInt8)) (world : σ) (isStopRetry : Bool)
    (actions : List PluginAction) :
    let admitted := (parsePluginConfig calls.recording cJsonParse file [] { world }).2.1
    Transition.Visits (next calls.recording)
      (fun manager => manager.Answered admitted ∧ manager.Covered print)
      (loadAllPlugins calls.recording { world := { world }, isStopRetry } cJsonParse file)
      actions := by
  intro admitted
  have step {before after : DetectPluginManager (AnsweredWorld σ)} {action : PluginAction}
      (held : before.Answered admitted ∧ before.Settled)
      (taken : next calls.recording before action = some after) :
      after.Answered admitted ∧ after.Settled := ⟨held.1.next taken, held.2.next taken⟩
  exact Transition.visits_of_stable step (fun _ held => ⟨held.1, held.2.covered print⟩)
    ⟨answered_loadAllPlugins calls cJsonParse file world isStopRetry,
      settled_loadAllPlugins cJsonParse file _ isStopRetry⟩

/-- Every call succeeds but the first subscription; the world counts the subscriptions. -/
def failingOnce : PluginCalls Nat where
  pathToRealPath path world := (some path, world)
  dlopen _ world := (true, world)
  dlsym _ world := (true, world)
  createDetectPlugin _ world := (true, world)
  init _ world := (true, world)
  subscribe _ world := (if world = 0 then .failed else .success, world + 1)
  order set _ := set.keys
  order_perm set _ := .refl set.keys

/-- A plugin that depends on the events 5 and 7. -/
def onePlugin : Json :=
  .object [("plugins", .array [.object [("pluginName", .text "libdetect.z.so"),
    ("version", .text "1"), ("depEventIds", .array [.text "5", .text "7"])]])]

/-- The manager after loading the plugin. -/
def onePluginLoaded : DetectPluginManager (AnsweredWorld Nat) :=
  loadAllPlugins failingOnce.recording { world := { world := 0 } } (fun _ => some onePlugin)
    (some [0])

/-- The plugin is initialised, event 7 is subscribed at once and event 5 by the task. -/
theorem plugins_stay_covered_onePlugin :
    ∃ manager : DetectPluginManager (AnsweredWorld Nat),
      Transition.run (next failingOnce.recording) onePluginLoaded
          (.replicate 3 .retrySubscriptionTask) = some manager ∧
        names manager.initialised = ["libdetect.z.so"] ∧ manager.subscribed = [7, 5] ∧
          manager.retryTask = .ended ∧
            manager.Answered (parsePluginConfig failingOnce.recording (fun _ => some onePlugin)
              (some [0]) [] { world := 0 }).2.1 ∧
              manager.Covered fun _ => some "" := by
  let manager := (Transition.run (next failingOnce.recording) onePluginLoaded
    (.replicate 3 .retrySubscriptionTask)).getD onePluginLoaded
  have reach : Transition.run (next failingOnce.recording) onePluginLoaded
      (.replicate 3 .retrySubscriptionTask) = some manager :=
    Transition.run_eq_getD (by decide +kernel)
  refine ⟨manager, reach, by decide +kernel, by decide +kernel, by decide +kernel, ?_⟩
  exact (plugins_stay_covered failingOnce (fun _ => some onePlugin) (fun _ => some "") (some [0]) 0
    false _).last reach

end DetectPluginManager

end SecurityGuard
