import SecurityGuard.RiskClassify.DetectPlugins

/-!
# The answers that detection plugins give

A ledger keeps what the loader, the plugins and the subscriptions answer, in the order of the
calls.  From it alone follows which plugins were initialised and which events were subscribed.
-/

namespace SecurityGuard

/-- An answer to a call that loads a plugin or subscribes an event. -/
inductive PluginAnswer where
  | dlopen (pluginPath : String) (opened : Bool)
  | dlsym (pluginPath : String) (found : Bool)
  | createDetectPlugin (pluginPath : String) (created : Bool)
  | init (pluginPath : String) (succeeded : Bool)
  | subscribe (eventId : Int) (code : Code)
  deriving DecidableEq

namespace PluginAnswer

/-- The answer is about the loading of a plugin. -/
def isLoading : PluginAnswer → Bool
  | .subscribe _ _ => false
  | .dlopen _ _ | .dlsym _ _ | .createDetectPlugin _ _ | .init _ _ => true

/-- The event whose subscription was answered with success. -/
def subscribed? : PluginAnswer → Option Int
  | .subscribe eventId code => if code = .success then some eventId else none
  | .dlopen _ _ | .dlsym _ _ | .createDetectPlugin _ _ | .init _ _ => none

end PluginAnswer

/-- Plugins that are loaded one after another, the answers to the calls that load them, and those
of them that are initialised.  A plugin is initialised if it is opened, its function is found and
creates an instance, and `Init` succeeds. -/
inductive Loads : List PluginCfg → List PluginAnswer → List PluginCfg → Prop where
  | none : Loads [] [] []
  | notOpened {plugin : PluginCfg} {plugins initialised : List PluginCfg}
      {answers : List PluginAnswer} (rest : Loads plugins answers initialised) :
      Loads (plugin :: plugins) (.dlopen plugin.pluginPath false :: answers) initialised
  | notFound {plugin : PluginCfg} {plugins initialised : List PluginCfg}
      {answers : List PluginAnswer} (rest : Loads plugins answers initialised) :
      Loads (plugin :: plugins)
        (.dlopen plugin.pluginPath true :: .dlsym plugin.pluginPath false :: answers) initialised
  | notCreated {plugin : PluginCfg} {plugins initialised : List PluginCfg}
      {answers : List PluginAnswer} (rest : Loads plugins answers initialised) :
      Loads (plugin :: plugins)
        (.dlopen plugin.pluginPath true :: .dlsym plugin.pluginPath true ::
          .createDetectPlugin plugin.pluginPath false :: answers) initialised
  | notInitialised {plugin : PluginCfg} {plugins initialised : List PluginCfg}
      {answers : List PluginAnswer} (rest : Loads plugins answers initialised) :
      Loads (plugin :: plugins)
        (.dlopen plugin.pluginPath true :: .dlsym plugin.pluginPath true ::
          .createDetectPlugin plugin.pluginPath true :: .init plugin.pluginPath false :: answers)
        initialised
  | initialised {plugin : PluginCfg} {plugins initialised : List PluginCfg}
      {answers : List PluginAnswer} (rest : Loads plugins answers initialised) :
      Loads (plugin :: plugins)
        (.dlopen plugin.pluginPath true :: .dlsym plugin.pluginPath true ::
          .createDetectPlugin plugin.pluginPath true :: .init plugin.pluginPath true :: answers)
        (plugin :: initialised)

theorem Loads.append {plugins later initialised initialisedLater : List PluginCfg}
    {answers answersLater : List PluginAnswer} (first : Loads plugins answers initialised)
    (second : Loads later answersLater initialisedLater) :
    Loads (plugins ++ later) (answers ++ answersLater) (initialised ++ initialisedLater) := by
  induction first with
  | none => exact second
  | notOpened _ ih => exact .notOpened ih
  | notFound _ ih => exact .notFound ih
  | notCreated _ ih => exact .notCreated ih
  | notInitialised _ ih => exact .notInitialised ih
  | initialised _ ih => exact .initialised ih

/-- A world and the answers that it gave. -/
structure AnsweredWorld (σ : Type) where
  world : σ
  answers : List PluginAnswer := []

/-- Make a call and write its answer down. -/
def AnsweredWorld.ask {σ α : Type} (outside : σ → α × σ) (answer : α → PluginAnswer)
    (asked : AnsweredWorld σ) : α × AnsweredWorld σ :=
  let answered := outside asked.world
  (answered.1, { world := answered.2, answers := asked.answers ++ [answer answered.1] })

/-- The calls, with the ledger. -/
def PluginCalls.recording {σ : Type} (calls : PluginCalls σ) : PluginCalls (AnsweredWorld σ) where
  pathToRealPath path asked :=
    let resolved := calls.pathToRealPath path asked.world
    (resolved.1, { asked with world := resolved.2 })
  dlopen path := AnsweredWorld.ask (calls.dlopen path) (.dlopen path)
  dlsym path := AnsweredWorld.ask (calls.dlsym path) (.dlsym path)
  createDetectPlugin path :=
    AnsweredWorld.ask (calls.createDetectPlugin path) (.createDetectPlugin path)
  init path := AnsweredWorld.ask (calls.init path) (.init path)
  subscribe eventId := AnsweredWorld.ask (calls.subscribe eventId) (.subscribe eventId)
  order set asked := calls.order set asked.world
  order_perm set asked := calls.order_perm set asked.world

namespace PluginCalls

variable {σ : Type} (calls : PluginCalls σ) (path : String)

theorem recording_dlopen :
    calls.recording.dlopen path = AnsweredWorld.ask (calls.dlopen path) (.dlopen path) := rfl

theorem recording_dlsym :
    calls.recording.dlsym path = AnsweredWorld.ask (calls.dlsym path) (.dlsym path) := rfl

theorem recording_createDetectPlugin :
    calls.recording.createDetectPlugin path =
      AnsweredWorld.ask (calls.createDetectPlugin path) (.createDetectPlugin path) := rfl

theorem recording_init :
    calls.recording.init path = AnsweredWorld.ask (calls.init path) (.init path) := rfl

end PluginCalls

namespace DetectPluginManager

open PluginCalls

variable {σ : Type} (calls : PluginCalls σ) {manager middle after :
  DetectPluginManager (AnsweredWorld σ)} {plugins later : List PluginCfg}

/-- Some steps loaded plugins: what is initialised and subscribed follows from the answers. -/
def Follows (plugins : List PluginCfg) (before after : DetectPluginManager (AnsweredWorld σ)) :
    Prop :=
  ∃ answers initialised,
    after.world.answers = before.world.answers ++ answers ∧
      Loads plugins (answers.filter PluginAnswer.isLoading) initialised ∧
        after.initialised = before.initialised ++ initialised ∧
          after.subscribed = before.subscribed ++ answers.filterMap PluginAnswer.subscribed?

theorem Follows.same (answers : after.world.answers = manager.world.answers)
    (initialised : after.initialised = manager.initialised)
    (subscribed : after.subscribed = manager.subscribed) : Follows [] manager after :=
  ⟨[], [], by simpa using answers, .none, by simpa using initialised, by simpa using subscribed⟩

theorem Follows.trans (first : Follows plugins manager middle)
    (second : Follows later middle after) : Follows (plugins ++ later) manager after := by
  obtain ⟨answers, initialised, asked, loads, grown, subscribed⟩ := first
  obtain ⟨answers', initialised', asked', loads', grown', subscribed'⟩ := second
  refine ⟨answers ++ answers', initialised ++ initialised', ?_, ?_, ?_, ?_⟩
  · rw [asked', asked, List.append_assoc]
  · rw [List.filter_append]
    exact loads.append loads'
  · rw [grown', grown, List.append_assoc]
  · rw [subscribed', subscribed, List.filterMap_append, List.append_assoc]

/-- Some answers were given, and nothing was initialised or subscribed. -/
structure Asks (answers : List PluginAnswer)
    (before after : DetectPluginManager (AnsweredWorld σ)) : Prop where
  answers : after.world.answers = before.world.answers ++ answers
  initialised : after.initialised = before.initialised
  subscribed : after.subscribed = before.subscribed

variable (manager)

theorem subscribeEvent_follows (eventId : Int) :
    Follows [] manager (manager.subscribeEvent calls.recording eventId) := by
  refine ⟨[.subscribe eventId (calls.subscribe eventId manager.world.world).1], [], ?_, .none, ?_,
    ?_⟩
  all_goals
    rw [subscribeEvent]
    simp only [call, PluginCalls.recording, AnsweredWorld.ask, List.filterMap_cons,
      List.filterMap_nil, PluginAnswer.subscribed?]
    split_ifs <;> simp_all

theorem registerEvent_follows (plugin : DetectPluginAttrs) (eventId : Int) :
    Follows [] manager (manager.registerEvent calls.recording plugin eventId) := by
  rw [registerEvent]
  split_ifs
  · exact .same rfl rfl rfl
  · exact (subscribeEvent_follows calls manager eventId).trans (.same rfl rfl rfl)

theorem registerEvents_follows (plugin : DetectPluginAttrs) (events : List Int) :
    Follows [] manager (events.foldl
      (fun manager eventId => manager.registerEvent calls.recording plugin eventId) manager) := by
  induction events generalizing manager with
  | nil => exact .same rfl rfl rfl
  | cons event rest ih => exact (registerEvent_follows calls manager plugin event).trans (ih _)

/-- Entering a plugin initialises it and subscribes events. -/
theorem registerPlugin_follows (pluginCfg : PluginCfg) :
    Follows [] { manager with initialised := manager.initialised ++ [pluginCfg] }
      (manager.registerPlugin calls.recording pluginCfg) := by
  have entered := registerEvents_follows calls
    { manager with initialised := manager.initialised ++ [pluginCfg] }
    { pluginName := pluginCfg.pluginName }
    (calls.recording.order pluginCfg.depEventIds manager.world)
  rw [registerPlugin]
  split_ifs
  · exact entered.trans (.same rfl rfl rfl)
  · exact entered

variable {manager} in
theorem Asks.call {answers : List PluginAnswer} {start : DetectPluginManager (AnsweredWorld σ)}
    (asks : Asks answers start manager) {α : Type} {outside : σ → α × σ}
    {answer : α → PluginAnswer} {value : α}
    (answered : (manager.call (AnsweredWorld.ask outside answer)).1 = value) :
    Asks (answers ++ [answer value]) start
      (manager.call (AnsweredWorld.ask outside answer)).2 := by
  obtain ⟨asked, initialised, subscribed⟩ := asks
  refine ⟨?_, initialised, subscribed⟩
  rw [← answered, ← List.append_assoc, ← asked]
  rfl

variable {manager} in
/-- The answers to the calls that load plugins say which of them are initialised. -/
theorem Asks.follows {answers : List PluginAnswer} {initialised : List PluginCfg}
    (asks : Asks answers manager middle)
    (loading : answers.filter PluginAnswer.isLoading = answers)
    (unsubscribed : answers.filterMap PluginAnswer.subscribed? = [])
    (loads : Loads plugins answers initialised) (world : after.world = middle.world)
    (grown : after.initialised = middle.initialised ++ initialised)
    (subscribed : after.subscribed = middle.subscribed) : Follows plugins manager after := by
  refine ⟨answers, initialised, world ▸ asks.answers, by rwa [loading], ?_, ?_⟩
  · rw [grown, asks.initialised]
  · rw [unsubscribed, List.append_nil, subscribed, asks.subscribed]

/-- Loading a plugin asks for its library, its function, an instance and `Init`, as long as the
answers allow it, and initialises it exactly if all four succeed. -/
theorem loadPlugin_follows (pluginCfg : PluginCfg) :
    Follows [pluginCfg] manager (manager.loadPlugin calls.recording pluginCfg) := by
  have start : Asks [] manager manager := ⟨by simp, rfl, rfl⟩
  simp only [loadPlugin, recording_dlopen, recording_dlsym, recording_createDetectPlugin,
    recording_init, Bool.not_eq_true']
  -- The cases come in the order of the calls, so that each one that fails leaves the later cases
  -- with its success.
  split_ifs with notOpened notFound notCreated notInitialised
  · exact (start.call notOpened).follows rfl rfl (.notOpened .none) rfl (List.append_nil _).symm rfl
  all_goals have opened := start.call (Bool.eq_true_of_not_eq_false notOpened)
  · exact (opened.call notFound).follows rfl rfl (.notFound .none) rfl (List.append_nil _).symm rfl
  all_goals have found := opened.call (Bool.eq_true_of_not_eq_false notFound)
  · exact (found.call notCreated).follows rfl rfl (.notCreated .none) rfl
      (List.append_nil _).symm rfl
  all_goals have created := found.call (Bool.eq_true_of_not_eq_false notCreated)
  · exact (created.call notInitialised).follows rfl rfl (.notInitialised .none) rfl
      (List.append_nil _).symm rfl
  · have succeeded := created.call (Bool.eq_true_of_not_eq_false notInitialised)
    refine @Follows.trans _ _ _ _ [pluginCfg] [] ?_ (registerPlugin_follows calls _ pluginCfg)
    exact succeeded.follows rfl rfl (.initialised .none) rfl rfl rfl

theorem loadPlugins_follows (plugins : List PluginCfg) :
    Follows plugins manager
      (plugins.foldl (fun manager plugin => manager.loadPlugin calls.recording plugin)
        manager) := by
  induction plugins generalizing manager with
  | nil => exact .same rfl rfl rfl
  | cons plugin rest ih => exact (loadPlugin_follows calls manager plugin).trans (ih _)

variable {manager} in
theorem retrySubscriptionTask_follows
    (taken : manager.retrySubscriptionTask calls.recording = some after) :
    Follows [] manager after := by
  rw [retrySubscriptionTask] at taken
  split at taken
  · contradiction
  · contradiction
  · split_ifs at taken <;> obtain rfl := Option.some.inj taken <;> exact .same rfl rfl rfl
  · next eventId rest retryInterval _ =>
    split_ifs at taken
    · obtain rfl := Option.some.inj taken
      exact .same rfl rfl rfl
    · obtain rfl := Option.some.inj taken
      have erased : Follows [] manager
          { manager with failedEventIdset := manager.failedEventIdset.erase eventId } :=
        .same rfl rfl rfl
      exact (erased.trans (subscribeEvent_follows calls _ eventId)).trans (.same rfl rfl rfl)
  · split_ifs at taken <;> obtain rfl := Option.some.inj taken <;> exact .same rfl rfl rfl
  · split_ifs at taken <;> obtain rfl := Option.some.inj taken <;> exact .same rfl rfl rfl

/-- The initialised plugins are those of the admitted ones whose calls were answered with success,
and the subscribed events are those whose subscription was. -/
structure Answered (admitted : List PluginCfg) (manager : DetectPluginManager (AnsweredWorld σ)) :
    Prop where
  loads : Loads admitted (manager.world.answers.filter PluginAnswer.isLoading) manager.initialised
  subscribed : manager.subscribed = manager.world.answers.filterMap PluginAnswer.subscribed?

variable {manager} {admitted : List PluginCfg}

theorem Answered.follows (answered : manager.Answered admitted)
    (follows : Follows plugins manager after) : after.Answered (admitted ++ plugins) := by
  obtain ⟨answers, initialised, asked, loads, grown, subscribed⟩ := follows
  constructor
  · rw [asked, grown, List.filter_append]
    exact answered.loads.append loads
  · rw [asked, subscribed, answered.subscribed, List.filterMap_append]

theorem Answered.next {calls : PluginCalls σ} (answered : manager.Answered admitted)
    {action : PluginAction} (taken : next calls.recording manager action = some after) :
    after.Answered admitted := by
  cases action with
  | retrySubscriptionTask =>
      simpa using answered.follows (retrySubscriptionTask_follows calls taken)
  | stopRetryTask =>
      obtain rfl := Option.some.inj taken
      exact ⟨answered.loads, answered.subscribed⟩

theorem checkPluginNameAndSize_answers (plugins : List PluginCfg) (newPlugin : PluginCfg)
    (asked : AnsweredWorld σ) :
    (checkPluginNameAndSize calls.recording plugins newPlugin asked).2.answers =
      asked.answers := by
  rw [checkPluginNameAndSize]
  dsimp only
  cases (calls.recording.pathToRealPath (pluginPrefixPath ++ newPlugin.pluginName) asked).1 with
  | none => split_ifs <;> rfl
  | some pluginPath =>
      dsimp only
      split_ifs <;> rfl

theorem parsePluginConfigObjArray_answers (items : List Json) (plugins : List PluginCfg)
    (asked : AnsweredWorld σ) :
    (parsePluginConfigObjArray calls.recording items plugins asked).2.answers =
      asked.answers := by
  induction items generalizing plugins asked with
  | nil => rfl
  | cons item rest ih =>
      rw [parsePluginConfigObjArray]
      dsimp only
      split
      · split
        · rw [ih, checkPluginNameAndSize_answers]
        · rw [ih, checkPluginNameAndSize_answers]
      · exact ih plugins asked

theorem parsePluginConfig_spec (cJsonParse : List UInt8 → Option Json)
    (file : Option (List UInt8)) (plugins : List PluginCfg) (asked : AnsweredWorld σ) :
    let parsed := parsePluginConfig calls.recording cJsonParse file plugins asked
    (parsed.1 = false → parsed.2.1 = plugins) ∧ parsed.2.2.answers = asked.answers := by
  cases file with
  | none => exact ⟨fun _ => rfl, rfl⟩
  | some content =>
      rw [parsePluginConfig]
      split_ifs
      · exact ⟨fun _ => rfl, rfl⟩
      · split
        · exact ⟨fun refused => Bool.noConfusion refused,
            parsePluginConfigObjArray_answers calls _ plugins asked⟩
        · exact ⟨fun _ => rfl, rfl⟩

theorem answered_loadAllPlugins (cJsonParse : List UInt8 → Option Json)
    (file : Option (List UInt8)) (world : σ) (isStopRetry : Bool) :
    (loadAllPlugins calls.recording { world := { world }, isStopRetry } cJsonParse file).Answered
      (parsePluginConfig calls.recording cJsonParse file [] { world }).2.1 := by
  obtain ⟨refused, silent⟩ := parsePluginConfig_spec calls cJsonParse file [] { world }
  rw [loadAllPlugins]
  dsimp only at refused silent ⊢
  generalize parsePluginConfig calls.recording cJsonParse file [] { world } = parsed
    at refused silent ⊢
  have start : ({ world := parsed.2.2, isStopRetry, plugins := parsed.2.1 } :
      DetectPluginManager (AnsweredWorld σ)).Answered [] :=
    ⟨by rw [silent]; exact .none, by rw [silent]; rfl⟩
  have loaded := start.follows (loadPlugins_follows calls _ parsed.2.1)
  rw [List.nil_append] at loaded
  split_ifs with failed
  · rw [refused (by simpa using failed)] at start ⊢
    exact start
  · exact loaded
  · exact ⟨loaded.loads, loaded.subscribed⟩
  · exact ⟨loaded.loads, loaded.subscribed⟩

end DetectPluginManager

end SecurityGuard
