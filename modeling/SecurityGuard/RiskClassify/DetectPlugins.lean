import SecurityGuard.Config.Subscriber
import SecurityGuard.Event
import SecurityGuard.Foundation.Execution

/-!
# Detection plugins

`DetectPluginManager` loads the plugins of its configuration, subscribes their events and passes
every event on to the plugins that depend on it.  An event that cannot be subscribed is kept in a
set, which a task tries again until it is empty or told to stop.
-/

namespace SecurityGuard

/-- A plugin as the configuration lists it. -/
structure PluginCfg where
  pluginName : String
  pluginPath : String := ""
  depEventIds : SortedSet Int := .empty
  version : String := ""
  deriving DecidableEq

/-- A loaded plugin; its handle and its instance go with its name. -/
structure DetectPluginAttrs where
  pluginName : String
  deriving DecidableEq

/-- A call of `HandleEvent`. -/
structure HandledEvent where
  pluginName : String
  eventId : Int
  content : String
  metadata : String
  deriving DecidableEq

/-- The calls that leave the code.  A library is known by its path. -/
structure PluginCalls (σ : Type) where
  pathToRealPath : String → σ → Option String × σ
  dlopen : String → σ → Bool × σ
  /-- Whether `dlsym` finds `CreateDetectPlugin`. -/
  dlsym : String → σ → Bool × σ
  /-- Whether `CreateDetectPlugin` returns an instance. -/
  createDetectPlugin : String → σ → Bool × σ
  init : String → σ → Bool × σ
  subscribe : Int → σ → Code × σ
  /-- The order in which a loop visits an unordered set. -/
  order : SortedSet Int → σ → List Int
  order_perm : ∀ set world, (order set world).Perm set.keys

def maxPluginSize : Nat := 20
def pluginPrefixPath : String := "/system/lib64/"
def pluginCfgFileMaxSize : Nat := 1 * 1024 * 1024
def maxRetryInterval : Nat := 60
def retryIntervalIncrement : Nat := 10

/-- The event of the plugins without dependencies. -/
def specialId : Int := -1

/-- Enter the ids of an array; an id that cannot be read refuses the plugin. -/
def insertEventIds : List Json → SortedSet Int → Option (SortedSet Int)
  | [], depEventIds => some depEventIds
  | .text eventId :: rest, depEventIds =>
      match strToI64Hex eventId with
      | none => none
      | some value => insertEventIds rest (depEventIds.insert value ())
  | _ :: _, _ => none

/-- Read the events on which a plugin depends. -/
def parsePluginDepEventIds (plugin : Json) : Option (SortedSet Int) :=
  match plugin.findIgnoringCase "depEventIds" with
  | some (.array eventIds) => insertEventIds eventIds .empty
  | _ => none

section Config

variable {σ : Type} (calls : PluginCalls σ)

/-- Admit a plugin with the path of its library. -/
def checkPluginNameAndSize (plugins : List PluginCfg) (newPlugin : PluginCfg) (world : σ) :
    Option PluginCfg × σ :=
  if maxPluginSize ≤ plugins.length then (none, world)
  else
    let resolved := calls.pathToRealPath (pluginPrefixPath ++ newPlugin.pluginName) world
    match resolved.1 with
    | none => (none, resolved.2)
    | some pluginPath =>
        if !pluginPrefixPath.toList.isPrefixOf pluginPath.toList then (none, resolved.2)
        else if plugins.any fun plugin => plugin.pluginName = newPlugin.pluginName then
          (none, resolved.2)
        else (some { newPlugin with pluginPath }, resolved.2)

/-- Admit the plugins of an array one by one; an entry that is not correct is passed over. -/
def parsePluginConfigObjArray : List Json → List PluginCfg → σ → List PluginCfg × σ
  | [], plugins, world => (plugins, world)
  | item :: rest, plugins, world =>
      match item.getString "pluginName", item.getString "version",
        parsePluginDepEventIds item with
      | some pluginName, some version, some depEventIds =>
          let checked :=
            checkPluginNameAndSize calls plugins { pluginName, version, depEventIds } world
          match checked.1 with
          | none => parsePluginConfigObjArray rest plugins checked.2
          | some plugin => parsePluginConfigObjArray rest (plugins ++ [plugin]) checked.2
      | _, _, _ => parsePluginConfigObjArray rest plugins world

/-- Parse the content of the configuration file, which is absent if it cannot be read. -/
def parsePluginConfig (cJsonParse : List UInt8 → Option Json) (file : Option (List UInt8))
    (plugins : List PluginCfg) (world : σ) : Bool × List PluginCfg × σ :=
  match file with
  | none => (false, plugins, world)
  | some content =>
      if content.length = 0 ∨ pluginCfgFileMaxSize < content.length then (false, plugins, world)
      else
        match (cJsonParse content).bind fun document => document.findIgnoringCase "plugins" with
        | some (.array items) => (true, parsePluginConfigObjArray calls items plugins world)
        | _ => (false, plugins, world)

end Config

/-- Where the task is that subscribes events again. -/
inductive RetryTask where
  | idle
  /-- Before the test of the outer loop. -/
  | checking (retryInterval : Nat)
  /-- Between two events of the copied set, with those that are left. -/
  | retrying (tmpSet : List Int) (retryInterval : Nat)
  | sleeping (slept retryInterval : Nat)
  | ended
  deriving DecidableEq

/-- The manager with its world, its task and its history. -/
structure DetectPluginManager (σ : Type) where
  world : σ
  plugins : List PluginCfg := []
  eventIdMap : SortedMap Int (List DetectPluginAttrs) := .empty
  failedEventIdset : SortedSet Int := .empty
  isFailedEventStartRetry : Bool := false
  isStopRetry : Bool := false
  retryTask : RetryTask := .idle
  /-- The history: the plugins whose `Init` succeeded. -/
  initialised : List PluginCfg := []
  /-- The history: the events that were subscribed successfully. -/
  subscribed : List Int := []

namespace DetectPluginManager

variable {σ : Type} (calls : PluginCalls σ) (manager : DetectPluginManager σ)

/-- Make a call that leaves the code. -/
def call {α : Type} (outside : σ → α × σ) : α × DetectPluginManager σ :=
  ((outside manager.world).1, { manager with world := (outside manager.world).2 })

/-- Subscribe an event, or keep it for another attempt. -/
def subscribeEvent (eventId : Int) : DetectPluginManager σ :=
  let answer := manager.call (calls.subscribe eventId)
  if answer.1 ≠ .success then
    { answer.2 with failedEventIdset := answer.2.failedEventIdset.insert eventId () }
  else { answer.2 with subscribed := answer.2.subscribed ++ [eventId] }

/-- Enter a plugin behind the others of an event. -/
def emplaceBack (eventId : Int) (plugin : DetectPluginAttrs) : DetectPluginManager σ :=
  { manager with
    eventIdMap :=
      manager.eventIdMap.insert eventId ((manager.eventIdMap.get? eventId).getD [] ++ [plugin]) }

/-- Enter a plugin under an event, which its first plugin subscribes. -/
def registerEvent (plugin : DetectPluginAttrs) (eventId : Int) : DetectPluginManager σ :=
  if manager.eventIdMap.contains eventId then manager.emplaceBack eventId plugin
  else (manager.subscribeEvent calls eventId).emplaceBack eventId plugin

/-- Enter an initialised plugin under its events. -/
def registerPlugin (pluginCfg : PluginCfg) : DetectPluginManager σ :=
  let plugin : DetectPluginAttrs := { pluginName := pluginCfg.pluginName }
  let entered := (calls.order pluginCfg.depEventIds manager.world).foldl
    (fun manager eventId => manager.registerEvent calls plugin eventId)
    { manager with initialised := manager.initialised ++ [pluginCfg] }
  if pluginCfg.depEventIds.size = 0 then entered.emplaceBack specialId plugin else entered

/-- Open a plugin, create its instance, initialise it and enter it. -/
def loadPlugin (pluginCfg : PluginCfg) : DetectPluginManager σ :=
  let opened := manager.call (calls.dlopen pluginCfg.pluginPath)
  if !opened.1 then opened.2
  else
    let found := opened.2.call (calls.dlsym pluginCfg.pluginPath)
    if !found.1 then found.2
    else
      let created := found.2.call (calls.createDetectPlugin pluginCfg.pluginPath)
      if !created.1 then created.2
      else
        let initialised := created.2.call (calls.init pluginCfg.pluginPath)
        if !initialised.1 then initialised.2
        else initialised.2.registerPlugin calls pluginCfg

/-- Load the plugins of the configuration and start the task, unless it is told to stop. -/
def loadAllPlugins (cJsonParse : List UInt8 → Option Json) (file : Option (List UInt8)) :
    DetectPluginManager σ :=
  let parsed := parsePluginConfig calls cJsonParse file manager.plugins manager.world
  let configured := { manager with plugins := parsed.2.1, world := parsed.2.2 }
  if !parsed.1 then configured
  else
    let loaded := configured.plugins.foldl (fun manager plugin => manager.loadPlugin calls plugin)
      configured
    -- The task is started once.
    if loaded.isFailedEventStartRetry then loaded
    else if loaded.isStopRetry then { loaded with isFailedEventStartRetry := true }
    else { loaded with isFailedEventStartRetry := true, retryTask := .checking 10 }

/-- The metadata of an event; `print` fails without memory. -/
def assembleMetadata (print : Json → Option String) (event : CollectorEvent) : String :=
  (print (.object [("version", .text event.version), ("timestamp", .text event.timestamp)])).getD ""

/-- The calls of `HandleEvent` for an event. -/
def dispatchEvent (print : Json → Option String) (event : CollectorEvent) : List HandledEvent :=
  match manager.eventIdMap.get? event.eventId with
  | none => []
  | some plugins =>
      plugins.map fun plugin =>
        { pluginName := plugin.pluginName
          eventId := event.eventId
          content := event.content
          metadata := assembleMetadata print event }

/-- A step of the task, which ends for good. -/
def retrySubscriptionTask : Option (DetectPluginManager σ) :=
  match manager.retryTask with
  | .idle | .ended => none
  | .checking retryInterval =>
      if !manager.isStopRetry ∧ manager.failedEventIdset.size ≠ 0 then
        some
          { manager with
            retryTask :=
              .retrying (calls.order manager.failedEventIdset manager.world) retryInterval }
      else some { manager with retryTask := .ended }
  | .retrying (eventId :: rest) retryInterval =>
      -- A stop ends the loop over the copied set.
      if manager.isStopRetry then some { manager with retryTask := .retrying [] retryInterval }
      else
        -- The event leaves the set before it is tried, and a failure enters it again.
        let erased := { manager with failedEventIdset := manager.failedEventIdset.erase eventId }
        some { erased.subscribeEvent calls eventId with retryTask := .retrying rest retryInterval }
  | .retrying [] retryInterval =>
      if manager.failedEventIdset.size = 0 ∨ manager.isStopRetry then
        some { manager with retryTask := .ended }
      else some { manager with retryTask := .sleeping 0 retryInterval }
  | .sleeping slept retryInterval =>
      if slept < retryInterval ∧ !manager.isStopRetry then
        some { manager with retryTask := .sleeping (slept + 1) retryInterval }
      else
        some
          { manager with
            retryTask :=
              .checking (min (retryInterval + retryIntervalIncrement) maxRetryInterval) }

/-- What happens after the plugins are loaded; `StopRetryTask` also waits for the task. -/
inductive PluginAction where
  | retrySubscriptionTask
  | stopRetryTask

/-- The state after a step that is possible. -/
def next : Transition (DetectPluginManager σ) PluginAction
  | manager, .retrySubscriptionTask => manager.retrySubscriptionTask calls
  | manager, .stopRetryTask => some { manager with isStopRetry := true }

end DetectPluginManager

end SecurityGuard
