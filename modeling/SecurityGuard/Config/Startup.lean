import SecurityGuard.Config.Subscriber
import SecurityGuard.Foundation.Backed

/-!
# Starting with the stored configuration

`InitAllConfig` loads the events and the models from the updated file if there is one, and else
from the preset one, and the groups of events from their preset file.  An updated file that
cannot be read is not passed over for the preset one.
-/

namespace SecurityGuard

def eventGroupCfgFile : String := "security_guard_event_group.json"

/-- The entries of `CONFIG_PRESET_FILES`. -/
def eventPresetFile : String := "/system/etc/" ++ eventCfgFile
def modelPresetFile : String := "/system/etc/" ++ modelCfgFile
def eventGroupPresetFile : String := "/system/etc/" ++ eventGroupCfgFile

/-- Read an array of texts; any other element refuses it. -/
def Json.unmarshalTextList (document : Json) (key : String) : Option (List String) :=
  match document.find key with
  | some (array elements) =>
      elements.mapM fun element =>
        match element with
        | text value => some value
        | _ => none
  | _ => none

/-- A group of a document, which has a name. -/
structure NamedGroup where
  cfg : EventGroupCfg
  named : cfg.eventGroupName ≠ ""

/-- A text that is no number names no event.  The last field only has to be there. -/
def NamedGroup.fromJson (element : Json) : Option NamedGroup :=
  match element.unmarshalText "eventGroupName", element.unmarshalTextList "eventList",
      element.unmarshalTextList "permission", element.unmarshalInt32 "isBatchUpload" with
  | some eventGroupName, some eventList, some permissionList, some _ =>
      if named : eventGroupName = "" then none
      else
        some
          { cfg :=
              { eventGroupName
                eventList := (eventList.filterMap strToI64Hex).foldl
                  (fun events eventId => events.insert eventId ()) .empty
                permissionList := (permissionList.foldl
                  (fun permissions permission => permissions.insert permission ())
                  (.empty : SortedSet String)).keys }
            named }
  | _, _, _, _ => none

/-- Read the groups of a document. -/
def parseEventGroupConfig (document : Json) : Option (List NamedGroup) :=
  match document.find "eventGroupList" with
  | some (.array elements) => elements.mapM NamedGroup.fromJson
  | _ => none

/-- The groups by their names, the last of each name. -/
def eventGroupMapOf (groups : List NamedGroup) : SortedMap String EventGroupCfg :=
  groups.foldl (fun map group => map.insert group.cfg.eventGroupName group.cfg) .empty

theorem contains_eventGroupMapOf (groups : List NamedGroup) :
    (eventGroupMapOf groups).contains "" = false := by
  have entered (groups : List NamedGroup) (map : SortedMap String EventGroupCfg)
      (unnamed : map.contains "" = false) :
      (groups.foldl (fun map group => map.insert group.cfg.eventGroupName group.cfg)
        map).contains "" = false := by
    induction groups generalizing map with
    | nil => exact unnamed
    | cons group groups ih =>
        refine ih _ ?_
        rw [SortedMap.contains_insert, unnamed, decide_eq_false group.named.symm, Bool.or_false]
  exact entered groups .empty (SortedMap.contains_empty "")

/-- `InsertEventGroupMap` replaces all groups. -/
def ConfigData.insertEventGroupMap (config : ConfigData) (groups : List NamedGroup) :
    ConfigData :=
  { config with
    eventGroupMap := eventGroupMapOf groups
    named := contains_eventGroupMapOf groups }

/-- Which of the three streams open. -/
structure InitCalls where
  eventOpens : Bool := true
  modelOpens : Bool := true
  groupOpens : Bool := true

/-- The text of a file that `Check` lets pass. -/
def checkedText (content : List UInt8) : Option String :=
  if content.length = 0 ∨ cfgFileMaxSize < content.length then none else fileText content

/-- The text of a file after `Load` and `Check`. -/
def Files.openChecked (files : Files) (opens : Bool) (path : String) : Option String :=
  (files.get? path).bind fun content => if !opens then none else checkedText content

/-- Where `Load` looks when the service starts. -/
def Files.startFile (files : Files) (updateFile presetFile : String) : String :=
  if files.contains updateFile then updateFile else presetFile

namespace ConfigWorld

variable (parsers : Parsers) (world : ConfigWorld)

/-- Read the events from their file. -/
def initEventConfig (opens : Bool) : Bool × ConfigWorld :=
  let path := world.files.startFile eventUpdateFile eventPresetFile
  let parsed := world.config.parse parsers.parseJson (world.files.openChecked opens path)
  (parsed.1, { world with config := parsed.2 })

/-- Read the models from their file. -/
def initModelConfig (opens : Bool) : Bool × ConfigWorld :=
  let path := world.files.startFile modelUpdateFile modelPresetFile
  match ((world.files.openChecked opens path).bind parsers.parseJson).bind parseModelConfig with
  | none => (false, world)
  | some configs =>
      (true,
        { world with
          modelMap := configs.foldl (fun models cfg => models.insert cfg.modelId cfg)
            world.modelMap })

/-- Read the groups from their file. -/
def initEventGroupConfig (opens : Bool) : Bool × ConfigWorld :=
  let stream := world.files.openChecked opens eventGroupPresetFile
  match (stream.bind parsers.parseJson).bind parseEventGroupConfig with
  | none => (false, world)
  | some groups => (true, { world with config := world.config.insertEventGroupMap groups })

/-- A configuration that cannot be loaded does not keep the next one from loading. -/
def initAllConfig (calls : InitCalls) : Bool × ConfigWorld :=
  let events := world.initEventConfig parsers calls.eventOpens
  let models := events.2.initModelConfig parsers calls.modelOpens
  let groups := models.2.initEventGroupConfig parsers calls.groupOpens
  (events.1 && models.1 && groups.1, groups.2)

end ConfigWorld

/-- The events of a file that is not refused. -/
def parseEventFile (parsers : Parsers) (content : List UInt8) : Option (List EventCfg) :=
  ConfigData.readConfigs parsers.parseJson (checkedText content)

/-- The models of a file that is not refused. -/
def parseModelFile (parsers : Parsers) (content : List UInt8) : Option (List ModelCfg) :=
  ((checkedText content).bind parsers.parseJson).bind parseModelConfig

/-- The groups of a file that is not refused. -/
def parseEventGroupFile (parsers : Parsers) (content : List UInt8) : Option (List NamedGroup) :=
  ((checkedText content).bind parsers.parseJson).bind parseEventGroupConfig

/-- Every event with the configuration it gets, under both of its ids. -/
def eventEntries (configs : List EventCfg) : List (Int × EventCfg) :=
  configs.flatMap fun cfg =>
    if cfg.oldEventId ≠ 0 then [(cfg.oldEventId, cfg), (cfg.eventId, cfg)]
    else [(cfg.eventId, cfg)]

/-- The models with their ids. -/
def modelEntries (configs : List ModelCfg) : List (Nat × ModelCfg) :=
  configs.map fun cfg => (cfg.modelId, cfg)

/-- The events by their ids, the last of each id. -/
def eventMapOf (configs : List EventCfg) : SortedMap Int EventCfg :=
  (eventEntries configs).foldl (fun events entry => events.insert entry.1 entry.2) .empty

/-- The models by their ids, the last of each id. -/
def modelMapOf (configs : List ModelCfg) : SortedMap Nat ModelCfg :=
  (modelEntries configs).foldl (fun models entry => models.insert entry.1 entry.2) .empty

theorem eventEntries_cons (cfg : EventCfg) (configs : List EventCfg) :
    eventEntries (cfg :: configs) =
      (if cfg.oldEventId ≠ 0 then [(cfg.oldEventId, cfg), (cfg.eventId, cfg)]
        else [(cfg.eventId, cfg)]) ++ eventEntries configs :=
  List.flatMap_cons

theorem foldl_events (configs : List EventCfg) (events : SortedMap Int EventCfg) :
    configs.foldl
        (fun events cfg =>
          let cached := if cfg.oldEventId ≠ 0 then events.insert cfg.oldEventId cfg else events
          cached.insert cfg.eventId cfg)
        events =
      (eventEntries configs).foldl (fun events entry => events.insert entry.1 entry.2)
        events := by
  induction configs generalizing events with
  | nil => rfl
  | cons cfg configs ih =>
      rw [List.foldl_cons, ih, eventEntries_cons, List.foldl_append]
      split_ifs
      · rfl
      · rfl

theorem eventTables (configs : List EventCfg) :
    (configs.flatMap fun cfg =>
      if cfg.oldEventId ≠ 0 then [(cfg.oldEventId, cfg.dbTable), (cfg.eventId, cfg.dbTable)]
      else [(cfg.eventId, cfg.dbTable)]) =
        (eventEntries configs).map fun entry => (entry.1, entry.2.dbTable) := by
  rw [eventEntries, List.map_flatMap]
  refine congrArg (configs.flatMap ·) (funext fun cfg => ?_)
  split_ifs
  · rfl
  · rfl

/-- Every configured event gets its own table. -/
theorem get?_eventTables {configs : List EventCfg} {eventId : Int} {cfg : EventCfg}
    (found : (eventMapOf configs).get? eventId = some cfg) (tables : SortedMap Int String) :
    (((eventEntries configs).map fun entry => (entry.1, entry.2.dbTable)).foldl
      (fun tables entry => tables.insert entry.1 entry.2) tables).get? eventId =
        some cfg.dbTable := by
  have table (entries : List (Int × EventCfg)) :
      (entries.map fun entry => (entry.1, entry.2.dbTable)).lookup eventId =
        (entries.lookup eventId).map EventCfg.dbTable := by
    induction entries with
    | nil => rfl
    | cons entry entries ih =>
        obtain ⟨other, otherCfg⟩ := entry
        rw [List.map_cons, List.lookup_cons, List.lookup_cons]
        cases eventId == other
        · exact ih
        · rfl
  rw [eventMapOf, SortedMap.get?_foldl_insert_entries, SortedMap.get?_empty,
    Option.or_none] at found
  rw [SortedMap.get?_foldl_insert_entries, ← List.map_reverse, table, found, Option.map_some,
    Option.some_or]

theorem foldl_models (configs : List ModelCfg) (models : SortedMap Nat ModelCfg) :
    configs.foldl (fun models cfg => models.insert cfg.modelId cfg) models =
      (modelEntries configs).foldl (fun models entry => models.insert entry.1 entry.2) models := by
  rw [modelEntries, List.foldl_map]

namespace ConfigData

variable {parseJson : String → Option Json} {stream : Option String} {configs : List EventCfg}

theorem update_of_read (config : ConfigData) (read : readConfigs parseJson stream = some configs) :
    config.update parseJson stream true =
      (true, config.swapEventConfigMapWithTables (eventMapOf configs)
        ((eventEntries configs).map fun entry => (entry.1, entry.2.dbTable))) := by
  rw [update, read, eventMapOf, ← foldl_events, ← eventTables]
  rfl

theorem eventGroupMap_cacheEventConfig (config : ConfigData) (configs : List EventCfg) :
    (config.cacheEventConfig configs).eventGroupMap = config.eventGroupMap := by
  rw [cacheEventConfig]
  induction configs generalizing config with
  | nil => rfl
  | cons cfg configs ih =>
      rw [List.foldl_cons, ih]
      dsimp only
      split_ifs
      · rfl
      · rfl

theorem eventGroupMap_cacheEventToTable (config : ConfigData) (configs : List EventCfg) :
    (config.cacheEventToTable configs).eventGroupMap = config.eventGroupMap := by
  rw [cacheEventToTable]
  induction configs generalizing config with
  | nil => rfl
  | cons cfg configs ih =>
      rw [List.foldl_cons, ih]
      dsimp only
      split_ifs
      · rfl
      · rfl

theorem parse_of_read (config : ConfigData) (read : readConfigs parseJson stream = some configs) :
    (config.parse parseJson stream).1 = true ∧
      (config.parse parseJson stream).2.eventMap =
        (eventEntries configs).foldl (fun events entry => events.insert entry.1 entry.2)
          config.eventMap ∧
      (config.parse parseJson stream).2.eventToTableMap =
        ((eventEntries configs).map fun entry => (entry.1, entry.2.dbTable)).foldl
          (fun tables entry => tables.insert entry.1 entry.2) config.eventToTableMap ∧
      (config.parse parseJson stream).2.eventGroupMap = config.eventGroupMap := by
  obtain ⟨events, untouched⟩ := config.cacheEventConfig_maps configs
  obtain ⟨kept, tables⟩ := (config.cacheEventConfig configs).cacheEventToTable_maps configs
  rw [parse, read, ← foldl_events, ← eventTables, ← untouched, ← tables]
  refine ⟨rfl, kept.trans events, rfl, ?_⟩
  rw [eventGroupMap_cacheEventToTable, eventGroupMap_cacheEventConfig]

end ConfigData

theorem get?_startFile (files : Files) (updateFile presetFile : String) :
    files.get? (files.startFile updateFile presetFile) =
      (files.get? updateFile).or (files.get? presetFile) := by
  rw [Files.startFile, SortedMap.contains]
  cases found : files.get? updateFile with
  | none => rfl
  | some content => exact found

theorem parse_openChecked {α : Type} (files : Files) (opens : Bool) (path : String)
    (parseJson : String → Option Json) (parse : Json → Option α) :
    ((files.openChecked opens path).bind parseJson).bind parse =
      if opens then
        (files.get? path).bind fun content => ((checkedText content).bind parseJson).bind parse
      else none := by
  rw [Files.openChecked]
  cases files.get? path with
  | none => cases opens <;> rfl
  | some content => cases opens <;> rfl

end SecurityGuard
