import SecurityGuard.Config.Json
import SecurityGuard.ConfigData

/-!
# Loading the event configuration

`Parse` enters the events of a document one by one; `Update` builds the map of the events first
and swaps it in, but writes the tables over the ones that are there.  An update is a fresh parse
of the events, and of the tables as far as the document names their events.
-/

namespace SecurityGuard

def auditModelId : String := "3001000003"
def dbMaxValue : Nat := 100000
def storageRomNumsMaxValue : Nat := 1000

namespace EventCfg

/-- A configuration whose id cannot be read stays zero. -/
def fromJson (document : Json) : EventCfg :=
  match strToI64Hex ((document.unmarshalText "eventId").getD "") with
  | none => { eventId := 0 }
  | some eventId =>
      { eventId
        oldEventId := (strToI64Hex ((document.unmarshalText "oldEventId").getD "")).getD 0
        eventName := (document.unmarshalText "eventName").getD ""
        version := (document.unmarshalUint32 "version").getD 0
        eventType := EventType.ofNat ((document.unmarshalUint32 "eventType").getD 0)
        collectOnStart := (document.unmarshalUint32 "collectOnStart").getD 0
        dataSensitivityLevel := (document.unmarshalUint32 "dataSensitivityLevel").getD 0
        discardEventWhiteList := (document.unmarshalUint32 "discardEventWhiteList").getD 0
        storageRamNums := (document.unmarshalUint32 "storageRamNums").getD 0
        storageRomNums := (document.unmarshalUint32 "storageRomNums").getD 0
        storageTime := (document.unmarshalInt32 "storageTime").getD 0
        owner := document.unmarshalTexts "owner"
        source := (document.unmarshalUint32 "source").getD 0
        dbTable := (document.unmarshalText "db_table").getD ""
        prog := (document.unmarshalText "prog").getD ""
        isBatchUpload := (document.unmarshalUint32 "isBatchUpload").getD 0
        isSticky := (document.unmarshalUint32 "isSticky").getD 0
        serviceId := (document.unmarshalText "serviceId").getD "" }

/-- The quota of an event is limited, more generously for the audit model. -/
def limitStorage (cfg : EventCfg) : EventCfg :=
  let maxValue :=
    if cfg.owner.head? = some auditModelId then dbMaxValue else storageRomNumsMaxValue
  if maxValue ≤ cfg.storageRomNums then { cfg with storageRomNums := maxValue } else cfg

end EventCfg

/-- Read the events of a document, with their storage limited. -/
def parseEventConfig (document : Json) : Option (List EventCfg) :=
  (document.unmarshalObjects EventCfg.fromJson "eventcfg").map (List.map EventCfg.limitStorage)

namespace ConfigData

variable (config : ConfigData)

/-- Enter the configuration of an event. -/
def insertEventMap (eventId : Int) (cfg : EventCfg) : ConfigData :=
  { config with eventMap := config.eventMap.insert eventId cfg }

/-- Enter the table of an event. -/
def insertEventToTableMap (eventId : Int) (table : String) : ConfigData :=
  { config with eventToTableMap := config.eventToTableMap.insert eventId table }

/-- Replace the events, and enter their tables. -/
def swapEventConfigMapWithTables (newEventMap : SortedMap Int EventCfg)
    (eventToTables : List (Int × String)) : ConfigData :=
  { config with
    eventMap := newEventMap
    eventToTableMap := eventToTables.foldl (fun tables entry => tables.insert entry.1 entry.2)
      config.eventToTableMap }

/-- Enter the configurations of some events. -/
def cacheEventConfig (configs : List EventCfg) : ConfigData :=
  configs.foldl
    (fun config cfg =>
      let cached := if cfg.oldEventId ≠ 0 then config.insertEventMap cfg.oldEventId cfg else config
      cached.insertEventMap cfg.eventId cfg)
    config

/-- Enter the tables of some events. -/
def cacheEventToTable (configs : List EventCfg) : ConfigData :=
  configs.foldl
    (fun config cfg =>
      let cached :=
        if cfg.oldEventId ≠ 0 then config.insertEventToTableMap cfg.oldEventId cfg.dbTable
        else config
      cached.insertEventToTableMap cfg.eventId cfg.dbTable)
    config

/-- The configurations of a document that is open and well formed. -/
def readConfigs (parseJson : String → Option Json) (stream : Option String) :
    Option (List EventCfg) :=
  (stream.bind parseJson).bind parseEventConfig

/-- `Parse` on the document of a stream, which is absent if it is not open. -/
def parse (parseJson : String → Option Json) (stream : Option String) : Bool × ConfigData :=
  match readConfigs parseJson stream with
  | none => (false, config)
  | some configs => (true, (config.cacheEventConfig configs).cacheEventToTable configs)

/-- `Update` on the document of a stream; `copied` says whether `CopyFile` succeeds. -/
def update (parseJson : String → Option Json) (stream : Option String) (copied : Bool) :
    Bool × ConfigData :=
  match readConfigs parseJson stream with
  | none => (false, config)
  | some configs =>
      if !copied then (false, config)
      else
        let newEventMap := configs.foldl
          (fun events cfg =>
            -- Both ids lead to the event, and a later event of the file takes over the ids of an
            -- earlier one.
            let cached := if cfg.oldEventId ≠ 0 then events.insert cfg.oldEventId cfg else events
            cached.insert cfg.eventId cfg)
          SortedMap.empty
        let eventToTables := configs.flatMap fun cfg =>
          if cfg.oldEventId ≠ 0 then
            [(cfg.oldEventId, cfg.dbTable), (cfg.eventId, cfg.dbTable)]
          else [(cfg.eventId, cfg.dbTable)]
        (true, config.swapEventConfigMapWithTables newEventMap eventToTables)

/-- Entering events one by one builds the map that an update swaps in. -/
theorem cacheEventConfig_maps (configs : List EventCfg) :
    (config.cacheEventConfig configs).eventMap =
        configs.foldl
          (fun events cfg =>
            let cached := if cfg.oldEventId ≠ 0 then events.insert cfg.oldEventId cfg else events
            cached.insert cfg.eventId cfg)
          config.eventMap ∧
      (config.cacheEventConfig configs).eventToTableMap = config.eventToTableMap := by
  rw [cacheEventConfig]
  induction configs generalizing config with
  | nil => exact ⟨rfl, rfl⟩
  | cons cfg configs ih =>
      rw [List.foldl_cons, List.foldl_cons]
      obtain ⟨events, tables⟩ := ih ((if cfg.oldEventId ≠ 0 then
        config.insertEventMap cfg.oldEventId cfg else config).insertEventMap cfg.eventId cfg)
      rw [events, tables]
      split_ifs
      · exact ⟨rfl, rfl⟩
      · exact ⟨rfl, rfl⟩

/-- Entering tables one by one writes the list of an update. -/
theorem cacheEventToTable_maps (configs : List EventCfg) :
    (config.cacheEventToTable configs).eventMap = config.eventMap ∧
      (config.cacheEventToTable configs).eventToTableMap =
        (configs.flatMap fun cfg =>
          if cfg.oldEventId ≠ 0 then
            [(cfg.oldEventId, cfg.dbTable), (cfg.eventId, cfg.dbTable)]
          else [(cfg.eventId, cfg.dbTable)]).foldl
            (fun tables entry => tables.insert entry.1 entry.2) config.eventToTableMap := by
  rw [cacheEventToTable]
  induction configs generalizing config with
  | nil => exact ⟨rfl, rfl⟩
  | cons cfg configs ih =>
      rw [List.foldl_cons, List.flatMap_cons, List.foldl_append]
      obtain ⟨events, tables⟩ := ih ((if cfg.oldEventId ≠ 0 then
        config.insertEventToTableMap cfg.oldEventId cfg.dbTable
        else config).insertEventToTableMap cfg.eventId cfg.dbTable)
      rw [events, tables]
      split_ifs
      · exact ⟨rfl, rfl⟩
      · exact ⟨rfl, rfl⟩

/-- After the same writes two maps differ only where they differed and nothing was written. -/
theorem get?_writeTables (entries : List (Int × String)) {left right base : SortedMap Int String}
    (covers : ∀ eventId, left.get? eventId = (right.get? eventId).or (base.get? eventId))
    (eventId : Int) :
    (entries.foldl (fun tables entry => tables.insert entry.1 entry.2) left).get? eventId =
      ((entries.foldl (fun tables entry => tables.insert entry.1 entry.2) right).get?
        eventId).or (base.get? eventId) := by
  induction entries generalizing left right with
  | nil => exact covers eventId
  | cons entry entries ih =>
      rw [List.foldl_cons, List.foldl_cons]
      apply ih
      intro other
      rw [SortedMap.get?_insert, SortedMap.get?_insert]
      split_ifs
      · rfl
      · exact covers other

/-- An update that succeeds leaves the events of a fresh parse, and the tables of a fresh parse
over the earlier ones.  An update that fails leaves both maps alone. -/
theorem update_refreshes (parseJson : String → Option Json) (stream : Option String)
    (copied : Bool) :
    let answer := config.update parseJson stream copied
    let fresh := ({} : ConfigData).parse parseJson stream
    (answer.1 = true → fresh.1 = true ∧ answer.2.eventMap = fresh.2.eventMap ∧
        ∀ eventId, answer.2.eventToTableMap.get? eventId =
          (fresh.2.eventToTableMap.get? eventId).or (config.eventToTableMap.get? eventId)) ∧
      (answer.1 = false → answer.2.eventMap = config.eventMap ∧
        answer.2.eventToTableMap = config.eventToTableMap) := by
  rw [update, parse]
  cases readConfigs parseJson stream with
  | none => exact ⟨fun updated => Bool.noConfusion updated, fun _ => ⟨rfl, rfl⟩⟩
  | some configs =>
      cases copied with
      | false => exact ⟨fun updated => Bool.noConfusion updated, fun _ => ⟨rfl, rfl⟩⟩
      | true =>
          obtain ⟨events, untouched⟩ := cacheEventConfig_maps {} configs
          obtain ⟨kept, tables⟩ := cacheEventToTable_maps
            (({} : ConfigData).cacheEventConfig configs) configs
          refine ⟨fun _ => ⟨rfl, ?_, fun eventId => ?_⟩, fun failed => Bool.noConfusion failed⟩
          · exact (kept.trans events).symm
          · dsimp only
            rw [tables, untouched]
            exact get?_writeTables _ (fun other => by simp) eventId

/-- A document that configures event 7 alone. -/
def sevenDocument : Json :=
  .object [("eventcfg", .array [.object [("eventId", .text "7"), ("db_table", .text "events")]])]

/-- Event 5 was configured before. -/
def fiveConfig : ConfigData where
  eventMap := SortedMap.empty.insert 5 { eventId := 5, dbTable := "risk_event" }
  eventToTableMap := SortedMap.empty.insert 5 "risk_event"

/-- The update to event 7 alone forgets event 5. -/
theorem update_refreshes_sevenDocument :
    (fiveConfig.update (fun _ => some sevenDocument) (some "") true).2.eventMap =
      (({} : ConfigData).parse (fun _ => some sevenDocument) (some "")).2.eventMap :=
  ((fiveConfig.update_refreshes (fun _ => some sevenDocument) (some "") true).1
    (by decide +kernel)).2.1

/-- The update to event 7 alone keeps the table of event 5, which a fresh parse does not have. -/
theorem update_keeps_old_tables :
    ¬∀ (config : ConfigData) (parseJson : String → Option Json) (stream : Option String)
        (copied : Bool),
      ((config.update parseJson stream copied).1 = true →
          (config.update parseJson stream copied).2.eventMap =
              (({} : ConfigData).parse parseJson stream).2.eventMap ∧
            (config.update parseJson stream copied).2.eventToTableMap =
              (({} : ConfigData).parse parseJson stream).2.eventToTableMap) ∧
        ((config.update parseJson stream copied).1 = false →
          (config.update parseJson stream copied).2.eventMap = config.eventMap ∧
            (config.update parseJson stream copied).2.eventToTableMap =
              config.eventToTableMap) := by
  intro equal
  have tables := ((equal fiveConfig (fun _ => some sevenDocument) (some "") true).1
    (by decide +kernel)).2
  have kept : (fiveConfig.update (fun _ => some sevenDocument) (some "")
      true).2.eventToTableMap.get? 5 = some "risk_event" := by
    decide +kernel
  have absent : (({} : ConfigData).parse (fun _ => some sevenDocument)
      (some "")).2.eventToTableMap.get? 5 = none := by
    decide +kernel
  rw [tables, absent] at kept
  exact absurd kept (by simp)

end ConfigData

end SecurityGuard
