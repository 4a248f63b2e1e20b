import SecurityGuard.Config.EventConfig
import SecurityGuard.Config.Numbers

/-!
# Writing and reading configurations

`to_json` and `from_json` list the fields of a configuration by hand.  The reader knows fields
that the writer leaves out; they come back with their initial values, and all others come back
as they were.
-/

namespace SecurityGuard

/-- A comparison in a detection rule. -/
structure Field where
  fieldName : String := ""
  fieldType : String := ""
  value : String := ""
  deriving DecidableEq

/-- A rule of a model about the fields of an event. -/
structure Rule where
  eventId : Int := 0
  fields : List Field := []
  fieldsRelation : String := ""
  deriving DecidableEq

/-- The rules of a detection that is built in. -/
structure BuildInDetectionCfg where
  rules : List Rule := []
  rulesRelation : String := ""
  trueResult : String := ""
  falseResult : String := ""
  deriving DecidableEq

/-- The detection that an application makes. -/
structure AppDetectionCfg where
  detectionCategory : String := ""
  configFileName : String := ""
  trueResult : String := ""
  falseResult : String := ""
  deriving DecidableEq

/-- The configuration of a model. -/
structure ModelCfg where
  modelId : Nat := 0
  path : String := ""
  format : String := ""
  startMode : Nat := 0
  preload : List Int := []
  eventList : List Int := []
  permissions : String := ""
  dbTable : String := ""
  runningCntl : Nat := 0
  caller : List String := []
  type : String := ""
  config : BuildInDetectionCfg := {}
  appDetectionConfig : AppDetectionCfg := {}
  deriving DecidableEq

/-- The value of an object under a key, if it is an object. -/
def Json.unmarshalObject {α : Type} (read : Json → α) (document : Json) (key : String) :
    Option α :=
  match document.find key with
  | some (object members) => some (read (object members))
  | _ => none

/-- Read the detection of an application; what is missing is empty. -/
def AppDetectionCfg.fromJson (document : Json) : AppDetectionCfg :=
  match document.find "detectionCategory" with
  | some (.text detectionCategory) => { detectionCategory }
  | _ => {}

/-- A field is read as a whole or not at all. -/
def Field.fromJson (document : Json) : Field :=
  match document.find "fieldName", document.find "fieldType", document.find "value" with
  | some (.text fieldName), some (.text fieldType), some (.text value) =>
      { fieldName, fieldType, value }
  | _, _, _ => {}

/-- Read a rule; what is missing is empty. -/
def Rule.fromJson (document : Json) : Rule :=
  match document.find "eventId", document.find "fields", document.find "fieldsRelation" with
  | some (.number eventId), some (.array fields), some (.text fieldsRelation) =>
      { eventId := eventId.bmod (2 ^ 64), fields := fields.map Field.fromJson, fieldsRelation }
  | _, _, _ => {}

/-- Read a detection that is built in; what is missing is empty. -/
def BuildInDetectionCfg.fromJson (document : Json) : BuildInDetectionCfg :=
  match document.find "rules", document.find "rulesRelation", document.find "trueResult",
      document.find "falseResult" with
  | some (.array rules), some (.text rulesRelation), some (.text trueResult),
      some (.text falseResult) =>
      { rules := rules.map Rule.fromJson, rulesRelation, trueResult, falseResult }
  | _, _, _, _ => {}

/-- Read an event id that is written as a text. -/
def readEventId (eventId : String) : Option Int :=
  let tmp := SecurityGuardUtils.strToI64 eventId
  if eventId = "" ∨ !tmp.1 then none else some tmp.2

/-- The event ids of a list of texts; the ones that cannot be read are left out. -/
def readEventIds (texts : List String) : List Int := texts.filterMap readEventId

/-- A model whose id cannot be read stays as it was initialised. -/
def ModelCfg.fromJson (document : Json) : ModelCfg :=
  let value := SecurityGuardUtils.strToU32 ((document.unmarshalText "modelId").getD "")
  if !value.1 then {}
  else
    { modelId := value.2.toNat
      path := (document.unmarshalText "path").getD ""
      format := (document.unmarshalText "format").getD ""
      startMode := (document.unmarshalUint32 "start-mode").getD 0
      preload := readEventIds (document.unmarshalTexts "preload")
      eventList := readEventIds (document.unmarshalTexts "eventList")
      permissions := (document.unmarshalText "permissions").getD ""
      dbTable := (document.unmarshalText "db_table").getD ""
      runningCntl := (document.unmarshalUint32 "running_cntl").getD 0
      caller := document.unmarshalTexts "caller"
      type := (document.unmarshalText "type").getD ""
      config := (document.unmarshalObject BuildInDetectionCfg.fromJson
        "buildInDetectionCfg").getD {}
      appDetectionConfig := (document.unmarshalObject AppDetectionCfg.fromJson
        "appDetectionCfg").getD {} }

/-- Write a model. -/
def ModelCfg.toJson (cfg : ModelCfg) : Json :=
  .object
    -- The type and the detection rules are not written.
    [("modelId", .text (toString cfg.modelId)),
      ("path", .text cfg.path),
      ("format", .text cfg.format),
      ("start-mode", .number cfg.startMode),
      ("preload", .array (cfg.preload.map fun eventId => .text (toString eventId))),
      ("eventList", .array (cfg.eventList.map fun eventId => .text (toString eventId))),
      ("permissions", .text cfg.permissions),
      ("db_table", .text cfg.dbTable),
      ("running_cntl", .number cfg.runningCntl),
      ("caller", .array (cfg.caller.map .text))]

/-- The number of a kind of collector. -/
def EventType.value : EventType → Nat
  | normalColl => 0
  | queryColl => 1
  | startStopColl => 2
  | subscribeColl => 3
  | unlisted value => value

/-- Write an event. -/
def EventCfg.toJson (cfg : EventCfg) : Json :=
  .object
    -- The old id and `collectOnStart` are not written.
    [("eventId", .text (toString cfg.eventId)),
      ("eventName", .text cfg.eventName),
      ("version", .number cfg.version),
      ("eventType", .number cfg.eventType.value),
      ("dataSensitivityLevel", .number cfg.dataSensitivityLevel),
      ("discardEventWhiteList", .number cfg.discardEventWhiteList),
      ("storageRamNums", .number cfg.storageRamNums),
      ("storageRomNums", .number cfg.storageRomNums),
      ("storageTime", .number cfg.storageTime),
      ("owner", .array (cfg.owner.map .text)),
      ("source", .number cfg.source),
      ("db_table", .text cfg.dbTable),
      ("prog", .text cfg.prog),
      ("isBatchUpload", .number cfg.isBatchUpload),
      ("isSticky", .number cfg.isSticky),
      ("serviceId", .text cfg.serviceId)]

/-- The value fits into 64 bits with a sign. -/
def IsInt64 (value : Int) : Prop := -2 ^ 63 ≤ value ∧ value < 2 ^ 63

/-- The value fits into 32 bits without a sign. -/
def IsUint32 (value : Nat) : Prop := value < 2 ^ 32

instance (value : Int) : Decidable (IsInt64 value) := inferInstanceAs (Decidable (_ ∧ _))

instance (value : Nat) : Decidable (IsUint32 value) := inferInstanceAs (Decidable (_ < _))

/-- Every field has a value of its type. -/
structure EventCfg.Typed (cfg : EventCfg) : Prop where
  eventId : IsInt64 cfg.eventId
  oldEventId : IsInt64 cfg.oldEventId
  version : IsUint32 cfg.version
  eventType : IsUint32 cfg.eventType.value
  /-- A number with a meaning is that meaning. -/
  listed : EventType.ofNat cfg.eventType.value = cfg.eventType
  collectOnStart : IsUint32 cfg.collectOnStart
  dataSensitivityLevel : IsUint32 cfg.dataSensitivityLevel
  discardEventWhiteList : IsUint32 cfg.discardEventWhiteList
  storageRamNums : IsUint32 cfg.storageRamNums
  storageRomNums : IsUint32 cfg.storageRomNums
  storageTime : -2 ^ 31 ≤ cfg.storageTime ∧ cfg.storageTime < 2 ^ 31
  source : IsUint32 cfg.source
  isBatchUpload : IsUint32 cfg.isBatchUpload
  isSticky : IsUint32 cfg.isSticky

/-- The numbers of a model fit the types of their fields. -/
structure ModelCfg.Typed (cfg : ModelCfg) : Prop where
  modelId : IsUint32 cfg.modelId
  startMode : IsUint32 cfg.startMode
  preload : ∀ eventId ∈ cfg.preload, IsInt64 eventId
  eventList : ∀ eventId ∈ cfg.eventList, IsInt64 eventId
  runningCntl : IsUint32 cfg.runningCntl

theorem Json.texts_map (items : List String) : Json.texts (items.map .text) = items := by
  induction items with
  | nil => rfl
  | cons item items ih => rw [List.map_cons, Json.texts, ih]

theorem IsUint32.read {value : Nat} (typed : IsUint32 value) :
    ((value : Int) % 2 ^ 32).toNat = value := by
  rw [IsUint32] at typed
  omega

theorem strToI64_toString {eventId : Int} (typed : IsInt64 eventId) :
    SecurityGuardUtils.strToI64 (toString eventId) = (true, eventId) := by
  rw [SecurityGuardUtils.strToI64_eq_strToLL, SecurityGuardUtils.strToLL_eq_iff, cStr_toString]
  exact ⟨denotes_toString eventId, typed⟩

theorem strToU32_toString {modelId : Nat} (typed : IsUint32 modelId) :
    SecurityGuardUtils.strToU32 (toString modelId) = (true, (modelId : Int)) := by
  have small : (modelId : Int) < 2 ^ 32 := by exact_mod_cast typed
  have denotes : Denotes 10 (cStr (toString modelId)) modelId :=
    (cStr_toString modelId).symm ▸ denotes_toString modelId
  exact SecurityGuardUtils.strToU32_eq_iff.mpr
    ⟨modelId, denotes, by omega, by omega, by omega, by omega⟩

theorem readEventIds_toString {eventIds : List Int}
    (typed : ∀ eventId ∈ eventIds, IsInt64 eventId) :
    readEventIds (eventIds.map fun eventId => toString eventId) = eventIds := by
  induction eventIds with
  | nil => rfl
  | cons eventId rest ih =>
      obtain ⟨first, rest_typed⟩ := List.forall_mem_cons.mp typed
      have nonempty : toString eventId ≠ "" := by
        intro empty
        have accepted := strToI64_toString first
        rw [empty] at accepted
        exact Bool.false_ne_true (congrArg Prod.fst accepted)
      have read : readEventId (toString eventId) = some eventId := by
        rw [readEventId, strToI64_toString first, if_neg (by simpa using nonempty)]
      rw [readEventIds, List.map_cons, List.filterMap_cons_some read, ← readEventIds,
        ih rest_typed]

/-- An event comes back without its old id and without its start. -/
theorem EventCfg.fromJson_toJson {cfg : EventCfg} (typed : cfg.Typed) :
    fromJson cfg.toJson = { cfg with oldEventId := 0, collectOnStart := 0 } := by
  have time : cfg.storageTime.bmod (2 ^ 32) = cfg.storageTime :=
    Int.bmod_eq_of_le (by have := typed.storageTime; omega) (by have := typed.storageTime; omega)
  have no_id : strToI64Hex "" = none := by decide
  simp only [fromJson, toJson, Json.unmarshalText, Json.unmarshalUint32, Json.unmarshalInt32,
    Json.unmarshalTexts, Json.find, List.lookup_cons, List.lookup_nil, String.reduceBEq,
    Option.getD_some, Option.getD_none, no_id, Json.texts_map,
    strToI64Hex_toString typed.eventId.1 typed.eventId.2, time, typed.version.read,
    typed.eventType.read, typed.listed, typed.dataSensitivityLevel.read,
    typed.discardEventWhiteList.read, typed.storageRamNums.read, typed.storageRomNums.read,
    typed.source.read, typed.isBatchUpload.read, typed.isSticky.read]

theorem ModelCfg.fromJson_toJson {cfg : ModelCfg} (typed : cfg.Typed) :
    fromJson cfg.toJson = { cfg with type := "", config := {}, appDetectionConfig := {} } := by
  have texts (eventIds : List Int) :
      Json.texts (eventIds.map fun eventId => .text (toString eventId)) =
        eventIds.map fun eventId => toString eventId := by
    rw [← Json.texts_map (eventIds.map _), List.map_map]
    rfl
  simp only [fromJson, toJson, Json.unmarshalText, Json.unmarshalUint32, Json.unmarshalTexts,
    Json.unmarshalObject, Json.find, List.lookup_cons, List.lookup_nil, String.reduceBEq,
    Option.getD_some, Option.getD_none, Json.texts_map, texts, strToU32_toString typed.modelId,
    readEventIds_toString typed.preload, readEventIds_toString typed.eventList,
    typed.startMode.read, typed.runningCntl.read]
  rfl

/-- A configuration comes back unchanged exactly if the fields that the writer leaves out have
their initial values. -/
theorem fromJson_toJson_iff {event : EventCfg} {model : ModelCfg} (event_typed : event.Typed)
    (model_typed : model.Typed) :
    (EventCfg.fromJson event.toJson = event ↔
        event.oldEventId = 0 ∧ event.collectOnStart = 0) ∧
      (ModelCfg.fromJson model.toJson = model ↔
        model.type = "" ∧ model.config = {} ∧ model.appDetectionConfig = {}) := by
  rw [EventCfg.fromJson_toJson event_typed, ModelCfg.fromJson_toJson model_typed]
  constructor
  · constructor
    · intro same
      exact ⟨(congrArg EventCfg.oldEventId same).symm, (congrArg EventCfg.collectOnStart same).symm⟩
    · rintro ⟨old, start⟩
      cases event
      simp_all
  · constructor
    · intro same
      exact ⟨(congrArg ModelCfg.type same).symm, (congrArg ModelCfg.config same).symm,
        (congrArg ModelCfg.appDetectionConfig same).symm⟩
    · rintro ⟨type, rules, detection⟩
      cases model
      simp_all

/-- An event that is collected from the start on. -/
def startingEvent : EventCfg := { eventId := 1, collectOnStart := 1 }

def typedModel : ModelCfg := { modelId := 1, type := "callback" }

theorem startingEvent_typed : startingEvent.Typed := by
  constructor <;> decide

theorem typedModel_typed : typedModel.Typed where
  modelId := by decide
  startMode := by decide
  preload _ mem := absurd mem List.not_mem_nil
  eventList _ mem := absurd mem List.not_mem_nil
  runningCntl := by decide

theorem fromJson_toJson_iff_starting :
    (EventCfg.fromJson startingEvent.toJson = startingEvent ↔
        startingEvent.oldEventId = 0 ∧ startingEvent.collectOnStart = 0) ∧
      (ModelCfg.fromJson typedModel.toJson = typedModel ↔
        typedModel.type = "" ∧ typedModel.config = {} ∧ typedModel.appDetectionConfig = {}) :=
  fromJson_toJson_iff startingEvent_typed typedModel_typed

/-- The event no longer starts with the service, and the model has lost its type. -/
theorem unwritten_fields_are_lost :
    ¬((startingEvent.Typed → EventCfg.fromJson startingEvent.toJson = startingEvent) ∧
      (typedModel.Typed → ModelCfg.fromJson typedModel.toJson = typedModel)) := by
  rintro ⟨returns, -⟩
  have same := returns startingEvent_typed
  rw [EventCfg.fromJson_toJson startingEvent_typed] at same
  exact absurd (congrArg EventCfg.collectOnStart same) (by decide)

end SecurityGuard
