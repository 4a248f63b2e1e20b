import SecurityGuard.Config.CopyFile
import SecurityGuard.Config.Marshalling

/-!
# Taking over an updated configuration

`ConfigSubscriber::UpdateConfig` copies an updated file to its destination and removes it.  The
destination of a file other than the event and model configurations comes from a list.  Without
an entry the file is its own destination, and what was copied is removed.
-/

namespace SecurityGuard

def eventCfgFile : String := "security_guard_event.json"
def modelCfgFile : String := "security_guard_model.cfg"

/-- The entries of `CONFIG_CACHE_FILES`. -/
def eventCacheFile : String := realPath eventCfgFile
def modelCacheFile : String := realPath modelCfgFile

/-- The entries of `CONFIG_UPTATE_FILES`. -/
def eventUpdateFile : String := configRootPath ++ eventCfgFile
def modelUpdateFile : String := configRootPath ++ modelCfgFile

def updateListFile : String := "/system/etc/security_guard_update_config.json"

/-- The files and the configuration of the service. -/
structure ConfigWorld where
  files : Files := .empty
  config : ConfigData := {}
  modelMap : SortedMap Nat ModelCfg := .empty

/-- The outcomes of the calls of `UpdateConfig`; it copies at most one file. -/
structure SubscriberCalls where
  /-- Whether the stream of a configuration opens. -/
  streamOpens : Bool := true
  /-- Whether the list of destinations opens. -/
  listOpens : Bool := true
  copy : CopyCalls
  removeFails : Bool := false

/-- The event that reports an update of the configuration. -/
structure ConfigUpdateEvent where
  path : String
  ret : Code
  deriving DecidableEq

/-- What the subscriber of the configuration does with an event. -/
structure SubscriberResult where
  isSuccess : Bool
  world : ConfigWorld
  event : ConfigUpdateEvent
  /-- The content of the event that reports a success. -/
  reported : Option String

/-- The two parsers: that of the configurations, and that of the list, which reads bytes. -/
structure Parsers where
  parseJson : String → Option Json
  cJsonParse : List UInt8 → Option Json

/-- `cJSON_GetObjectItem` does not tell the cases of letters apart. -/
def Json.findIgnoringCase : Json → String → Option Json
  | object members, key =>
      (members.find? fun entry => entry.1.map Char.toLower = key.map Char.toLower).map Prod.snd
  | _, _ => none

/-- The text under a key, whatever the case of its letters is. -/
def Json.getString (item : Json) (key : String) : Option String :=
  match item.findIgnoringCase key with
  | some (text value) => some value
  | _ => none

/-- The destination of the first usable entry for a file. -/
def listedDstPath (fileName : String) : List Json → Option String
  | [] => none
  | item :: items =>
      match item.getString "fileName", item.getString "dstPath" with
      | some fileNameStr, some dstPathStr =>
          if fileName = fileNameStr then some dstPathStr else listedDstPath fileName items
      | _, _ => listedDstPath fileName items

/-- The entry of the list for a file: the list must be readable, and an array. -/
def updateListEntry (parsers : Parsers) (list : Option (List UInt8)) (fileName : String) :
    Option String :=
  match list with
  | none => none
  | some content =>
      if content.length = 0 ∨ 1 * 1024 * 1024 < content.length then none
      else
        match parsers.cJsonParse content with
        | some (.array items) => listedDstPath fileName items
        | _ => none

/-- The destination stays as it is without an entry. -/
def getUpdateFileDstPath (parsers : Parsers) (list : Option (List UInt8))
    (fileName dstPath : String) : String :=
  (updateListEntry parsers list fileName).getD dstPath

/-- A file that is no text is discarded by the parser. -/
def fileText (content : List UInt8) : Option String := String.fromUTF8? content.toByteArray

/-- Read the models of a document. -/
def parseModelConfig (document : Json) : Option (List ModelCfg) :=
  document.unmarshalObjects ModelCfg.fromJson "modelcfg"

namespace ConfigWorld

variable (parsers : Parsers) (world : ConfigWorld) (calls : SubscriberCalls)

/-- The text of a configuration after `Load` and `Check`. -/
def loadChecked (path : String) : Option String :=
  match world.files.get? path with
  | none => none
  | some content =>
      if !calls.streamOpens then none
      else if content.length = 0 ∨ cfgFileMaxSize < content.length then none
      else fileText content

/-- `ConfigManager::UpdateConfig<EventConfig>`. -/
def updateEventConfig : Bool × ConfigWorld :=
  let stream := world.loadChecked calls eventCacheFile
  if (ConfigData.readConfigs parsers.parseJson stream).isNone then (false, world)
  else
    let copied := copyFile world.files eventCacheFile eventUpdateFile calls.copy
    let updated := world.config.update parsers.parseJson stream copied.1
    (updated.1, { world with files := copied.2, config := updated.2 })

/-- The models of a document that is open and well formed. -/
def readModels : Option (List ModelCfg) :=
  ((world.loadChecked calls modelCacheFile).bind parsers.parseJson).bind parseModelConfig

/-- `ConfigManager::UpdateConfig<ModelConfig>`. -/
def updateModelConfig : Bool × ConfigWorld :=
  match world.readModels parsers calls with
  | none => (false, world)
  | some configs =>
      let copied := copyFile world.files modelCacheFile modelUpdateFile calls.copy
      if !copied.1 then (false, { world with files := copied.2 })
      else
        (true,
          { world with
            files := copied.2
            modelMap := configs.foldl (fun models cfg => models.insert cfg.modelId cfg) .empty })

/-- The content of the list, if it opens. -/
def updateList : Option (List UInt8) :=
  if calls.listOpens then world.files.get? updateListFile else none

end ConfigWorld

/-- What follows the last slash; a path without one has no name. -/
def nameOf (path : String) : String :=
  if '/' ∈ path.toList then
    String.ofList (path.toList.reverse.takeWhile fun char => char ≠ '/').reverse
  else ""

/-- The content of the event that reports an update. -/
def reportContent (dstPath : String) : String :=
  "\x7b\"path\":\"" ++ dstPath ++ "\", \"name\":\"" ++ nameOf dstPath ++ "\"\x7d"

/-- A file that is neither the cached events nor the cached models. -/
def IsListedFile (file : String) : Prop := file ≠ eventCacheFile ∧ file ≠ modelCacheFile

instance (file : String) : Decidable (IsListedFile file) := inferInstanceAs (Decidable (_ ∧ _))

namespace ConfigWorld

variable (parsers : Parsers) (world : ConfigWorld) (file : String) (calls : SubscriberCalls)

/-- The destination of the copy: a file without an entry is its own. -/
def dstPath : String :=
  if IsListedFile file then getUpdateFileDstPath parsers (world.updateList calls) file file
  else file

/-- The copy of a file that the list is for. -/
def copyListed : Bool × ConfigWorld :=
  let dstPath := world.dstPath parsers file calls
  if dstPath ≠ "" then
    let copied := copyFile world.files file dstPath calls.copy
    (copied.1, { world with files := copied.2 })
  else (false, world)

/-- The file is taken over, or not. -/
def takeOver : Bool × ConfigWorld :=
  if file = eventCacheFile then world.updateEventConfig parsers calls
  else if file = modelCacheFile then world.updateModelConfig parsers calls
  else world.copyListed parsers file calls

/-- Take a file over, copy it and report that. -/
def updateConfig : SubscriberResult :=
  let taken := world.takeOver parsers file calls
  let dstPath := world.dstPath parsers file calls
  { isSuccess := taken.1
    world :=
      -- The arrived file is removed whether it was taken over or not.
      if calls.removeFails then taken.2
      else { taken.2 with files := taken.2.files.erase file }
    event := { path := file, ret := if taken.1 then .success else .failed }
    reported := if taken.1 then some (reportContent dstPath) else none }

/-- Where an updated file belongs, if anywhere. -/
def destination : Option String :=
  if file = eventCacheFile then some eventUpdateFile
  else if file = modelCacheFile then some modelUpdateFile
  else updateListEntry parsers (world.updateList calls) file

/-- The content that the file had is stored at its destination, which is another file. -/
def Persisted (after : Files) : Prop :=
  ∃ content dstPath, world.files.get? file = some content ∧
    world.destination parsers file calls = some dstPath ∧ dstPath ≠ file ∧
      after.get? dstPath = some content

/-- The file is to be copied: a configuration must be well formed, and another file must not
have the empty path for its destination. -/
def Admits : Prop :=
  if file = eventCacheFile then
    (ConfigData.readConfigs parsers.parseJson
      (world.loadChecked calls eventCacheFile)).isSome = true
  else if file = modelCacheFile then (world.readModels parsers calls).isSome = true
  else (world.destination parsers file calls).getD file ≠ ""

/-- When the copy gets to its rename, the file has a destination, another file, and the copy has
lost no byte. -/
def PersistsCopies : Prop :=
  world.Admits parsers file calls → calls.copy.renameFails = false →
    ∀ content, calls.copy.Begins world.files file content →
      ∃ dstPath, world.destination parsers file calls = some dstPath ∧ dstPath ≠ file ∧
        calls.copy.Keeps file dstPath content

variable {parsers world file calls}

/-- A file that is not admitted is not copied. -/
theorem takeOver_refused (refused : ¬world.Admits parsers file calls) :
    (world.takeOver parsers file calls).1 = false := by
  rw [Admits] at refused
  rw [takeOver]
  split_ifs at refused ⊢ with event model
  · have unread : (ConfigData.readConfigs parsers.parseJson
        (world.loadChecked calls eventCacheFile)).isNone = true := by
      simpa using refused
    rw [updateEventConfig]
    simp only [unread, if_true]
  · have unread : world.readModels parsers calls = none := by simpa using refused
    rw [updateModelConfig, unread]
  · have same : world.dstPath parsers file calls =
        (world.destination parsers file calls).getD file := by
      rw [dstPath, if_pos ⟨event, model⟩, getUpdateFileDstPath, destination, if_neg event,
        if_neg model]
    rw [copyListed, same]
    simp only [if_neg refused]

/-- A file that is admitted is copied to its destination, or to itself. -/
theorem takeOver_admitted (admits : world.Admits parsers file calls) :
    let copied := copyFile world.files file
      ((world.destination parsers file calls).getD file) calls.copy
    (world.takeOver parsers file calls).1 = copied.1 ∧
      (world.takeOver parsers file calls).2.files = copied.2 := by
  rw [Admits] at admits
  rw [takeOver]
  split_ifs at admits ⊢ with event model
  · obtain ⟨configs, read⟩ := Option.isSome_iff_exists.mp admits
    rw [destination, if_pos event, event, Option.getD_some, updateEventConfig]
    simp only [read, Option.isNone_some, Bool.false_eq_true, if_false, ConfigData.update]
    cases (copyFile world.files eventCacheFile eventUpdateFile calls.copy).1 <;>
      exact ⟨rfl, trivial⟩
  · obtain ⟨configs, read⟩ := Option.isSome_iff_exists.mp admits
    rw [destination, if_neg event, if_pos model, model, Option.getD_some, updateModelConfig, read]
    dsimp only
    cases (copyFile world.files modelCacheFile modelUpdateFile calls.copy).1 <;> exact ⟨rfl, rfl⟩
  · have same : world.dstPath parsers file calls =
        (world.destination parsers file calls).getD file := by
      rw [dstPath, if_pos ⟨event, model⟩, getUpdateFileDstPath, destination, if_neg event,
        if_neg model]
    rw [copyListed, same]
    simp only [ne_eq, admits, not_false_eq_true, if_true, and_self]

/-- The removal of the file leaves every other one. -/
theorem get?_updateConfig {path : String} (other : path ≠ file) :
    (world.updateConfig parsers file calls).world.files.get? path =
      (world.takeOver parsers file calls).2.files.get? path := by
  rw [updateConfig]
  dsimp only
  split_ifs
  · rfl
  · exact (SortedMap.get?_erase ..).trans (if_neg other)

variable (parsers world file calls) in
/-- What is reported as updated is persisted exactly if a copy that gets to its rename goes to
another file and loses no byte. -/
theorem updateConfig_persists_iff :
    ((world.updateConfig parsers file calls).isSuccess = true →
        world.Persisted parsers file calls (world.updateConfig parsers file calls).world.files) ↔
      world.PersistsCopies parsers file calls := by
  have success : (world.updateConfig parsers file calls).isSuccess =
      (world.takeOver parsers file calls).1 := rfl
  rw [success]
  by_cases admits : world.Admits parsers file calls
  · obtain ⟨taken, files⟩ := takeOver_admitted admits
    rw [taken, copyFile_succeeds_iff]
    constructor
    · intro persists _ renames content begun
      obtain ⟨source, dstPath, found, listed, other, stored⟩ :=
        persists ⟨⟨content, begun⟩, renames⟩
      obtain rfl := Option.some.inj (found.symm.trans begun.1)
      rw [get?_updateConfig other, files, listed, Option.getD_some,
        copyFile_stored begun renames, Option.some.injEq] at stored
      exact ⟨dstPath, listed, other, copied_eq_iff.mp stored⟩
    · rintro persists ⟨⟨content, begun⟩, renames⟩
      obtain ⟨dstPath, listed, other, keeps⟩ := persists admits renames content begun
      refine ⟨content, dstPath, begun.1, listed, other, ?_⟩
      rw [get?_updateConfig other, files, listed, Option.getD_some,
        copyFile_stored begun renames, copied_eq_iff.mpr keeps]
  · rw [takeOver_refused admits]
    exact iff_of_true (fun updated => absurd updated Bool.false_ne_true)
      fun admitted => absurd admitted admits

end ConfigWorld

/-- Nothing parses. -/
def noParsers : Parsers where
  parseJson _ := none
  cJsonParse _ := none

/-- A file that has arrived, and no list of destinations. -/
def arrivedWorld : ConfigWorld where
  files := SortedMap.empty.insert "/tmp/a.json" [1]

/-- Every call succeeds. -/
def smoothCalls : SubscriberCalls where
  copy := { turns := fun _ => .moved 512 fullTurn_pos 512 }

/-- The file is copied onto itself, reported as updated, and removed. -/
theorem unlisted_update_is_removed :
    ¬((arrivedWorld.updateConfig noParsers "/tmp/a.json" smoothCalls).isSuccess = true →
      arrivedWorld.Persisted noParsers "/tmp/a.json" smoothCalls
        (arrivedWorld.updateConfig noParsers "/tmp/a.json" smoothCalls).world.files) := by
  have listed : "/tmp/a.json" ≠ eventCacheFile ∧ "/tmp/a.json" ≠ modelCacheFile := by
    decide +kernel
  have unlisted : arrivedWorld.destination noParsers "/tmp/a.json" smoothCalls = none := by
    decide +kernel
  have found : arrivedWorld.files.get? "/tmp/a.json" = some [1] := SortedMap.get?_insert_self ..
  intro persists
  have admits : arrivedWorld.Admits noParsers "/tmp/a.json" smoothCalls := by
    rw [ConfigWorld.Admits, if_neg listed.1, if_neg listed.2, unlisted]
    decide
  have taken := (ConfigWorld.takeOver_admitted admits).1.trans
    (copyFile_succeeds_iff.mpr ⟨⟨[1], found, rfl, .inr (by decide), rfl⟩, rfl⟩)
  obtain ⟨content, dstPath, -, destination, -⟩ := persists taken
  exact absurd (destination.symm.trans unlisted) (by simp)

end SecurityGuard
