import SecurityGuard.Config.Startup
import SecurityGuard.Foundation.Execution

/-!
# The life of the configuration

`ConfigUpdate` takes over new configurations and `InitAllConfig` loads the stored ones, once for
each ability of the process.  To the outside the files and the maps are three stored documents
with the values read from them: an update that returns `SUCCESS` replaces a document and its
value, and any other call leaves both.
-/

namespace SecurityGuard

/-- The files and the configuration of the service, with the names that the trust lists have
named so far. -/
structure ConfigService where
  world : ConfigWorld
  configCacheFilesSet : SortedSet String := .empty

/-- What happens to the service. -/
inductive ConfigCall where
  | configUpdate (caller : Caller) (name : String) (calls : UpdateCalls)
      (subscriber : SubscriberCalls)
  | initAllConfig (calls : InitCalls)
  /-- The process starts again, and has not called `InitAllConfig` yet. -/
  | restart

/-- The copy of an updated configuration loses no byte. -/
def SubscriberCalls.CopiesWhole (calls : SubscriberCalls) : Prop :=
  (∀ content, calls.copy.Keeps eventCacheFile eventUpdateFile content) ∧
    ∀ content, calls.copy.Keeps modelCacheFile modelUpdateFile content

/-- A call copies the whole file, or nothing. -/
def ConfigCall.CopiesWhole : ConfigCall → Prop
  | .configUpdate _ _ _ subscriber => subscriber.CopiesWhole
  | _ => True

namespace ConfigService

/-- The files are there, and nothing is in memory. -/
def boot (files : Files) : ConfigService := ⟨{ files }, .empty⟩

variable (parsers : Parsers) (service : ConfigService)

/-- `ConfigUpdate` with the work of the library, which decides what it returns. -/
def configUpdate (caller : Caller) (name : String) (calls : UpdateCalls)
    (subscriber : SubscriberCalls) : Code × ConfigService :=
  let arrived := SecurityGuard.configUpdate parsers.parseJson
    ⟨service.world.files, service.configCacheFilesSet⟩ caller name calls
  let world := { service.world with files := arrived.store.files }
  if arrived.progress = .renamed ∧ calls.libraryOpens = true ∧ calls.symbolFound = true then
    let updated := world.updateConfig parsers (realPath name) subscriber
    (if updated.isSuccess then .success else .failed,
      ⟨updated.world, arrived.store.configCacheFilesSet⟩)
  else (arrived.code, ⟨world, arrived.store.configCacheFilesSet⟩)

/-- What a call answers and leaves. -/
def answer : ConfigCall → Code × ConfigService
  | .configUpdate caller name calls subscriber =>
      service.configUpdate parsers caller name calls subscriber
  | .initAllConfig calls =>
      let loaded := service.world.initAllConfig parsers calls
      (if loaded.1 then .success else .failed, { service with world := loaded.2 })
  | .restart => (.success, boot service.world.files)

/-- A call with what it returns. -/
def next : Transition ConfigService (ConfigCall × Code) := fun service label =>
  let answer := service.answer parsers label.1
  if answer.1 = label.2 then some answer.2 else none

end ConfigService

/-- The configurations as documents with the values read from them. -/
structure ConfigSpec where
  /-- The list of destinations, which stays. -/
  list : Option (List UInt8)
  events : Backed (List UInt8) (List EventCfg)
  models : Backed (List UInt8) (List ModelCfg)
  groups : Backed (List UInt8) (List NamedGroup)

namespace ConfigSpec

variable (parsers : Parsers)

/-- The documents where a start looks for them, and nothing read. -/
def boot (files : Files) : ConfigSpec where
  list := files.get? updateListFile
  events := .boot ((files.get? eventUpdateFile).or (files.get? eventPresetFile))
  models := .boot ((files.get? modelUpdateFile).or (files.get? modelPresetFile))
  groups := .boot (files.get? eventGroupPresetFile)

variable (spec : ConfigSpec)

/-- Replace the document of a name. -/
def write (name : String) (content : List UInt8) : ConfigSpec :=
  if name = eventCfgFile then
    { spec with events := spec.events.write (parseEventFile parsers) content }
  else if name = modelCfgFile then
    { spec with models := spec.models.write (parseModelFile parsers) content }
  else spec

/-- Read the documents whose files open. -/
def load (calls : InitCalls) : ConfigSpec where
  list := spec.list
  events := spec.events.load (parseEventFile parsers) calls.eventOpens
  models := spec.models.load (parseModelFile parsers) calls.modelOpens
  groups := spec.groups.load (parseEventGroupFile parsers) calls.groupOpens

/-- Lose what is in memory. -/
def drop : ConfigSpec := ⟨spec.list, spec.events.drop, spec.models.drop, spec.groups.drop⟩

/-- What a call that has returned a code does to the documents. -/
def after (spec : ConfigSpec) (label : ConfigCall × Code) : ConfigSpec :=
  match label.1 with
  | .configUpdate _ name calls _ =>
      if label.2 = .success then spec.write parsers name (Relay.copied calls.transfer.rounds)
      else spec
  | .initAllConfig calls => spec.load parsers calls
  | .restart => spec.drop

/-- The values in memory are those that a start reads. -/
structure Coherent : Prop where
  events : spec.events.Coherent (parseEventFile parsers)
  models : spec.models.Coherent (parseModelFile parsers)
  groups : spec.groups.Coherent (parseEventGroupFile parsers)

/-- A start can read all three documents. -/
structure Readable : Prop where
  events : (spec.events.readable (parseEventFile parsers)).isSome = true
  models : (spec.models.readable (parseModelFile parsers)).isSome = true
  groups : (spec.groups.readable (parseEventGroupFile parsers)).isSome = true

variable {parsers spec}

theorem coherent_boot (files : Files) : (boot files).Coherent parsers :=
  ⟨Backed.coherent_boot _, Backed.coherent_boot _, Backed.coherent_boot _⟩

theorem Coherent.write (coherent : spec.Coherent parsers) (name : String)
    (content : List UInt8) : (spec.write parsers name content).Coherent parsers := by
  rw [ConfigSpec.write]
  split_ifs
  · exact ⟨coherent.events.write content, coherent.models, coherent.groups⟩
  · exact ⟨coherent.events, coherent.models.write content, coherent.groups⟩
  · exact coherent

theorem Coherent.load (coherent : spec.Coherent parsers) (calls : InitCalls) :
    (spec.load parsers calls).Coherent parsers :=
  ⟨coherent.events.load calls.eventOpens, coherent.models.load calls.modelOpens,
    coherent.groups.load calls.groupOpens⟩

theorem Coherent.drop : spec.drop.Coherent parsers :=
  ⟨Backed.Coherent.drop, Backed.Coherent.drop, Backed.Coherent.drop⟩

theorem list_after (spec : ConfigSpec) (label : ConfigCall × Code) :
    (spec.after parsers label).list = spec.list := by
  rw [ConfigSpec.after]
  cases label.1 with
  | configUpdate caller name calls subscriber =>
      dsimp only [ConfigSpec.write]
      split_ifs <;> rfl
  | initAllConfig calls => rfl
  | restart => rfl

theorem Coherent.after (coherent : spec.Coherent parsers) (label : ConfigCall × Code) :
    (spec.after parsers label).Coherent parsers := by
  rw [ConfigSpec.after]
  cases label.1 with
  | configUpdate caller name calls subscriber =>
      dsimp only
      split_ifs
      · exact coherent.write name _
      · exact coherent
  | initAllConfig calls => exact coherent.load calls
  | restart => exact Coherent.drop

theorem Readable.after (readable : spec.Readable parsers) (label : ConfigCall × Code) :
    (spec.after parsers label).Readable parsers := by
  rw [ConfigSpec.after]
  cases label.1 with
  | configUpdate caller name calls subscriber =>
      dsimp only [ConfigSpec.write]
      split_ifs
      · exact { readable with events := Backed.isSome_readable_write _ readable.events }
      · exact { readable with models := Backed.isSome_readable_write _ readable.models }
      · exact readable
      · exact readable
  | initAllConfig calls => exact ⟨readable.events, readable.models, readable.groups⟩
  | restart => exact ⟨readable.events, readable.models, readable.groups⟩

theorem Readable.foldl (readable : spec.Readable parsers) (trace : List (ConfigCall × Code)) :
    (trace.foldl (ConfigSpec.after parsers) spec).Readable parsers := by
  induction trace generalizing spec with
  | nil => exact readable
  | cons label trace ih => exact ih (readable.after label)

end ConfigSpec

/-- The files from which the service starts, and the list of destinations. -/
def configFiles : List String :=
  [eventUpdateFile, modelUpdateFile, eventPresetFile, modelPresetFile, eventGroupPresetFile,
    updateListFile]

/-- What the list names as a destination of another file is no file of the configuration, nor is
its temporary file. -/
def SafeList (parsers : Parsers) (list : Option (List UInt8)) : Prop :=
  ∀ name dstPath, IsListedFile (realPath name) →
    updateListEntry parsers list (realPath name) = some dstPath →
      dstPath ∉ configFiles ∧ copyTmpPath dstPath ∉ configFiles

theorem ne_tmp_of_mem_configFiles {file : String} (mem : file ∈ configFiles) (name : String) :
    file ≠ configRootPath ++ "tmp/" ++ name := by
  have apart : configFiles.all (fun file =>
      file.toList.take (configRootPath ++ "tmp/").toList.length ≠
        (configRootPath ++ "tmp/").toList) = true := by
    decide +kernel
  rintro rfl
  have front : (configRootPath ++ "tmp/" ++ name).toList =
      (configRootPath ++ "tmp/").toList ++ name.toList := String.toList_append
  have differs := of_decide_eq_true (List.all_eq_true.mp apart _ mem)
  rw [front] at differs
  exact differs List.take_left

theorem ne_tmpPath_of_mem_configFiles {file : String} (mem : file ∈ configFiles)
    (caller : Caller) (tid : Int) (name : String) : file ≠ tmpPath caller tid name := by
  have path := ne_tmp_of_mem_configFiles mem
    (name ++ "." ++ toString caller.pid ++ "." ++ toString tid ++ ".t")
  rwa [← String.append_assoc, ← String.append_assoc, ← String.append_assoc,
    ← String.append_assoc, ← String.append_assoc] at path

section Frame

variable {files : Files} {srcPath dstPath path : String} {copyCalls : CopyCalls}

theorem get?_copyFile (apart : path ≠ dstPath) (tmp : path ≠ copyTmpPath dstPath) :
    (copyFile files srcPath dstPath copyCalls).2.get? path = files.get? path := by
  by_cases begins : ∃ content, copyCalls.Begins files srcPath content
  · obtain ⟨content, begun⟩ := begins
    rw [copyFile_begun begun]
    dsimp only
    split_ifs
    · simp [tmp]
    · simp [tmp]
    · simp [Files.rename, apart, tmp]
  · rw [copyFile_refused (not_exists.mp begins)]

theorem get?_copyFile_failed (failed : (copyFile files srcPath dstPath copyCalls).1 = false)
    (tmp : path ≠ copyTmpPath dstPath) :
    (copyFile files srcPath dstPath copyCalls).2.get? path = files.get? path := by
  by_cases begins : ∃ content, copyCalls.Begins files srcPath content
  · obtain ⟨content, begun⟩ := begins
    rw [copyFile_begun begun] at failed ⊢
    dsimp only at failed ⊢
    split_ifs at failed ⊢
    · simp [tmp]
    · simp [tmp]
  · rw [copyFile_refused (not_exists.mp begins)]

theorem get?_copyFile_succeeded (succeeded : (copyFile files srcPath dstPath copyCalls).1 = true)
    (keeps : ∀ content, copyCalls.Keeps srcPath dstPath content) :
    (copyFile files srcPath dstPath copyCalls).2.get? dstPath = files.get? srcPath := by
  obtain ⟨⟨content, begun⟩, renames⟩ := copyFile_succeeds_iff.mp succeeded
  rw [copyFile_stored begun renames, copied_eq_iff.mpr (keeps content), begun.1]

theorem get?_writeRemoteFileToLocal (files : Files) (transfer : Transfer) {path other : String}
    (apart : other ≠ path) :
    (writeRemoteFileToLocal files transfer path).2.get? other = files.get? other := by
  by_cases opened : transfer.Opens
  · rw [(writeRemoteFileToLocal_opened files path opened).2, SortedMap.get?_insert, if_neg apart]
  · rw [(writeRemoteFileToLocal_unopened files path opened).2]

end Frame

section Arrival

variable {parseJson : String → Option Json} {store : ConfigStore} {caller : Caller}
  {name : String} {calls : UpdateCalls}

theorem get?_arrived {file : String} (mem : file ∈ configFiles) :
    (SecurityGuard.configUpdate parseJson store caller name calls).store.files.get? file =
      store.files.get? file := by
  have place : file ≠ realPath name := ne_tmp_of_mem_configFiles mem name
  have temporary := ne_tmpPath_of_mem_configFiles mem caller calls.tid name
  have written := get?_writeRemoteFileToLocal store.files calls.transfer temporary
  rw [SecurityGuard.configUpdate]
  dsimp only
  split_ifs
  · rfl
  · rfl
  · rfl
  · exact written
  · rwa [SortedMap.get?_erase, if_neg temporary]
  · rw [SortedMap.get?_erase, if_neg temporary, Files.rename]
    split
    · exact written
    · rwa [SortedMap.get?_insert, if_neg place, SortedMap.get?_erase, if_neg temporary]

/-- What is renamed to its place is what the writes took. -/
theorem get?_realPath_arrived
    (renamed : (SecurityGuard.configUpdate parseJson store caller name calls).progress =
      .renamed) :
    (SecurityGuard.configUpdate parseJson store caller name calls).store.files.get?
      (realPath name) = some (Relay.copied calls.transfer.rounds) := by
  by_cases accepted : Accepted parseJson store caller name calls
  · obtain ⟨-, early, -⟩ | ⟨-, -, failed⟩ | ⟨success, -, -, files⟩ :=
      configUpdate_accepted accepted
    · exact absurd (early.symm.trans renamed) (by decide)
    · exact absurd (failed.symm.trans renamed) (by decide)
    · have opened : calls.transfer.Opens := by
        by_contra unopened
        exact (writeRemoteFileToLocal_unopened store.files _ unopened).1 success
      obtain ⟨passes, content⟩ := writeRemoteFileToLocal_opened store.files
        (tmpPath caller calls.tid name) opened
      rw [files, content, get?_renamed, writeRounds_content [] (passes.mp success).1,
        List.nil_append]
  · exact absurd ((configUpdate_refused accepted).1.symm.trans renamed) (by decide)

/-- A call that does not get to the work of the library fails. -/
theorem arrived_fails
    (stops : ¬((SecurityGuard.configUpdate parseJson store caller name calls).progress =
      .renamed ∧ calls.libraryOpens = true ∧ calls.symbolFound = true)) :
    (SecurityGuard.configUpdate parseJson store caller name calls).code ≠ .success := by
  have failed : Code.failed ≠ .success := by decide
  have badParam : Code.badParam ≠ .success := by decide
  rw [SecurityGuard.configUpdate] at stops ⊢
  dsimp only at stops ⊢
  split_ifs at stops ⊢ with refused untrusted unnamed unwritten renameFails
  · exact refused
  · exact badParam
  · exact badParam
  · exact unwritten
  · exact failed
  · rw [UpdateCalls.updateConfig]
    split_ifs with closed unfound
    · exact failed
    · exact failed
    · exact failed
    · exact absurd ⟨rfl, by simpa using closed, by simpa using unfound⟩ stops

end Arrival

namespace ConfigWorld

/-- The documents are stored where a start looks for them, and the maps hold their values.  Every
configured event has its own table; a table of an event that is no longer configured may stay. -/
structure Refines (world : ConfigWorld) (spec : ConfigSpec) : Prop where
  list : spec.list = world.files.get? updateListFile
  events : spec.events.stored =
    (world.files.get? eventUpdateFile).or (world.files.get? eventPresetFile)
  models : spec.models.stored =
    (world.files.get? modelUpdateFile).or (world.files.get? modelPresetFile)
  groups : spec.groups.stored = world.files.get? eventGroupPresetFile
  eventMap : world.config.eventMap = eventMapOf (spec.events.loaded.getD [])
  tables : ∀ eventId cfg, world.config.eventMap.get? eventId = some cfg →
    world.config.eventToTableMap.get? eventId = some cfg.dbTable
  modelMap : world.modelMap = modelMapOf (spec.models.loaded.getD [])
  eventGroupMap : world.config.eventGroupMap = eventGroupMapOf (spec.groups.loaded.getD [])

variable {parsers : Parsers} {world : ConfigWorld} {spec : ConfigSpec} {calls : SubscriberCalls}

/-- Other files do not matter. -/
theorem Refines.of_files (refines : world.Refines spec) {files : Files}
    (same : ∀ file ∈ configFiles, files.get? file = world.files.get? file) :
    ({ world with files } : ConfigWorld).Refines spec where
  list := by
    rw [same updateListFile (by simp [configFiles])]
    exact refines.list
  events := by
    rw [same eventUpdateFile (by simp [configFiles]), same eventPresetFile (by simp [configFiles])]
    exact refines.events
  models := by
    rw [same modelUpdateFile (by simp [configFiles]), same modelPresetFile (by simp [configFiles])]
    exact refines.models
  groups := by
    rw [same eventGroupPresetFile (by simp [configFiles])]
    exact refines.groups
  eventMap := refines.eventMap
  tables := refines.tables
  modelMap := refines.modelMap
  eventGroupMap := refines.eventGroupMap

/-- What an update that succeeds has written, and what it leaves when it fails. -/
def Outcome (answer : Bool × ConfigWorld) (written spec : ConfigSpec) : Prop :=
  answer.2.Refines (if answer.1 then written else spec)

theorem Outcome.of_refines {written : ConfigSpec} (refines : world.Refines written) :
    Outcome (true, world) written spec := refines

theorem loadChecked_eq (path : String) :
    world.loadChecked calls path = world.files.openChecked calls.streamOpens path := by
  rw [loadChecked, Files.openChecked]
  cases world.files.get? path <;> rfl

theorem parse_loadChecked {α : Type} {path : String} {content : List UInt8}
    (found : world.files.get? path = some content) {parse : Json → Option α} {value : α}
    (read : ((world.loadChecked calls path).bind parsers.parseJson).bind parse = some value) :
    ((checkedText content).bind parsers.parseJson).bind parse = some value := by
  rw [loadChecked_eq, parse_openChecked] at read
  split_ifs at read
  rwa [found] at read

theorem get?_copyFile_of_mem {srcPath dstPath file : String} (mem : file ∈ configFiles)
    (outside : copyTmpPath dstPath ∉ configFiles) (apart : file ≠ dstPath) :
    (copyFile world.files srcPath dstPath calls.copy).2.get? file = world.files.get? file :=
  get?_copyFile apart fun same => outside (same ▸ mem)

/-- An update of the events replaces their document and their map, or leaves both. -/
theorem updateEventConfig_refines (refines : world.Refines spec)
    (keeps : ∀ content, calls.copy.Keeps eventCacheFile eventUpdateFile content)
    {content : List UInt8} (found : world.files.get? eventCacheFile = some content) :
    Outcome (world.updateEventConfig parsers calls)
      { spec with events := spec.events.write (parseEventFile parsers) content } spec := by
  have outside : copyTmpPath eventUpdateFile ∉ configFiles := by decide +kernel
  rw [updateEventConfig]
  cases read : ConfigData.readConfigs parsers.parseJson
      (world.loadChecked calls eventCacheFile) with
  | none => exact refines
  | some configs =>
      simp only [Option.isNone_some, Bool.false_eq_true, if_false]
      cases copied : (copyFile world.files eventCacheFile eventUpdateFile calls.copy).1 with
      | false =>
          rw [ConfigData.update, read]
          refine refines.of_files fun file mem => ?_
          exact get?_copyFile_failed copied fun same => outside (same ▸ mem)
      | true =>
          have kept (file : String) (mem : file ∈ configFiles) (apart : file ≠ eventUpdateFile) :
              (copyFile world.files eventCacheFile eventUpdateFile calls.copy).2.get? file =
                world.files.get? file :=
            get?_copyFile_of_mem mem outside apart
          have stored := (get?_copyFile_succeeded copied keeps).trans found
          have parsed : parseEventFile parsers content = some configs :=
            parse_loadChecked found read
          rw [world.config.update_of_read read, Backed.write_of_reads parsed]
          refine Outcome.of_refines ?_
          exact
            { list := by
                rw [kept updateListFile (by simp [configFiles]) (by decide +kernel)]
                exact refines.list
              events := by rw [stored, Option.some_or]
              models := by
                rw [kept modelUpdateFile (by simp [configFiles]) (by decide +kernel),
                  kept modelPresetFile (by simp [configFiles]) (by decide +kernel)]
                exact refines.models
              groups := by
                rw [kept eventGroupPresetFile (by simp [configFiles]) (by decide +kernel)]
                exact refines.groups
              eventMap := rfl
              tables := fun eventId cfg found => get?_eventTables found _
              modelMap := refines.modelMap
              eventGroupMap := refines.eventGroupMap }

/-- An update of the models does the same. -/
theorem updateModelConfig_refines (refines : world.Refines spec)
    (keeps : ∀ content, calls.copy.Keeps modelCacheFile modelUpdateFile content)
    {content : List UInt8} (found : world.files.get? modelCacheFile = some content) :
    Outcome (world.updateModelConfig parsers calls)
      { spec with models := spec.models.write (parseModelFile parsers) content } spec := by
  have outside : copyTmpPath modelUpdateFile ∉ configFiles := by decide +kernel
  rw [updateModelConfig]
  cases read : world.readModels parsers calls with
  | none => exact refines
  | some configs =>
      dsimp only
      by_cases copied : (copyFile world.files modelCacheFile modelUpdateFile calls.copy).1 = true
      · have kept (file : String) (mem : file ∈ configFiles) (apart : file ≠ modelUpdateFile) :
            (copyFile world.files modelCacheFile modelUpdateFile calls.copy).2.get? file =
              world.files.get? file :=
          get?_copyFile_of_mem mem outside apart
        have stored := (get?_copyFile_succeeded copied keeps).trans found
        have parsed : parseModelFile parsers content = some configs :=
          parse_loadChecked found read
        have done : ¬(!(copyFile world.files modelCacheFile modelUpdateFile
            calls.copy).1) = true := by
          simp [copied]
        rw [if_neg done, Backed.write_of_reads parsed, foldl_models]
        refine Outcome.of_refines ?_
        exact
          { list := by
              rw [kept updateListFile (by simp [configFiles]) (by decide +kernel)]
              exact refines.list
            events := by
              rw [kept eventUpdateFile (by simp [configFiles]) (by decide +kernel),
                kept eventPresetFile (by simp [configFiles]) (by decide +kernel)]
              exact refines.events
            models := by rw [stored, Option.some_or]
            groups := by
              rw [kept eventGroupPresetFile (by simp [configFiles]) (by decide +kernel)]
              exact refines.groups
            eventMap := refines.eventMap
            tables := refines.tables
            modelMap := rfl
            eventGroupMap := refines.eventGroupMap }
      · have failed := Bool.eq_false_iff.mpr copied
        have stopped : (!(copyFile world.files modelCacheFile modelUpdateFile
            calls.copy).1) = true := by
          simp [failed]
        rw [if_pos stopped]
        refine refines.of_files fun file mem => ?_
        exact get?_copyFile_failed failed fun same => outside (same ▸ mem)

/-- Another file goes to a place where no configuration is. -/
theorem copyListed_refines {name : String} (refines : world.Refines spec)
    (listed : IsListedFile (realPath name))
    (safe : SafeList parsers (world.files.get? updateListFile)) :
    (world.copyListed parsers (realPath name) calls).2.Refines spec := by
  have outside : world.dstPath parsers (realPath name) calls ∉ configFiles ∧
      copyTmpPath (world.dstPath parsers (realPath name) calls) ∉ configFiles := by
    rw [dstPath, if_pos listed, getUpdateFileDstPath, updateList]
    cases entry : updateListEntry parsers
        (if calls.listOpens then world.files.get? updateListFile else none) (realPath name) with
    | none =>
        refine ⟨fun mem => ne_tmp_of_mem_configFiles mem name rfl, fun mem => ?_⟩
        refine ne_tmp_of_mem_configFiles mem (name ++ ".tmp") ?_
        rw [Option.getD_none, copyTmpPath, realPath, String.append_assoc]
    | some path =>
        split_ifs at entry
        · exact safe name path listed entry
        · simp [updateListEntry] at entry
  rw [copyListed]
  dsimp only
  split_ifs
  · refine refines.of_files fun file mem => ?_
    exact get?_copyFile_of_mem mem outside.2 fun same => outside.1 (same ▸ mem)
  · exact refines

theorem realPath_injective {name other : String} (same : realPath name = realPath other) :
    name = other := by
  have lists := congrArg String.toList same
  simp only [realPath, String.toList_append, List.append_cancel_left_eq] at lists
  exact String.toList_injective lists

/-- What the library does to a file that has arrived. -/
theorem updateConfig_refines {name : String} (refines : world.Refines spec)
    (whole : calls.CopiesWhole) (safe : SafeList parsers (world.files.get? updateListFile))
    {content : List UInt8} (found : world.files.get? (realPath name) = some content) :
    let updated := world.updateConfig parsers (realPath name) calls
    Outcome (updated.isSuccess, updated.world) (spec.write parsers name content) spec := by
  have taken : Outcome (world.takeOver parsers (realPath name) calls)
      (spec.write parsers name content) spec := by
    rw [takeOver, ConfigSpec.write]
    by_cases event : name = eventCfgFile
    · subst event
      have cache : realPath eventCfgFile = eventCacheFile := rfl
      rw [cache, if_pos rfl, if_pos rfl]
      exact updateEventConfig_refines refines whole.1 found
    · have other : realPath name ≠ eventCacheFile := fun same => event (realPath_injective same)
      rw [if_neg other, if_neg event]
      by_cases model : name = modelCfgFile
      · subst model
        have cache : realPath modelCfgFile = modelCacheFile := rfl
        rw [cache, if_pos rfl, if_pos rfl]
        exact updateModelConfig_refines refines whole.2 found
      · have listed : realPath name ≠ modelCacheFile := fun same =>
          model (realPath_injective same)
        rw [if_neg listed, if_neg model, Outcome, ite_self]
        exact copyListed_refines refines ⟨other, listed⟩ safe
  rw [updateConfig]
  dsimp only
  by_cases removeFails : calls.removeFails = true
  · rw [if_pos removeFails]
    exact taken
  · rw [if_neg removeFails]
    refine taken.of_files fun file mem => ?_
    exact (SortedMap.get?_erase ..).trans (if_neg (ne_tmp_of_mem_configFiles mem name))

/-! ## A start -/

theorem foldl_loaded {κ ν Value : Type} [LinearOrder κ] (entries : List Value → List (κ × ν))
    (none_entered : entries [] = []) {loaded : Option (List Value)} {values : List Value}
    (same : ∀ value, loaded = some value → value = values) :
    (entries values).foldl (fun map entry => map.insert entry.1 entry.2)
        ((entries (loaded.getD [])).foldl (fun map entry => map.insert entry.1 entry.2)
          SortedMap.empty) =
      (entries values).foldl (fun map entry => map.insert entry.1 entry.2) .empty := by
  cases loaded with
  | none => rw [Option.getD_none, none_entered, List.foldl_nil]
  | some value =>
      obtain rfl := same value rfl
      exact SortedMap.foldl_insert_entries_again _ _

/-- What a document reads is the value in memory, if there is one. -/
theorem eq_of_coherent {Document Value : Type} {read : Document → Option Value}
    {backed : Backed Document Value} (coherent : backed.Coherent read) {value : Value}
    (reads : backed.readable read = some value) (other : Value)
    (loaded : backed.loaded = some other) : other = value :=
  Option.some.inj ((coherent other loaded).symm.trans reads)

variable (opens : Bool)

theorem initEventConfig_refines (refines : world.Refines spec)
    (coherent : spec.events.Coherent (parseEventFile parsers)) :
    (world.initEventConfig parsers opens).2.Refines
        { spec with events := spec.events.load (parseEventFile parsers) opens } ∧
      (world.initEventConfig parsers opens).1 =
        (if opens then spec.events.readable (parseEventFile parsers) else none).isSome := by
  have read : ConfigData.readConfigs parsers.parseJson (world.files.openChecked opens
      (world.files.startFile eventUpdateFile eventPresetFile)) =
        if opens then spec.events.readable (parseEventFile parsers) else none := by
    rw [ConfigData.readConfigs, parse_openChecked, get?_startFile, ← refines.events]
    rfl
  rw [initEventConfig, Backed.load, ← read]
  cases found : ConfigData.readConfigs parsers.parseJson (world.files.openChecked opens
      (world.files.startFile eventUpdateFile eventPresetFile)) with
  | none =>
      rw [ConfigData.parse, found, Option.none_or]
      exact ⟨refines, rfl⟩
  | some configs =>
      obtain ⟨parsed, events, tables, untouched⟩ := world.config.parse_of_read found
      rw [found] at read
      have reads : spec.events.readable (parseEventFile parsers) = some configs := by
        split_ifs at read
        exact read.symm
      have entered : (world.config.parse parsers.parseJson (world.files.openChecked opens
          (world.files.startFile eventUpdateFile eventPresetFile))).2.eventMap =
            eventMapOf configs := by
        rw [events, refines.eventMap]
        exact foldl_loaded eventEntries rfl (eq_of_coherent coherent reads)
      refine ⟨?_, parsed⟩
      exact
        { list := refines.list
          events := refines.events
          models := refines.models
          groups := refines.groups
          eventMap := entered
          tables := fun eventId cfg bound => by
            rw [entered] at bound
            rw [tables]
            exact get?_eventTables bound _
          modelMap := refines.modelMap
          eventGroupMap := untouched.trans refines.eventGroupMap }

theorem initModelConfig_refines (refines : world.Refines spec)
    (coherent : spec.models.Coherent (parseModelFile parsers)) :
    (world.initModelConfig parsers opens).2.Refines
        { spec with models := spec.models.load (parseModelFile parsers) opens } ∧
      (world.initModelConfig parsers opens).1 =
        (if opens then spec.models.readable (parseModelFile parsers) else none).isSome := by
  have read : ((world.files.openChecked opens
      (world.files.startFile modelUpdateFile modelPresetFile)).bind parsers.parseJson).bind
        parseModelConfig =
          if opens then spec.models.readable (parseModelFile parsers) else none := by
    rw [parse_openChecked, get?_startFile, ← refines.models]
    rfl
  rw [initModelConfig, Backed.load, ← read]
  cases found : ((world.files.openChecked opens
      (world.files.startFile modelUpdateFile modelPresetFile)).bind parsers.parseJson).bind
        parseModelConfig with
  | none =>
      rw [Option.none_or]
      exact ⟨refines, rfl⟩
  | some configs =>
      rw [found] at read
      have reads : spec.models.readable (parseModelFile parsers) = some configs := by
        split_ifs at read
        exact read.symm
      have entered : configs.foldl (fun models cfg => models.insert cfg.modelId cfg)
          world.modelMap = modelMapOf configs := by
        rw [foldl_models, refines.modelMap]
        exact foldl_loaded modelEntries rfl (eq_of_coherent coherent reads)
      refine ⟨?_, rfl⟩
      exact
        { list := refines.list
          events := refines.events
          models := refines.models
          groups := refines.groups
          eventMap := refines.eventMap
          tables := refines.tables
          modelMap := entered
          eventGroupMap := refines.eventGroupMap }

variable (parsers) in
theorem initEventGroupConfig_refines (refines : world.Refines spec) :
    (world.initEventGroupConfig parsers opens).2.Refines
        { spec with groups := spec.groups.load (parseEventGroupFile parsers) opens } ∧
      (world.initEventGroupConfig parsers opens).1 =
        (if opens then spec.groups.readable (parseEventGroupFile parsers) else none).isSome := by
  have read : ((world.files.openChecked opens eventGroupPresetFile).bind parsers.parseJson).bind
      parseEventGroupConfig =
        if opens then spec.groups.readable (parseEventGroupFile parsers) else none := by
    rw [parse_openChecked, ← refines.groups]
    rfl
  rw [initEventGroupConfig, Backed.load, ← read]
  cases found : ((world.files.openChecked opens eventGroupPresetFile).bind
      parsers.parseJson).bind parseEventGroupConfig with
  | none =>
      rw [Option.none_or]
      exact ⟨refines, rfl⟩
  | some groups =>
      refine ⟨?_, rfl⟩
      exact
        { list := refines.list
          events := refines.events
          models := refines.models
          groups := refines.groups
          eventMap := refines.eventMap
          tables := refines.tables
          modelMap := refines.modelMap
          eventGroupMap := rfl }

/-- `InitAllConfig` reads the three documents, and succeeds if all of them can be read. -/
theorem initAllConfig_refines (refines : world.Refines spec) (coherent : spec.Coherent parsers)
    (calls : InitCalls) :
    (world.initAllConfig parsers calls).2.Refines (spec.load parsers calls) ∧
      ((world.initAllConfig parsers calls).1 = true ↔
        (if calls.eventOpens then spec.events.readable (parseEventFile parsers)
          else none).isSome = true ∧
        (if calls.modelOpens then spec.models.readable (parseModelFile parsers)
          else none).isSome = true ∧
        (if calls.groupOpens then spec.groups.readable (parseEventGroupFile parsers)
          else none).isSome = true) := by
  obtain ⟨events, eventsRead⟩ := initEventConfig_refines calls.eventOpens refines coherent.events
  obtain ⟨models, modelsRead⟩ := initModelConfig_refines calls.modelOpens events coherent.models
  obtain ⟨groups, groupsRead⟩ := initEventGroupConfig_refines parsers calls.groupOpens models
  refine ⟨groups, ?_⟩
  rw [initAllConfig]
  dsimp only
  rw [eventsRead, modelsRead, groupsRead, Bool.and_eq_true, Bool.and_eq_true, and_assoc]

end ConfigWorld

/-! ## Runs -/

namespace ConfigService

variable {parsers : Parsers} {service : ConfigService} {spec : ConfigSpec}

theorem boot_refines (files : Files) : (boot files).world.Refines (.boot files) where
  list := rfl
  events := rfl
  models := rfl
  groups := rfl
  eventMap := rfl
  tables _ _ found := absurd found (by simp [boot])
  modelMap := rfl
  eventGroupMap := rfl

theorem drop_refines (refines : service.world.Refines spec) :
    (boot service.world.files).world.Refines spec.drop where
  list := refines.list
  events := refines.events
  models := refines.models
  groups := refines.groups
  eventMap := rfl
  tables _ _ found := absurd found (by simp [boot])
  modelMap := rfl
  eventGroupMap := rfl

theorem configUpdate_refines (refines : service.world.Refines spec)
    (safe : SafeList parsers spec.list) (caller : Caller) (name : String) (calls : UpdateCalls)
    {subscriber : SubscriberCalls} (whole : subscriber.CopiesWhole) :
    let answer := service.configUpdate parsers caller name calls subscriber
    answer.2.world.Refines
      (spec.after parsers (.configUpdate caller name calls subscriber, answer.1)) := by
  have arrived := refines.of_files fun file mem =>
    @get?_arrived parsers.parseJson ⟨service.world.files, service.configCacheFilesSet⟩ caller name
      calls file mem
  rw [configUpdate]
  dsimp only
  split_ifs with renamed updates
  · have taken := ConfigWorld.updateConfig_refines arrived whole (arrived.list ▸ safe)
      (get?_realPath_arrived renamed.1)
    rw [ConfigWorld.Outcome] at taken
    dsimp only at taken
    rw [if_pos updates] at taken
    exact taken
  · have left := ConfigWorld.updateConfig_refines arrived whole (arrived.list ▸ safe)
      (get?_realPath_arrived renamed.1)
    rw [ConfigWorld.Outcome] at left
    dsimp only at left
    rw [if_neg updates] at left
    exact left
  · have fails := arrived_fails renamed
    rw [ConfigSpec.after]
    dsimp only
    rw [if_neg fails]
    exact arrived

theorem answer_refines (refines : service.world.Refines spec) (coherent : spec.Coherent parsers)
    (safe : SafeList parsers spec.list) {call : ConfigCall} (whole : call.CopiesWhole) :
    (service.answer parsers call).2.world.Refines
      (spec.after parsers (call, (service.answer parsers call).1)) := by
  cases call with
  | configUpdate caller name calls subscriber =>
      exact configUpdate_refines refines safe caller name calls whole
  | initAllConfig calls => exact (ConfigWorld.initAllConfig_refines refines coherent calls).1
  | restart => exact drop_refines refines

/-- The service does what the documents do, and the list keeps its copies away from them. -/
structure Follows (parsers : Parsers) (service : ConfigService) (spec : ConfigSpec) : Prop where
  refines : service.world.Refines spec
  coherent : spec.Coherent parsers
  safe : SafeList parsers spec.list

theorem Follows.step (follows : Follows parsers service spec) {label : ConfigCall × Code}
    (whole : label.1.CopiesWhole) {after : ConfigService}
    (taken : next parsers service label = some after) :
    Follows parsers after (spec.after parsers label) := by
  rw [next] at taken
  split_ifs at taken with answers
  obtain rfl := Option.some.inj taken
  have refines := answer_refines follows.refines follows.coherent follows.safe whole
  rw [answers] at refines
  exact ⟨refines, follows.coherent.after label, (spec.list_after label).symm ▸ follows.safe⟩

/-- A list that trusts the file of the events, one event, one model and one group. -/
def fullDocument : Json :=
  .object
    [("trust_list_config", .array [.object [("name", .text eventCfgFile)]]),
      ("eventcfg", .array [.object [("eventId", .text "7"), ("db_table", .text "events")]]),
      ("modelcfg", .array [.object [("model_id", .text "9")]]),
      ("eventGroupList", .array [.object
        [("eventGroupName", .text "securityGroup"), ("eventList", .array [.text "7"]),
          ("permission", .array []), ("isBatchUpload", .number 0)]])]

/-- Every text is that document, and no list of destinations is found. -/
def fullParsers : Parsers where
  parseJson _ := some fullDocument
  cJsonParse _ := none

/-- The files that come with the system. -/
def presetFiles : Files :=
  ((SortedMap.empty.insert eventPresetFile [1]).insert modelPresetFile [1]).insert
    eventGroupPresetFile [1]

/-- One byte arrives and is written. -/
def byteRound : CopyRound where
  chunk := [1]
  written := some 1
  nonempty := List.cons_ne_nil 1 []
  fits := Nat.succ_le_succ (Nat.zero_le _)
  front _ written := Nat.le_of_eq (Option.some.inj written).symm

/-- The byte is the new document of the events, and is copied. -/
def eventUpdate : ConfigCall :=
  .configUpdate configCaller eventCfgFile
    { tid := 11
      trustList := some "a list"
      transfer := { rounds := [byteRound], ending := .endOfStream } }
    smoothCalls

/-- A start and an update of the events. -/
def updatedTrace : List (ConfigCall × Code) :=
  [(.initAllConfig {}, .success), (eventUpdate, .success)]

/-- The service after `updatedTrace`. -/
def updatedService : ConfigService :=
  (Transition.run (next fullParsers) (boot presetFiles) updatedTrace).getD (boot presetFiles)

theorem reach_updatedService :
    Transition.run (next fullParsers) (boot presetFiles) updatedTrace = some updatedService :=
  Transition.run_eq_getD (by decide +kernel)

theorem safeList_presetFiles : SafeList fullParsers (presetFiles.get? updateListFile) := by
  have unlisted : presetFiles.get? updateListFile = none := by decide +kernel
  intro _ _ _ listed
  rw [unlisted] at listed
  exact absurd listed (by simp [updateListEntry])

theorem movesAll_smoothCalls (turn left : Nat) : MovesAll smoothCalls.copy.turns turn left := by
  induction left using Nat.strongRecOn generalizing turn with
  | ind left ih =>
      rcases Nat.eq_zero_or_pos left with rfl | positive
      · exact .done turn
      · exact .step rfl (Nat.min_le_left 512 left) (ih (left - 512) (by omega) (turn + 1))

theorem copiesWhole_updatedTrace : ∀ label ∈ updatedTrace, label.1.CopiesWhole := by
  have keeps (srcPath dstPath : String) (apart : srcPath ≠ copyTmpPath dstPath)
      (content : List UInt8) : smoothCalls.copy.Keeps srcPath dstPath content :=
    .inr ⟨apart, .inr rfl, movesAll_smoothCalls 0 content.length,
      fun _ cut => absurd cut (by simp [smoothCalls])⟩
  intro label mem
  obtain rfl | rfl : label = (.initAllConfig {}, .success) ∨ label = (eventUpdate, .success) := by
    simpa [updatedTrace] using mem
  · trivial
  · exact ⟨keeps _ _ (by decide +kernel), keeps _ _ (by decide +kernel)⟩

section Runs

variable {files : Files} {trace : List (ConfigCall × Code)}

theorem follows_run (safe : SafeList parsers (files.get? updateListFile))
    (whole : ∀ label ∈ trace, label.1.CopiesWhole)
    (reach : Transition.run (next parsers) (boot files) trace = some service) :
    Follows parsers service (trace.foldl (ConfigSpec.after parsers) (.boot files)) := by
  have start : Follows parsers (boot files) (.boot files) :=
    ⟨boot_refines files, ConfigSpec.coherent_boot files, safe⟩
  exact Transition.run_simulates (ConfigSpec.after parsers)
    (fun follows permitted taken => follows.step permitted taken) start
    (Transition.along_of_mem whole (boot files)) reach

/-- After every run of updates, loads and restarts, one after the other, the files and the maps
are what the calls that returned `SUCCESS` have made of three documents. -/
theorem config_refines (safe : SafeList parsers (files.get? updateListFile))
    (whole : ∀ label ∈ trace, label.1.CopiesWhole)
    (reach : Transition.run (next parsers) (boot files) trace = some service) :
    let spec := trace.foldl (ConfigSpec.after parsers) (.boot files)
    service.world.Refines spec ∧ spec.Coherent parsers := by
  have follows := follows_run safe whole reach
  exact ⟨follows.refines, follows.coherent⟩

theorem config_refines_updatedTrace :
    let spec := updatedTrace.foldl (ConfigSpec.after fullParsers) (.boot presetFiles)
    updatedService.world.Refines spec ∧ spec.Coherent fullParsers :=
  config_refines safeList_presetFiles copiesWhole_updatedTrace reach_updatedService

/-- A start whose streams open gives back the events, the models and the groups in memory, unless
there were none, and every configured event its table. -/
theorem restart_restores (safe : SafeList parsers (files.get? updateListFile))
    (whole : ∀ label ∈ trace, label.1.CopiesWhole)
    (reach : Transition.run (next parsers) (boot files) trace = some service) :
    let restarted := ((boot service.world.files).world.initAllConfig parsers {}).2
    (service.world.config.eventMap ≠ .empty →
        restarted.config.eventMap = service.world.config.eventMap ∧
          ∀ eventId, service.world.config.eventMap.contains eventId = true →
            restarted.config.getTableFromEventId eventId =
              service.world.config.getTableFromEventId eventId) ∧
      (service.world.modelMap ≠ .empty → restarted.modelMap = service.world.modelMap) ∧
        (service.world.config.eventGroupMap ≠ .empty →
          restarted.config.eventGroupMap = service.world.config.eventGroupMap) := by
  obtain ⟨refines, coherent, -⟩ := follows_run safe whole reach
  generalize trace.foldl (ConfigSpec.after parsers) (.boot files) = spec at refines coherent
  have start := (ConfigWorld.initAllConfig_refines (drop_refines refines)
    (ConfigSpec.Coherent.drop : spec.drop.Coherent parsers) {}).1
  dsimp only
  refine ⟨fun some_events => ?_, fun some_models => ?_, fun some_groups => ?_⟩
  · cases loaded : spec.events.loaded with
    | none =>
        rw [refines.eventMap, loaded] at some_events
        exact absurd rfl some_events
    | some configs =>
        have restored : (spec.drop.load parsers {}).events.loaded = some configs :=
          Backed.load_drop coherent.events loaded
        have same := start.eventMap.trans
          ((congrArg (fun loaded => eventMapOf (loaded.getD [])) (restored.trans loaded.symm)).trans
            refines.eventMap.symm)
        refine ⟨same, fun eventId bound => ?_⟩
        obtain ⟨cfg, found⟩ := SortedMap.contains_iff.mp bound
        have table := refines.tables eventId cfg found
        rw [← same] at found
        rw [ConfigData.getTableFromEventId, ConfigData.getTableFromEventId, table,
          start.tables eventId cfg found]
  · cases loaded : spec.models.loaded with
    | none =>
        rw [refines.modelMap, loaded] at some_models
        exact absurd rfl some_models
    | some configs =>
        have restored : (spec.drop.load parsers {}).models.loaded = some configs :=
          Backed.load_drop coherent.models loaded
        rw [start.modelMap, restored, refines.modelMap, loaded]
  · cases loaded : spec.groups.loaded with
    | none =>
        rw [refines.eventGroupMap, loaded] at some_groups
        exact absurd rfl some_groups
    | some groups =>
        have restored : (spec.drop.load parsers {}).groups.loaded = some groups :=
          Backed.load_drop coherent.groups loaded
        rw [start.eventGroupMap, restored, refines.eventGroupMap, loaded]

theorem restart_restores_updatedTrace :
    ((boot updatedService.world.files).world.initAllConfig fullParsers {}).2.config.eventMap =
      updatedService.world.config.eventMap :=
  ((restart_restores safeList_presetFiles copiesWhole_updatedTrace
    reach_updatedService).1 (by decide +kernel)).1

/-- No update keeps the service from starting. -/
theorem start_stays_possible (safe : SafeList parsers (files.get? updateListFile))
    (whole : ∀ label ∈ trace, label.1.CopiesWhole)
    (reach : Transition.run (next parsers) (boot files) trace = some service)
    (starts : ((boot files).world.initAllConfig parsers {}).1 = true) :
    ((boot service.world.files).world.initAllConfig parsers {}).1 = true := by
  obtain ⟨events, models, groups⟩ := (ConfigWorld.initAllConfig_refines (boot_refines files)
    (ConfigSpec.coherent_boot files) {}).2.mp starts
  have readable : (ConfigSpec.boot files).Readable parsers := ⟨events, models, groups⟩
  have kept := readable.foldl trace
  have refines := (follows_run safe whole reach).refines
  exact (ConfigWorld.initAllConfig_refines (drop_refines refines) ConfigSpec.Coherent.drop
    {}).2.mpr ⟨kept.events, kept.models, kept.groups⟩

theorem start_stays_possible_updatedTrace :
    ((boot updatedService.world.files).world.initAllConfig fullParsers {}).1 = true :=
  start_stays_possible safeList_presetFiles copiesWhole_updatedTrace reach_updatedService
    (by decide +kernel)

end Runs

end ConfigService

end SecurityGuard
