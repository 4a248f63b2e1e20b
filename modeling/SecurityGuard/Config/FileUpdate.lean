import SecurityGuard.Config.Json
import SecurityGuard.Foundation.Relay
import SecurityGuard.Foundation.SortedMap
import SecurityGuard.Service.Permission

/-!
# Updating a configuration file

`ConfigUpdate` copies the content of a descriptor to a temporary file and renames it to its
place.  Whether the file arrives whole, and whether the temporary file is gone after a failure,
is read off the answers of the system calls.
-/

namespace SecurityGuard

/-- The files by their paths. -/
abbrev Files := SortedMap String (List UInt8)

def cfgFileMaxSize : Nat := 1 * 1024 * 1024
def cfgFileBuffSize : Nat := 1 * 1024 * 1024 + 1
def configRootPath : String := "/data/service/el1/public/security_guard/"
def manageConfigPermission : String := "ohos.permission.MANAGE_SECURITY_GUARD_CONFIG"

/-- One read of the loop with the write that follows it. -/
abbrev CopyRound := Relay.Round UInt8 cfgFileBuffSize

/-- The answers of the system calls of `WriteRemoteFileToLocal`. -/
structure Transfer where
  dupFails : Bool := false
  openFails : Bool := false
  rounds : List CopyRound
  ending : Relay.Ending UInt8
  fsyncFails : Bool := false

/-- The complete byte stream of the descriptor. -/
def Transfer.stream (transfer : Transfer) : List UInt8 :=
  Relay.stream transfer.rounds transfer.ending.rest

/-- The answers of the calls of `ConfigUpdate`. -/
structure UpdateCalls where
  tid : Int
  /-- The content of the trust list, if it can be opened. -/
  trustList : Option String
  transfer : Transfer
  renameFails : Bool := false
  libraryOpens : Bool := true
  symbolFound : Bool := true
  updates : Bool := true

/-- The files with the names that the trust lists have named so far. -/
structure ConfigStore where
  files : Files := .empty
  configCacheFilesSet : SortedSet String := .empty

/-- How far a call of `ConfigUpdate` has come. -/
inductive UpdateProgress where
  | beforeRename
  | renameFailed
  | renamed
  deriving DecidableEq, Repr

/-- What an update leaves, and how far it got. -/
structure UpdateResult where
  code : Code
  progress : UpdateProgress
  store : ConfigStore

/-- The loop of `WriteRemoteFileToLocal`, with what the temporary file holds.  A write counts as
successful when it has written anything. -/
def writeRounds (content : List UInt8) : List CopyRound → Code × List UInt8
  | [] => (.success, content)
  | round :: rounds =>
      if cfgFileMaxSize < round.chunk.length then (.badParam, content)
      else
        match round.written with
        | none => (.failed, content)
        | some count => writeRounds (content ++ round.chunk.take count) rounds

/-- Neither a failing read nor a failure leaves a trace: the file stays where it is. -/
def writeRemoteFileToLocal (files : Files) (transfer : Transfer) (path : String) : Code × Files :=
  if transfer.dupFails then (.failed, files)
  else if transfer.openFails then (.failed, files)
  else
    let written := writeRounds [] transfer.rounds
    -- What was written before a failing round stays in the temporary file.
    let files := files.insert path written.2
    if written.1 ≠ .success then (written.1, files)
    else if transfer.fsyncFails then (.failed, files)
    else (.success, files)

/-- Enter the names of a trust list up to the first element without one. -/
def emplaceNames (names : SortedSet String) : List Json → Bool × SortedSet String
  | [] => (true, names)
  | element :: elements =>
      match element.find "name" with
      | some (.text name) => emplaceNames (names.insert name ()) elements
      | _ => (false, names)

/-- Read the names that a trust list admits. -/
def parseTrustListFile (parseJson : String → Option Json) (names : SortedSet String)
    (trustList : Option String) : Bool × SortedSet String :=
  match trustList with
  | none => (false, names)
  | some content =>
      if content.utf8ByteSize = 0 ∨ cfgFileMaxSize < content.utf8ByteSize then (false, names)
      else
        match (parseJson content).bind (·.find "trust_list_config") with
        | some (.array elements) => emplaceNames names elements
        | _ => (false, names)

/-- The check of `IsCallerHasApiPermission` for this interface. -/
def mayUpdateConfig (caller : Caller) : Code :=
  let code := isCallerHasPublicPermissions caller [manageConfigPermission]
  if code ≠ .success then code else isCallerHasSystemPermission caller

/-- The path of a file that a caller has written. -/
def realPath (name : String) : String := configRootPath ++ "tmp/" ++ name

/-- The path of the copy of a call. -/
def tmpPath (caller : Caller) (tid : Int) (name : String) : String :=
  realPath name ++ "." ++ toString caller.pid ++ "." ++ toString tid ++ ".t"

/-- Give the file at a path another path. -/
def Files.rename (files : Files) (path other : String) : Files :=
  match files.get? path with
  | none => files
  | some content => (files.erase path).insert other content

/-- What `ConfigUpdate` returns after the rename.  The library copies the file elsewhere. -/
def UpdateCalls.updateConfig (calls : UpdateCalls) : Code :=
  if !calls.libraryOpens then .failed
  else if !calls.symbolFound then .failed
  else if !calls.updates then .failed
  else .success

/-- Check a caller and a name, and copy the file. -/
def configUpdate (parseJson : String → Option Json) (store : ConfigStore) (caller : Caller)
    (name : String) (calls : UpdateCalls) : UpdateResult :=
  let code := mayUpdateConfig caller
  if code ≠ .success then { code, progress := .beforeRename, store }
  else
    let trusted := parseTrustListFile parseJson store.configCacheFilesSet calls.trustList
    -- Names that an earlier call has read stay trusted.
    let store := { store with configCacheFilesSet := trusted.2 }
    if !trusted.1 then { code := .badParam, progress := .beforeRename, store }
    else if !trusted.2.contains name then
      { code := .badParam, progress := .beforeRename, store }
    else
      let path := tmpPath caller calls.tid name
      let written := writeRemoteFileToLocal store.files calls.transfer path
      let store := { store with files := written.2 }
      if written.1 ≠ .success then { code := written.1, progress := .beforeRename, store }
      else if calls.renameFails then
        { code := .failed
          progress := .renameFailed
          store := { store with files := store.files.erase path } }
      else
        { code := calls.updateConfig
          progress := .renamed
          store := { store with files := (store.files.rename path (realPath name)).erase path } }

/-- The file that has reached its place is the whole stream and not too large, and a call that
fails before the rename has changed nothing and leaves no temporary file. -/
structure ArrivesWhole (before : ConfigStore) (result : UpdateResult) (stream : List UInt8)
    (path temporary : String) : Prop where
  whole : result.progress = .renamed →
    result.store.files.get? path = some stream ∧ stream.length ≤ cfgFileMaxSize
  nothing : result.progress = .beforeRename →
    result.store.files.get? path = before.files.get? path ∧
      result.store.files.contains temporary = false

namespace Transfer

variable (transfer : Transfer)

/-- The temporary file is opened. -/
def Opens : Prop := transfer.dupFails = false ∧ transfer.openFails = false

/-- No read returns too much, no write fails and neither does `fsync`. -/
def Passes : Prop :=
  (∀ round ∈ transfer.rounds, round.chunk.length ≤ cfgFileMaxSize ∧ round.written ≠ none) ∧
    transfer.fsyncFails = false

/-- No write is short, nothing is left unread, and the whole is not too large. -/
def Whole : Prop :=
  (∀ round ∈ transfer.rounds, round.written = some round.chunk.length) ∧
    transfer.ending.rest = [] ∧ transfer.stream.length ≤ cfgFileMaxSize

end Transfer

/-- The caller and the name are accepted. -/
def Accepted (parseJson : String → Option Json) (store : ConfigStore) (caller : Caller)
    (name : String) (calls : UpdateCalls) : Prop :=
  mayUpdateConfig caller = .success ∧
    (parseTrustListFile parseJson store.configCacheFilesSet calls.trustList).1 = true ∧
      (parseTrustListFile parseJson store.configCacheFilesSet
        calls.trustList).2.contains name = true

/-- A call that opens its temporary file gets to the rename, and renames only a whole file.  A
call that does not open it finds none from before. -/
def HandlesFile (parseJson : String → Option Json) (store : ConfigStore) (caller : Caller)
    (name : String) (calls : UpdateCalls) : Prop :=
  (Accepted parseJson store caller name calls ∧ calls.transfer.Opens →
    calls.transfer.Passes ∧ (calls.renameFails = true ∨ calls.transfer.Whole)) ∧
  (¬(Accepted parseJson store caller name calls ∧ calls.transfer.Opens) →
    store.files.contains (tmpPath caller calls.tid name) = false)

/-- The loop succeeds exactly if every round passes, and has then copied what the writes took. -/
theorem writeRounds_success_iff (content : List UInt8) (rounds : List CopyRound) :
    (writeRounds content rounds).1 = .success ↔
      ∀ round ∈ rounds, round.chunk.length ≤ cfgFileMaxSize ∧ round.written ≠ none := by
  induction rounds generalizing content with
  | nil => exact iff_of_true rfl fun _ mem => absurd mem (by simp)
  | cons round rounds ih =>
      rw [writeRounds, List.forall_mem_cons]
      split_ifs with large
      · refine iff_of_false (by decide : Code.badParam ≠ .success) fun passes => ?_
        exact absurd passes.1.1 (Nat.not_le_of_lt large)
      · cases written : round.written with
        | none =>
            refine iff_of_false (by decide : Code.failed ≠ .success) fun passes => ?_
            exact passes.1.2 rfl
        | some count =>
            dsimp only
            rw [ih]
            exact ⟨fun rest => ⟨⟨Nat.le_of_not_lt large, by simp⟩, rest⟩, fun passes => passes.2⟩

theorem writeRounds_content (content : List UInt8) {rounds : List CopyRound}
    (passes : ∀ round ∈ rounds, round.chunk.length ≤ cfgFileMaxSize ∧ round.written ≠ none) :
    (writeRounds content rounds).2 = content ++ Relay.copied rounds := by
  induction rounds generalizing content with
  | nil => exact (List.append_nil content).symm
  | cons round rounds ih =>
      obtain ⟨⟨small, succeeds⟩, rest⟩ := List.forall_mem_cons.mp passes
      obtain ⟨count, written⟩ := Option.ne_none_iff_exists'.mp succeeds
      rw [writeRounds, if_neg (Nat.not_lt_of_le small), written]
      dsimp only
      rw [ih _ rest, Relay.copied, Relay.copied, List.flatMap_cons, List.append_assoc,
        Relay.Round.output, written, Option.getD_some]

theorem writeRemoteFileToLocal_unopened (files : Files) {transfer : Transfer} (path : String)
    (unopened : ¬transfer.Opens) :
    (writeRemoteFileToLocal files transfer path).1 ≠ .success ∧
      (writeRemoteFileToLocal files transfer path).2 = files := by
  rw [writeRemoteFileToLocal]
  split_ifs with dup opening
  · exact ⟨(by decide : Code.failed ≠ .success), rfl⟩
  · exact ⟨(by decide : Code.failed ≠ .success), rfl⟩
  all_goals
    exact absurd ⟨Bool.eq_false_iff.mpr dup, Bool.eq_false_iff.mpr opening⟩ unopened

/-- Once the file is opened it stays, whether or not the copy succeeds. -/
theorem writeRemoteFileToLocal_opened (files : Files) {transfer : Transfer} (path : String)
    (opened : transfer.Opens) :
    ((writeRemoteFileToLocal files transfer path).1 = .success ↔ transfer.Passes) ∧
      (writeRemoteFileToLocal files transfer path).2 =
        files.insert path (writeRounds [] transfer.rounds).2 := by
  have dup : ¬transfer.dupFails = true := Bool.eq_false_iff.mp opened.1
  have opening : ¬transfer.openFails = true := Bool.eq_false_iff.mp opened.2
  rw [writeRemoteFileToLocal, if_neg dup, if_neg opening, Transfer.Passes,
    ← writeRounds_success_iff []]
  dsimp only
  split_ifs with failed syncFails
  · exact ⟨iff_of_false failed fun both => failed both.1, rfl⟩
  · refine ⟨iff_of_false (by decide : Code.failed ≠ .success) fun both => ?_, rfl⟩
    exact absurd (both.2.symm.trans syncFails) (by simp)
  · exact ⟨iff_of_true rfl ⟨not_not.mp failed, Bool.eq_false_iff.mpr syncFails⟩, rfl⟩

theorem tmpPath_ne_realPath (caller : Caller) (tid : Int) (name : String) :
    tmpPath caller tid name ≠ realPath name := by
  intro same
  have lengths := congrArg String.length same
  rw [tmpPath, String.length_append, String.length_append, String.length_append,
    String.length_append, String.length_append] at lengths
  have dot : ".".length = 1 := rfl
  omega

section Result

variable {parseJson : String → Option Json} {store : ConfigStore} {caller : Caller}
  {name : String} {calls : UpdateCalls}

theorem configUpdate_refused (refused : ¬Accepted parseJson store caller name calls) :
    (configUpdate parseJson store caller name calls).progress = .beforeRename ∧
      (configUpdate parseJson store caller name calls).store.files = store.files := by
  rw [configUpdate]
  dsimp only
  split_ifs with forbidden untrusted unnamed
  · exact ⟨rfl, rfl⟩
  · exact ⟨rfl, rfl⟩
  · exact ⟨rfl, rfl⟩
  all_goals
    refine absurd ⟨not_not.mp forbidden, ?_, ?_⟩ refused
    · simpa using untrusted
    · simpa using unnamed

/-- What becomes of an accepted call depends on the copy and on the rename. -/
theorem configUpdate_accepted (accepted : Accepted parseJson store caller name calls) :
    let path := tmpPath caller calls.tid name
    let written := writeRemoteFileToLocal store.files calls.transfer path
    let result := configUpdate parseJson store caller name calls
    (written.1 ≠ .success ∧ result.progress = .beforeRename ∧
        result.store.files = written.2) ∨
      (written.1 = .success ∧ calls.renameFails = true ∧ result.progress = .renameFailed) ∨
        (written.1 = .success ∧ calls.renameFails = false ∧ result.progress = .renamed ∧
          result.store.files = (written.2.rename path (realPath name)).erase path) := by
  obtain ⟨permitted, trusted, named⟩ := accepted
  dsimp only
  rw [configUpdate, permitted]
  simp only [ne_eq, not_true_eq_false, if_false, trusted, named, Bool.not_true,
    Bool.false_eq_true]
  split_ifs with written renameFails
  · exact .inr (.inl ⟨written, renameFails, rfl⟩)
  · exact .inr (.inr ⟨written, Bool.eq_false_iff.mpr renameFails, rfl, rfl⟩)
  · exact .inl ⟨written, rfl, rfl⟩

theorem get?_renamed (files : Files) (content : List UInt8) (caller : Caller) (tid : Int)
    (name : String) :
    ((Files.rename (files.insert (tmpPath caller tid name) content) (tmpPath caller tid name)
      (realPath name)).erase (tmpPath caller tid name)).get? (realPath name) =
        some content := by
  have other : realPath name ≠ tmpPath caller tid name :=
    (tmpPath_ne_realPath caller tid name).symm
  rw [Files.rename, SortedMap.get?_insert_self, SortedMap.get?_erase, if_neg other,
    SortedMap.get?_insert_self]

variable (parseJson store caller name calls) in
/-- A file arrives whole or not at all exactly if the call either stops before its temporary file
is opened, and finds none from before, or gets to the rename with a whole file or with a rename
that fails. -/
theorem config_file_arrives_whole_iff :
    ArrivesWhole store (configUpdate parseJson store caller name calls) calls.transfer.stream
        (realPath name) (tmpPath caller calls.tid name) ↔
      HandlesFile parseJson store caller name calls := by
  have stopped (early : (configUpdate parseJson store caller name calls).progress =
      .beforeRename)
      (same : (configUpdate parseJson store caller name calls).store.files = store.files)
      (unopened : ¬(Accepted parseJson store caller name calls ∧ calls.transfer.Opens)) :
      ArrivesWhole store (configUpdate parseJson store caller name calls) calls.transfer.stream
          (realPath name) (tmpPath caller calls.tid name) ↔
        HandlesFile parseJson store caller name calls := by
    constructor
    · intro arrives
      refine ⟨fun opened => absurd opened unopened, fun _ => ?_⟩
      rw [← same]
      exact (arrives.nothing early).2
    · intro handles
      refine ⟨fun renamed => absurd (early.symm.trans renamed) (by decide), fun _ => ?_⟩
      rw [same]
      exact ⟨rfl, handles.2 unopened⟩
  by_cases accepted : Accepted parseJson store caller name calls
  · have cases := configUpdate_accepted accepted
    dsimp only at cases
    by_cases opened : calls.transfer.Opens
    · obtain ⟨success, files⟩ := writeRemoteFileToLocal_opened store.files
        (tmpPath caller calls.tid name) opened
      obtain ⟨failed, early, same⟩ | ⟨written, renameFails, progress⟩ |
        ⟨written, renames, progress, same⟩ := cases
      · refine iff_of_false (fun arrives => ?_) fun handles => ?_
        · have left := (arrives.nothing early).2
          rw [same, files, SortedMap.contains_insert] at left
          exact absurd left (by simp)
        · exact failed (success.mpr (handles.1 ⟨accepted, opened⟩).1)
      · refine iff_of_true ⟨fun renamed => ?_, fun early => ?_⟩ ⟨fun _ => ?_, fun stops => ?_⟩
        · exact absurd (progress.symm.trans renamed) (by decide)
        · exact absurd (progress.symm.trans early) (by decide)
        · exact ⟨success.mp written, .inl renameFails⟩
        · exact absurd ⟨accepted, opened⟩ stops
      · have passes := success.mp written
        have content := writeRounds_content [] passes.1
        rw [files, content, List.nil_append] at same
        have arrived := get?_renamed store.files (Relay.copied calls.transfer.rounds) caller
          calls.tid name
        rw [← same] at arrived
        have whole := Relay.copied_eq_stream_iff calls.transfer.rounds calls.transfer.ending.rest
        constructor
        · intro arrives
          obtain ⟨found, small⟩ := arrives.whole progress
          obtain ⟨full, read⟩ := whole.mp (Option.some.inj (arrived.symm.trans found))
          refine ⟨fun _ => ⟨passes, .inr ⟨full, read, small⟩⟩, fun stops => ?_⟩
          exact absurd ⟨accepted, opened⟩ stops
        · intro handles
          obtain ⟨-, renameFails | ⟨full, read, small⟩⟩ := handles.1 ⟨accepted, opened⟩
          · exact absurd (renames.symm.trans renameFails) (by simp)
          · refine ⟨fun _ => ⟨?_, small⟩, fun early => ?_⟩
            · exact arrived.trans (congrArg some (whole.mpr ⟨full, read⟩))
            · exact absurd (progress.symm.trans early) (by decide)
    · obtain ⟨failed, files⟩ := writeRemoteFileToLocal_unopened store.files
        (tmpPath caller calls.tid name) opened
      obtain ⟨-, early, same⟩ | ⟨written, -⟩ | ⟨written, -⟩ := cases
      · exact stopped early (same.trans files) fun both => opened both.2
      · exact absurd written failed
      · exact absurd written failed
  · obtain ⟨early, same⟩ := configUpdate_refused accepted
    exact stopped early same fun both => accepted both.1

end Result

/-- A trust list that names one file. -/
def oneName (_ : String) : Option Json :=
  some (.object [("trust_list_config", .array [.object [("name", .text "a.json")]])])

/-- A caller that may update the configuration. -/
def configCaller : Caller :=
  { pid := 10
    uid := 1000
    tokenType := .native
    permissions := [manageConfigPermission]
    isSystemApp := true }

/-- Two bytes are read, one is written, and the descriptor ends. -/
def shortWrite : UpdateCalls :=
  { tid := 11
    trustList := some "a list"
    transfer :=
      { rounds := [⟨[1, 2], some 1, by decide, by decide, by simp⟩]
        ending := .endOfStream } }

/-- After `shortWrite` the call succeeds and the file at its place has lost its second byte. -/
theorem config_file_arrives_truncated :
    (configUpdate oneName {} configCaller "a.json" shortWrite).code = .success ∧
      (configUpdate oneName {} configCaller "a.json" shortWrite).store.files.get?
          (realPath "a.json") = some [1] ∧
        ¬ArrivesWhole {} (configUpdate oneName {} configCaller "a.json" shortWrite)
          shortWrite.transfer.stream (realPath "a.json") (tmpPath configCaller 11 "a.json") := by
  have renamed : (configUpdate oneName {} configCaller "a.json" shortWrite).progress =
      .renamed := by decide +kernel
  have found : (configUpdate oneName {} configCaller "a.json" shortWrite).store.files.get?
      (realPath "a.json") = some [1] := by decide +kernel
  refine ⟨by decide +kernel, found, fun arrives => ?_⟩
  have same := Option.some.inj (found.symm.trans (arrives.whole renamed).1)
  exact absurd same (by decide)

end SecurityGuard
