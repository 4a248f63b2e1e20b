import SecurityGuard.Config.FileUpdate

/-!
# Copying a configuration file

`CopyFile` streams a file into a temporary one and renames that one to its place.  It looks at
the opening of the files and at the rename, and at neither stream in between, so a copy that
breaks off gets the name of a whole one.
-/

namespace SecurityGuard

def fileMaxSize : Nat := 2 * 1024 * 1024

/-- One turn of the copy from stream to stream. -/
inductive CopyTurn where
  | readError
  /-- Some bytes are read, and a front of them is stored. -/
  | moved (read : Nat) (positive : 0 < read) (stored : Nat)

/-- The outcomes of the calls of `CopyFile`. -/
structure CopyCalls where
  srcOpens : Bool := true
  seekEndFails : Bool := false
  seekBegFails : Bool := false
  dstOpens : Bool := true
  turns : Nat → CopyTurn
  /-- The length to which a failing close cuts the file. -/
  closeKeeps : Option Nat := none
  renameFails : Bool := false
  unlinkFails : Bool := false

/-- `dst << src.rdbuf()`, with what the file has got so far.  The first error ends it. -/
def insertBuffer (turns : Nat → CopyTurn) (turn : Nat) (content stored : List UInt8) :
    List UInt8 :=
  if content = [] then stored
  else
    match turns turn with
    | .readError => stored
    | .moved read _ count =>
        let chunk := content.take read
        -- A short write ends the insertion without an error that the caller sees.
        if count < chunk.length then stored ++ chunk.take count
        else insertBuffer turns (turn + 1) (content.drop read) (stored ++ chunk)
termination_by content.length
decreasing_by
  have some_left : 0 < content.length := List.length_pos_of_ne_nil (by assumption)
  rw [List.length_drop]
  omega

/-- What a file holds after it is closed. -/
def CopyCalls.close (calls : CopyCalls) (stored : List UInt8) : List UInt8 :=
  match calls.closeKeeps with
  | none => stored
  | some kept => stored.take kept

/-- The path under which a copy is written. -/
def copyTmpPath (dstPath : String) : String := dstPath ++ ".tmp"

/-- A position that is not known counts as small, and a failing seek to the end leaves the
source at its beginning.  The temporary file is emptied before the source is read. -/
def copyFile (files : Files) (srcPath dstPath : String) (calls : CopyCalls) : Bool × Files :=
  match files.get? srcPath with
  | none => (false, files)
  | some content =>
      if !calls.srcOpens then (false, files)
      else if !calls.seekEndFails ∧ fileMaxSize < content.length then (false, files)
      else if !calls.dstOpens then (false, files)
      else
        let opened := files.insert (copyTmpPath dstPath) []
        let source :=
          if !calls.seekEndFails ∧ calls.seekBegFails then []
          else (opened.get? srcPath).getD []
        let written := opened.insert (copyTmpPath dstPath)
          (calls.close (insertBuffer calls.turns 0 source []))
        if calls.renameFails then
          (false, if calls.unlinkFails then written else written.erase (copyTmpPath dstPath))
        else (true, Files.rename written (copyTmpPath dstPath) dstPath)

/-- A copy that succeeds has the bytes of the source, and one that fails leaves the destination
and no temporary file. -/
structure AllOrNothing (before : Files) (srcPath dstPath : String) (answer : Bool × Files) :
    Prop where
  all : answer.1 = true →
    ∃ content, before.get? srcPath = some content ∧ answer.2.get? dstPath = some content
  nothing : answer.1 = false →
    answer.2.get? dstPath = before.get? dstPath ∧
      answer.2.contains (copyTmpPath dstPath) = false

/-- From this turn on, the turns store all of so many bytes. -/
inductive MovesAll (turns : Nat → CopyTurn) : Nat → Nat → Prop where
  | done (turn : Nat) : MovesAll turns turn 0
  | step {turn left read count : Nat} {positive : 0 < read}
      (moved : turns turn = .moved read positive count) (whole : min read left ≤ count)
      (rest : MovesAll turns (turn + 1) (left - read)) : MovesAll turns turn left

/-- The source and the temporary file open, and the source is not known to be too large. -/
def CopyCalls.Begins (calls : CopyCalls) (files : Files) (srcPath : String)
    (content : List UInt8) : Prop :=
  files.get? srcPath = some content ∧ calls.srcOpens = true ∧
    (calls.seekEndFails = true ∨ content.length ≤ fileMaxSize) ∧ calls.dstOpens = true

/-- No byte of the content is lost on the way to the temporary file. -/
def CopyCalls.Keeps (calls : CopyCalls) (srcPath dstPath : String) (content : List UInt8) : Prop :=
  content = [] ∨
    srcPath ≠ copyTmpPath dstPath ∧ (calls.seekEndFails = true ∨ calls.seekBegFails = false) ∧
      MovesAll calls.turns 0 content.length ∧
        ∀ kept, calls.closeKeeps = some kept → content.length ≤ kept

/-- A copy that begins either loses no byte or fails to be renamed and is removed, and one that
does not begin finds no temporary file from before. -/
structure CopyCalls.Handles (calls : CopyCalls) (files : Files) (srcPath dstPath : String) :
    Prop where
  begun : ∀ content, calls.Begins files srcPath content →
    if calls.renameFails then calls.unlinkFails = false else calls.Keeps srcPath dstPath content
  refused : (∀ content, ¬calls.Begins files srcPath content) →
    files.contains (copyTmpPath dstPath) = false

section Stream

variable {turns : Nat → CopyTurn}

theorem length_insertBuffer_le (turn : Nat) (content stored : List UInt8) :
    (insertBuffer turns turn content stored).length ≤ stored.length + content.length := by
  fun_induction insertBuffer turns turn content stored with
  | case1 => omega
  | case2 => omega
  | case3 turn content stored some_left read positive count taken chunk short =>
      have chunk_le : chunk.length ≤ content.length := List.length_take_le' read content
      rw [List.length_append, List.length_take]
      omega
  | case4 turn content stored some_left read positive count taken chunk full ih =>
      have split : chunk.length + (content.drop read).length = content.length := by
        rw [← List.length_append, List.take_append_drop]
      rw [List.length_append] at ih
      omega

/-- The whole content is stored exactly if each turn moves its bytes until none is left. -/
theorem insertBuffer_eq_iff (turn : Nat) (content stored : List UInt8) :
    insertBuffer turns turn content stored = stored ++ content ↔
      MovesAll turns turn content.length := by
  fun_induction insertBuffer turns turn content stored with
  | case1 turn stored =>
      refine iff_of_true (List.append_nil stored).symm ?_
      exact .done turn
  | case2 turn content stored some_left error =>
      have positive := List.length_pos_of_ne_nil some_left
      refine iff_of_false (fun same => ?_) fun moves => ?_
      · exact some_left (List.append_right_eq_self.mp same.symm)
      · generalize content.length = left at moves positive
        cases moves with
        | done => exact absurd positive (Nat.lt_irrefl 0)
        | step moved => exact absurd (error.symm.trans moved) (by simp)
  | case3 turn content stored some_left read positive count taken chunk short =>
      have some_bytes := List.length_pos_of_ne_nil some_left
      have size : chunk.length = min read content.length := List.length_take
      refine iff_of_false (fun same => ?_) fun moves => ?_
      · have lengths := congrArg List.length (List.append_cancel_left same)
        rw [List.length_take] at lengths
        omega
      · generalize content.length = left at moves some_bytes size
        cases moves with
        | done => exact absurd some_bytes (Nat.lt_irrefl 0)
        | step moved whole rest =>
            obtain ⟨rfl, rfl⟩ := CopyTurn.moved.inj (taken.symm.trans moved)
            omega
  | case4 turn content stored some_left read positive count taken chunk full ih =>
      have some_bytes := List.length_pos_of_ne_nil some_left
      have size : chunk.length = min read content.length := List.length_take
      have split : stored ++ content = (stored ++ chunk) ++ content.drop read := by
        rw [List.append_assoc, List.take_append_drop]
      rw [split, ih, List.length_drop]
      constructor
      · exact fun rest => .step taken (by omega) rest
      · intro moves
        generalize content.length = left at moves some_bytes
        cases moves with
        | done => exact absurd some_bytes (Nat.lt_irrefl 0)
        | step moved whole rest =>
            obtain ⟨rfl, rfl⟩ := CopyTurn.moved.inj (taken.symm.trans moved)
            exact rest

end Stream

/-- What a close leaves is whole exactly if it was whole before and the close cuts nothing. -/
theorem close_eq_iff (calls : CopyCalls) {stored content : List UInt8}
    (small : stored.length ≤ content.length) :
    calls.close stored = content ↔
      stored = content ∧ ∀ kept, calls.closeKeeps = some kept → content.length ≤ kept := by
  rw [CopyCalls.close]
  cases calls.closeKeeps with
  | none => simp
  | some kept =>
      simp only [Option.some.injEq, forall_eq']
      constructor
      · intro same
        have lengths := congrArg List.length same
        rw [List.length_take] at lengths
        have enough : stored.length ≤ kept := by omega
        rw [List.take_of_length_le enough] at same
        exact ⟨same, by omega⟩
      · rintro ⟨rfl, enough⟩
        exact List.take_of_length_le enough

theorem ne_copyTmpPath (dstPath : String) : dstPath ≠ copyTmpPath dstPath := by
  intro same
  have lengths := congrArg String.length same
  rw [copyTmpPath, String.length_append] at lengths
  have tail : ".tmp".length = 4 := rfl
  omega

section Result

variable {files : Files} {srcPath dstPath : String} {calls : CopyCalls} {content : List UInt8}

/-- A copy that does not begin changes no file. -/
theorem copyFile_refused (refused : ∀ content, ¬calls.Begins files srcPath content) :
    copyFile files srcPath dstPath calls = (false, files) := by
  rw [copyFile]
  cases found : files.get? srcPath with
  | none => rfl
  | some content =>
      dsimp only
      split_ifs with opens large dstOpens
      · rfl
      · rfl
      · rfl
      all_goals
        refine absurd ⟨found, by simpa using opens, ?_, by simpa using dstOpens⟩ (refused content)
        by_cases failed : calls.seekEndFails = true
        · exact .inl failed
        · exact .inr (Nat.le_of_not_lt fun above => large ⟨by simpa using failed, above⟩)

/-- What the temporary file holds when it is renamed. -/
def CopyCalls.copied (calls : CopyCalls) (srcPath dstPath : String) (content : List UInt8) :
    List UInt8 :=
  calls.close (insertBuffer calls.turns 0
    (if (!calls.seekEndFails ∧ calls.seekBegFails) ∨ srcPath = copyTmpPath dstPath then []
      else content) [])

theorem copyFile_begun (begun : calls.Begins files srcPath content) :
    copyFile files srcPath dstPath calls =
      let written := (files.insert (copyTmpPath dstPath) []).insert (copyTmpPath dstPath)
        (calls.copied srcPath dstPath content)
      if calls.renameFails then
        (false, if calls.unlinkFails then written else written.erase (copyTmpPath dstPath))
      else (true, Files.rename written (copyTmpPath dstPath) dstPath) := by
  obtain ⟨found, srcOpens, small, dstOpens⟩ := begun
  have fits : ¬(!calls.seekEndFails ∧ fileMaxSize < content.length) := by
    rintro ⟨sought, above⟩
    rcases small with failed | small
    · simp [failed] at sought
    · omega
  have source : (if (!calls.seekEndFails ∧ calls.seekBegFails) ∨ srcPath = copyTmpPath dstPath
        then [] else content) =
      if !calls.seekEndFails ∧ calls.seekBegFails then []
        else ((files.insert (copyTmpPath dstPath) []).get? srcPath).getD [] := by
    rw [SortedMap.get?_insert, found]
    by_cases moved : !calls.seekEndFails ∧ calls.seekBegFails
    · rw [if_pos (.inl moved), if_pos moved]
    · by_cases same : srcPath = copyTmpPath dstPath
      · rw [if_pos (.inr same), if_neg moved, if_pos same, Option.getD_some]
      · rw [if_neg (not_or.mpr ⟨moved, same⟩), if_neg moved, if_neg same, Option.getD_some]
  rw [copyFile, found, CopyCalls.copied, source]
  simp only [srcOpens, dstOpens, Bool.not_true, Bool.false_eq_true, if_false, if_neg fits]

theorem copyFile_succeeds_iff :
    (copyFile files srcPath dstPath calls).1 = true ↔
      (∃ content, calls.Begins files srcPath content) ∧ calls.renameFails = false := by
  by_cases begins : ∃ content, calls.Begins files srcPath content
  · obtain ⟨content, begun⟩ := begins
    rw [copyFile_begun begun]
    dsimp only
    split_ifs with renameFails
    · simp [renameFails]
    · exact iff_of_true rfl ⟨⟨content, begun⟩, Bool.eq_false_iff.mpr renameFails⟩
  · rw [copyFile_refused (not_exists.mp begins)]
    exact iff_of_false Bool.false_ne_true fun both => begins both.1

theorem copyFile_stored (begun : calls.Begins files srcPath content)
    (renames : calls.renameFails = false) :
    (copyFile files srcPath dstPath calls).2.get? dstPath =
      some (calls.copied srcPath dstPath content) := by
  rw [copyFile_begun begun]
  simp only [renames, Bool.false_eq_true, if_false, Files.rename, SortedMap.get?_insert_self]

/-- The temporary file is whole exactly if no byte is lost. -/
theorem copied_eq_iff : calls.copied srcPath dstPath content = content ↔
    calls.Keeps srcPath dstPath content := by
  have bound (source : List UInt8) : (insertBuffer calls.turns 0 source []).length ≤
      source.length := by
    simpa using @length_insertBuffer_le calls.turns 0 source []
  rw [CopyCalls.copied, CopyCalls.Keeps]
  split_ifs with lost
  · have none := List.length_eq_zero_iff.mp (Nat.le_zero.mp (bound []))
    rw [none, close_eq_iff calls (Nat.zero_le _)]
    constructor
    · exact fun both => .inl both.1.symm
    · rintro (rfl | ⟨other, sought, -⟩)
      · exact ⟨rfl, fun _ _ => Nat.zero_le _⟩
      · rcases lost with ⟨end_sought, beg_failed⟩ | same
        · rcases sought with failed | begun
          · simp [failed] at end_sought
          · simp [begun] at beg_failed
        · exact absurd same other
  · obtain ⟨sought, other⟩ := not_or.mp lost
    have from_start : calls.seekEndFails = true ∨ calls.seekBegFails = false := by
      by_contra wrong
      obtain ⟨end_sought, beg_failed⟩ := not_or.mp wrong
      exact sought ⟨by simpa using end_sought, by simpa using beg_failed⟩
    have moved := @insertBuffer_eq_iff calls.turns 0 content []
    rw [List.nil_append] at moved
    rw [close_eq_iff calls (bound content), moved]
    constructor
    · exact fun both => .inr ⟨other, from_start, both⟩
    · rintro (rfl | ⟨-, -, both⟩)
      · exact ⟨.done 0, fun _ _ => Nat.zero_le _⟩
      · exact both

variable (files srcPath dstPath calls) in
/-- A copy is all or nothing exactly if it handles its files: nothing is checked in between. -/
theorem copyFile_allOrNothing_iff :
    AllOrNothing files srcPath dstPath (copyFile files srcPath dstPath calls) ↔
      calls.Handles files srcPath dstPath := by
  have apart := ne_copyTmpPath dstPath
  by_cases begins : ∃ content, calls.Begins files srcPath content
  · obtain ⟨content, begun⟩ := begins
    have only (other : List UInt8) (also : calls.Begins files srcPath other) : other = content :=
      Option.some.inj (also.1.symm.trans begun.1)
    have handles : calls.Handles files srcPath dstPath ↔
        if calls.renameFails then calls.unlinkFails = false
          else calls.Keeps srcPath dstPath content :=
      ⟨fun handles => handles.begun content begun,
        fun holds => ⟨fun other also => only other also ▸ holds,
          fun refused => absurd begun (refused content)⟩⟩
    rw [handles, copyFile_begun begun]
    dsimp only
    split_ifs with renameFails unlinkFails
    · refine iff_of_false (fun whole => ?_) (by simp [unlinkFails])
      have left := (whole.nothing rfl).2
      simp at left
    · refine iff_of_true ⟨fun success => absurd success (by simp), fun _ => ⟨?_, ?_⟩⟩
        (by simpa using unlinkFails)
      · simp [apart]
      · simp
    · have renamed : (copyFile files srcPath dstPath calls).2.get? dstPath = _ :=
        copyFile_stored begun (Bool.eq_false_iff.mpr renameFails)
      rw [copyFile_begun begun] at renamed
      simp only [if_neg renameFails] at renamed
      rw [← copied_eq_iff]
      constructor
      · intro whole
        obtain ⟨source, found, stored⟩ := whole.all rfl
        obtain rfl := Option.some.inj (found.symm.trans begun.1)
        exact Option.some.inj (renamed.symm.trans stored)
      · intro same
        exact ⟨fun _ => ⟨content, begun.1, renamed.trans (congrArg some same)⟩,
          fun failed => absurd failed (by simp)⟩
  · have refused := not_exists.mp begins
    rw [copyFile_refused refused]
    constructor
    · intro whole
      exact ⟨fun content begun => absurd begun (refused content),
        fun _ => (whole.nothing rfl).2⟩
    · intro handles
      exact ⟨fun success => absurd success (by simp), fun _ => ⟨rfl, handles.refused refused⟩⟩

end Result

theorem fullTurn_pos : 0 < 512 := by decide

/-- A full disk: the write stores nothing, and all else succeeds. -/
def fullDisk : CopyCalls where
  turns _ := .moved 512 fullTurn_pos 0

/-- A file of one byte. -/
def oneByte : Files := SortedMap.empty.insert "/tmp/a.json" [1]

/-- The empty copy is renamed, and the copy is reported as done. -/
theorem fullDisk_copies_nothing :
    ¬((∀ content, oneByte.get? "/tmp/a.json" = some content → content.length ≤ fileMaxSize) →
      AllOrNothing oneByte "/tmp/a.json" "/a.json"
        (copyFile oneByte "/tmp/a.json" "/a.json" fullDisk)) := by
  intro whole
  have found : oneByte.get? "/tmp/a.json" = some [1] := SortedMap.get?_insert_self ..
  have begun : fullDisk.Begins oneByte "/tmp/a.json" [1] :=
    ⟨found, rfl, .inr (by decide), rfl⟩
  have small (content : List UInt8) (is : oneByte.get? "/tmp/a.json" = some content) :
      content.length ≤ fileMaxSize := by
    obtain rfl := Option.some.inj (found.symm.trans is)
    decide
  have lost : ¬fullDisk.Keeps "/tmp/a.json" "/a.json" [1] := by
    rw [← copied_eq_iff]
    simp [CopyCalls.copied, CopyCalls.close, fullDisk, insertBuffer, copyTmpPath]
  obtain ⟨content, is, stored⟩ :=
    (whole small).all (copyFile_succeeds_iff.mpr ⟨⟨[1], begun⟩, rfl⟩)
  obtain rfl := Option.some.inj (found.symm.trans is)
  rw [copyFile_stored begun rfl, Option.some.injEq] at stored
  exact lost (copied_eq_iff.mp stored)

end SecurityGuard
