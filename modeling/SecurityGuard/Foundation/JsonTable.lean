import Mathlib.Data.List.Basic
import Mathlib.Data.String.Basic
import SecurityGuard.Foundation.Numeral
import SecurityGuard.Foundation.Text

/-!
# Tables as JSON

An array of objects whose members are integers and texts, written without blanks and read back.
A text is given as bytes: it can be written exactly if the bytes are UTF-8, and then reading gives
the same bytes back.
-/

namespace JsonTable

section Lists

variable {α : Type*} (write : α → List Char) (read : List Char → Option (α × List Char))
  (close : Char)

/-- What follows an item: the other items, each after a comma, and the closing bracket. -/
def writeRest : List α → List Char
  | [] => [close]
  | item :: rest => ',' :: (write item ++ writeRest rest)

/-- Write items up to a closing mark. -/
def writeList : List α → List Char
  | [] => [close]
  | item :: rest => write item ++ writeRest write close rest

/-- The items that follow an item, and what comes after the closing bracket. -/
def readRest : Nat → List Char → Option (List α × List Char)
  | fuel + 1, mark :: text =>
      if mark = close then some ([], text)
      else if mark = ',' then
        (read text).bind fun first =>
          (readRest fuel first.2).map fun later => (first.1 :: later.1, later.2)
      else none
  | _, _ => none

/-- Read items up to a closing mark. -/
def readList (text : List Char) : Option (List α × List Char) :=
  if text.head? = some close then some ([], text.tail)
  else
    (read text).bind fun first =>
      (readRest read close text.length first.2).map fun later => (first.1 :: later.1, later.2)

/-- The text goes on with a comma or the closing bracket. -/
def Delimited (text : List Char) : Prop :=
  ∃ mark tail, text = mark :: tail ∧ (mark = ',' ∨ mark = close)

theorem delimited_writeRest (items : List α) (tail : List Char) :
    Delimited close (writeRest write close items ++ tail) := by
  cases items with
  | nil => exact ⟨close, tail, rfl, .inr rfl⟩
  | cons item rest => exact ⟨',', _, rfl, .inl rfl⟩

theorem length_le_writeRest (items : List α) :
    items.length < (writeRest write close items).length := by
  induction items with
  | nil => simp [writeRest]
  | cons item rest ih =>
      simp only [writeRest, List.length_cons, List.length_append]
      omega

variable {write read close} {items : List α}

/-- Reading the items one after the other undoes writing them. -/
theorem readRest_writeRest (comma : close ≠ ',')
    (reads : ∀ item ∈ items, ∀ rest, Delimited close rest →
      read (write item ++ rest) = some (item, rest))
    (tail : List Char) {fuel : Nat} (enough : items.length < fuel) :
    readRest read close fuel (writeRest write close items ++ tail) = some (items, tail) := by
  induction items generalizing fuel with
  | nil =>
      obtain ⟨fuel, rfl⟩ := Nat.exists_eq_succ_of_ne_zero (Nat.ne_of_gt enough)
      simp [writeRest, readRest]
  | cons item rest ih =>
      obtain ⟨fuel, rfl⟩ := Nat.exists_eq_succ_of_ne_zero (Nat.ne_zero_of_lt enough)
      have first := reads item List.mem_cons_self _ (delimited_writeRest write close rest tail)
      have later := ih (fun other mem => reads other (List.mem_cons_of_mem item mem))
        (Nat.lt_of_succ_lt_succ enough)
      rw [writeRest, List.cons_append, readRest, if_neg (Ne.symm comma), if_pos rfl,
        List.append_assoc, first, Option.bind_some, later, Option.map_some]

theorem readList_writeList (comma : close ≠ ',')
    (reads : ∀ item ∈ items, ∀ rest, Delimited close rest →
      read (write item ++ rest) = some (item, rest))
    (opens : ∀ item ∈ items, ∃ mark text, write item = mark :: text ∧ mark ≠ close)
    (tail : List Char) :
    readList read close (writeList write close items ++ tail) = some (items, tail) := by
  cases items with
  | nil => simp [writeList, readList]
  | cons item rest =>
      have first := reads item List.mem_cons_self _ (delimited_writeRest write close rest tail)
      obtain ⟨mark, text, begins, open_mark⟩ := opens item List.mem_cons_self
      have enough : rest.length <
          (write item ++ writeRest write close rest ++ tail).length := by
        have filled := length_le_writeRest write close rest
        simp only [List.length_append]
        omega
      have later := readRest_writeRest comma
        (fun other mem => reads other (List.mem_cons_of_mem item mem)) tail enough
      have head : (write item ++ writeRest write close rest ++ tail).head? ≠ some close := by
        rw [begins]
        simpa using open_mark
      rw [writeList, readList, if_neg head]
      rw [List.append_assoc] at later ⊢
      rw [first, Option.bind_some, later, Option.map_some]

end Lists

/-- Characters with an escape of their own. -/
def escapes : List (Char × Char) :=
  [('"', '"'), ('\\', '\\'), ('\x08', 'b'), ('\x0c', 'f'), ('\n', 'n'), ('\r', 'r'), ('\t', 't')]

/-- The digits of base sixteen. -/
def hexDigits : List Char := "0123456789abcdef".toList

/-- The digit of a value. -/
def hexDigit (value : Nat) : Char := hexDigits.getD value '0'

/-- The value of a digit. -/
def hexValue (char : Char) : Option Nat := hexDigits.idxOf? char.toLower

/-- A control character is written with its code, another one as it is. -/
def writePlain (char : Char) : List Char :=
  if char.toNat < 32 then
    ['\\', 'u', '0', '0', hexDigit (char.toNat / 16), hexDigit (char.toNat % 16)]
  else [char]

/-- Write a character, escaped if it has to be. -/
def writeChar (char : Char) : List Char :=
  match escapes.find? fun escape => escape.1 = char with
  | some escape => ['\\', escape.2]
  | none => writePlain char

/-- A character given by the four digits of its code. -/
def readCode : List Char → Option (Char × List Char)
  | first :: second :: third :: fourth :: rest =>
      ([first, second, third, fourth].mapM hexValue).bind fun digits =>
        if (Numeral.value 16 digits).isValidChar then
          some (Char.ofNat (Numeral.value 16 digits), rest)
        else none
  | _ => none

/-- Read what follows a backslash. -/
def readEscape : List Char → Option (Char × List Char)
  | [] => none
  | mark :: rest =>
      if mark = 'u' then readCode rest
      else (escapes.find? fun escape => escape.2 = mark).map fun escape => (escape.1, rest)

/-- Read a character of a text. -/
def readChar : List Char → Option (Char × List Char)
  | [] => none
  | char :: rest =>
      if char = '\\' then readEscape rest
      else if char.toNat < 32 then none
      else some (char, rest)

theorem readCode_control {code : Nat} (control : code < 32) (rest : List Char) :
    readCode ('0' :: '0' :: hexDigit (code / 16) :: hexDigit (code % 16) :: rest) =
      some (Char.ofNat code, rest) := by
  have digits : ∀ code < 32,
      ['0', '0', hexDigit (code / 16), hexDigit (code % 16)].mapM hexValue =
        some [0, 0, code / 16, code % 16] ∧
      Numeral.value 16 [0, 0, code / 16, code % 16] = code ∧ code.isValidChar := by
    decide
  obtain ⟨read, value, valid⟩ := digits code control
  rw [readCode, read, Option.bind_some, value, if_pos valid]

theorem find_mark {escape : Char × Char} (mem : escape ∈ escapes) :
    escape.2 ≠ 'u' ∧ (escapes.find? fun other => other.2 = escape.2) = some escape := by
  revert escape
  decide

theorem plain_of_not_escaped {char : Char}
    (unescaped : (escapes.find? fun escape => escape.1 = char) = none) :
    char ≠ '"' ∧ char ≠ '\\' := by
  rw [List.find?_eq_none] at unescaped
  constructor
  · rintro rfl
    exact unescaped ('"', '"') (by decide) (by decide)
  · rintro rfl
    exact unescaped ('\\', '\\') (by decide) (by decide)

theorem readChar_writeChar (char : Char) (rest : List Char) :
    readChar (writeChar char ++ rest) = some (char, rest) := by
  rw [writeChar]
  cases found : escapes.find? fun escape => escape.1 = char with
  | some escape =>
      obtain ⟨other, again⟩ := find_mark (List.mem_of_find?_eq_some found)
      have own : escape.1 = char := by simpa using List.find?_some found
      simp [readChar, readEscape, other, again, own]
  | none =>
      obtain ⟨-, plain⟩ := plain_of_not_escaped found
      rw [writePlain]
      split_ifs with control
      · simp [readChar, readEscape, readCode_control control, Char.ofNat_toNat]
      · simp [readChar, plain, control]

theorem head_writeChar (char : Char) : ∃ mark text, writeChar char = mark :: text ∧ mark ≠ '"' := by
  rw [writeChar]
  cases found : escapes.find? fun escape => escape.1 = char with
  | some escape => exact ⟨'\\', _, rfl, by decide⟩
  | none =>
      rw [writePlain]
      split_ifs
      · exact ⟨'\\', _, rfl, by decide⟩
      · exact ⟨char, [], rfl, (plain_of_not_escaped found).1⟩

/-- Write a text in quotes. -/
def writeText (text : String) : List Char := '"' :: (text.toList.flatMap writeChar ++ ['"'])

/-- The characters up to the closing quote, and what follows it. -/
def readChars : Nat → List Char → Option (List Char × List Char)
  | 0, _ => none
  | fuel + 1, text =>
      if text.head? = some '"' then some ([], text.tail)
      else
        (readChar text).bind fun first =>
          (readChars fuel first.2).map fun later => (first.1 :: later.1, later.2)

/-- Read a text in quotes. -/
def readText : List Char → Option (String × List Char)
  | [] => none
  | quote :: text =>
      if quote = '"' then
        (readChars text.length text).map fun later => (String.ofList later.1, later.2)
      else none

theorem readChars_flatMap {chars : List Char} (rest : List Char) {fuel : Nat}
    (enough : chars.length < fuel) :
    readChars fuel (chars.flatMap writeChar ++ '"' :: rest) = some (chars, rest) := by
  induction chars generalizing fuel with
  | nil =>
      obtain ⟨fuel, rfl⟩ := Nat.exists_eq_succ_of_ne_zero (Nat.ne_of_gt enough)
      simp [readChars]
  | cons char chars ih =>
      obtain ⟨fuel, rfl⟩ := Nat.exists_eq_succ_of_ne_zero (Nat.ne_zero_of_lt enough)
      obtain ⟨mark, text, begins, plain⟩ := head_writeChar char
      have open_text :
          (writeChar char ++ (chars.flatMap writeChar ++ '"' :: rest)).head? ≠ some '"' := by
        rw [begins]
        simpa using plain
      rw [List.flatMap_cons, List.append_assoc, readChars, if_neg open_text, readChar_writeChar,
        Option.bind_some, ih (Nat.lt_of_succ_lt_succ enough), Option.map_some]

theorem length_le_flatMap (chars : List Char) :
    chars.length ≤ (chars.flatMap writeChar).length := by
  induction chars with
  | nil => exact Nat.le_refl 0
  | cons char chars ih =>
      obtain ⟨mark, text, begins, -⟩ := head_writeChar char
      rw [List.flatMap_cons, begins, List.length_append, List.length_cons, List.length_cons]
      omega

theorem readText_writeText (text : String) (rest : List Char) :
    readText (writeText text ++ rest) = some (text, rest) := by
  have enough : text.toList.length < (text.toList.flatMap writeChar ++ ['"'] ++ rest).length := by
    have filled := length_le_flatMap text.toList
    simp only [List.length_append, List.length_singleton]
    omega
  rw [List.append_assoc] at enough
  rw [writeText, List.cons_append, List.append_assoc, readText, if_pos rfl,
    List.singleton_append]
  rw [List.singleton_append] at enough
  rw [readChars_flatMap rest enough, Option.map_some, String.ofList_toList]

/-- The value of a member, whose text is of some kind. -/
inductive Scalar (τ : Type*) where
  | number (value : Int)
  | text (value : τ)
  deriving DecidableEq

/-- The members of an object. -/
abbrev Row (τ : Type*) := List (String × Scalar τ)

/-- The integer at the front of a text. -/
def readNumber (text : List Char) : Option (Int × List Char) :=
  (Text.readInteger (String.ofList (text.takeWhile fun char => ¬Text.Separator char))).map
    fun value => (value, text.dropWhile fun char => ¬Text.Separator char)

/-- Write a number or a text. -/
def writeScalar : Scalar String → List Char
  | .number value => (toString value).toList
  | .text value => writeText value

/-- Read a number or a text. -/
def readScalar (text : List Char) : Option (Scalar String × List Char) :=
  if text.head? = some '"' then (readText text).map fun read => (.text read.1, read.2)
  else (readNumber text).map fun read => (.number read.1, read.2)

/-- Write a member with its name. -/
def writeMember (member : String × Scalar String) : List Char :=
  writeText member.1 ++ ':' :: writeScalar member.2

/-- Read a member with its name. -/
def readMember (text : List Char) : Option ((String × Scalar String) × List Char) :=
  (readText text).bind fun name =>
    if name.2.head? = some ':' then
      (readScalar name.2.tail).map fun value => ((name.1, value.1), value.2)
    else none

/-- Write a row as an object. -/
def writeRow (row : Row String) : List Char := '{' :: writeList writeMember '}' row

/-- Read a row from an object. -/
def readRow (text : List Char) : Option (Row String × List Char) :=
  if text.head? = some '{' then readList readMember '}' text.tail else none

/-- Write rows as an array of objects. -/
def write (rows : List (Row String)) : String :=
  String.ofList ('[' :: writeList writeRow ']' rows)

/-- Read rows from an array of objects, up to the end of the text. -/
def read (text : String) : Option (List (Row String)) :=
  if text.toList.head? = some '[' then
    (readList readRow ']' text.toList.tail).bind fun rows =>
      if rows.2 = [] then some rows.1 else none
  else none

theorem not_separator_of_mem {value : Int} {char : Char}
    (mem : char ∈ (toString value).toList) : ¬Text.Separator char := fun separator =>
  Text.not_mem_toString separator value mem

theorem readNumber_toString (value : Int) {mark : Char} (separator : Text.Separator mark)
    (tail : List Char) :
    readNumber ((toString value).toList ++ mark :: tail) = some (value, mark :: tail) := by
  have own : ∀ char ∈ (toString value).toList,
      (decide ¬Text.Separator char) = true := fun char mem =>
    decide_eq_true (not_separator_of_mem mem)
  have stop : (decide ¬Text.Separator mark) = false := by simpa using separator
  rw [readNumber, List.takeWhile_append_of_pos own, List.dropWhile_append_of_pos own,
    List.takeWhile_cons, stop, List.dropWhile_cons, stop]
  simp only [Bool.false_eq_true, if_false, List.append_nil, String.ofList_toList,
    Text.readInteger_toString, Option.map_some]

theorem readScalar_writeScalar (value : Scalar String) {mark : Char}
    (separator : Text.Separator mark) (tail : List Char) :
    readScalar (writeScalar value ++ mark :: tail) = some (value, mark :: tail) := by
  cases value with
  | text value =>
      rw [writeScalar, readScalar, if_pos (by rfl), readText_writeText, Option.map_some]
  | number value =>
      have unquoted : ((toString value).toList ++ mark :: tail).head? ≠ some '"' := by
        intro quoted
        rw [List.head?_append_of_ne_nil _ (by simpa using Text.toString_ne_empty value)] at quoted
        exact not_separator_of_mem (List.mem_of_mem_head? quoted) (by decide)
      rw [writeScalar, readScalar, if_neg unquoted, readNumber_toString value separator,
        Option.map_some]

theorem readMember_writeMember (member : String × Scalar String) {rest : List Char}
    (delimited : Delimited '}' rest) :
    readMember (writeMember member ++ rest) = some (member, rest) := by
  obtain ⟨mark, tail, rfl, marks⟩ := delimited
  have separator : Text.Separator mark := by
    rcases marks with rfl | rfl <;> decide
  rw [writeMember, List.append_assoc, List.cons_append, readMember, readText_writeText,
    Option.bind_some, if_pos (by rfl), List.tail_cons, readScalar_writeScalar _ separator,
    Option.map_some]

theorem readRow_writeRow (row : Row String) (rest : List Char) :
    readRow (writeRow row ++ rest) = some (row, rest) := by
  rw [writeRow, List.cons_append, readRow, if_pos (by rfl), List.tail_cons]
  refine readList_writeList (by decide) (fun member _ rest delimited => ?_) (fun member _ => ?_)
    rest
  · exact readMember_writeMember member delimited
  · exact ⟨'"', _, rfl, by decide⟩

theorem read_write (rows : List (Row String)) : read (write rows) = some rows := by
  have whole : readList readRow ']' (writeList writeRow ']' rows ++ []) = some (rows, []) :=
    readList_writeList (by decide) (fun row _ rest _ => readRow_writeRow row rest)
      (fun row _ => ⟨'{', _, rfl, by decide⟩) []
  rw [List.append_nil] at whole
  rw [read, write, String.toList_ofList, if_pos (by rfl), List.tail_cons, whole, Option.bind_some,
    if_pos rfl]

namespace Scalar

/-- Only a text that is not UTF-8 cannot be decoded. -/
def decode : Scalar ByteArray → Option (Scalar String)
  | number value => some (number value)
  | text bytes => (String.fromUTF8? bytes).map text

/-- The bytes of a text. -/
def encode : Scalar String → Scalar ByteArray
  | number value => number value
  | text value => text value.toByteArray

/-- The bytes of a text are valid. -/
def IsUTF8 : Scalar ByteArray → Prop
  | number _ => True
  | text bytes => bytes.IsValidUTF8

theorem encode_of_decode {bytes : Scalar ByteArray} {value : Scalar String}
    (decoded : bytes.decode = some value) : value.encode = bytes := by
  cases bytes with
  | number =>
      obtain rfl := Option.some.inj decoded
      rfl
  | text bytes =>
      obtain ⟨text, read, rfl⟩ := Option.map_eq_some_iff.mp decoded
      rw [String.fromUTF8?] at read
      split_ifs at read
      obtain rfl := Option.some.inj read
      rfl

theorem decode_isSome_iff {bytes : Scalar ByteArray} :
    bytes.decode.isSome = true ↔ bytes.IsUTF8 := by
  cases bytes with
  | number => exact iff_of_true rfl trivial
  | text bytes =>
      rw [decode, Option.isSome_map, String.fromUTF8?, IsUTF8]
      split_ifs with valid <;> simp [valid]

end Scalar

section Decoding

variable {α β : Type*} {decode : α → Option β} {items : List α}

/-- A list is decoded exactly if each of its items is. -/
theorem mapM_isSome_iff :
    (items.mapM decode).isSome = true ↔ ∀ item ∈ items, (decode item).isSome = true := by
  induction items with
  | nil => simp
  | cons item rest ih =>
      rw [List.mapM_cons, List.forall_mem_cons, ← ih]
      cases decode item with
      | none => simp
      | some first => cases rest.mapM decode <;> simp

theorem map_of_mapM {encode : β → α} (inverse : ∀ item value, decode item = some value →
    encode value = item) {values : List β} (decoded : items.mapM decode = some values) :
    values.map encode = items := by
  induction items generalizing values with
  | nil =>
      rw [List.mapM_nil] at decoded
      obtain rfl := Option.some.inj decoded
      rfl
  | cons item rest ih =>
      rw [List.mapM_cons] at decoded
      obtain ⟨first, read, later, rest_decoded, rfl⟩ : ∃ first, decode item = some first ∧
          ∃ later, rest.mapM decode = some later ∧ first :: later = values := by
        simpa [Option.bind_eq_some_iff] using decoded
      rw [List.map_cons, inverse item first read, ih rest_decoded]

end Decoding

/-- A member whose bytes are read as a text. -/
def decodeMember (member : String × Scalar ByteArray) : Option (String × Scalar String) :=
  member.2.decode.map fun value => (member.1, value)

/-- A member with the bytes of its text. -/
def encodeMember (member : String × Scalar String) : String × Scalar ByteArray :=
  (member.1, member.2.encode)

/-- A row whose bytes are read as texts. -/
def decodeRow (row : Row ByteArray) : Option (Row String) := row.mapM decodeMember

/-- Write a table, unless a text is not UTF-8. -/
def dump (rows : List (Row ByteArray)) : Option String := (rows.mapM decodeRow).map write

/-- Read a table with the bytes of its texts. -/
def load (text : String) : Option (List (Row ByteArray)) :=
  (read text).map fun rows => rows.map fun row => row.map encodeMember

theorem encodeMember_of_decodeMember {bytes : String × Scalar ByteArray}
    {member : String × Scalar String} (decoded : decodeMember bytes = some member) :
    encodeMember member = bytes := by
  obtain ⟨value, read, rfl⟩ := Option.map_eq_some_iff.mp decoded
  rw [encodeMember, Scalar.encode_of_decode read]

/-- A table that is written is read back. -/
theorem load_dump {rows : List (Row ByteArray)} {text : String} (dumped : dump rows = some text) :
    load text = some rows := by
  obtain ⟨decoded, read, rfl⟩ := Option.map_eq_some_iff.mp dumped
  rw [load, read_write, Option.map_some, Option.some.injEq]
  refine map_of_mapM (fun row values decodes => ?_) read
  exact map_of_mapM (fun _ _ => encodeMember_of_decodeMember) decodes

theorem dump_isSome_iff {rows : List (Row ByteArray)} :
    (dump rows).isSome = true ↔ ∀ row ∈ rows, ∀ member ∈ row, member.2.IsUTF8 := by
  rw [dump, Option.isSome_map, mapM_isSome_iff]
  refine forall₂_congr fun row _ => ?_
  rw [decodeRow, mapM_isSome_iff]
  refine forall₂_congr fun member _ => ?_
  rw [decodeMember, Option.isSome_map, Scalar.decode_isSome_iff]

end JsonTable
