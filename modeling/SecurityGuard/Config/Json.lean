import Mathlib.Algebra.Order.Ring.Int
import Mathlib.Data.String.Basic

/-!
# Reading configuration documents

The values of a parsed JSON document as `JsonCfg::Unmarshal` reads them, and the numbers that
documents hold as texts.  The JSON parser itself is outside.
-/

namespace SecurityGuard

/-- A JSON value; a number is kept as the integer that a conversion makes of it. -/
inductive Json where
  | null
  | boolean (value : Bool)
  | number (value : Int)
  | text (value : String)
  | array (elements : List Json)
  | object (members : List (String × Json))

namespace Json

/-- The value under a key; only an object has any. -/
def find : Json → String → Option Json
  | object members, key => members.lookup key
  | _, _ => none

/-- Read a number into 32 bits without a sign. -/
def unmarshalUint32 (document : Json) (key : String) : Option Nat :=
  match document.find key with
  | some (number value) => some (value % 2 ^ 32).toNat
  | _ => none

/-- Read a number into 32 bits with a sign. -/
def unmarshalInt32 (document : Json) (key : String) : Option Int :=
  match document.find key with
  | some (number value) => some (value.bmod (2 ^ 32))
  | _ => none

/-- Read a text. -/
def unmarshalText (document : Json) (key : String) : Option String :=
  match document.find key with
  | some (text value) => some value
  | _ => none

/-- The texts at the front of an array; the first other element ends the reading. -/
def texts : List Json → List String
  | text value :: rest => value :: texts rest
  | _ => []

/-- Read the texts of an array. -/
def unmarshalTexts (document : Json) (key : String) : List String :=
  match document.find key with
  | some (array elements) => texts elements
  | _ => []

/-- Read an array of objects; any other element refuses the document. -/
def unmarshalObjects {α : Type} (read : Json → α) (document : Json) (key : String) :
    Option (List α) :=
  match document.find key with
  | some (array elements) =>
      elements.mapM fun element =>
        match element with
        | object members => some (read (object members))
        | _ => none
  | _ => none

end Json

/-- The value of a digit in a base up to sixteen. -/
def digitValue (base : Nat) (char : Char) : Option Nat :=
  let value :=
    if '0' ≤ char ∧ char ≤ '9' then char.toNat - 48
    else if 'a' ≤ char ∧ char ≤ 'f' then char.toNat - 87
    else if 'A' ≤ char ∧ char ≤ 'F' then char.toNat - 55
    else base
  if value < base then some value else none

/-- A character that a conversion passes over. -/
def isSpace (char : Char) : Bool := char = ' ' ∨ 9 ≤ char.toNat ∧ char.toNat ≤ 13

/-- A text in base sixteen may mark its base. -/
def dropHexMark (base : Nat) : List Char → List Char
  | zero :: mark :: digit :: rest =>
      if base = 16 ∧ zero = '0' ∧ (mark = 'x' ∨ mark = 'X') ∧ (digitValue 16 digit).isSome then
        digit :: rest
      else zero :: mark :: digit :: rest
  | text => text

/-- `strtoll` on the text up to its first zero character, which must consist of one number. -/
def strToLL (text : String) (base : Nat) : Option Int :=
  -- The C library reads up to the first null character.
  let unspaced := (text.toList.takeWhile fun char => char.toNat ≠ 0).dropWhile isSpace
  let negative := unspaced.head? = some '-'
  let unsigned := if negative ∨ unspaced.head? = some '+' then unspaced.tail else unspaced
  let digits := dropHexMark base unsigned
  if digits = [] then none
  else
    (digits.mapM (digitValue base)).bind fun values =>
      let magnitude : Int := values.foldl (fun number digit => number * base + digit) 0
      let value := if negative then -magnitude else magnitude
      if -2 ^ 63 ≤ value ∧ value < 2 ^ 63 then some value else none

/-- Read a number, in base sixteen if the text is marked. -/
def strToI64Hex (text : String) : Option Int :=
  if text.toList.take 2 = ['0', 'x'] then strToLL text 16 else strToLL text 10

example : strToI64Hex "0x01C000007" = some 0x01C000007 := by decide +kernel

end SecurityGuard
