import Mathlib.Algebra.Order.Ring.Nat
import Mathlib.Data.List.Basic

/-!
# Parcels

A parcel is a sequence of bytes that is written at its end and read from its front.  A codec
writes values of a type and reads back what it wrote; it fails at the end of the data.  The
readers of composed objects are sequences of such readers, and the ones of lists repeat a reader
as often as a count says.
-/

namespace Parcel

/-- A reader takes bytes from the front of a parcel, or fails. -/
abbrev Reader (α : Type) := StateT (List UInt8) Option α

namespace Reader

variable {α β : Type}

@[simp]
theorem pure_apply (value : α) (data : List UInt8) :
    (pure value : Reader α) data = some (value, data) := rfl

@[simp]
theorem bind_apply (reader : Reader α) (rest : α → Reader β) (data : List UInt8) :
    (reader >>= rest) data = (reader data).bind fun result => rest result.1 result.2 := rfl

@[simp]
theorem map_apply (change : α → β) (reader : Reader α) (data : List UInt8) :
    (change <$> reader) data =
      (reader data).map fun result => (change result.1, result.2) := by
  cases taken : reader data with
  | none => simp [Functor.map, StateT.map, taken]
  | some result => simp [Functor.map, StateT.map, taken]

theorem bind_eq_some {reader : Reader α} {rest : α → Reader β} {data final : List UInt8}
    {value : β} :
    (reader >>= rest) data = some (value, final) ↔
      ∃ first middle, reader data = some (first, middle) ∧
        rest first middle = some (value, final) := by
  rw [bind_apply, Option.bind_eq_some_iff, Prod.exists]

/-- The reader that fails. -/
def fail : Reader α := fun _ => none

@[simp]
theorem fail_apply (data : List UInt8) : (fail : Reader α) data = none := rfl

/-- A reader that succeeds has taken something. -/
def Consumes (reader : Reader α) : Prop :=
  ∀ data value rest, reader data = some (value, rest) → rest.length < data.length

/-- A reader that succeeds leaves no more than there was. -/
def Shrinks (reader : Reader α) : Prop :=
  ∀ data value rest, reader data = some (value, rest) → rest.length ≤ data.length

theorem Consumes.shrinks {reader : Reader α} (consumes : reader.Consumes) : reader.Shrinks :=
  fun data value rest taken => Nat.le_of_lt (consumes data value rest taken)

theorem shrinks_pure (value : α) : (pure value : Reader α).Shrinks := by
  rintro data read rest taken
  obtain ⟨rfl, rfl⟩ := Prod.mk.inj (Option.some.inj taken)
  exact Nat.le_refl _

theorem Consumes.bind {reader : Reader α} {rest : α → Reader β} (consumes : reader.Consumes)
    (shrinks : ∀ value, (rest value).Shrinks) : (reader >>= rest).Consumes := by
  intro data value final taken
  obtain ⟨first, middle, head, tail⟩ := bind_eq_some.mp taken
  have before := consumes data first middle head
  have after := shrinks first middle value final tail
  exact Nat.lt_of_le_of_lt after before

theorem Shrinks.bind {reader : Reader α} {rest : α → Reader β} (shrinks : reader.Shrinks)
    (later : ∀ value, (rest value).Shrinks) : (reader >>= rest).Shrinks := by
  intro data value final taken
  obtain ⟨first, middle, head, tail⟩ := bind_eq_some.mp taken
  exact Nat.le_trans (later first middle value final tail) (shrinks data first middle head)

end Reader

/-- How the values of a type travel: what is written is read back, and a reader that finds no
data fails. -/
structure Codec (α : Type) where
  write : α → List UInt8
  read : Reader α
  read_write : ∀ value rest, read (write value ++ rest) = some (value, rest)
  consumes : read.Consumes

namespace Codec

variable {α : Type} (codec : Codec α)

attribute [simp] read_write

/-- A read that yields a default where there is nothing to read. -/
def readOr (default : α) : Reader α := fun data => some ((codec.read data).getD (default, data))

@[simp]
theorem readOr_write (default value : α) (rest : List UInt8) :
    codec.readOr default (codec.write value ++ rest) = some (value, rest) := by
  rw [readOr, read_write, Option.getD_some]

theorem read_nil : codec.read [] = none := by
  cases taken : codec.read [] with
  | none => rfl
  | some result => exact absurd (codec.consumes [] result.1 result.2 taken) (by simp)

theorem write_ne_nil (value : α) : codec.write value ≠ [] := by
  intro empty
  have back := codec.read_write value []
  rw [empty, List.append_nil, codec.read_nil] at back
  exact absurd back (by simp)

theorem length_write_pos (value : α) : 0 < (codec.write value).length :=
  List.length_pos_iff.mpr (codec.write_ne_nil value)

end Codec

/-- The primitives of a parcel, with the sizes of the numbers. -/
structure Primitives where
  int64 : Codec Int64
  int32 : Codec Int32
  uint32 : Codec UInt32
  bool : Codec Bool
  string : Codec String
  int64Vector : Codec (List Int64)
  length_int64 : ∀ value, (int64.write value).length = 8
  length_int32 : ∀ value, (int32.write value).length = 4
  length_uint32 : ∀ value, (uint32.write value).length = 4

variable {α : Type}

/-- Read as many items as a count says, and append them to those that are there. -/
def appendMany (read : Reader α) : Nat → List α → Reader (List α)
  | 0, items => pure items
  | count + 1, items => do
      let item ← read
      appendMany read count (items ++ [item])

theorem appendMany_flatMap {β : Type} {write : β → List UInt8} {read : Reader α}
    {received : β → α} {items : List β}
    (back : ∀ item ∈ items, ∀ rest, read (write item ++ rest) = some (received item, rest))
    (front : List α) (rest : List UInt8) :
    appendMany read items.length front (items.flatMap write ++ rest) =
      some (front ++ items.map received, rest) := by
  induction items generalizing front with
  | nil => simp [appendMany]
  | cons item items ih =>
      obtain ⟨first, later⟩ := List.forall_mem_cons.mp back
      rw [List.length_cons, appendMany, List.flatMap_cons, List.append_assoc, Reader.bind_apply,
        first, Option.bind_some, ih later, List.append_assoc, List.map_cons,
        List.singleton_append]

theorem appendMany_write {write : α → List UInt8} {read : Reader α} {items : List α}
    (back : ∀ item ∈ items, ∀ rest, read (write item ++ rest) = some (item, rest))
    (front : List α) (rest : List UInt8) :
    appendMany read items.length front (items.flatMap write ++ rest) =
      some (front ++ items, rest) := by
  rw [appendMany_flatMap back, List.map_id']

theorem appendMany_length {read : Reader α} {count : Nat} {front items : List α}
    {data rest : List UInt8} (taken : appendMany read count front data = some (items, rest)) :
    items.length = front.length + count := by
  induction count generalizing front data with
  | zero =>
      obtain ⟨rfl, -⟩ := Prod.mk.inj (Option.some.inj taken)
      rw [Nat.add_zero]
  | succ count ih =>
      obtain ⟨item, middle, -, tail⟩ := Reader.bind_eq_some.mp taken
      rw [ih tail, List.length_append, List.length_singleton, Nat.add_assoc, Nat.add_comm 1]

theorem appendMany_consumes {read : Reader α} (consumes : read.Consumes) {count : Nat}
    {front items : List α} {data rest : List UInt8}
    (taken : appendMany read count front data = some (items, rest)) :
    rest.length + count ≤ data.length := by
  induction count generalizing front data with
  | zero =>
      obtain ⟨-, rfl⟩ := Prod.mk.inj (Option.some.inj taken)
      exact Nat.le_refl _
  | succ count ih =>
      obtain ⟨item, middle, head, tail⟩ := Reader.bind_eq_some.mp taken
      have shorter := consumes data item middle head
      have := ih tail
      omega

theorem appendMany_shrinks {read : Reader α} (consumes : read.Consumes) (count : Nat)
    (front : List α) : (appendMany read count front).Shrinks := by
  intro data items rest taken
  have := appendMany_consumes consumes taken
  omega

/-- What holds of every item that a reader yields holds of the items of a list. -/
theorem appendMany_forall {read : Reader α} {good : α → Prop}
    (each : ∀ data item rest, read data = some (item, rest) → good item) {count : Nat}
    {front items : List α} {data rest : List UInt8} (start : ∀ item ∈ front, good item)
    (taken : appendMany read count front data = some (items, rest)) :
    ∀ item ∈ items, good item := by
  induction count generalizing front data with
  | zero =>
      obtain ⟨rfl, -⟩ := Prod.mk.inj (Option.some.inj taken)
      exact start
  | succ count ih =>
      obtain ⟨item, middle, head, tail⟩ := Reader.bind_eq_some.mp taken
      refine ih (fun other mem => ?_) tail
      rcases List.mem_append.mp mem with earlier | last
      · exact start other earlier
      · exact List.mem_singleton.mp last ▸ each data item middle head

/-- The number of bytes that are left, in the 32 bits in which it is compared. -/
def readable (data : List UInt8) : UInt32 := UInt32.ofNat data.length

theorem readable_of_lt {data : List UInt8} (short : data.length < 2 ^ 32) :
    (readable data).toNat = data.length :=
  UInt32.toNat_ofNat_of_lt short

theorem toNat_ofNat_of_le {number limit : Nat} (within : number ≤ limit) (fits : limit < 2 ^ 32) :
    (UInt32.ofNat number).toNat = number :=
  UInt32.toNat_ofNat_of_lt (Nat.lt_of_le_of_lt within fits)

/-- The bytes of a number from the least significant one. -/
def bytes : Nat → Nat → List UInt8
  | 0, _ => []
  | width + 1, number => UInt8.ofNat number :: bytes width (number / 256)

/-- Read a number of some bytes, the lowest byte first. -/
def readBytes : Nat → Reader Nat
  | 0 => pure 0
  | width + 1 => fun data =>
      match data with
      | [] => none
      | byte :: rest =>
          (readBytes width rest).map fun result => (byte.toNat + 256 * result.1, result.2)

@[simp]
theorem length_bytes (width number : Nat) : (bytes width number).length = width := by
  induction width generalizing number with
  | zero => rfl
  | succ width ih => rw [bytes, List.length_cons, ih]

theorem readBytes_bytes (width number : Nat) (rest : List UInt8) :
    readBytes width (bytes width number ++ rest) = some (number % 256 ^ width, rest) := by
  induction width generalizing number with
  | zero => simp [readBytes, bytes, Nat.mod_one]
  | succ width ih =>
      have low : (UInt8.ofNat number).toNat = number % 256 := by simp
      simp only [bytes, List.cons_append, readBytes, ih, Option.map_some, low]
      rw [Nat.pow_succ', Nat.mod_mul]

theorem readBytes_consumes (width : Nat) : (readBytes (width + 1)).Consumes := by
  have spends (width : Nat) (data : List UInt8) (number : Nat) (rest : List UInt8)
      (taken : readBytes width data = some (number, rest)) :
      rest.length + width = data.length := by
    induction width generalizing data number with
    | zero =>
        obtain ⟨-, rfl⟩ := Prod.mk.inj (Option.some.inj taken)
        rfl
    | succ width ih =>
        cases data with
        | nil => exact absurd taken (by simp [readBytes])
        | cons byte data =>
            obtain ⟨result, tail, same⟩ := Option.map_eq_some_iff.mp taken
            obtain ⟨-, rfl⟩ := Prod.mk.inj same
            have := ih data result.1 tail
            rw [List.length_cons]
            omega
  intro data number rest taken
  have := spends (width + 1) data number rest taken
  omega

namespace Codec

/-- Numbers below a power of 256, as bytes. -/
def fixed (width : Nat) {α : Type} (toNat : α → Nat) (ofNat : Nat → α)
    (back : ∀ value, ofNat (toNat value % 256 ^ (width + 1)) = value) : Codec α where
  write value := bytes (width + 1) (toNat value)
  read := do return ofNat (← readBytes (width + 1))
  read_write value rest := by simp [readBytes_bytes, back]
  consumes := (readBytes_consumes width).bind fun number => Reader.shrinks_pure (ofNat number)

@[simp]
theorem length_write_fixed {width : Nat} {toNat : α → Nat} {ofNat : Nat → α}
    (back : ∀ value, ofNat (toNat value % 256 ^ (width + 1)) = value) (value : α) :
    ((fixed width toNat ofNat back).write value).length = width + 1 :=
  length_bytes _ _

/-- Values of a type through the values of another. -/
def via {β : Type} (codec : Codec β) (into : α → β) (from_into : β → α)
    (back : ∀ value, from_into (into value) = value) : Codec α where
  write value := codec.write (into value)
  read := do return from_into (← codec.read)
  read_write value rest := by simp [back]
  consumes := codec.consumes.bind fun value => Reader.shrinks_pure (from_into value)

/-- A count as so many ones before a zero. -/
def readUnary : Reader Nat
  | [] => none
  | byte :: data => if byte = 0 then some (0, data) else
      (readUnary data).map fun result => (result.1 + 1, result.2)

def unary : Codec Nat where
  write number := List.replicate number 1 ++ [0]
  read := readUnary
  read_write number rest := by
    induction number with
    | zero => rfl
    | succ number ih =>
        have ones : List.replicate (number + 1) (1 : UInt8) ++ [0] ++ rest =
            1 :: (List.replicate number 1 ++ [0] ++ rest) := rfl
        rw [ones, readUnary, if_neg (by decide), ih, Option.map_some]
  consumes data number rest taken := by
    induction data generalizing number with
    | nil => exact absurd taken (by simp [readUnary])
    | cons byte data ih =>
        rw [readUnary] at taken
        split_ifs at taken
        · obtain ⟨-, rfl⟩ := Prod.mk.inj (Option.some.inj taken)
          exact Nat.lt_succ_self _
        · obtain ⟨result, tail, same⟩ := Option.map_eq_some_iff.mp taken
          obtain ⟨-, rfl⟩ := Prod.mk.inj same
          exact Nat.lt_succ_of_lt (ih result.1 tail)

/-- A list behind its length. -/
def list (codec : Codec α) : Codec (List α) where
  write items := unary.write items.length ++ items.flatMap codec.write
  read := do
    let count ← unary.read
    appendMany codec.read count []
  read_write items rest := by
    rw [List.append_assoc, Reader.bind_apply, read_write, Option.bind_some]
    exact appendMany_write (fun item _ => codec.read_write item) [] rest
  consumes := unary.consumes.bind fun count => appendMany_shrinks codec.consumes count []

end Codec

/-- Primitives that write every number in its bytes, and a text and a vector behind a length. -/
def Primitives.standard : Primitives where
  int64 := .fixed 7 (fun value => value.toUInt64.toNat)
    (fun number => (UInt64.ofNat number).toInt64) (by simp)
  int32 := .fixed 3 (fun value => value.toUInt32.toNat)
    (fun number => (UInt32.ofNat number).toInt32) (by simp)
  uint32 := .fixed 3 UInt32.toNat UInt32.ofNat (by simp)
  bool := .via (.fixed 3 UInt32.toNat UInt32.ofNat (by simp)) (fun value => if value then 1 else 0)
    (fun number => number != 0) (by decide)
  string := .via
    (.list (.via (.fixed 3 UInt32.toNat UInt32.ofNat (by simp)) Char.val
      (fun number => Char.ofNat number.toNat) (by simp)))
    String.toList String.ofList (by simp)
  int64Vector := .list (.fixed 7 (fun value => value.toUInt64.toNat)
    (fun number => (UInt64.ofNat number).toInt64) (by simp))
  length_int64 value := Codec.length_write_fixed _ value
  length_int32 value := Codec.length_write_fixed _ value
  length_uint32 value := Codec.length_write_fixed _ value

end Parcel
