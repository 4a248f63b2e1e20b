import Mathlib.Data.Rat.Floor

/-!
# Conversions to integer types

An integer type of a fixed width takes an integer modulo its size.  A number with a fraction is
truncated towards zero; when that is not a value of the type, the conversion is undefined, and
its outcome is any value of the type.
-/

/-- A two's complement type. -/
structure IntegerType where
  bits : Nat
  signed : Bool
  deriving DecidableEq, Repr

/-- The integer part of a number. -/
def truncate (value : ℚ) : Int := value.num.tdiv value.den

@[simp]
theorem truncate_intCast (value : Int) : truncate value = value := by
  rw [truncate, Rat.num_intCast, Rat.den_intCast, Nat.cast_one, Int.tdiv_one]

theorem truncate_eq_floor {value : ℚ} (nonneg : 0 ≤ value) : truncate value = ⌊value⌋ := by
  rw [truncate, Rat.floor_def', Int.tdiv_eq_ediv_of_nonneg (Rat.num_nonneg.mpr nonneg)]

/-- Capped values agree exactly if the values agree or both reach the cap. -/
theorem min_cap_eq_iff {α : Type*} [LinearOrder α] {left right cap : α} :
    min left cap = min right cap ↔ left = right ∨ cap ≤ left ∧ cap ≤ right := by
  rcases le_total left cap with left_le | le_left
  · rcases le_total right cap with right_le | le_right
    · rw [min_eq_left left_le, min_eq_left right_le]
      refine ⟨.inl, fun same => same.elim id fun reach => ?_⟩
      exact (left_le.antisymm reach.1).trans (reach.2.antisymm right_le)
    · rw [min_eq_left left_le, min_eq_right le_right]
      constructor
      · rintro rfl
        exact .inr ⟨le_rfl, le_right⟩
      · rintro (rfl | reach)
        · exact left_le.antisymm le_right
        · exact left_le.antisymm reach.1
  · rcases le_total right cap with right_le | le_right
    · rw [min_eq_right le_left, min_eq_left right_le]
      constructor
      · rintro rfl
        exact .inr ⟨le_left, le_rfl⟩
      · rintro (rfl | reach)
        · exact le_left.antisymm right_le
        · exact reach.2.antisymm right_le
    · rw [min_eq_right le_left, min_eq_right le_right]
      exact ⟨fun _ => .inr ⟨le_left, le_right⟩, fun _ => rfl⟩

namespace IntegerType

variable (type : IntegerType)

/-- The least value of a type. -/
def least : Int := if type.signed then -2 ^ (type.bits - 1) else 0

/-- An integer is a value of the type. -/
def Fits (value : Int) : Prop := type.least ≤ value ∧ value < type.least + 2 ^ type.bits

instance (value : Int) : Decidable (type.Fits value) := inferInstanceAs (Decidable (_ ∧ _))

/-- A number is a value of the type. -/
def Holds (value : ℚ) : Prop := ∃ integer : Int, value = integer ∧ type.Fits integer

/-- The value that an integer is converted to. -/
def wrap (value : Int) : Int := type.least + (value - type.least) % 2 ^ type.bits

/-- The value that a number with a fraction is converted to. -/
def ofReal (undefined : ℚ → Int) (value : ℚ) : Int :=
  if type.Fits (truncate value) then truncate value else type.wrap (undefined value)

variable {type}

theorem fits_wrap (value : Int) : type.Fits (type.wrap value) := by
  have size : (0 : Int) < 2 ^ type.bits := by positivity
  have nonneg := Int.emod_nonneg (value - type.least) size.ne'
  have less := Int.emod_lt_of_pos (value - type.least) size
  constructor
  · rw [wrap]
    omega
  · rw [wrap]
    omega

theorem wrap_of_fits {value : Int} (fits : type.Fits value) : type.wrap value = value := by
  obtain ⟨nonneg, less⟩ := fits
  rw [wrap, Int.emod_eq_of_lt (by omega) (by omega)]
  omega

theorem fits_ofReal (undefined : ℚ → Int) (value : ℚ) :
    type.Fits (type.ofReal undefined value) := by
  rw [ofReal]
  split_ifs with fits
  · exact fits
  · exact fits_wrap _

theorem holds_intCast {value : Int} : type.Holds value ↔ type.Fits value := by
  constructor
  · rintro ⟨integer, same, fits⟩
    rwa [Int.cast_inj.mp same]
  · exact fun fits => ⟨value, rfl, fits⟩

/-- A number is a value of the type exactly if it is its own integer part, which is one. -/
theorem holds_iff {value : ℚ} :
    type.Holds value ↔ value = truncate value ∧ type.Fits (truncate value) := by
  constructor
  · rintro ⟨integer, rfl, fits⟩
    rw [truncate_intCast]
    exact ⟨rfl, fits⟩
  · rintro ⟨whole, fits⟩
    exact ⟨truncate value, whole, fits⟩

instance (value : ℚ) : Decidable (type.Holds value) := decidable_of_iff _ holds_iff.symm

/-- An integer is converted to itself exactly if it is a value of the type. -/
theorem wrap_eq_iff {value : Int} : (type.wrap value : ℚ) = value ↔ type.Holds value := by
  rw [holds_intCast, Int.cast_inj]
  constructor
  · intro same
    rw [← same]
    exact fits_wrap value
  · exact wrap_of_fits

theorem ofReal_eq_iff {undefined : ℚ → Int} {value : ℚ} :
    (type.ofReal undefined value : ℚ) = value ↔ type.Holds value := by
  constructor
  · intro same
    exact ⟨type.ofReal undefined value, same.symm, fits_ofReal undefined value⟩
  · rintro ⟨integer, rfl, fits⟩
    rw [ofReal, truncate_intCast, if_pos fits]

theorem wrap_of_unsigned (unsigned : type.signed = false) (value : Int) :
    type.wrap value = value % 2 ^ type.bits := by
  have least : type.least = 0 := by rw [IntegerType.least, unsigned]; rfl
  rw [wrap, least, zero_add, sub_zero]

theorem fits_truncate_iff (unsigned : type.signed = false) {value : ℚ} (nonneg : 0 ≤ value) :
    type.Fits (truncate value) ↔ value < 2 ^ type.bits := by
  have least : type.least = 0 := by rw [IntegerType.least, unsigned]; rfl
  have size : ((2 ^ type.bits : Int) : ℚ) = 2 ^ type.bits := by push_cast; rfl
  rw [Fits, least, zero_add, truncate_eq_floor nonneg, ← size, ← Int.floor_lt]
  exact and_iff_right (Int.floor_nonneg.mpr nonneg)

def uint64 : IntegerType := { bits := 64, signed := false }
def int64 : IntegerType := { bits := 64, signed := true }
def uint32 : IntegerType := { bits := 32, signed := false }
def int32 : IntegerType := { bits := 32, signed := true }

theorem fits_uint32 {value : Int} : uint32.Fits value ↔ 0 ≤ value ∧ value < 2 ^ 32 := by
  simp [Fits, uint32, IntegerType.least]

theorem fits_int32 {value : Int} : int32.Fits value ↔ -2 ^ 31 ≤ value ∧ value < 2 ^ 31 := by
  simp [Fits, int32, IntegerType.least]

end IntegerType
