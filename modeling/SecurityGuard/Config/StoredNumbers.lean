import Mathlib.Algebra.Order.Ring.Rat
import SecurityGuard.Config.Indexing
import SecurityGuard.Foundation.Conversion

/-!
# The numbers of a document

A number is stored as an unsigned integer, an integer or a double.  `JsonCfg::Unmarshal` asks
only whether there is a number, and converts it to the type of the field that it fills.
-/

namespace SecurityGuard

/-- A number of a document as the parser stores it; a double is finite, and kept as its value. -/
inductive JsonNumber where
  | unsigned (value : UInt64)
  | integer (value : Int64)
  | real (value : ℚ)
  deriving DecidableEq, Repr

namespace JsonNumber

/-- The number that is stored. -/
def value : JsonNumber → ℚ
  | unsigned value => (value.toNat : Int)
  | integer value => value.toInt
  | real value => value

/-- `get` at an integer type, by a `static_cast` of what is stored. -/
def get (undefined : IntegerType → ℚ → Int) (type : IntegerType) : JsonNumber → Int
  | unsigned value => type.wrap value.toNat
  | integer value => type.wrap value.toInt
  | real value => type.ofReal (undefined type) value

theorem fits_get (undefined : IntegerType → ℚ → Int) (type : IntegerType) (number : JsonNumber) :
    type.Fits (number.get undefined type) := by
  cases number with
  | unsigned | integer => exact IntegerType.fits_wrap _
  | real => exact IntegerType.fits_ofReal _ _

theorem get_eq_iff {undefined : IntegerType → ℚ → Int} {type : IntegerType}
    {number : JsonNumber} :
    (number.get undefined type : ℚ) = number.value ↔ type.Holds number.value := by
  cases number with
  | unsigned | integer => exact IntegerType.wrap_eq_iff
  | real => exact IntegerType.ofReal_eq_iff

end JsonNumber

/-- A JSON value whose numbers are kept as they are stored. -/
inductive StoredJson where
  | null
  | boolean (value : Bool)
  | number (value : JsonNumber)
  | text (value : String)
  | array (elements : List StoredJson)
  | object (members : List (String × StoredJson))

namespace StoredJson

/-- The value under a key; only an object has any. -/
def find : StoredJson → String → Option StoredJson
  | object members, key => members.lookup key
  | _, _ => none

section Numbers

variable (undefined : IntegerType → ℚ → Int)

/-- The number under a key, converted to a type. -/
def unmarshalNumber (type : IntegerType) (document : StoredJson) (key : String) : Option Int :=
  match document.find key with
  | some (number value) => some (value.get undefined type)
  | _ => none

def unmarshalUint64 : StoredJson → String → Option Int := unmarshalNumber undefined .uint64
def unmarshalInt64 : StoredJson → String → Option Int := unmarshalNumber undefined .int64
def unmarshalUint32 : StoredJson → String → Option Int := unmarshalNumber undefined .uint32
def unmarshalInt32 : StoredJson → String → Option Int := unmarshalNumber undefined .int32

/-- Append the numbers of an array; any other element ends the reading. -/
def appendNumbers (type : IntegerType) (data : List Int) : List StoredJson → Bool × List Int
  | [] => (true, data)
  | number value :: rest => appendNumbers type (data ++ [value.get undefined type]) rest
  | _ :: _ => (false, data)

/-- The numbers under a key, appended to what there is. -/
def unmarshalNumbers (type : IntegerType) (data : List Int) (document : StoredJson)
    (key : String) : Bool × List Int :=
  match document.find key with
  | some (array elements) => appendNumbers undefined type data elements
  | _ => (false, data)

def unmarshalInt32s : List Int → StoredJson → String → Bool × List Int :=
  unmarshalNumbers undefined .int32

def unmarshalInt64s : List Int → StoredJson → String → Bool × List Int :=
  unmarshalNumbers undefined .int64

end Numbers

/-- Read a text. -/
def unmarshalText (document : StoredJson) (key : String) : Option String :=
  match document.find key with
  | some (text value) => some value
  | _ => none

/-- The texts at the front of an array. -/
def texts : List StoredJson → List String
  | text value :: rest => value :: texts rest
  | _ => []

/-- Read the texts of an array. -/
def unmarshalTexts (document : StoredJson) (key : String) : List String :=
  match document.find key with
  | some (array elements) => texts elements
  | _ => []

/-- Read an array of objects. -/
def unmarshalObjects {α : Type} (read : StoredJson → α) (document : StoredJson) (key : String) :
    Option (List α) :=
  match document.find key with
  | some (array elements) =>
      elements.mapM fun element =>
        match element with
        | object members => some (read (object members))
        | _ => none
  | _ => none

/-- The elements of the array under a key. -/
def elements (document : StoredJson) (key : String) : List StoredJson :=
  match document.find key with
  | some (array elements) => elements
  | _ => []

end StoredJson

/-- A configuration whose id cannot be read stays zero. -/
def EventCfg.fromStored (undefined : IntegerType → ℚ → Int) (document : StoredJson) : EventCfg :=
  let uint32Field (key : String) : Nat := ((document.unmarshalUint32 undefined key).getD 0).toNat
  match strToI64Hex ((document.unmarshalText "eventId").getD "") with
  | none => { eventId := 0 }
  | some eventId =>
      { eventId
        oldEventId := (strToI64Hex ((document.unmarshalText "oldEventId").getD "")).getD 0
        eventName := (document.unmarshalText "eventName").getD ""
        version := uint32Field "version"
        eventType := EventType.ofNat (uint32Field "eventType")
        collectOnStart := uint32Field "collectOnStart"
        dataSensitivityLevel := uint32Field "dataSensitivityLevel"
        discardEventWhiteList := uint32Field "discardEventWhiteList"
        storageRamNums := uint32Field "storageRamNums"
        storageRomNums := uint32Field "storageRomNums"
        storageTime := (document.unmarshalInt32 undefined "storageTime").getD 0
        owner := document.unmarshalTexts "owner"
        source := uint32Field "source"
        dbTable := (document.unmarshalText "db_table").getD ""
        prog := (document.unmarshalText "prog").getD ""
        isBatchUpload := uint32Field "isBatchUpload"
        isSticky := uint32Field "isSticky"
        serviceId := (document.unmarshalText "serviceId").getD "" }

/-- Read the events of a document, with their storage limited. -/
def StoredJson.parseEventConfig (undefined : IntegerType → ℚ → Int) (document : StoredJson) :
    Option (List EventCfg) :=
  (document.unmarshalObjects (EventCfg.fromStored undefined) "eventcfg").map
    (List.map EventCfg.limitStorage)

namespace StoredJson

/-- The type of the field of an event that a key fills. -/
def fieldType (key : String) : IntegerType := if key = "storageTime" then .int32 else .uint32

section Converted

variable (undefined : IntegerType → ℚ → Int)

mutual

/-- The document with its numbers converted, each to the type of the field under its key. -/
def converted (key : String) : StoredJson → Json
  | null => .null
  | boolean value => .boolean value
  | number value => .number (value.get undefined (fieldType key))
  | text value => .text value
  | array elements => .array (convertedElements key elements)
  | object members => .object (convertedMembers members)

/-- The elements of an array as the code reads them. -/
def convertedElements (key : String) : List StoredJson → List Json
  | [] => []
  | element :: rest => converted key element :: convertedElements key rest

/-- The members of an object as the code reads them. -/
def convertedMembers : List (String × StoredJson) → List (String × Json)
  | [] => []
  | (key, value) :: rest => (key, converted key value) :: convertedMembers rest

end

variable {undefined}

theorem lookup_convertedMembers (members : List (String × StoredJson)) (key : String) :
    (convertedMembers undefined members).lookup key =
      (members.lookup key).map (converted undefined key) := by
  induction members with
  | nil => rfl
  | cons member members ih =>
      obtain ⟨other, value⟩ := member
      rw [convertedMembers, List.lookup_cons, List.lookup_cons]
      cases same : key == other with
      | true =>
          rw [eq_of_beq same]
          rfl
      | false => exact ih

theorem find_converted (document : StoredJson) (outer key : String) :
    (document.converted undefined outer).find key =
      (document.find key).map (converted undefined key) := by
  cases document with
  | object members => exact lookup_convertedMembers members key
  | null | boolean | number | text | array => rfl

theorem texts_converted (elements : List StoredJson) (key : String) :
    Json.texts (convertedElements undefined key elements) = texts elements := by
  induction elements with
  | nil => rfl
  | cons element elements ih =>
      cases element with
      | text value => exact congrArg (value :: ·) ih
      | null | boolean | number | array | object => rfl

variable (document : StoredJson) (outer key : String)

theorem unmarshalText_converted :
    (document.converted undefined outer).unmarshalText key = document.unmarshalText key := by
  rw [Json.unmarshalText, find_converted, unmarshalText]
  cases document.find key with
  | none => rfl
  | some value => cases value <;> rfl

theorem unmarshalTexts_converted :
    (document.converted undefined outer).unmarshalTexts key = document.unmarshalTexts key := by
  rw [Json.unmarshalTexts, find_converted, unmarshalTexts]
  cases document.find key with
  | none => rfl
  | some value =>
      cases value with
      | array elements => exact texts_converted elements key
      | null | boolean | number | text | object => rfl

theorem unmarshalUint32_converted (field : key ≠ "storageTime") :
    ((document.converted undefined outer).unmarshalUint32 key).getD 0 =
      ((document.unmarshalUint32 undefined key).getD 0).toNat := by
  rw [Json.unmarshalUint32, find_converted, unmarshalUint32, unmarshalNumber]
  cases document.find key with
  | none => rfl
  | some value =>
      cases value with
      | number value =>
          obtain ⟨nonneg, less⟩ := IntegerType.fits_uint32.mp (value.fits_get undefined _)
          rw [Option.map_some, converted, fieldType, if_neg field]
          exact congrArg Int.toNat (Int.emod_eq_of_lt nonneg less)
      | null | boolean | text | array | object => rfl

theorem unmarshalInt32_converted :
    ((document.converted undefined outer).unmarshalInt32 "storageTime").getD 0 =
      (document.unmarshalInt32 undefined "storageTime").getD 0 := by
  rw [Json.unmarshalInt32, find_converted, unmarshalInt32, unmarshalNumber]
  cases document.find "storageTime" with
  | none => rfl
  | some value =>
      cases value with
      | number value =>
          obtain ⟨least, less⟩ := IntegerType.fits_int32.mp (value.fits_get undefined _)
          rw [Option.map_some, converted, fieldType, if_pos rfl]
          exact Int.bmod_eq_of_le (by omega) (by omega)
      | null | boolean | text | array | object => rfl

theorem fromJson_converted :
    EventCfg.fromJson (document.converted undefined outer) =
      EventCfg.fromStored undefined document := by
  rw [EventCfg.fromJson, EventCfg.fromStored, unmarshalText_converted]
  cases strToI64Hex ((document.unmarshalText "eventId").getD "") with
  | none => rfl
  | some eventId =>
      simp (disch := decide) only [unmarshalText_converted, unmarshalTexts_converted,
        unmarshalUint32_converted, unmarshalInt32_converted]

theorem unmarshalObjects_converted {α : Type} (read : Json → α) :
    (document.converted undefined outer).unmarshalObjects read key =
      document.unmarshalObjects (fun element => read (element.converted undefined key)) key := by
  rw [Json.unmarshalObjects, find_converted, unmarshalObjects]
  cases document.find key with
  | none => rfl
  | some value =>
      cases value with
      | null | boolean | number | text | object => rfl
      | array elements =>
          rw [Option.map_some, converted]
          dsimp only
          induction elements with
          | nil => rfl
          | cons element elements ih =>
              rw [convertedElements, List.mapM_cons, List.mapM_cons, ih]
              cases element <;> rfl

theorem parseEventConfig_converted :
    SecurityGuard.parseEventConfig (document.converted undefined outer) =
      document.parseEventConfig undefined := by
  rw [SecurityGuard.parseEventConfig, unmarshalObjects_converted, parseEventConfig]
  simp only [fromJson_converted]

end Converted

end StoredJson

/-! ## Faithful reading -/

namespace StoredJson

/-- What is read under a key, if anything, is the value of the number there. -/
def StoresValue (document : StoredJson) (key : String) (stored : Option Int) : Prop :=
  ∀ value, stored = some value →
    ∃ found : JsonNumber, document.find key = some (number found) ∧ (value : ℚ) = found.value

/-- What is read under a key, if anything, are the values of the numbers there. -/
def StoresValues (document : StoredJson) (key : String) (data : List Int)
    (read : Bool × List Int) : Prop :=
  read.1 = true →
    ∃ (found : List JsonNumber) (stored : List Int),
      document.find key = some (array (found.map number)) ∧ read.2 = data ++ stored ∧
        List.Forall₂ (fun (value : Int) (number : JsonNumber) => (value : ℚ) = number.value)
          stored found

/-- The number under a key is a value of the type. -/
def HoldsNumber (type : IntegerType) (document : StoredJson) (key : String) : Prop :=
  ∀ found : JsonNumber, document.find key = some (number found) → type.Holds found.value

/-- The numbers under a key are values of the type. -/
def HoldsNumbers (type : IntegerType) (document : StoredJson) (key : String) : Prop :=
  ∀ found : List JsonNumber, document.find key = some (array (found.map number)) →
    ∀ number ∈ found, type.Holds number.value

variable {undefined : IntegerType → ℚ → Int} {type : IntegerType} {document : StoredJson}
  {key : String}

theorem unmarshalNumber_eq_some {value : Int} :
    unmarshalNumber undefined type document key = some value ↔
      ∃ found : JsonNumber, document.find key = some (number found) ∧
        found.get undefined type = value := by
  rw [unmarshalNumber]
  cases document.find key with
  | none => simp
  | some element => cases element <;> simp

theorem storesValue_iff :
    document.StoresValue key (unmarshalNumber undefined type document key) ↔
      document.HoldsNumber type key := by
  constructor
  · intro stores found present
    obtain ⟨other, present', same⟩ :=
      stores _ (unmarshalNumber_eq_some.mpr ⟨found, present, rfl⟩)
    obtain rfl : found = other := by simpa [present] using present'
    exact JsonNumber.get_eq_iff.mp same
  · intro holds value read
    obtain ⟨found, present, rfl⟩ := unmarshalNumber_eq_some.mp read
    exact ⟨found, present, JsonNumber.get_eq_iff.mpr (holds found present)⟩

/-- An array is read to its end exactly if it is one of numbers. -/
theorem appendNumbers_fst {data : List Int} {elements : List StoredJson} :
    (appendNumbers undefined type data elements).1 = true ↔
      ∃ found : List JsonNumber, elements = found.map number := by
  induction elements generalizing data with
  | nil => exact ⟨fun _ => ⟨[], rfl⟩, fun _ => rfl⟩
  | cons element elements ih =>
      constructor
      · intro read
        cases element with
        | number value =>
            obtain ⟨found, rfl⟩ := ih.mp read
            exact ⟨value :: found, rfl⟩
        | null | boolean | text | array | object => exact Bool.noConfusion read
      · rintro ⟨found, split⟩
        cases found with
        | nil => exact absurd split (by simp)
        | cons value found =>
            obtain ⟨rfl, rfl⟩ := List.cons.inj split
            exact ih.mpr ⟨found, rfl⟩

theorem appendNumbers_map (data : List Int) (found : List JsonNumber) :
    appendNumbers undefined type data (found.map number) =
      (true, data ++ found.map (JsonNumber.get undefined type)) := by
  induction found generalizing data with
  | nil => simp [appendNumbers]
  | cons value found ih => rw [List.map_cons, appendNumbers, ih, List.append_assoc]; rfl

/-- The numbers of an array are read faithfully exactly if they are values of the type. -/
theorem storesValues_iff (data : List Int) :
    document.StoresValues key data (unmarshalNumbers undefined type data document key) ↔
      document.HoldsNumbers type key := by
  have read {found : List JsonNumber}
      (present : document.find key = some (array (found.map number))) :
      unmarshalNumbers undefined type data document key =
        (true, data ++ found.map (JsonNumber.get undefined type)) := by
    rw [unmarshalNumbers, present]
    exact appendNumbers_map data found
  constructor
  · intro stores found present
    obtain ⟨other, stored, present', appended, faithful⟩ := stores (by rw [read present])
    obtain rfl : found = other := by
      have same : found.map number = other.map number := by simpa [present] using present'
      exact List.map_injective_iff.mpr (fun _ _ => StoredJson.number.inj) same
    rw [read present] at appended
    obtain rfl := List.append_cancel_left appended
    rw [List.forall₂_map_left_iff, List.forall₂_same] at faithful
    exact fun number mem => JsonNumber.get_eq_iff.mp (faithful number mem)
  · intro holds complete
    obtain ⟨found, present⟩ : ∃ found : List JsonNumber,
        document.find key = some (array (found.map number)) := by
      rw [unmarshalNumbers] at complete
      split at complete
      · next elements present =>
          obtain ⟨found, rfl⟩ := appendNumbers_fst.mp complete
          exact ⟨found, present⟩
      · exact Bool.noConfusion complete
    refine ⟨found, found.map (JsonNumber.get undefined type), present, by rw [read present], ?_⟩
    rw [List.forall₂_map_left_iff, List.forall₂_same]
    exact fun number mem => JsonNumber.get_eq_iff.mpr (holds found present number mem)

end StoredJson

/-- The conversion to `uint32` leaves a quota at its maximum. -/
def JsonNumber.Reaches (undefined : IntegerType → ℚ → Int) (maximum : Nat) : JsonNumber → Prop
  | unsigned value => maximum ≤ value.toNat % 2 ^ 32
  | integer value => maximum ≤ value.toInt % 2 ^ 32
  | real value => value < 2 ^ 32 ∨ maximum ≤ undefined .uint32 value % 2 ^ 32

/-- The maximum of the quota of a configuration, which is larger for the audit model. -/
def EventCfg.storageMaximum (owner : List String) : Nat :=
  if owner.head? = some auditModelId then dbMaxValue else storageRomNumsMaxValue

namespace StoredJson

/-- Whether the id of an entry can be read. -/
def isWellFormed (entry : StoredJson) : Bool :=
  (strToI64Hex ((entry.unmarshalText "eventId").getD "")).isSome

/-- The most rows that an entry may ask for. -/
def storageMaximum (entry : StoredJson) : Nat :=
  EventCfg.storageMaximum (entry.unmarshalTexts "owner")

/-- The value is an object. -/
def isObject : StoredJson → Bool
  | object _ => true
  | _ => false

/-- Whether the document has a list of events. -/
def hasEvents (document : StoredJson) : Bool :=
  match document.find "eventcfg" with
  | some (array elements) => elements.all isObject
  | _ => false

/-- The quota of every event is what the document says, up to its maximum. -/
def CapsStorage (undefined : IntegerType → ℚ → Int) (document : StoredJson) : Prop :=
  ∀ configs, document.parseEventConfig undefined = some configs →
    List.Forall₂
      (fun (entry : StoredJson) (cfg : EventCfg) => ∀ found : JsonNumber,
        entry.find "storageRomNums" = some (number found) →
          (cfg.storageRomNums : ℚ) = min found.value entry.storageMaximum)
      (document.elements "eventcfg") configs

/-- A quota survives the conversion if it is a value of the type, or stays at its maximum.  An
entry whose id cannot be read has no quota. -/
def KeepsQuota (undefined : IntegerType → ℚ → Int) (entry : StoredJson) (found : JsonNumber) :
    Prop :=
  if entry.isWellFormed then
    IntegerType.uint32.Holds found.value ∨
      (entry.storageMaximum : ℚ) ≤ found.value ∧ found.Reaches undefined entry.storageMaximum
  else found.value = 0

/-- The quotas of all events survive the conversion. -/
def KeepsQuotas (undefined : IntegerType → ℚ → Int) (document : StoredJson) : Prop :=
  document.hasEvents = true → ∀ entry ∈ document.elements "eventcfg", ∀ found : JsonNumber,
    entry.find "storageRomNums" = some (number found) → entry.KeepsQuota undefined found

end StoredJson

variable {undefined : IntegerType → ℚ → Int}

/-- What a number at least the maximum is converted to is at least the maximum, too. -/
theorem JsonNumber.reaches_iff {maximum : Nat} {found : JsonNumber}
    (least : (maximum : ℚ) ≤ found.value) :
    found.Reaches undefined maximum ↔ (maximum : Int) ≤ found.get undefined .uint32 := by
  cases found with
  | unsigned value =>
      rw [JsonNumber.get, IntegerType.wrap_of_unsigned rfl, JsonNumber.Reaches]
      exact Int.ofNat_le.symm
  | integer value =>
      rw [JsonNumber.get, IntegerType.wrap_of_unsigned rfl]
      rfl
  | real value =>
      have least : (maximum : ℚ) ≤ value := least
      have nonneg : 0 ≤ value := (Nat.cast_nonneg maximum).trans least
      have fits : IntegerType.uint32.Fits (truncate value) ↔ value < 2 ^ 32 :=
        IntegerType.fits_truncate_iff rfl nonneg
      rw [JsonNumber.get, IntegerType.ofReal, JsonNumber.Reaches]
      by_cases less : value < 2 ^ 32
      · rw [if_pos (fits.mpr less), truncate_eq_floor nonneg]
        exact iff_of_true (.inl less) (Int.le_floor.mpr least)
      · rw [if_neg (mt fits.mp less), IntegerType.wrap_of_unsigned rfl]
        exact or_iff_right less

theorem EventCfg.limitStorage_storageRomNums (cfg : EventCfg) :
    cfg.limitStorage.storageRomNums = min cfg.storageRomNums (storageMaximum cfg.owner) := by
  rw [limitStorage, ← storageMaximum]
  split_ifs with reaches
  · exact (min_eq_right reaches).symm
  · exact (min_eq_left (Nat.le_of_not_le reaches)).symm

namespace StoredJson

/-- An entry has the quota that the document says, up to its maximum, exactly if the quota survives
the conversion. -/
theorem keepsQuota_iff {entry : StoredJson} {found : JsonNumber}
    (present : entry.find "storageRomNums" = some (number found)) :
    ((EventCfg.fromStored undefined entry).limitStorage.storageRomNums : ℚ) =
        min found.value entry.storageMaximum ↔
      entry.KeepsQuota undefined found := by
  rw [EventCfg.limitStorage_storageRomNums, KeepsQuota, isWellFormed]
  cases read : strToI64Hex ((entry.unmarshalText "eventId").getD "") with
  | none =>
      have zero : EventCfg.fromStored undefined entry = { eventId := 0 } := by
        rw [EventCfg.fromStored, read]
      have positive : (0 : ℚ) < entry.storageMaximum := by
        rw [storageMaximum, EventCfg.storageMaximum]
        split_ifs <;> exact Nat.cast_pos.mpr (by decide)
      rw [zero, Nat.zero_min, if_neg (by simp), Nat.cast_zero]
      constructor
      · intro capped
        rcases min_choice found.value (entry.storageMaximum : ℚ) with own | cap
        · exact own.symm.trans capped.symm
        · exact absurd (capped.trans cap) positive.ne
      · intro own
        rw [own, min_eq_left positive.le]
  | some eventId =>
      have owner : (EventCfg.fromStored undefined entry).owner = entry.unmarshalTexts "owner" := by
        rw [EventCfg.fromStored, read]
      have stored : ((EventCfg.fromStored undefined entry).storageRomNums : ℚ) =
          found.get undefined .uint32 := by
        have nonneg := (IntegerType.fits_uint32.mp (found.fits_get undefined _)).1
        have number : entry.unmarshalUint32 undefined "storageRomNums" =
            some (found.get undefined .uint32) := unmarshalNumber_eq_some.mpr ⟨found, present, rfl⟩
        rw [EventCfg.fromStored, read]
        dsimp only
        rw [number, Option.getD_some, ← Int.cast_natCast, Int.toNat_of_nonneg nonneg]
      rw [Option.isSome_some, if_pos rfl, owner, Nat.cast_min, stored, ← storageMaximum,
        min_cap_eq_iff, JsonNumber.get_eq_iff]
      refine or_congr_right (and_comm.trans (and_congr_right fun least => ?_))
      rw [JsonNumber.reaches_iff least]
      exact_mod_cast Iff.rfl

theorem isSome_mapM {α β : Type} (read : α → Option β) (items : List α) :
    (items.mapM read).isSome = items.all fun item => (read item).isSome := by
  induction items with
  | nil => rfl
  | cons item items ih =>
      rw [List.mapM_cons, List.all_cons, ← ih]
      cases read item with
      | none => rfl
      | some value => cases List.mapM read items <;> rfl

theorem parse_isSome (document : StoredJson) :
    (document.parseEventConfig undefined).isSome = document.hasEvents := by
  rw [parseEventConfig, unmarshalObjects, hasEvents, Option.isSome_map]
  cases document.find "eventcfg" with
  | none => rfl
  | some element =>
      cases element with
      | null | boolean | number | text | object => rfl
      | array elements =>
          refine (isSome_mapM _ elements).trans ?_
          congr 1
          funext element
          cases element <;> rfl

theorem convertedElements_eq_map (key : String) (elements : List StoredJson) :
    convertedElements undefined key elements = elements.map (converted undefined key) := by
  induction elements with
  | nil => rfl
  | cons element elements ih => rw [convertedElements, ih, List.map_cons]

theorem elements_converted (document : StoredJson) (outer key : String) :
    (document.converted undefined outer).elements key =
      (document.elements key).map (converted undefined key) := by
  rw [Json.elements, find_converted, elements]
  cases document.find key with
  | none => rfl
  | some element =>
      cases element with
      | array elements => exact convertedElements_eq_map key elements
      | null | boolean | number | text | object => rfl

theorem parse_eq_map {document : StoredJson} {configs : List EventCfg}
    (accepted : document.parseEventConfig undefined = some configs) :
    configs = (document.elements "eventcfg").map fun entry =>
      (EventCfg.fromStored undefined entry).limitStorage := by
  rw [← parseEventConfig_converted document ""] at accepted
  rw [parseEventConfig_eq_map accepted, elements_converted, List.map_map]
  refine List.map_congr_left fun entry _ => ?_
  rw [Function.comp_apply, EventCfg.ofEntry, fromJson_converted]

/-- The quotas of a document are those that it says, up to their maximum, exactly if they survive
the conversion. -/
theorem capsStorage_iff (document : StoredJson) :
    document.CapsStorage undefined ↔ document.KeepsQuotas undefined := by
  have each {configs : List EventCfg}
      (accepted : document.parseEventConfig undefined = some configs) :
      List.Forall₂
          (fun (entry : StoredJson) (cfg : EventCfg) => ∀ found : JsonNumber,
            entry.find "storageRomNums" = some (number found) →
              (cfg.storageRomNums : ℚ) = min found.value entry.storageMaximum)
          (document.elements "eventcfg") configs ↔
        ∀ entry ∈ document.elements "eventcfg", ∀ found : JsonNumber,
          entry.find "storageRomNums" = some (number found) →
            entry.KeepsQuota undefined found := by
    rw [parse_eq_map accepted, List.forall₂_map_right_iff, List.forall₂_same]
    exact forall₂_congr fun entry _ => forall₂_congr fun found present => keepsQuota_iff present
  constructor
  · intro caps events
    rw [← parse_isSome] at events
    obtain ⟨configs, accepted⟩ := Option.isSome_iff_exists.mp events
    exact (each accepted).mp (caps configs accepted)
  · intro keeps configs accepted
    refine (each accepted).mpr (keeps ?_)
    rw [← parse_isSome, accepted, Option.isSome_some]

/-- Each overload reads a document faithfully exactly if the numbers under the key are values of
its type, and the quotas of the events are those of the document exactly if they survive the
conversion to their type. -/
theorem numbers_are_faithful_iff (undefined : IntegerType → ℚ → Int) (document : StoredJson)
    (key : String) (data : List Int) :
    (document.StoresValue key (document.unmarshalUint64 undefined key) ↔
        document.HoldsNumber .uint64 key) ∧
      (document.StoresValue key (document.unmarshalInt64 undefined key) ↔
        document.HoldsNumber .int64 key) ∧
      (document.StoresValue key (document.unmarshalUint32 undefined key) ↔
        document.HoldsNumber .uint32 key) ∧
      (document.StoresValue key (document.unmarshalInt32 undefined key) ↔
        document.HoldsNumber .int32 key) ∧
      (document.StoresValues key data (document.unmarshalInt32s undefined data key) ↔
        document.HoldsNumbers .int32 key) ∧
      (document.StoresValues key data (document.unmarshalInt64s undefined data key) ↔
        document.HoldsNumbers .int64 key) ∧
      (document.CapsStorage undefined ↔ document.KeepsQuotas undefined) :=
  ⟨storesValue_iff, storesValue_iff, storesValue_iff, storesValue_iff, storesValues_iff data,
    storesValues_iff data, capsStorage_iff document⟩

/-- A negative number wraps to the largest one, a fraction is dropped, and a quota above its
maximum wraps below it. -/
theorem numbers_are_wrapped :
    ¬StoresValue (object [("a", number (.integer (-1)))]) "a"
        (unmarshalUint32 (fun _ _ => 0) (object [("a", number (.integer (-1)))]) "a") ∧
      ¬StoresValue (object [("a", number (.real (3 / 2)))]) "a"
        (unmarshalInt32 (fun _ _ => 0) (object [("a", number (.real (3 / 2)))]) "a") ∧
      ¬StoresValues (object [("a", array [number (.unsigned 2147483648)])]) "a" []
        (unmarshalInt32s (fun _ _ => 0) [] (object [("a", array [number (.unsigned 2147483648)])])
          "a") ∧
      ¬CapsStorage (fun _ _ => 0)
        (object [("eventcfg", array [object [("eventId", text "7"),
          ("storageRomNums", number (.unsigned 4294967297))]])]) := by
  refine ⟨fun stores => ?_, fun stores => ?_, fun stores => ?_, fun caps => ?_⟩
  · exact absurd (storesValue_iff.mp stores (.integer (-1)) rfl) (by decide +kernel)
  · exact absurd (storesValue_iff.mp stores (.real (3 / 2)) rfl) (by decide +kernel)
  · have holds := (storesValues_iff []).mp stores [.unsigned 2147483648] rfl
    exact absurd (holds _ List.mem_cons_self) (by decide +kernel)
  · have keeps := (capsStorage_iff _).mp caps rfl _ List.mem_cons_self (.unsigned 4294967297) rfl
    have formed : isWellFormed (object [("eventId", text "7"),
        ("storageRomNums", number (.unsigned 4294967297))]) = true := by decide +kernel
    rw [KeepsQuota, if_pos formed] at keeps
    rcases keeps with holds | ⟨-, reaches⟩
    · exact absurd holds (by decide +kernel)
    · exact absurd reaches (by rw [JsonNumber.Reaches]; decide +kernel)

end StoredJson

end SecurityGuard
