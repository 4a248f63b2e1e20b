import SecurityGuard.Foundation.Parcel

/-!
# How the objects of an authentication travel

Each object writes its fields one after the other, a list behind its length as a signed 32-bit
number.  A reader refuses a negative length and reads as many items as the length says.
-/

namespace SecurityGuard.Wire

open Parcel

/-- A length as it is written. -/
def count {α : Type} (items : List α) : Int32 := Int32.ofNat items.length

/-- The loop behind a length: `clear` and then one item after the other. -/
def readItems {α : Type} (read : Reader α) (size : Int32) : Reader (List α) :=
  if size < 0 then .fail else appendMany read size.toNatClampNeg []

/-- The state of a client as an event carries it. -/
structure AuthClientStatus where
  clientId : String := ""
  isDegraded : Bool := false
  deriving DecidableEq

/-- A strategy is the number behind it, which a reader takes as it is. -/
structure ClientAuthResult where
  clientId : String := ""
  authStrategy : Int32 := 0
  deriving DecidableEq

/-- An event as a provider reports it. -/
structure AuthEventInfo where
  eventId : Int64 := 0
  version : String := ""
  content : String := ""
  clientStatus : List AuthClientStatus := []
  deriving DecidableEq

/-- The merged result of a request with the answers of its clients. -/
structure AuthResult where
  mergedAuthStrategy : Int32 := 0
  clientAuthResults : List ClientAuthResult := []
  deriving DecidableEq

/-- What the service tells about a client. -/
structure AuthClientInfo where
  clientId : String := ""
  bundleName : String := ""
  subscribedEvents : List Int64 := []
  defaultTimeoutStrategy : Int32 := 0
  defaultTimeoutMs : Int32 := 400
  deriving DecidableEq

/-- An event as a client is asked about it. -/
structure AuthEvent where
  eventId : Int64 := 0
  seqnum : Int64 := 0
  content : String := ""
  metadata : String := ""
  deriving DecidableEq

variable (primitives : Primitives)

namespace AuthClientStatus

def marshalling (status : AuthClientStatus) : List UInt8 :=
  primitives.string.write status.clientId ++ primitives.bool.write status.isDegraded

def readFromParcel (self : AuthClientStatus) : Reader AuthClientStatus := do
  let clientId ← primitives.string.read
  let self := { self with clientId }
  let isDegraded ← primitives.bool.read
  return { self with isDegraded }

def unmarshalling : Reader AuthClientStatus := readFromParcel primitives {}

end AuthClientStatus

namespace ClientAuthResult

def marshalling (result : ClientAuthResult) : List UInt8 :=
  primitives.string.write result.clientId ++ primitives.int32.write result.authStrategy

def readFromParcel (self : ClientAuthResult) : Reader ClientAuthResult := do
  let clientId ← primitives.string.read
  let self := { self with clientId }
  let authStrategy ← primitives.int32.read
  return { self with authStrategy }

def unmarshalling : Reader ClientAuthResult := readFromParcel primitives {}

end ClientAuthResult

namespace AuthEventInfo

def marshalling (info : AuthEventInfo) : List UInt8 :=
  primitives.int64.write info.eventId ++ primitives.string.write info.version ++
    primitives.string.write info.content ++ primitives.int32.write (count info.clientStatus) ++
    info.clientStatus.flatMap (AuthClientStatus.marshalling primitives)

/-- The fields before the client statuses, and their number. -/
def readHeader (self : AuthEventInfo) : Reader (AuthEventInfo × Int32) := do
  let eventId ← primitives.int64.read
  let self := { self with eventId }
  let version ← primitives.string.read
  let self := { self with version }
  let content ← primitives.string.read
  let self := { self with content }
  let size ← primitives.int32.read
  return (self, size)

def readFromParcel (self : AuthEventInfo) : Reader AuthEventInfo := do
  let (self, size) ← readHeader primitives self
  let clientStatus ← readItems (AuthClientStatus.unmarshalling primitives) size
  return { self with clientStatus }

end AuthEventInfo

namespace AuthResult

def marshalling (result : AuthResult) : List UInt8 :=
  primitives.int32.write result.mergedAuthStrategy ++
    primitives.int32.write (count result.clientAuthResults) ++
    result.clientAuthResults.flatMap (ClientAuthResult.marshalling primitives)

/-- The field before the client results, and their number. -/
def readHeader (self : AuthResult) : Reader (AuthResult × Int32) := do
  let mergedAuthStrategy ← primitives.int32.read
  let self := { self with mergedAuthStrategy }
  let size ← primitives.int32.read
  return (self, size)

def readFromParcel (self : AuthResult) : Reader AuthResult := do
  let (self, size) ← readHeader primitives self
  let clientAuthResults ← readItems (ClientAuthResult.unmarshalling primitives) size
  return { self with clientAuthResults }

end AuthResult

namespace AuthClientInfo

def marshalling (info : AuthClientInfo) : List UInt8 :=
  primitives.string.write info.clientId ++ primitives.string.write info.bundleName ++
    primitives.int64Vector.write info.subscribedEvents ++
    primitives.int32.write info.defaultTimeoutStrategy ++
    primitives.int32.write info.defaultTimeoutMs

def readFromParcel (self : AuthClientInfo) : Reader AuthClientInfo := do
  let clientId ← primitives.string.read
  let self := { self with clientId }
  let bundleName ← primitives.string.read
  let self := { self with bundleName }
  let subscribedEvents ← primitives.int64Vector.read
  let self := { self with subscribedEvents }
  let defaultTimeoutStrategy ← primitives.int32.read
  let self := { self with defaultTimeoutStrategy }
  let defaultTimeoutMs ← primitives.int32.read
  return { self with defaultTimeoutMs }

end AuthClientInfo

namespace AuthEvent

def marshalling (event : AuthEvent) : List UInt8 :=
  primitives.int64.write event.eventId ++ primitives.int64.write event.seqnum ++
    primitives.string.write event.content ++ primitives.string.write event.metadata

def readFromParcel (self : AuthEvent) : Reader AuthEvent := do
  let eventId ← primitives.int64.read
  let self := { self with eventId }
  let seqnum ← primitives.int64.read
  let self := { self with seqnum }
  let content ← primitives.string.read
  let self := { self with content }
  let metadata ← primitives.string.read
  return { self with metadata }

end AuthEvent

section

variable {primitives} {α : Type}

theorem count_of_lt {items : List α} (short : items.length < 2 ^ 31) :
    ¬count items < 0 ∧ (count items).toNatClampNeg = items.length := by
  have value : (count items).toInt = items.length := Int32.toInt_ofNat_of_lt short
  constructor
  · rw [Int32.lt_iff_toInt_lt, value]
    simp
  · rw [Int32.toNatClampNeg, value, Int.toNat_natCast]

theorem readItems_write {write : α → List UInt8} {read : Reader α} {items : List α}
    (back : ∀ item rest, read (write item ++ rest) = some (item, rest))
    (short : items.length < 2 ^ 31) (rest : List UInt8) :
    readItems read (count items) (items.flatMap write ++ rest) = some (items, rest) := by
  obtain ⟨positive, same⟩ := count_of_lt short
  rw [readItems, if_neg positive, same]
  exact appendMany_write (fun item _ => back item) [] rest

theorem readItems_spec {read : Reader α} (consumes : read.Consumes) {size : Int32}
    {items : List α} {data rest : List UInt8}
    (taken : readItems read size data = some (items, rest)) :
    (items.length : Int) = size.toInt ∧ rest.length + items.length ≤ data.length := by
  rw [readItems] at taken
  split_ifs at taken with negative
  · exact absurd taken (by simp)
  · rw [Int32.lt_iff_toInt_lt, Int32.toInt_zero] at negative
    have number := appendMany_length taken
    have shorter := appendMany_consumes consumes taken
    rw [Int32.toNatClampNeg] at number shorter
    simp only [List.length_nil] at number
    omega

end

section

variable {primitives}

theorem AuthClientStatus.unmarshalling_marshalling (status : AuthClientStatus)
    (rest : List UInt8) :
    unmarshalling primitives (status.marshalling primitives ++ rest) = some (status, rest) := by
  simp [unmarshalling, readFromParcel, marshalling]

theorem ClientAuthResult.unmarshalling_marshalling (result : ClientAuthResult)
    (rest : List UInt8) :
    unmarshalling primitives (result.marshalling primitives ++ rest) = some (result, rest) := by
  simp [unmarshalling, readFromParcel, marshalling]

theorem AuthEventInfo.readFromParcel_marshalling (self info : AuthEventInfo)
    (short : info.clientStatus.length < 2 ^ 31) (rest : List UInt8) :
    readFromParcel primitives self (info.marshalling primitives ++ rest) = some (info, rest) := by
  simp [readFromParcel, readHeader, marshalling,
    readItems_write AuthClientStatus.unmarshalling_marshalling short]

theorem AuthResult.readFromParcel_marshalling (self result : AuthResult)
    (short : result.clientAuthResults.length < 2 ^ 31) (rest : List UInt8) :
    readFromParcel primitives self (result.marshalling primitives ++ rest) =
      some (result, rest) := by
  simp [readFromParcel, readHeader, marshalling,
    readItems_write ClientAuthResult.unmarshalling_marshalling short]

theorem AuthClientInfo.readFromParcel_marshalling (self info : AuthClientInfo)
    (rest : List UInt8) :
    readFromParcel primitives self (info.marshalling primitives ++ rest) = some (info, rest) := by
  simp [readFromParcel, marshalling]

theorem AuthEvent.readFromParcel_marshalling (self event : AuthEvent) (rest : List UInt8) :
    readFromParcel primitives self (event.marshalling primitives ++ rest) =
      some (event, rest) := by
  simp [readFromParcel, marshalling]

end

/-- A reader that does not fail has read as many items as the length behind the header says, and
not more than there were bytes left. -/
def ReadsAnnounced {α β : Type} (read : Reader α) (header : Reader (β × Int32))
    (items : α → Nat) (data : List UInt8) : Prop :=
  ∀ value rest, read data = some (value, rest) →
    ∃ fields size left, header data = some ((fields, size), left) ∧
      (items value : Int) = size.toInt ∧ items value ≤ left.length

section

variable {primitives}

theorem AuthClientStatus.unmarshalling_consumes : (unmarshalling primitives).Consumes :=
  primitives.string.consumes.bind fun _ =>
    primitives.bool.consumes.shrinks.bind fun _ => Reader.shrinks_pure _

theorem ClientAuthResult.unmarshalling_consumes : (unmarshalling primitives).Consumes :=
  primitives.string.consumes.bind fun _ =>
    primitives.int32.consumes.shrinks.bind fun _ => Reader.shrinks_pure _

theorem AuthEventInfo.readsAnnounced (self : AuthEventInfo) (data : List UInt8) :
    ReadsAnnounced (readFromParcel primitives self) (readHeader primitives self)
      (fun info => info.clientStatus.length) data := by
  intro info rest taken
  obtain ⟨⟨fields, size⟩, left, header, tail⟩ := Reader.bind_eq_some.mp taken
  obtain ⟨items, after, read, same⟩ := Reader.bind_eq_some.mp tail
  obtain ⟨rfl, rfl⟩ := Prod.mk.inj (Option.some.inj same)
  obtain ⟨number, spent⟩ := readItems_spec AuthClientStatus.unmarshalling_consumes read
  exact ⟨fields, size, left, header, number, Nat.le_trans (Nat.le_add_left _ _) spent⟩

theorem AuthResult.readsAnnounced (self : AuthResult) (data : List UInt8) :
    ReadsAnnounced (readFromParcel primitives self) (readHeader primitives self)
      (fun result => result.clientAuthResults.length) data := by
  intro result rest taken
  obtain ⟨⟨fields, size⟩, left, header, tail⟩ := Reader.bind_eq_some.mp taken
  obtain ⟨items, after, read, same⟩ := Reader.bind_eq_some.mp tail
  obtain ⟨rfl, rfl⟩ := Prod.mk.inj (Option.some.inj same)
  obtain ⟨number, spent⟩ := readItems_spec ClientAuthResult.unmarshalling_consumes read
  exact ⟨fields, size, left, header, number, Nat.le_trans (Nat.le_add_left _ _) spent⟩

end

/-- Every object is read back whole, whatever the target held and whatever comes after it in the
parcel, when its list has less than 2 ^ 31 items; and no parcel makes a reader return another
number of items than the parcel announces. -/
theorem auth_parcels_round_trip :
    (∀ (self info : AuthEventInfo) (rest : List UInt8), info.clientStatus.length < 2 ^ 31 →
      self.readFromParcel primitives (info.marshalling primitives ++ rest) = some (info, rest)) ∧
    (∀ (self result : AuthResult) (rest : List UInt8), result.clientAuthResults.length < 2 ^ 31 →
      self.readFromParcel primitives (result.marshalling primitives ++ rest) =
        some (result, rest)) ∧
    (∀ (self info : AuthClientInfo) (rest : List UInt8),
      self.readFromParcel primitives (info.marshalling primitives ++ rest) = some (info, rest)) ∧
    (∀ (self event : AuthEvent) (rest : List UInt8),
      self.readFromParcel primitives (event.marshalling primitives ++ rest) =
        some (event, rest)) ∧
    (∀ (self : AuthEventInfo) (data : List UInt8),
      ReadsAnnounced (self.readFromParcel primitives) (self.readHeader primitives)
        (fun info => info.clientStatus.length) data) ∧
    (∀ (self : AuthResult) (data : List UInt8),
      ReadsAnnounced (self.readFromParcel primitives) (self.readHeader primitives)
        (fun result => result.clientAuthResults.length) data) :=
  ⟨fun self info rest short => self.readFromParcel_marshalling info short rest,
    fun self result rest short => self.readFromParcel_marshalling result short rest,
    AuthClientInfo.readFromParcel_marshalling, AuthEvent.readFromParcel_marshalling,
    AuthEventInfo.readsAnnounced, AuthResult.readsAnnounced⟩

/-- An event with the statuses of two clients. -/
def twoClients : AuthEventInfo where
  eventId := 7
  version := "1.0"
  clientStatus := [{ clientId := "first" }, { clientId := "second", isDegraded := true }]

theorem auth_parcels_round_trip_twoClients :
    AuthEventInfo.readFromParcel .standard {} (twoClients.marshalling .standard ++ [1, 2]) =
      some (twoClients, [1, 2]) :=
  (auth_parcels_round_trip .standard).1 {} twoClients [1, 2] (by decide)

theorem AuthEventInfo.refused (self info : AuthEventInfo)
    (negative : count info.clientStatus < 0) (rest : List UInt8) :
    self.readFromParcel primitives (info.marshalling primitives ++ rest) = none := by
  simp [readFromParcel, readHeader, marshalling, readItems, negative]

/-- The length of 2 ^ 31 statuses does not fit into the signed number. -/
theorem too_many_clients_are_refused :
    ¬∀ (self info : AuthEventInfo) (rest : List UInt8),
      self.readFromParcel .standard (info.marshalling .standard ++ rest) = some (info, rest) := by
  intro returns
  obtain ⟨statuses, long⟩ : ∃ statuses : List AuthClientStatus, statuses.length = 2 ^ 31 :=
    ⟨List.replicate (2 ^ 31) {}, List.length_replicate⟩
  have negative : count statuses < 0 := by
    rw [count, long]
    decide
  have refused := AuthEventInfo.refused .standard {} { clientStatus := statuses } negative []
  exact absurd (refused.symm.trans (returns {} { clientStatus := statuses } [])) (by simp)

end SecurityGuard.Wire
