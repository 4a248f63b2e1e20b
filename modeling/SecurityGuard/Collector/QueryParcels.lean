import SecurityGuard.Collector.Query
import SecurityGuard.Foundation.Parcel

/-!
# How a query reaches the collector service

The proxy of the collector service writes the queries into a parcel and reads the events from the
reply; the stub in the service does the reverse.  The queries are limited on both sides, the reply
only where it is read, and the proxy fills the lists of its caller while it reads.  What the
service answers is a function of the queries it is asked.
-/

namespace SecurityGuard

open Parcel

variable (primitives : Primitives)

namespace SecurityEventRuler

def marshalling (ruler : SecurityEventRuler) : List UInt8 :=
  primitives.int64.write (Int64.ofInt ruler.eventId) ++ primitives.string.write ruler.beginTime ++
    primitives.string.write ruler.endTime ++ primitives.string.write ruler.param

def readFromParcel (self : SecurityEventRuler) : Reader SecurityEventRuler := do
  let eventId ← primitives.int64.read
  let self := { self with eventId := eventId.toInt }
  let beginTime ← primitives.string.read
  let self := { self with beginTime }
  let endTime ← primitives.string.read
  let self := { self with endTime }
  let param ← primitives.string.read
  return { self with param }

def unmarshalling : Reader SecurityEventRuler := readFromParcel primitives { eventId := 0 }

/-- The numbers of a query fit into their types. -/
def Typed (ruler : SecurityEventRuler) : Prop :=
  -2 ^ 63 ≤ ruler.eventId ∧ ruler.eventId < 2 ^ 63

end SecurityEventRuler

namespace SecurityEvent

def marshalling (event : SecurityEvent) : List UInt8 :=
  primitives.int64.write (Int64.ofInt event.eventId) ++ primitives.string.write event.version ++
    primitives.string.write event.content ++ primitives.string.write event.timestamp ++
    primitives.int32.write (Int32.ofInt event.userId)

def readFromParcel (self : SecurityEvent) : Reader SecurityEvent := do
  let eventId ← primitives.int64.read
  let self := { self with eventId := eventId.toInt }
  let version ← primitives.string.read
  let self := { self with version }
  let content ← primitives.string.read
  let self := { self with content }
  let timestamp ← primitives.string.read
  let self := { self with timestamp }
  let userId ← primitives.int32.read
  return { self with userId := userId.toInt }

def unmarshalling : Reader SecurityEvent := readFromParcel primitives { eventId := 0 }

/-- The numbers of an event fit into their types. -/
structure Typed (event : SecurityEvent) : Prop where
  eventId : -2 ^ 63 ≤ event.eventId ∧ event.eventId < 2 ^ 63
  userId : -2 ^ 31 ≤ event.userId ∧ event.userId < 2 ^ 31

end SecurityEvent

namespace SecurityCollectorManager

/-- A list behind its length, of which 32 bits are written. -/
def writeAll {α : Type} (write : α → List UInt8) (items : List α) : List UInt8 :=
  primitives.uint32.write (UInt32.ofNat items.length) ++ items.flatMap write

/-- The request of both queries. -/
def writeQueryRequest : List SecurityEventRuler → List UInt8 :=
  writeAll primitives (SecurityEventRuler.marshalling primitives)

/-- `ReadQueryBatchRequest`, and the same loop of the other query.  Every failure is BAD_PARAM. -/
def readQueryRequest : Reader (List SecurityEventRuler) := do
  let size ← primitives.uint32.read
  if maxQueryEventSize < size.toNat then .fail
  else appendMany (SecurityEventRuler.unmarshalling primitives) size.toNat []

/-- The queries that a request asks the service, if it does. -/
def asked (data : List UInt8) : Option (List SecurityEventRuler) :=
  if readable data ≤ 4 then none else (readQueryRequest primitives data).map Prod.fst

/-- Write the events of a reply. -/
def writeEvents : List SecurityEvent → List UInt8 :=
  writeAll primitives (SecurityEvent.marshalling primitives)

/-- Write an event id. -/
def writeId (id : Int) : List UInt8 := primitives.int64.write (Int64.ofInt id)

/-- Write the failed ids of a reply. -/
def writeFailedEventIds : List Int → List UInt8 := writeAll primitives (writeId primitives)

/-- Write the answer to a batch. -/
def writeQueryBatchReply (answer : QueryReply) : List UInt8 :=
  primitives.int32.write (Int32.ofInt answer.code) ++ writeEvents primitives answer.events ++
    writeFailedEventIds primitives answer.failedEventIds

/-- The code that a request is answered with, and the reply. -/
def handleSecurityEventQueryBatchCmd (service : List SecurityEventRuler → QueryReply)
    (data : List UInt8) : Code × List UInt8 :=
  match asked primitives data with
  | none => (.badParam, [])
  | some rulers => (.success, writeQueryBatchReply primitives (service rulers))

/-- A query that fails is answered with its code alone. -/
def handleSecurityEventQueryCmd (service : List SecurityEventRuler → Code × List SecurityEvent)
    (data : List UInt8) : Code × List UInt8 :=
  match asked primitives data with
  | none => (.badParam, [])
  | some rulers =>
      let answer := service rulers
      if answer.1 ≠ .success then (answer.1, []) else (.success, writeEvents primitives answer.2)

/-- Read items until one fails: those that were read, and what is left if none failed. -/
def readEach {α : Type} (read : Reader α) : Nat → List UInt8 → List α × Option (List UInt8)
  | 0, data => ([], some data)
  | count + 1, data =>
      match read data with
      | none => ([], none)
      | some (item, rest) =>
          let later := readEach read count rest
          (item :: later.1, later.2)

/-- Read a list within the limit into the list of the caller. -/
def readLimited {α : Type} (read : Reader α) (data : List UInt8) :
    List α × Option (List UInt8) :=
  match primitives.uint32.read data with
  | none => ([], none)
  | some (size, rest) =>
      if maxQueryEventSize < size.toNat then ([], none) else readEach read size.toNat rest

/-- Read the events of a reply. -/
def readEvents : List UInt8 → List SecurityEvent × Option (List UInt8) :=
  readLimited primitives (SecurityEvent.unmarshalling primitives)

/-- Read an event id. -/
def readId : Reader Int := do return (← primitives.int64.read).toInt

/-- Read the failed ids of a reply. -/
def readFailedEventIds : List UInt8 → List Int × Option (List UInt8) :=
  readLimited primitives (readId primitives)

/-- What the proxy returns for a reply, with what it has appended to the lists of its caller. -/
def readQueryBatchReply (reply : List UInt8) : QueryReply :=
  match primitives.int32.read reply with
  | none => { code := .failed }
  | some (result, data) =>
      let events := readEvents primitives data
      match events.2 with
      | none => { code := .badParam, events := events.1 }
      | some rest =>
          let ids := readFailedEventIds primitives rest
          match ids.2 with
          | none => { code := .badParam, events := events.1, failedEventIds := ids.1 }
          | some _ => { code := result.toInt, events := events.1, failedEventIds := ids.1 }

/-- `SecurityCollectorManagerProxy::QuerySecurityEventBatch`. -/
def querySecurityEventBatch (service : List SecurityEventRuler → QueryReply)
    (rulers : List SecurityEventRuler) : QueryReply :=
  if maxQueryEventSize < rulers.length then { code := .badParam }
  else
    let sent :=
      handleSecurityEventQueryBatchCmd primitives service (writeQueryRequest primitives rulers)
    if sent.1 ≠ .success then { code := sent.1 } else readQueryBatchReply primitives sent.2

/-- `SecurityCollectorManagerProxy::QuerySecurityEvent`. -/
def querySecurityEvent (service : List SecurityEventRuler → Code × List SecurityEvent)
    (rulers : List SecurityEventRuler) : QueryReply :=
  let sent := handleSecurityEventQueryCmd primitives service (writeQueryRequest primitives rulers)
  if sent.1 ≠ .success then { code := sent.1 }
  else
    let events := readEvents primitives sent.2
    { code := if events.2.isSome then .success else .badParam, events := events.1 }

section

variable {primitives} {α : Type}

theorem readEach_length {read : Reader α} (count : Nat) (data : List UInt8) :
    (readEach read count data).1.length ≤ count := by
  induction count generalizing data with
  | zero => exact Nat.le_refl 0
  | succ count ih =>
      rw [readEach]
      cases read data with
      | none => exact Nat.zero_le _
      | some result => exact Nat.succ_le_succ (ih result.2)

theorem readEach_write {write : α → List UInt8} {read : Reader α} {items : List α}
    (back : ∀ item ∈ items, ∀ rest, read (write item ++ rest) = some (item, rest))
    (rest : List UInt8) :
    readEach read items.length (items.flatMap write ++ rest) = (items, some rest) := by
  induction items with
  | nil => rfl
  | cons item items ih =>
      obtain ⟨first, later⟩ := List.forall_mem_cons.mp back
      rw [List.length_cons, readEach, List.flatMap_cons, List.append_assoc, first]
      dsimp only
      rw [ih later]

variable (primitives) in
theorem readLimited_length (read : Reader α) (data : List UInt8) :
    (readLimited primitives read data).1.length ≤ maxQueryEventSize := by
  rw [readLimited]
  cases primitives.uint32.read data with
  | none => exact Nat.zero_le _
  | some result =>
      dsimp only
      split_ifs with beyond
      · exact Nat.zero_le _
      · exact (readEach_length _ _).trans (not_lt.mp beyond)

variable (primitives) in
theorem readLimited_write {write : α → List UInt8} {read : Reader α} {items : List α}
    (back : ∀ item ∈ items, ∀ rest, read (write item ++ rest) = some (item, rest))
    (short : items.length ≤ maxQueryEventSize) (rest : List UInt8) :
    readLimited primitives read (writeAll primitives write items ++ rest) =
      (items, some rest) := by
  have number := toNat_ofNat_of_le short (by decide)
  rw [readLimited, writeAll, List.append_assoc, Codec.read_write]
  dsimp only
  rw [number, if_neg (not_lt.mpr short), readEach_write back]

variable (primitives) in
/-- A list beyond the limit is refused before an item is read, if 32 bits hold its length. -/
theorem readLimited_long (write : α → List UInt8) (read : Reader α) {items : List α}
    (long : maxQueryEventSize < items.length) (fits : items.length < 2 ^ 32)
    (rest : List UInt8) :
    readLimited primitives read (writeAll primitives write items ++ rest) = ([], none) := by
  have number : (UInt32.ofNat items.length).toNat = items.length :=
    UInt32.toNat_ofNat_of_lt fits
  rw [readLimited, writeAll, List.append_assoc, Codec.read_write]
  dsimp only
  rw [number, if_pos long]

end

end SecurityCollectorManager

theorem SecurityEventRuler.unmarshalling_marshalling {ruler : SecurityEventRuler}
    (typed : ruler.Typed) (rest : List UInt8) :
    unmarshalling primitives (ruler.marshalling primitives ++ rest) = some (ruler, rest) := by
  simp [unmarshalling, readFromParcel, marshalling,
    Int64.toInt_ofInt_of_le typed.1 typed.2]

theorem SecurityEvent.unmarshalling_marshalling {event : SecurityEvent} (typed : event.Typed)
    (rest : List UInt8) :
    unmarshalling primitives (event.marshalling primitives ++ rest) = some (event, rest) := by
  simp [unmarshalling, readFromParcel, marshalling,
    Int64.toInt_ofInt_of_le typed.eventId.1 typed.eventId.2,
    Int32.toInt_ofInt_of_le typed.userId.1 typed.userId.2]

/-- The numbers of an answer fit into their types. -/
structure QueryReply.Typed (answer : QueryReply) : Prop where
  code : -2 ^ 31 ≤ answer.code ∧ answer.code < 2 ^ 31
  events : ∀ event ∈ answer.events, event.Typed
  failedEventIds : ∀ id ∈ answer.failedEventIds, -2 ^ 63 ≤ id ∧ id < 2 ^ 63

namespace SecurityCollectorManager

variable {primitives}

variable (primitives) in
theorem readId_writeId {id : Int} (typed : -2 ^ 63 ≤ id ∧ id < 2 ^ 63) (rest : List UInt8) :
    readId primitives (writeId primitives id ++ rest) = some (id, rest) := by
  simp [readId, writeId, Int64.toInt_ofInt_of_le typed.1 typed.2]

variable (primitives) in
theorem readEvents_write {events : List SecurityEvent} (typed : ∀ event ∈ events, event.Typed)
    (short : events.length ≤ maxQueryEventSize) (rest : List UInt8) :
    readEvents primitives (writeEvents primitives events ++ rest) = (events, some rest) :=
  readLimited_write primitives
    (fun event mem => SecurityEvent.unmarshalling_marshalling primitives (typed event mem)) short
    rest

theorem readQueryRequest_write {rulers : List SecurityEventRuler}
    (typed : ∀ ruler ∈ rulers, ruler.Typed) (short : rulers.length ≤ maxQueryEventSize) :
    readQueryRequest primitives (writeQueryRequest primitives rulers) = some (rulers, []) := by
  have number := toNat_ofNat_of_le short (by decide)
  have items := appendMany_write (fun ruler mem =>
    SecurityEventRuler.unmarshalling_marshalling primitives (typed ruler mem)) [] []
  rw [List.append_nil] at items
  rw [readQueryRequest, writeQueryRequest, writeAll, Reader.bind_apply, Codec.read_write,
    Option.bind_some]
  dsimp only
  rw [number, if_neg (not_lt.mpr short), items, List.nil_append]

variable (primitives) in
/-- The stub takes a request as long enough. -/
def Reaches (rulers : List SecurityEventRuler) : Prop :=
  4 < readable (writeQueryRequest primitives rulers)

theorem asked_write {rulers : List SecurityEventRuler} (typed : ∀ ruler ∈ rulers, ruler.Typed)
    (short : rulers.length ≤ maxQueryEventSize) (reaches : Reaches primitives rulers) :
    asked primitives (writeQueryRequest primitives rulers) = some rulers := by
  rw [asked, if_neg (UInt32.not_le.mpr reaches), readQueryRequest_write typed short,
    Option.map_some]

theorem asked_of_not_reaches {rulers : List SecurityEventRuler}
    (silent : ¬Reaches primitives rulers) :
    asked primitives (writeQueryRequest primitives rulers) = none := by
  rw [asked, if_pos (UInt32.not_lt.mp silent)]

/-- A request below 2 ^ 32 bytes is long enough when it asks something. -/
theorem reaches_iff {rulers : List SecurityEventRuler}
    (short : (writeQueryRequest primitives rulers).length < 2 ^ 32) :
    Reaches primitives rulers ↔ rulers ≠ [] := by
  rw [Reaches, UInt32.lt_iff_toNat_lt, readable_of_lt short]
  cases rulers with
  | nil => simp [writeQueryRequest, writeAll, primitives.length_uint32]
  | cons ruler rulers =>
      have eventId := primitives.int64.length_write_pos (Int64.ofInt ruler.eventId)
      refine iff_of_true ?_ (List.cons_ne_nil ruler rulers)
      simp only [writeQueryRequest, writeAll, SecurityEventRuler.marshalling, List.flatMap_cons,
        List.length_append, primitives.length_uint32]
      change 4 < _
      omega

variable (primitives) in
theorem readQueryBatchReply_length (reply : List UInt8) :
    (readQueryBatchReply primitives reply).events.length ≤ maxQueryEventSize ∧
      (readQueryBatchReply primitives reply).failedEventIds.length ≤ maxQueryEventSize := by
  rw [readQueryBatchReply]
  cases primitives.int32.read reply with
  | none => exact ⟨Nat.zero_le _, Nat.zero_le _⟩
  | some result =>
      have few := readLimited_length primitives
        (SecurityEvent.unmarshalling primitives) result.2
      dsimp only
      cases (readEvents primitives result.2).2 with
      | none => exact ⟨few, Nat.zero_le _⟩
      | some rest =>
          have fewIds := readLimited_length primitives (readId primitives) rest
          dsimp only
          cases (readFailedEventIds primitives rest).2 with
          | none => exact ⟨few, fewIds⟩
          | some _ => exact ⟨few, fewIds⟩

/-- An answer within the limits is read back. -/
theorem readQueryBatchReply_write {answer : QueryReply} (typed : answer.Typed)
    (few : answer.events.length ≤ maxQueryEventSize)
    (fewIds : answer.failedEventIds.length ≤ maxQueryEventSize) :
    readQueryBatchReply primitives (writeQueryBatchReply primitives answer) = answer := by
  have events := readEvents_write primitives typed.events few
    (writeFailedEventIds primitives answer.failedEventIds)
  have ids := readLimited_write primitives
    (fun id mem => readId_writeId primitives (typed.failedEventIds id mem)) fewIds []
  rw [List.append_nil] at ids
  rw [readQueryBatchReply, writeQueryBatchReply, List.append_assoc, Codec.read_write]
  dsimp only
  rw [events]
  dsimp only
  rw [readFailedEventIds, writeFailedEventIds, ids]
  dsimp only
  rw [Int32.toInt_ofInt_of_le typed.code.1 typed.code.2]

/-- Too many failed ids are found when the events are already in the list of the caller. -/
theorem readQueryBatchReply_longIds {answer : QueryReply} (typed : answer.Typed)
    (few : answer.events.length ≤ maxQueryEventSize)
    (many : maxQueryEventSize < answer.failedEventIds.length)
    (fits : answer.failedEventIds.length < 2 ^ 32) :
    readQueryBatchReply primitives (writeQueryBatchReply primitives answer) =
      { code := .badParam, events := answer.events } := by
  have events := readEvents_write primitives typed.events few
    (writeFailedEventIds primitives answer.failedEventIds)
  have ids := readLimited_long primitives (writeId primitives) (readId primitives) many fits []
  rw [List.append_nil] at ids
  rw [readQueryBatchReply, writeQueryBatchReply, List.append_assoc, Codec.read_write]
  dsimp only
  rw [events]
  dsimp only
  rw [readFailedEventIds, writeFailedEventIds, ids]

/-! ## Round trips -/

/-- What the caller gets is what the service answered; an error of the proxy itself leaves the
lists of the caller alone. -/
structure Faithful (answer reply : QueryReply) : Prop where
  returns : reply = answer
  silent : reply.code ≠ answer.code → reply.events = [] ∧ reply.failedEventIds = []

theorem faithful_iff_eq {answer reply : QueryReply} : Faithful answer reply ↔ reply = answer := by
  constructor
  · exact Faithful.returns
  · rintro rfl
    exact ⟨rfl, fun other => absurd rfl other⟩

/-- What a single query is to return: the events of a success, or the code of a failure. -/
def eventsOnSuccess (answer : Code × List SecurityEvent) : QueryReply :=
  if answer.1 = .success then { code := .success, events := answer.2 } else { code := answer.1 }

variable {rulers : List SecurityEventRuler}

theorem querySecurityEventBatch_faithful {service : List SecurityEventRuler → QueryReply}
    (short : rulers.length ≤ maxQueryEventSize) (asks : ∀ ruler ∈ rulers, ruler.Typed)
    (answers : (service rulers).Typed) :
    Faithful (service rulers) (querySecurityEventBatch primitives service rulers) ↔
      Reaches primitives rulers ∧ (service rulers).events.length ≤ maxQueryEventSize ∧
          (service rulers).failedEventIds.length ≤ maxQueryEventSize ∨
        ¬Reaches primitives rulers ∧ service rulers = { code := .badParam } := by
  rw [faithful_iff_eq, querySecurityEventBatch, if_neg (not_lt.mpr short),
    handleSecurityEventQueryBatchCmd]
  by_cases reaches : Reaches primitives rulers
  · rw [asked_write asks short reaches]
    simp only [ne_eq, not_true_eq_false, if_false, reaches, true_and, false_and, or_false]
    constructor
    · intro returns
      have few := readQueryBatchReply_length primitives
        (writeQueryBatchReply primitives (service rulers))
      rwa [returns] at few
    · rintro ⟨few, fewIds⟩
      exact readQueryBatchReply_write answers few fewIds
  · rw [asked_of_not_reaches reaches]
    have refused : Code.badParam ≠ Code.success := by decide
    simp only [ne_eq, refused, not_false_eq_true, if_true, reaches, false_and, true_and, false_or]
    exact eq_comm

theorem querySecurityEventBatch_longIds (service : List SecurityEventRuler → QueryReply)
    (short : rulers.length ≤ maxQueryEventSize) (asks : ∀ ruler ∈ rulers, ruler.Typed)
    (answers : (service rulers).Typed) (reaches : Reaches primitives rulers)
    (few : (service rulers).events.length ≤ maxQueryEventSize)
    (many : maxQueryEventSize < (service rulers).failedEventIds.length)
    (fits : (service rulers).failedEventIds.length < 2 ^ 32) :
    querySecurityEventBatch primitives service rulers =
      { code := .badParam, events := (service rulers).events } := by
  rw [querySecurityEventBatch, if_neg (not_lt.mpr short), handleSecurityEventQueryBatchCmd,
    asked_write asks short reaches]
  simp only [ne_eq, not_true_eq_false, if_false]
  exact readQueryBatchReply_longIds answers few many fits

theorem querySecurityEvent_faithful
    {service : List SecurityEventRuler → Code × List SecurityEvent}
    (short : rulers.length ≤ maxQueryEventSize) (asks : ∀ ruler ∈ rulers, ruler.Typed)
    (answers : ∀ event ∈ (service rulers).2, event.Typed) :
    Faithful (eventsOnSuccess (service rulers)) (querySecurityEvent primitives service rulers) ↔
      Reaches primitives rulers ∧ ((service rulers).1 = .success →
          (service rulers).2.length ≤ maxQueryEventSize) ∨
        ¬Reaches primitives rulers ∧ (service rulers).1 = .badParam := by
  have refused : Code.badParam ≠ Code.success := by decide
  rw [faithful_iff_eq, querySecurityEvent, handleSecurityEventQueryCmd, eventsOnSuccess]
  by_cases reaches : Reaches primitives rulers
  · rw [asked_write asks short reaches]
    simp only [reaches, true_and, false_and, or_false, not_true_eq_false]
    by_cases succeeds : (service rulers).1 = .success
    · simp only [succeeds, ne_eq, not_true_eq_false, if_false, if_true, true_imp_iff]
      constructor
      · intro returns
        have few := readLimited_length primitives (SecurityEvent.unmarshalling primitives)
          (writeEvents primitives (service rulers).2)
        have same := congrArg QueryReply.events returns
        dsimp only at same
        rwa [← readEvents, same] at few
      · intro few
        have events := readEvents_write primitives answers few []
        rw [List.append_nil] at events
        rw [events]
        rfl
    · simp [succeeds]
  · rw [asked_of_not_reaches reaches]
    simp only [ne_eq, refused, not_false_eq_true, if_true, reaches, false_and, true_and, false_or]
    split_ifs with succeeds
    · simp [succeeds, Ne.symm refused, refused]
    · simp [eq_comm]

/-- Both queries return what the service answers exactly when the request reaches it and the
lists of the answer are within the limits of the reader; a request that does not reach it looks
like an answer of BAD_PARAM. -/
theorem query_round_trip_iff (batch : List SecurityEventRuler → QueryReply)
    (single : List SecurityEventRuler → Code × List SecurityEvent)
    (short : rulers.length ≤ maxQueryEventSize) (asks : ∀ ruler ∈ rulers, ruler.Typed)
    (answers : (batch rulers).Typed) (events : ∀ event ∈ (single rulers).2, event.Typed) :
    (Faithful (batch rulers) (querySecurityEventBatch primitives batch rulers) ↔
      Reaches primitives rulers ∧ (batch rulers).events.length ≤ maxQueryEventSize ∧
          (batch rulers).failedEventIds.length ≤ maxQueryEventSize ∨
        ¬Reaches primitives rulers ∧ batch rulers = { code := .badParam }) ∧
    (Faithful (eventsOnSuccess (single rulers)) (querySecurityEvent primitives single rulers) ↔
      Reaches primitives rulers ∧ ((single rulers).1 = .success →
          (single rulers).2.length ≤ maxQueryEventSize) ∨
        ¬Reaches primitives rulers ∧ (single rulers).1 = .badParam) :=
  ⟨querySecurityEventBatch_faithful short asks answers,
    querySecurityEvent_faithful short asks events⟩

/-- An answer with one event and so many failed ids. -/
def failingIds (count : Nat) : QueryReply where
  code := .success
  events := [{ eventId := 7 }]
  failedEventIds := List.replicate count 8

theorem typed_failingIds (count : Nat) : (failingIds count).Typed where
  code := ⟨by simp [failingIds, Code.success], by simp [failingIds, Code.success]⟩
  events := List.forall_mem_singleton.mpr ⟨by decide, by decide⟩
  failedEventIds id mem := by
    obtain rfl := List.eq_of_mem_replicate mem
    decide

/-- A request with one query. -/
def oneQuery : List SecurityEventRuler := [{ eventId := 7 }]

theorem typed_oneQuery : ∀ ruler ∈ oneQuery, ruler.Typed :=
  List.forall_mem_singleton.mpr ⟨by decide, by decide⟩

theorem reaches_oneQuery : Reaches .standard oneQuery := by
  rw [Reaches]
  decide +kernel

theorem query_round_trip_iff_oneQuery :
    (Faithful (failingIds 1) (querySecurityEventBatch .standard (fun _ => failingIds 1) oneQuery) ↔
      Reaches .standard oneQuery ∧ (failingIds 1).events.length ≤ maxQueryEventSize ∧
          (failingIds 1).failedEventIds.length ≤ maxQueryEventSize ∨
        ¬Reaches .standard oneQuery ∧ failingIds 1 = { code := .badParam }) ∧
    (Faithful (eventsOnSuccess (.success, []))
        (querySecurityEvent .standard (fun _ => (.success, [])) oneQuery) ↔
      Reaches .standard oneQuery ∧ (Code.success = .success →
          ([] : List SecurityEvent).length ≤ maxQueryEventSize) ∨
        ¬Reaches .standard oneQuery ∧ Code.success = .badParam) :=
  query_round_trip_iff (fun _ => failingIds 1) (fun _ => (.success, [])) (by decide)
    typed_oneQuery (typed_failingIds 1) (List.forall_mem_nil SecurityEvent.Typed)

/-- With one failed id too many, the proxy fails and leaves an event in the list of its caller. -/
theorem events_of_a_failed_query :
    querySecurityEventBatch .standard (fun _ => failingIds 1001) oneQuery =
        { code := .badParam, events := [{ eventId := 7 }] } ∧
      ¬Faithful (failingIds 1001)
        (querySecurityEventBatch .standard (fun _ => failingIds 1001) oneQuery) := by
  have length : (failingIds 1001).failedEventIds.length = 1001 := List.length_replicate
  have few : (failingIds 1001).events.length ≤ maxQueryEventSize := by
    rw [maxQueryEventSize]
    exact Nat.le_add_left 1 999
  have many : maxQueryEventSize < (failingIds 1001).failedEventIds.length := by
    rw [length, maxQueryEventSize]
    omega
  have fits : (failingIds 1001).failedEventIds.length < 2 ^ 32 := by
    rw [length]
    omega
  have returned := querySecurityEventBatch_longIds (fun _ => failingIds 1001) (by decide)
    typed_oneQuery (typed_failingIds 1001) reaches_oneQuery few many fits
  refine ⟨returned, fun faithful => ?_⟩
  have same := congrArg QueryReply.code (returned.symm.trans faithful.returns)
  exact absurd same (by decide)

end SecurityCollectorManager

end SecurityGuard
