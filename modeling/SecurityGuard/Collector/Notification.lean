import SecurityGuard.Event
import SecurityGuard.Foundation.Parcel

/-!
# How events reach their listeners

A collector reports an event to the process that asked for it, and the service delivers a batch of
events to a subscriber, each through a proxy that writes a parcel and a stub that reads it in the
other process.  The call is one way, so a stub that refuses a parcel tells nobody.  The token of the
interface, which comes first in a parcel, is the same on both sides and is left out.
-/

namespace SecurityGuard

open Parcel

def maxEventSize : Nat := 1000
def maxApiInstanceSize : Nat := 1000

namespace CollectorEvent

/-- The numbers of an event fit into their types. -/
structure Typed (event : CollectorEvent) : Prop where
  eventId : -2 ^ 63 ≤ event.eventId ∧ event.eventId < 2 ^ 63
  userId : -2 ^ 31 ≤ event.userId ∧ event.userId < 2 ^ 31

end CollectorEvent

variable (primitives : Primitives)

/-- The entries of `eventSubscribes` behind their number. -/
def writeSubscribes (eventSubscribes : SortedSet String) : List UInt8 :=
  primitives.uint32.write (UInt32.ofNat eventSubscribes.size) ++
    eventSubscribes.keys.flatMap primitives.string.write

/-- Read the subscribers of an event. -/
def readSubscribe : Nat → SortedSet String → Reader (SortedSet String)
  | 0, eventSubscribes => pure eventSubscribes
  | size + 1, eventSubscribes => do
      let name ← primitives.string.readOr ""
      readSubscribe size (eventSubscribes.insert name ())

/-- A stub refuses a number of entries beyond its limit. -/
def readSubscribes : Reader (SortedSet String) := do
  let size ← primitives.uint32.readOr 0
  if maxApiInstanceSize < size.toNat then .fail else readSubscribe primitives size.toNat .empty

namespace SecurityCollectorManagerCallback

/-- `SecurityCollectorManagerCallbackProxy::OnNotify`. -/
def write (event : CollectorEvent) : List UInt8 :=
  primitives.int64.write (Int64.ofInt event.eventId) ++ primitives.string.write event.version ++
    primitives.string.write event.content ++ primitives.string.write event.extra ++
    writeSubscribes primitives event.eventSubscribes

def read : Reader CollectorEvent := do
  let eventId ← primitives.int64.readOr 0
  let version ← primitives.string.readOr ""
  let content ← primitives.string.readOr ""
  let extra ← primitives.string.readOr ""
  let eventSubscribes ← readSubscribes primitives
  return { eventId := eventId.toInt, version, content, extra, eventSubscribes }

/-- The event with which the stub calls `OnNotify`; none when it returns BAD_PARAM. -/
def onRemoteRequest (data : List UInt8) : Option CollectorEvent :=
  if readable data ≤ 8 then none else (read primitives data).map Prod.fst

/-- What the listener is to be told of an event. -/
structure Same (event received : CollectorEvent) : Prop where
  eventId : received.eventId = event.eventId
  version : received.version = event.version
  content : received.content = event.content
  extra : received.extra = event.extra
  timestamp : received.timestamp = event.timestamp
  eventSubscribes : received.eventSubscribes = event.eventSubscribes

/-- The listener is called with the event. -/
def Delivered (event : CollectorEvent) : Prop :=
  ∃ received, onRemoteRequest primitives (write primitives event) = some received ∧
    Same event received

end SecurityCollectorManagerCallback

namespace AcquireDataCallback

/-- Write an event. -/
def writeEvent (event : CollectorEvent) : List UInt8 :=
  primitives.int64.write (Int64.ofInt event.eventId) ++ primitives.string.write event.version ++
    primitives.string.write event.content ++ primitives.string.write event.extra ++
    primitives.string.write event.timestamp ++ primitives.int32.write (Int32.ofInt event.userId) ++
    primitives.string.write event.deviceId ++ writeSubscribes primitives event.eventSubscribes

/-- `AcquireDataCallbackProxy::OnNotify`. -/
def write (events : List CollectorEvent) : List UInt8 :=
  primitives.uint32.write (UInt32.ofNat events.length) ++
    events.flatMap (writeEvent primitives)

/-- Read an event; a field that is missing is empty. -/
def readEvent : Reader CollectorEvent := do
  let eventId ← primitives.int64.readOr 0
  let version ← primitives.string.readOr ""
  let content ← primitives.string.readOr ""
  let extra ← primitives.string.readOr ""
  let timestamp ← primitives.string.readOr ""
  let userId ← primitives.int32.readOr 0
  let deviceId ← primitives.string.readOr ""
  let eventSubscribes ← readSubscribes primitives
  return { eventId := eventId.toInt, version, content, extra, timestamp, userId := userId.toInt,
           deviceId, eventSubscribes }

def read : Reader (List CollectorEvent) := do
  let eventSize ← primitives.uint32.read
  if maxEventSize < eventSize.toNat then .fail
  else appendMany (readEvent primitives) eventSize.toNat []

/-- The events with which the stub calls `OnNotify`; none when it returns BAD_PARAM. -/
def handleBatchSubscribeCallback (data : List UInt8) : Option (List CollectorEvent) :=
  if readable data ≤ 4 then none else (read primitives data).map Prod.fst

/-- What the subscriber is to be told of an event. -/
structure Same (event received : CollectorEvent) : Prop
    extends SecurityCollectorManagerCallback.Same event received where
  userId : received.userId = event.userId
  deviceId : received.deviceId = event.deviceId

/-- The subscriber is called with the events. -/
def Delivered (events : List CollectorEvent) : Prop :=
  ∃ received, handleBatchSubscribeCallback primitives (write primitives events) = some received ∧
    List.Forall₂ Same events received

end AcquireDataCallback

section

variable {primitives}

variable (primitives) in
theorem readSubscribe_write (names : List String) (start : SortedSet String)
    (rest : List UInt8) :
    readSubscribe primitives names.length start
        (names.flatMap primitives.string.write ++ rest) =
      some (names.foldl (fun set name => set.insert name ()) start, rest) := by
  induction names generalizing start with
  | nil => simp [readSubscribe]
  | cons name names ih => simp [readSubscribe, ih]

theorem readSubscribe_size {size : Nat} {start names : SortedSet String} {data rest : List UInt8}
    (taken : readSubscribe primitives size start data = some (names, rest)) :
    names.size ≤ start.size + size := by
  induction size generalizing start data with
  | zero =>
      obtain ⟨rfl, -⟩ := Prod.mk.inj (Option.some.inj taken)
      exact Nat.le_refl _
  | succ size ih =>
      rw [readSubscribe] at taken
      obtain ⟨name, middle, -, tail⟩ := Reader.bind_eq_some.mp taken
      have := ih tail
      have := start.size_insert_le name ()
      omega

variable (primitives) in
theorem readSubscribes_write {eventSubscribes : SortedSet String}
    (few : eventSubscribes.size ≤ maxApiInstanceSize) (rest : List UInt8) :
    readSubscribes primitives (writeSubscribes primitives eventSubscribes ++ rest) =
      some (eventSubscribes, rest) := by
  have number := toNat_ofNat_of_le few (by decide)
  have names := readSubscribe_write primitives eventSubscribes.keys .empty rest
  rw [SortedMap.keys_length, SortedMap.foldl_insert_keys] at names
  rw [readSubscribes, writeSubscribes, List.append_assoc, Reader.bind_apply, Codec.readOr_write,
    Option.bind_some]
  dsimp only
  rw [number, if_neg (by omega), names]

theorem readSubscribes_size {names : SortedSet String} {data rest : List UInt8}
    (taken : readSubscribes primitives data = some (names, rest)) :
    names.size ≤ maxApiInstanceSize := by
  rw [readSubscribes] at taken
  obtain ⟨size, middle, -, tail⟩ := Reader.bind_eq_some.mp taken
  split_ifs at tail with beyond
  · exact absurd tail (by simp)
  · have := readSubscribe_size tail
    rw [SortedMap.size_empty] at this
    omega

end

namespace CollectorEvent.Typed

variable {event : CollectorEvent}

theorem toInt_eventId (typed : event.Typed) : (Int64.ofInt event.eventId).toInt = event.eventId :=
  Int64.toInt_ofInt_of_le typed.eventId.1 typed.eventId.2

theorem toInt_userId (typed : event.Typed) : (Int32.ofInt event.userId).toInt = event.userId :=
  Int32.toInt_ofInt_of_le typed.userId.1 typed.userId.2

end CollectorEvent.Typed

namespace SecurityCollectorManagerCallback

variable {primitives} {event : CollectorEvent}

/-- Everything but the time comes back. -/
theorem read_write (typed : event.Typed) (few : event.eventSubscribes.size ≤ maxApiInstanceSize) :
    read primitives (write primitives event) =
      some ({ eventId := event.eventId
              version := event.version
              content := event.content
              extra := event.extra
              eventSubscribes := event.eventSubscribes }, []) := by
  have subscribes := readSubscribes_write primitives few []
  rw [List.append_nil] at subscribes
  simp [read, write, subscribes, typed.toInt_eventId]

/-- The stub calls its listener without a time, and with a set within the limit. -/
theorem read_spec {received : CollectorEvent} {data rest : List UInt8}
    (taken : read primitives data = some (received, rest)) :
    received.timestamp = "" ∧ received.eventSubscribes.size ≤ maxApiInstanceSize := by
  rw [read] at taken
  obtain ⟨eventId, afterEventId, -, taken⟩ := Reader.bind_eq_some.mp taken
  obtain ⟨version, afterVersion, -, taken⟩ := Reader.bind_eq_some.mp taken
  obtain ⟨content, afterContent, -, taken⟩ := Reader.bind_eq_some.mp taken
  obtain ⟨extra, afterExtra, -, taken⟩ := Reader.bind_eq_some.mp taken
  obtain ⟨names, afterNames, subscribes, taken⟩ := Reader.bind_eq_some.mp taken
  obtain ⟨rfl, -⟩ := Prod.mk.inj (Option.some.inj taken)
  exact ⟨rfl, readSubscribes_size subscribes⟩

theorem delivered_iff (typed : event.Typed) :
    Delivered primitives event ↔
      event.timestamp = "" ∧ event.eventSubscribes.size ≤ maxApiInstanceSize ∧
        8 < readable (write primitives event) := by
  constructor
  · rintro ⟨received, called, same⟩
    rw [onRemoteRequest] at called
    split_ifs at called with short
    obtain ⟨⟨decoded, rest⟩, taken, rfl⟩ := Option.map_eq_some_iff.mp called
    obtain ⟨timeless, few⟩ := read_spec taken
    refine ⟨same.timestamp ▸ timeless, same.eventSubscribes ▸ few, ?_⟩
    exact UInt32.not_le.mp short
  · rintro ⟨timeless, few, long⟩
    rw [Delivered, onRemoteRequest, if_neg (UInt32.not_le.mpr long), read_write typed few]
    exact ⟨_, rfl, ⟨rfl, rfl, rfl, rfl, timeless.symm, rfl⟩⟩

/-- A parcel below 2 ^ 32 bytes is always longer than the stub expects at least. -/
theorem readable_write (short : (write primitives event).length < 2 ^ 32) :
    8 < readable (write primitives event) := by
  have version := primitives.string.length_write_pos event.version
  rw [UInt32.lt_iff_toNat_lt, readable_of_lt short]
  simp only [write, List.length_append, primitives.length_int64]
  change 8 < _
  omega

end SecurityCollectorManagerCallback

namespace AcquireDataCallback

variable {primitives} {event : CollectorEvent} {events : List CollectorEvent}

/-- The event as its subscriber receives it. -/
def received (event : CollectorEvent) : CollectorEvent := { event with tlvData := [] }

variable (primitives) in
theorem readEvent_writeEvent (typed : event.Typed)
    (few : event.eventSubscribes.size ≤ maxApiInstanceSize) (rest : List UInt8) :
    readEvent primitives (writeEvent primitives event ++ rest) = some (received event, rest) := by
  simp [readEvent, writeEvent, readSubscribes_write primitives few, typed.toInt_eventId,
    typed.toInt_userId, received]

theorem readEvent_size {received : CollectorEvent} {data rest : List UInt8}
    (taken : readEvent primitives data = some (received, rest)) :
    received.eventSubscribes.size ≤ maxApiInstanceSize := by
  rw [readEvent] at taken
  obtain ⟨eventId, afterEventId, -, taken⟩ := Reader.bind_eq_some.mp taken
  obtain ⟨version, afterVersion, -, taken⟩ := Reader.bind_eq_some.mp taken
  obtain ⟨content, afterContent, -, taken⟩ := Reader.bind_eq_some.mp taken
  obtain ⟨extra, afterExtra, -, taken⟩ := Reader.bind_eq_some.mp taken
  obtain ⟨timestamp, afterTimestamp, -, taken⟩ := Reader.bind_eq_some.mp taken
  obtain ⟨userId, afterUserId, -, taken⟩ := Reader.bind_eq_some.mp taken
  obtain ⟨deviceId, afterDeviceId, -, taken⟩ := Reader.bind_eq_some.mp taken
  obtain ⟨names, afterNames, subscribes, taken⟩ := Reader.bind_eq_some.mp taken
  obtain ⟨rfl, -⟩ := Prod.mk.inj (Option.some.inj taken)
  exact readSubscribes_size subscribes

/-- A batch within the limits is read back. -/
theorem read_write (typed : ∀ event ∈ events, event.Typed)
    (few : ∀ event ∈ events, event.eventSubscribes.size ≤ maxApiInstanceSize)
    (short : events.length ≤ maxEventSize) :
    read primitives (write primitives events) = some (events.map received, []) := by
  have number := toNat_ofNat_of_le short (by decide)
  have batch := appendMany_flatMap (fun event mem =>
    readEvent_writeEvent primitives (typed event mem) (few event mem)) [] []
  rw [List.append_nil] at batch
  rw [read, write, Reader.bind_apply, Codec.read_write, Option.bind_some]
  dsimp only
  rw [number, if_neg (by omega), batch, List.nil_append]

/-- The stub calls its subscriber with a batch within the limits. -/
theorem read_spec {data rest : List UInt8} (taken : read primitives data = some (events, rest)) :
    events.length ≤ maxEventSize ∧
      ∀ event ∈ events, event.eventSubscribes.size ≤ maxApiInstanceSize := by
  rw [read] at taken
  obtain ⟨eventSize, middle, -, tail⟩ := Reader.bind_eq_some.mp taken
  split_ifs at tail with beyond
  · exact absurd tail (by simp)
  · have number := appendMany_length tail
    rw [List.length_nil] at number
    refine ⟨by omega, ?_⟩
    exact appendMany_forall (fun data event rest => readEvent_size) (by simp) tail

theorem few_of_same {received : List CollectorEvent} (same : List.Forall₂ Same events received)
    (few : ∀ event ∈ received, event.eventSubscribes.size ≤ maxApiInstanceSize) :
    ∀ event ∈ events, event.eventSubscribes.size ≤ maxApiInstanceSize := by
  induction same with
  | nil => simp
  | cons head tail ih =>
      obtain ⟨first, later⟩ := List.forall_mem_cons.mp few
      exact List.forall_mem_cons.mpr ⟨head.eventSubscribes ▸ first, ih later⟩

theorem same_received (event : CollectorEvent) : Same event (received event) :=
  ⟨⟨rfl, rfl, rfl, rfl, rfl, rfl⟩, rfl, rfl⟩

theorem delivered_iff (typed : ∀ event ∈ events, event.Typed) :
    Delivered primitives events ↔
      events.length ≤ maxEventSize ∧
        (∀ event ∈ events, event.eventSubscribes.size ≤ maxApiInstanceSize) ∧
          4 < readable (write primitives events) := by
  constructor
  · rintro ⟨received, called, same⟩
    rw [handleBatchSubscribeCallback] at called
    split_ifs at called with short
    obtain ⟨⟨decoded, rest⟩, taken, rfl⟩ := Option.map_eq_some_iff.mp called
    obtain ⟨length, few⟩ := read_spec taken
    exact ⟨same.length_eq ▸ length, few_of_same same few, UInt32.not_le.mp short⟩
  · rintro ⟨short, few, long⟩
    rw [Delivered, handleBatchSubscribeCallback, if_neg (UInt32.not_le.mpr long),
      read_write typed few short]
    refine ⟨_, rfl, ?_⟩
    rw [List.forall₂_map_right_iff]
    exact List.forall₂_same.mpr fun event _ => same_received event

/-- A batch below 2 ^ 32 bytes is longer than the stub expects at least when it has an event. -/
theorem readable_write (short : (write primitives events).length < 2 ^ 32) :
    4 < readable (write primitives events) ↔ events ≠ [] := by
  rw [UInt32.lt_iff_toNat_lt, readable_of_lt short]
  cases events with
  | nil => simp [write, primitives.length_uint32]
  | cons event events =>
      have eventId := primitives.int64.length_write_pos (Int64.ofInt event.eventId)
      refine iff_of_true ?_ (List.cons_ne_nil event events)
      simp only [write, writeEvent, List.flatMap_cons, List.length_append, primitives.length_uint32]
      change 4 < _
      omega

end AcquireDataCallback

/-- An event of a collector arrives exactly without a time and with entries within the limit; a
batch arrives exactly within both limits.  Either has to be longer than what its stub expects at
least, which an empty batch is not. -/
theorem notifications_delivered_iff :
    (∀ event : CollectorEvent, event.Typed →
      (SecurityCollectorManagerCallback.Delivered primitives event ↔
        event.timestamp = "" ∧ event.eventSubscribes.size ≤ maxApiInstanceSize ∧
          8 < readable (SecurityCollectorManagerCallback.write primitives event))) ∧
    (∀ events : List CollectorEvent, (∀ event ∈ events, event.Typed) →
      (AcquireDataCallback.Delivered primitives events ↔
        events.length ≤ maxEventSize ∧
          (∀ event ∈ events, event.eventSubscribes.size ≤ maxApiInstanceSize) ∧
            4 < readable (AcquireDataCallback.write primitives events))) :=
  ⟨fun _ => SecurityCollectorManagerCallback.delivered_iff,
    fun _ => AcquireDataCallback.delivered_iff⟩

/-- An event with the time of its report. -/
def timedEvent : CollectorEvent := { eventId := 1, timestamp := "20250101" }

theorem typed_timedEvent : timedEvent.Typed := ⟨by decide, by decide⟩

theorem notifications_delivered_iff_timedEvent :
    (SecurityCollectorManagerCallback.Delivered .standard timedEvent ↔
      timedEvent.timestamp = "" ∧ timedEvent.eventSubscribes.size ≤ maxApiInstanceSize ∧
        8 < readable (SecurityCollectorManagerCallback.write .standard timedEvent)) ∧
    (AcquireDataCallback.Delivered .standard [timedEvent] ↔
      [timedEvent].length ≤ maxEventSize ∧
        (∀ event ∈ [timedEvent], event.eventSubscribes.size ≤ maxApiInstanceSize) ∧
          4 < readable (AcquireDataCallback.write .standard [timedEvent])) :=
  ⟨(notifications_delivered_iff .standard).1 timedEvent typed_timedEvent,
    (notifications_delivered_iff .standard).2 [timedEvent]
      (List.forall_mem_singleton.mpr typed_timedEvent)⟩

/-- The time of an event does not arrive, and a batch without events arrives nowhere. -/
theorem notifications_get_lost :
    ¬SecurityCollectorManagerCallback.Delivered .standard timedEvent ∧
      ¬AcquireDataCallback.Delivered .standard [] := by
  constructor
  · intro delivered
    have timeless := ((SecurityCollectorManagerCallback.delivered_iff typed_timedEvent).mp
      delivered).1
    exact absurd timeless (by decide)
  · rintro ⟨received, called, -⟩
    have refused : AcquireDataCallback.handleBatchSubscribeCallback .standard
        (AcquireDataCallback.write .standard []) = none := by decide +kernel
    exact absurd (refused.symm.trans called) (by simp)

end SecurityGuard
