import Mathlib
import SecurityGuard.Config.Json
import SecurityGuard.ConfigData
import SecurityGuard.Foundation.JsonTable

/-!
# The stream of risk data

`PushDataCollectTask` sends the stored events that a request selects in arrays of at most a
hundred, and says with the last one that it has finished.  The arrays are JSON documents; writing
one throws if a text of an event is not UTF-8, and then the stream ends without its last array.
-/

namespace SecurityGuard

/-- The table of the audit events. -/
def auditTable : String := "audit_event"

def maxDistributeLens : Nat := 100

def finishStatus : Nat := 0

def continueStatus : Nat := 1

/-- The fields of a stored event that are sent, the texts as the bytes that the store has. -/
structure StoredEvent where
  eventId : Int
  version : ByteArray
  date : ByteArray
  content : ByteArray
  userId : Int
  deviceId : ByteArray
  deriving DecidableEq

namespace StoredEvent

/-- `to_json`. -/
def object (event : StoredEvent) : SortedMap String (JsonTable.Scalar ByteArray) :=
  let members : List (String × JsonTable.Scalar ByteArray) :=
    [("eventId", .number event.eventId), ("version", .text event.version),
      ("date", .text event.date), ("content", .text event.content),
      ("userId", .number event.userId), ("deviceId", .text event.deviceId)]
  members.foldl (fun object member => object.insert member.1 member.2) .empty

/-- A JSON object keeps its members in the order of their names. -/
def toJson (event : StoredEvent) : JsonTable.Row ByteArray := event.object.entries

/-- The number under a key. -/
def numberOf (row : JsonTable.Row ByteArray) (key : String) : Option Int :=
  match row.lookup key with
  | some (.number value) => some value
  | _ => none

/-- The bytes of the text under a key. -/
def textOf (row : JsonTable.Row ByteArray) (key : String) : Option ByteArray :=
  match row.lookup key with
  | some (.text value) => some value
  | _ => none

/-- The event of a JSON object. -/
def ofJson (row : JsonTable.Row ByteArray) : Option StoredEvent := do
  let eventId ← numberOf row "eventId"
  let version ← textOf row "version"
  let date ← textOf row "date"
  let content ← textOf row "content"
  let userId ← numberOf row "userId"
  let deviceId ← textOf row "deviceId"
  some { eventId, version, date, content, userId, deviceId }

/-- All texts of the event are UTF-8. -/
structure IsUTF8 (event : StoredEvent) : Prop where
  version : event.version.IsValidUTF8
  date : event.date.IsValidUTF8
  content : event.content.IsValidUTF8
  deviceId : event.deviceId.IsValidUTF8

variable {event : StoredEvent}

theorem lookup_toJson (key : String) : event.toJson.lookup key = event.object.get? key := rfl

theorem ofJson_toJson (event : StoredEvent) : ofJson event.toJson = some event := by
  simp [ofJson, numberOf, textOf, lookup_toJson, object]

theorem isUTF8_iff : (∀ member ∈ event.toJson, member.2.IsUTF8) ↔ event.IsUTF8 := by
  constructor
  · intro valid
    have member (key : String) {value : ByteArray}
        (found : event.object.get? key = some (.text value)) : value.IsValidUTF8 :=
      valid _ (SortedMap.mem_entries_iff.mpr found)
    exact ⟨member "version" (by simp [object]), member "date" (by simp [object]),
      member "content" (by simp [object]), member "deviceId" (by simp [object])⟩
  · intro valid member mem
    have found := SortedMap.mem_entries_iff.mp mem
    simp only [object, List.foldl_cons, List.foldl_nil, SortedMap.get?_insert,
      SortedMap.get?_empty] at found
    split_ifs at found <;> rw [← Option.some.inj found]
    · exact valid.deviceId
    · exact trivial
    · exact valid.content
    · exact valid.date
    · exact valid.version
    · exact trivial

end StoredEvent

/-- The events and the times that a request for risk data names. -/
structure RequestCondition where
  riskEvent : List Int := []
  auditEvent : List Int := []
  beginTime : String := ""
  endTime : String := ""
  deriving DecidableEq

/-- The event ids of a request, each once; an element that is no number is left out. -/
def requestedIds : Option Json → SortedSet Int
  | some (.array elements) =>
      elements.foldl (fun set element =>
        match element with
        | .number value => set.insert (value.bmod (2 ^ 64)) ()
        | _ => set) .empty
  | _ => .empty

/-- `DataFormat::ParseConditions`, for a document that the JSON parser accepts or discards. -/
def ConfigData.parseConditions (config : ConfigData) : Option Json → RequestCondition
  | none => {}
  | some document =>
      let ids := (requestedIds (document.find "eventId")).keys
      { riskEvent := ids.filter fun eventId => config.getTableFromEventId eventId = riskTable
        auditEvent := ids.filter fun eventId => config.getTableFromEventId eventId = auditTable
        beginTime := (document.unmarshalText "beginTime").getD ""
        endTime := (document.unmarshalText "endTime").getD "" }

/-- The events that the store finds; the codes of its queries are ignored. -/
structure RiskQueries where
  queryEventByEventId : String → List Int → List StoredEvent
  queryEventByEventIdAndDate : String → List Int → String → String → List StoredEvent

/-- The stored events that a request names. -/
def RiskQueries.getSecEventsFromConditions (queries : RiskQueries)
    (condition : RequestCondition) : List StoredEvent :=
  if condition.beginTime = "" ∧ condition.endTime = "" then
    queries.queryEventByEventId riskTable condition.riskEvent
  else
    queries.queryEventByEventIdAndDate riskTable condition.riskEvent condition.beginTime
      condition.endTime

/-- A message to the callback object. -/
structure ResponseRiskData where
  devId : String
  riskData : String
  status : Nat
  deriving DecidableEq

/-- What the task has done when it ends. -/
structure RiskPush where
  responses : List ResponseRiskData := []
  /-- The values that the promise was set to, in order; they have 32 bits. -/
  promise : List Int := []
  /-- The task ended with an exception. -/
  thrown : Bool := false
  deriving DecidableEq

/-- The JSON text of an array of events, unless writing it throws. -/
def dispatchText (events : List StoredEvent) : Option String :=
  JsonTable.dump (events.map StoredEvent.toJson)

/-- The loop over the events from an index on and the last dispatch after it: what is sent, and
whether an exception ends it. -/
def distribute (devId : String) (events : List StoredEvent) (curIndex lastIndex : Nat) :
    List ResponseRiskData × Bool :=
  if lastIndex < events.length then
    match dispatchText ((events.drop curIndex).take (lastIndex - curIndex)) with
    -- An event whose text cannot be dumped ends the stream with an exception.
    | none => ([], true)
    | some dispatch =>
        let later := distribute devId events lastIndex (lastIndex + maxDistributeLens)
        (⟨devId, dispatch, continueStatus⟩ :: later.1, later.2)
  else
    match dispatchText (events.drop curIndex) with
    | none => ([], true)
    | some dispatch => ([⟨devId, dispatch, finishStatus⟩], false)
termination_by events.length - lastIndex
decreasing_by
  rw [maxDistributeLens]
  omega

/-- The task of `PushDataCollectTask`, with a callback object or without. -/
def pushDataCollectTask (config : ConfigData) (queries : RiskQueries) (proxy : Bool)
    (conditions : Option Json) (devId : String) : RiskPush :=
  if !proxy then { promise := [0] }
  else
    let reqCondition := config.parseConditions conditions
    if reqCondition.riskEvent = [] ∧ reqCondition.auditEvent = [] then
      { responses := [⟨devId, "", finishStatus⟩], promise := [0] }
    else
      let events := queries.getSecEventsFromConditions reqCondition
      let distributed := distribute devId events 0 maxDistributeLens
      { responses := distributed.1
        promise := [(events.length : Int).bmod (2 ^ 32)]
        thrown := distributed.2 }

/-- The events of an array, as a receiver reads them. -/
def readEvents (riskData : String) : Option (List StoredEvent) :=
  (JsonTable.load riskData).bind fun rows => rows.mapM StoredEvent.ofJson

theorem readEvents_dispatchText {events : List StoredEvent} {dispatch : String}
    (written : dispatchText events = some dispatch) : readEvents dispatch = some events := by
  rw [readEvents, JsonTable.load_dump written, Option.bind_some]
  clear written
  induction events with
  | nil => rfl
  | cons event rest ih =>
      rw [List.map_cons, List.mapM_cons, StoredEvent.ofJson_toJson, ih]
      rfl

theorem dispatchText_isSome_iff {events : List StoredEvent} :
    (dispatchText events).isSome = true ↔ ∀ event ∈ events, event.IsUTF8 := by
  rw [dispatchText, JsonTable.dump_isSome_iff, List.forall_mem_map]
  exact forall₂_congr fun event _ => StoredEvent.isUTF8_iff

/-- The messages carry the events in order, in arrays of bounded length, and the last message is
the only one that finishes. -/
structure Streams (events : List StoredEvent) (responses : List ResponseRiskData) : Prop where
  arrays : ∃ arrays, responses.mapM (fun response => readEvents response.riskData) = some arrays ∧
    arrays.flatten = events ∧ ∀ array ∈ arrays, array.length ≤ maxDistributeLens
  statuses : ∃ front last, responses = front ++ [last] ∧
    (∀ response ∈ front, response.status = continueStatus) ∧ last.status = finishStatus

/-- The stream is complete, and the promise is set once to the number of events. -/
structure StreamsAll (events : List StoredEvent) (push : RiskPush) : Prop where
  streams : Streams events push.responses
  promise : push.promise = [(events.length : Int)]

namespace Streams

variable {events array : List StoredEvent} {responses : List ResponseRiskData}
  {dispatch devId : String}

theorem last (written : dispatchText array = some dispatch)
    (short : array.length ≤ maxDistributeLens) :
    Streams array [⟨devId, dispatch, finishStatus⟩] where
  arrays := ⟨[array], by simp [readEvents_dispatchText written], by simp, by simpa using short⟩
  statuses := ⟨[], _, rfl, by simp, rfl⟩

theorem cons (streams : Streams events responses)
    (written : dispatchText array = some dispatch)
    (short : array.length ≤ maxDistributeLens) :
    Streams (array ++ events) (⟨devId, dispatch, continueStatus⟩ :: responses) := by
  obtain ⟨⟨arrays, read, rfl, bounded⟩, front, last, rfl, continues, finishes⟩ := streams
  refine ⟨⟨array :: arrays, ?_, rfl, ?_⟩, ⟨devId, dispatch, continueStatus⟩ :: front, last, rfl,
    ?_, finishes⟩
  · rw [List.mapM_cons, readEvents_dispatchText written, read]
    rfl
  · exact List.forall_mem_cons.mpr ⟨short, bounded⟩
  · exact List.forall_mem_cons.mpr ⟨rfl, continues⟩

theorem finishes (streams : Streams events responses) :
    ∃ response ∈ responses, response.status = finishStatus := by
  obtain ⟨front, last, rfl, -, finishes⟩ := streams.statuses
  exact ⟨last, by simp, finishes⟩

end Streams

section Distribute

variable {devId : String} {events : List StoredEvent} {curIndex lastIndex : Nat}

/-- The events from an index on are those of the next dispatch and those after it. -/
theorem take_append_drop (step : lastIndex = curIndex + maxDistributeLens) :
    (events.drop curIndex).take (lastIndex - curIndex) ++ events.drop lastIndex =
      events.drop curIndex := by
  rw [step, Nat.add_sub_cancel_left, ← List.drop_drop, List.take_append_drop]

/-- Events whose texts are UTF-8 are streamed from every index on. -/
theorem distribute_streams (step : lastIndex = curIndex + maxDistributeLens)
    (valid : ∀ event ∈ events.drop curIndex, event.IsUTF8) :
    Streams (events.drop curIndex) (distribute devId events curIndex lastIndex).1 := by
  fun_induction distribute devId events curIndex lastIndex with
  | case1 curIndex lastIndex more thrown =>
      rw [← take_append_drop step, List.forall_mem_append, ← dispatchText_isSome_iff,
        thrown] at valid
      exact Bool.noConfusion valid.1
  | case2 curIndex lastIndex more dispatch written later ih =>
      rw [← take_append_drop step, List.forall_mem_append] at valid
      have short : ((events.drop curIndex).take (lastIndex - curIndex)).length ≤
          maxDistributeLens := by
        rw [step, Nat.add_sub_cancel_left]
        exact List.length_take_le _ _
      rw [← take_append_drop step]
      exact (ih rfl valid.2).cons written short
  | case3 curIndex lastIndex done thrown =>
      rw [← dispatchText_isSome_iff, thrown] at valid
      exact Bool.noConfusion valid
  | case4 curIndex lastIndex done dispatch written =>
      refine .last written ?_
      rw [List.length_drop]
      omega

/-- A stream with an event that cannot be written is not finished. -/
theorem distribute_unfinished (step : lastIndex = curIndex + maxDistributeLens)
    (invalid : ∃ event ∈ events.drop curIndex, ¬event.IsUTF8) :
    ∀ response ∈ (distribute devId events curIndex lastIndex).1,
      response.status = continueStatus := by
  fun_induction distribute devId events curIndex lastIndex with
  | case1 | case3 => exact List.forall_mem_nil _
  | case2 curIndex lastIndex more dispatch written later ih =>
      refine List.forall_mem_cons.mpr ⟨rfl, ih rfl ?_⟩
      obtain ⟨event, mem, invalid⟩ := invalid
      rw [← take_append_drop step] at mem
      have all := dispatchText_isSome_iff.mp (Option.isSome_of_eq_some written)
      exact ⟨event, (List.mem_append.mp mem).resolve_left fun first =>
        invalid (all event first), invalid⟩
  | case4 curIndex lastIndex done dispatch written =>
      obtain ⟨event, mem, invalid⟩ := invalid
      have all := dispatchText_isSome_iff.mp (Option.isSome_of_eq_some written)
      exact absurd (all event mem) invalid

end Distribute

theorem bmod_length_iff {length : Nat} :
    (length : Int).bmod (2 ^ 32) = length ↔ length < 2 ^ 31 := by
  constructor
  · intro fits
    have bound : (length : Int).bmod (2 ^ 32) < (2 ^ 32 + 1) / 2 := Int.bmod_lt (by decide)
    omega
  · intro small
    exact Int.bmod_eq_of_le (by omega) (by omega)

section Task

variable (config : ConfigData) (queries : RiskQueries) (conditions : Option Json)
  (devId : String)

theorem pushDataCollectTask_of_permitted
    (permitted : (config.parseConditions conditions).riskEvent ≠ [] ∨
      (config.parseConditions conditions).auditEvent ≠ []) :
    let events := queries.getSecEventsFromConditions (config.parseConditions conditions)
    let distributed := distribute devId events 0 maxDistributeLens
    pushDataCollectTask config queries true conditions devId =
      { responses := distributed.1
        promise := [(events.length : Int).bmod (2 ^ 32)]
        thrown := distributed.2 } := by
  intro events distributed
  rw [pushDataCollectTask, if_neg (by simp), if_neg (by tauto)]

end Task

/-- Event 1 is stored as a risk. -/
def oneRiskConfig : ConfigData where
  eventToTableMap := SortedMap.empty.insert 1 riskTable

/-- A request for one event. -/
def requestOne : Option Json := some (.object [("eventId", .array [.number 1])])

/-- The store finds these events. -/
def RiskQueries.finding (events : List StoredEvent) : RiskQueries where
  queryEventByEventId _ _ := events
  queryEventByEventIdAndDate _ _ _ _ := events

/-- An event 1 with a version. -/
def versionedEvent (version : ByteArray) : StoredEvent where
  eventId := 1
  version
  date := "20250101".toByteArray
  content := "{}".toByteArray
  userId := 0
  deviceId := "".toByteArray

theorem requestOne_permitted :
    (oneRiskConfig.parseConditions requestOne).riskEvent ≠ [] ∨
      (oneRiskConfig.parseConditions requestOne).auditEvent ≠ [] :=
  .inl (by decide +kernel)

/-- An event whose version is an unpaired surrogate, which UTF-8 excludes. -/
def garbledEvent : StoredEvent := versionedEvent ⟨#[0xed, 0xa0, 0x80]⟩

end SecurityGuard
