import Mathlib.Data.List.TakeWhile
import SecurityGuard.Store.Quota
import SecurityGuard.Upload.Task

/-!
# From the published event to the event of a query

An event goes to the subscribers as it is, and to the store through a record, named values, a row
and named values again.  On this way the version and the device are lost and a text ends at its
first null character.
-/

namespace SecurityGuard.DatabaseManager

open DatabaseHelper

variable {engine : Sql.Engine schema}

/-- The rows that the statement of a query returns. -/
def answerRows (engine : Sql.Engine schema) (store : Sql.Store) (conditions : GenericValues) :
    List Sql.Row :=
  (engine.select store (SgSqliteHelper.prepareBoundStateStmt conditions)
    { conditions := SgSqliteHelper.buildWhereClause conditions }).1

/-- The event that a query returns for a row. -/
def rowEvent (row : Sql.Row) : SecEvent :=
  readEvent (SgSqliteHelper.executeRowData schema
    ["event_id", "version", "date", "content", "user_id", "device_id"] row)

theorem queryEventBase_events (engine : Sql.Engine schema) (store : Sql.Store)
    (conditions : GenericValues) :
    (queryEventBase engine store conditions {}).2.1 =
      (answerRows engine store conditions).map rowEvent := by
  simp [queryEventBase, SgSqliteHelper.query, answerRows, rowEvent, Code.success,
    Function.comp_def]

/-- What a query returns for a row that keeps an event. -/
theorem rowEvent_of_keeps {row : Sql.Row} {event : SecEvent} (keeps : Keeps row event)
    (fits : int32Min ≤ event.userId ∧ event.userId ≤ int32Max) :
    rowEvent row =
      { eventId := event.eventId
        date := Statement.getColumnString event.date
        content := Statement.getColumnString event.content
        userId := event.userId
        deviceId := Statement.getColumnString event.deviceId } := by
  have cells : row.value schema "event_id" = .integer event.eventId ∧
      row.value schema "version" = .text event.version ∧
      row.value schema "date" = .text event.date ∧
      row.value schema "content" = .text event.content ∧
      row.value schema "user_id" = .integer event.userId ∧
      row.value schema "device_id" = .text event.deviceId := by
    refine ⟨keeps ("event_id", _) ?_, keeps ("version", _) ?_, keeps ("date", _) ?_,
      keeps ("content", _) ?_, keeps ("user_id", _) ?_, keeps ("device_id", _) ?_⟩ <;>
    simp [columns]
  obtain ⟨eventId, version, date, content, userId, deviceId⟩ := cells
  simp [rowEvent, readEvent, SgSqliteHelper.executeRowData, eventId, version, date, content,
    userId, deviceId, Statement.getValue, GenericValues.getInt64, GenericValues.getString,
    GenericValues.get?_put, VariantValue.getInt64, VariantValue.getString, fits]

theorem getColumnString_eq_iff {text : String} :
    Statement.getColumnString text = text ↔ '\x00' ∉ text.toList := by
  rw [Statement.getColumnString, ← String.toList_inj, String.toList_ofList,
    List.takeWhile_eq_self_iff]
  constructor
  · intro all mem
    simpa using all '\x00' mem
  · intro absent character mem
    simpa using fun same : character = '\x00' => absent (same ▸ mem)

/-- The fields in which a returned event should agree with the published one. -/
structure SameEvent (back : SecEvent) (published : CollectorEvent) : Prop where
  eventId : back.eventId = published.eventId
  version : back.version = published.version
  date : back.date = published.timestamp
  content : back.content = published.content
  userId : back.userId = published.userId
  deviceId : back.deviceId = published.deviceId

/-- An answer holds an event at the place of a row. -/
def ReturnedFor (engine : Sql.Engine schema) (store : Sql.Store) (conditions : GenericValues)
    (answer : List SecEvent) (row : Sql.Row) (back : SecEvent) : Prop :=
  ∃ position : Nat, (answerRows engine store conditions)[position]? = some row ∧
    answer[position]? = some back

/-- Every later query by event id, or by event id and date, returns the published event for a
row. -/
def Faithful (engine : Sql.Engine schema) (config : ConfigData) (row : Sql.Row)
    (published : CollectorEvent) : Prop :=
  ∀ later : Sql.Store, row ∈ later.table.rows →
    (∀ eventId back, config.getTableFromEventId eventId = riskTable →
      ReturnedFor engine later (ofEventId eventId)
        (queryEventByEventId engine config later eventId).2.1 row back →
      SameEvent back published) ∧
    (∀ eventIds back, eventIds ≠ [] →
      ReturnedFor engine later (ofEventIds eventIds)
        (queryEventByEventIds engine later riskTable eventIds).2.1 row back →
      SameEvent back published) ∧
    ∀ eventIds beginTime endTime back, eventIds ≠ [] →
      ReturnedFor engine later (ofEventIdsAndDate eventIds beginTime endTime)
        (queryEventByEventIdAndDate engine later riskTable eventIds beginTime endTime).2.1 row
        back →
      SameEvent back published

theorem returnedFor_iff {store : Sql.Store} {conditions : GenericValues} {row : Sql.Row}
    {back : SecEvent} :
    ReturnedFor engine store conditions (queryEventBase engine store conditions {}).2.1 row back ↔
      row ∈ answerRows engine store conditions ∧ back = rowEvent row := by
  rw [queryEventBase_events]
  constructor
  · rintro ⟨position, found, returned⟩
    rw [List.getElem?_map, found] at returned
    exact ⟨List.mem_of_getElem? found, (Option.some.inj returned).symm⟩
  · rintro ⟨mem, rfl⟩
    obtain ⟨position, found⟩ := List.getElem?_of_mem mem
    exact ⟨position, found, by rw [List.getElem?_map, found]; rfl⟩

/-- All that matters for the answers is the event of the row. -/
theorem faithful_iff_sameEvent (reliable : engine.Reliable) {config : ConfigData}
    {published : CollectorEvent} {row : Sql.Row}
    (named : hasEventId published.eventId row = true)
    (table : config.getTableFromEventId published.eventId = riskTable) :
    Faithful engine config row published ↔ SameEvent (rowEvent row) published := by
  constructor
  · intro faithful
    -- a table with no other row
    let later : Sql.Store :=
      { table :=
          { rows := [row]
            nextId := row.id + 1
            fresh := fun other mem => List.mem_singleton.mp mem ▸ Int.lt_succ row.id } }
    have mem : row ∈ answerRows engine later (ofEventId published.eventId) := by
      rw [answerRows, Sql.Engine.mem_select reliable rfl, matching_ofEventId]
      exact ⟨by simp [later], named⟩
    refine (faithful later (by simp [later])).1 published.eventId _ table ?_
    rw [queryEventByEventId, if_pos table]
    exact returnedFor_iff.mpr ⟨mem, rfl⟩
  · intro same later _
    refine ⟨?_, ?_, ?_⟩
    · intro eventId back known returned
      rw [queryEventByEventId, if_pos known] at returned
      exact (returnedFor_iff.mp returned).2 ▸ same
    · intro eventIds back some returned
      rw [queryEventByEventIds, if_pos rfl, DatabaseHelper.queryEventByEventIds, if_neg some]
        at returned
      exact (returnedFor_iff.mp returned).2 ▸ same
    · intro eventIds beginTime endTime back some returned
      rw [queryEventByEventIdAndDate, if_pos rfl, DatabaseHelper.queryEventByEventIdAndDate,
        if_neg some] at returned
      exact (returnedFor_iff.mp returned).2 ▸ same

/-- The row of a published event returns it exactly if there was nothing to lose on the way. -/
theorem faithful_iff (reliable : engine.Reliable) {published : CollectorEvent}
    (fits : int32Min ≤ published.userId ∧ published.userId ≤ int32Max) {config : ConfigData}
    {cfg : EventCfg} (stored : Stored config userSource published.eventId cfg)
    {store : Sql.Store} {front : List SecEvent} {row : Sql.Row}
    (added : row ∈
      (tableAfter engine config userSource store (front ++ [published.secEvent])).rows)
    (fresh : row ∉ (tableAfter engine config userSource store front).rows) :
    Faithful engine config row published ↔
      published.version = "" ∧ published.deviceId = "" ∧ '\x00' ∉ published.timestamp.toList ∧
        '\x00' ∉ published.content.toList := by
  rcases tableAfter_append config userSource store reliable front published.secEvent with
    ⟨unchanged, -⟩ | ⟨_, _, _, new, -, stores, -⟩
  · exact absurd (unchanged ▸ added) fresh
  · obtain rfl : row = new := by
      rcases stores.mem_after.mp added with ⟨old, -⟩ | same
      · exact absurd old fresh
      · exact same
    have named : hasEventId published.eventId row = true := by
      simp [stores.hasEventId_row, CollectorEvent.secEvent]
    rw [faithful_iff_sameEvent reliable named stored.table, rowEvent_of_keeps stores.keeps fits]
    constructor
    · rintro ⟨-, version, date, content, -, deviceId⟩
      exact ⟨version.symm, deviceId.symm, getColumnString_eq_iff.mp date,
        getColumnString_eq_iff.mp content⟩
    · rintro ⟨version, deviceId, date, content⟩
      exact ⟨rfl, version.symm, getColumnString_eq_iff.mpr date,
        getColumnString_eq_iff.mpr content, rfl, deviceId.symm⟩

/-- An event that loses nothing comes back. -/
theorem faithful_iff_plain :
    let published : CollectorEvent := { eventId := 1, content := "risk", timestamp := "20250101" }
    let engine := Sql.Engine.sequential schema
    ∃ row ∈ (tableAfter engine oneRowConfig userSource {} [published.secEvent]).rows,
      Faithful engine oneRowConfig row published := by
  intro published engine
  have stored : Stored oneRowConfig userSource 1 oneRow := ⟨rfl, rfl, rfl⟩
  have reliable : engine.Reliable := fun _ => rfl
  obtain ⟨row, mem, -, -⟩ :=
    newest_tableAfter {} reliable published.secEvent stored [] (List.forall_mem_nil _)
  exact ⟨row, mem, (faithful_iff reliable (by decide) stored mem (by simp)).mpr
    ⟨rfl, rfl, by decide, by decide⟩⟩

/-- The version of an event that is published does not come back from a query. -/
theorem version_is_lost :
    let event : CollectorEvent :=
      { eventId := 1, version := "1.0", content := "risk", timestamp := "20250101" }
    let outside : Surroundings := { config := oneRowConfig, isJson := fun _ => true }
    let engine := Sql.Engine.sequential schema
    ∃ published, outside.uploadedEvent event = some published ∧
      (∃ row ∈ (tableAfter engine oneRowConfig userSource {} [published.secEvent]).rows,
        ¬Faithful engine oneRowConfig row published) ∧
      (queryEventByEventId engine oneRowConfig
        (insertEvent engine oneRowConfig {} userSource [published.secEvent]).2 1).2.1 =
        [{ eventId := 1, version := "", date := "20250101", content := "risk", userId := -1 }] := by
  intro event outside engine
  have reliable : engine.Reliable := fun _ => rfl
  have stored : Stored oneRowConfig userSource 1 oneRow := ⟨rfl, rfl, rfl⟩
  refine ⟨event, by decide +kernel, ?_, by decide +kernel⟩
  obtain ⟨row, mem, keeps, -⟩ :=
    newest_tableAfter {} reliable event.secEvent stored [] (List.forall_mem_nil _)
  have named : hasEventId 1 row = true := by
    have cell := keeps ("event_id", .integer 1) (by simp [columns, event, CollectorEvent.secEvent])
    simp [hasEventId, cell]
  refine ⟨row, mem, ?_⟩
  intro faithful
  have same := (faithful_iff_sameEvent reliable named (by rfl)).mp faithful
  have version : "" = "1.0" := same.version
  exact absurd version (by decide)

end SecurityGuard.DatabaseManager
