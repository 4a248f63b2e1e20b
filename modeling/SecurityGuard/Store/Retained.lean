import SecurityGuard.Store.EventLog

/-!
# What the table retains

From an empty table, every run of the calls is a run of the log, and every query answers from the
log.  No event id outgrows the quotas that were in force for it, and where the events of an id are
stored in the order of their dates, the ones that are kept are the newest.
-/

namespace SecurityGuard

namespace EventLog

open DatabaseHelper DatabaseManager

theorem limitStorage_le (cfg : EventCfg) : cfg.limitStorage.storageRomNums ≤ dbMaxValue := by
  rw [EventCfg.limitStorage]
  split_ifs with audit large small
  · exact le_rfl
  · exact (not_le.mp large).le
  · exact Nat.le_of_ble_eq_true rfl
  · exact (not_le.mp small).le.trans (Nat.le_of_ble_eq_true rfl)

theorem limited_of_readConfigs {parseJson : String → Option Json} {stream : Option String}
    {configs : List EventCfg} (read : ConfigData.readConfigs parseJson stream = some configs) :
    ∀ cfg ∈ configs, cfg.storageRomNums ≤ dbMaxValue := by
  obtain ⟨document, -, parsed⟩ := Option.bind_eq_some_iff.mp read
  obtain ⟨objects, -, rfl⟩ := Option.map_eq_some_iff.mp parsed
  intro cfg mem
  obtain ⟨object, -, rfl⟩ := List.mem_map.mp mem
  exact limitStorage_le object

/-- Entering events one by one enters no other ones. -/
theorem mem_of_cached {configs : List EventCfg} {base : SortedMap Int EventCfg} {eventId : Int}
    {cfg : EventCfg}
    (found : (configs.foldl
      (fun events cfg =>
        let cached := if cfg.oldEventId ≠ 0 then events.insert cfg.oldEventId cfg else events
        cached.insert cfg.eventId cfg) base).get? eventId = some cfg) :
    cfg ∈ configs ∨ base.get? eventId = some cfg := by
  induction configs generalizing base with
  | nil => exact .inr found
  | cons head configs ih =>
      rcases ih found with later | here
      · exact .inl (List.mem_cons_of_mem head later)
      · rcases SortedMap.get?_insert_eq_some.mp here with ⟨-, rfl⟩ | ⟨-, here⟩
        · exact .inl List.mem_cons_self
        · split_ifs at here with renamed
          · rcases SortedMap.get?_insert_eq_some.mp here with ⟨-, rfl⟩ | ⟨-, here⟩
            · exact .inl List.mem_cons_self
            · exact .inr here
          · exact .inr here

theorem limited_empty : Limited {} := fun _ _ found =>
  absurd found (by simp [ConfigData.getEventConfig])

theorem limited_configAfter {parseJson : String → Option Json} {config : ConfigData}
    (limited : Limited config) (call : StoreCall) :
    Limited (StoreSystem.configAfter parseJson config call) := by
  cases call with
  | insertEvent | deleteOldEventByEventId | deleteAllEventByEventId | query | count =>
      exact limited
  | update stream copied =>
      intro eventId cfg found
      rw [StoreSystem.configAfter, ConfigData.update] at found
      cases read : ConfigData.readConfigs parseJson stream with
      | none =>
          rw [read] at found
          exact limited eventId cfg found
      | some configs =>
          rw [read] at found
          cases copied with
          | false => exact limited eventId cfg found
          | true =>
              rcases mem_of_cached found with mem | absent
              · exact limited_of_readConfigs read cfg mem
              · exact absurd absent (by simp)
  | restart stream =>
      intro eventId cfg found
      rw [StoreSystem.configAfter, ConfigData.parse] at found
      cases read : ConfigData.readConfigs parseJson stream with
      | none =>
          rw [read] at found
          exact limited_empty eventId cfg found
      | some configs =>
          rw [read] at found
          dsimp only at found
          rw [ConfigData.getEventConfig, (ConfigData.cacheEventToTable_maps _ _).1,
            (ConfigData.cacheEventConfig_maps _ _).1] at found
          rcases mem_of_cached found with mem | absent
          · exact limited_of_readConfigs read cfg mem
          · exact limited_empty eventId cfg absent

variable {engine : Sql.Engine schema} {parseJson : String → Option Json}

theorem runs_storeAfter (reliable : engine.Reliable) {config : ConfigData} {store : Sql.Store}
    (limited : Limited config) (sound : Sound store.table) (call : StoreCall) :
    let after := (StoreSystem.storeAfter engine config store call).table
    (∃ lost, Retention.Runs SecEvent.eventId NoNewer (operations config call)
      (events store.table) (events after) lost) ∧ Kept after := by
  cases call with
  | insertEvent source list =>
      exact runs_foldl_insertNext reliable limited list (Code.success, store) sound
  | deleteOldEventByEventId eventId count =>
      dsimp only
      rw [operations, StoreSystem.storeAfter, DatabaseManager.deleteOldEventByEventId]
      by_cases table : config.getTableFromEventId eventId = riskTable
      · rw [if_pos table]
        by_cases carried : 0 < count ∧ 0 ≤ eventId ∧ count ≤ int32Max
        · obtain ⟨⟨dropped, drops⟩, kept⟩ := deleteOldEventByEventId_drops reliable sound.kept
            carried.2.1 carried.1 carried.2.2
          rw [if_pos ⟨table, carried⟩]
          exact ⟨⟨_, .cons (.drop eventId count.toNat drops) (.nil _)⟩, kept⟩
        · rw [deleteOldEventByEventId_of_refused carried, if_neg fun all => carried all.2]
          exact ⟨⟨0, .nil _⟩, sound.kept⟩
      · rw [if_neg table, if_neg fun all => table all.1]
        exact ⟨⟨0, .nil _⟩, sound.kept⟩
  | deleteAllEventByEventId eventId =>
      dsimp only
      rw [operations, StoreSystem.storeAfter, DatabaseManager.deleteAllEventByEventId]
      by_cases table : config.getTableFromEventId eventId = riskTable
      · rw [if_pos table]
        by_cases known : 0 ≤ eventId
        · obtain ⟨⟨dropped, drops⟩, kept⟩ :=
            deleteAllEventByEventId_drops reliable sound.kept known
          rw [if_pos ⟨table, known⟩]
          exact ⟨⟨_, .cons (.clear eventId drops) (.nil _)⟩, kept⟩
        · rw [DatabaseHelper.deleteAllEventByEventId, if_pos (not_le.mp known),
            if_neg fun all => known all.2]
          exact ⟨⟨0, .nil _⟩, sound.kept⟩
      · rw [if_neg table, if_neg fun all => table all.1]
        exact ⟨⟨0, .nil _⟩, sound.kept⟩
  | query conditions options => exact ⟨⟨0, .nil _⟩, sound.kept⟩
  | count conditions => exact ⟨⟨0, .nil _⟩, sound.kept⟩
  | update | restart => exact ⟨⟨0, .nil _⟩, sound.kept⟩

variable {system final : StoreSystem} {calls : List StoreCall}

/-- A run of the calls is a run of the log. -/
theorem runs_history (reliable : engine.Reliable) (limited : Limited system.config)
    (sound : Sound system.store.table)
    (reach : Transition.run (StoreSystem.next parseJson engine) system calls = some final) :
    (∃ lost, Retention.Runs SecEvent.eventId NoNewer (history parseJson system.config calls)
      (events system.store.table) (events final.store.table) lost) ∧
      Sound final.store.table := by
  induction calls generalizing system with
  | nil =>
      obtain rfl : system = final := Option.some.inj reach
      exact ⟨⟨0, .nil _⟩, sound⟩
  | cons call calls ih =>
      obtain ⟨after, taken, rest⟩ := Transition.run_cons_eq_some.mp reach
      obtain rfl := Option.some.inj taken
      obtain ⟨⟨dropped, now⟩, kept⟩ := runs_storeAfter reliable limited sound call
      have sound' := sound.of_runs kept now fun eventId known =>
        within_operations known (limited eventId) call
      obtain ⟨⟨lost, later⟩, sound''⟩ := ih (limited_configAfter limited call) sound' rest
      exact ⟨⟨_, now.append later⟩, sound''⟩

theorem sound_initial : Sound ({} : StoreSystem).store.table where
  kept _ mem := absurd mem List.not_mem_nil
  few _ _ := Nat.zero_le _

/-- An event as a query returns it: without its version, its texts up to a null character. -/
def answered (event : SecEvent) : SecEvent where
  eventId := event.eventId
  date := Statement.getColumnString event.date
  content := Statement.getColumnString event.content
  userId := if int32Min ≤ event.userId ∧ event.userId ≤ int32Max then event.userId else -1
  deviceId := Statement.getColumnString event.deviceId

/-- A query succeeds with the events of the log that it is for. -/
def Answers (log : Multiset SecEvent) (wanted : SecEvent → Prop) [DecidablePred wanted]
    (answer : Code × List SecEvent × Sql.Store) : Prop :=
  answer.1 = .success ∧ (↑answer.2.1 : Multiset SecEvent) = (log.filter wanted).map answered

/-- The date of an event is in a range; an empty time leaves its side open. -/
def Dated (beginTime endTime : String) (event : SecEvent) : Prop :=
  (beginTime ≠ "" → beginTime ≤ event.date) ∧ (endTime ≠ "" → event.date < endTime)

instance (beginTime endTime : String) : DecidablePred (Dated beginTime endTime) := fun _ =>
  inferInstanceAs (Decidable ((_ → _) ∧ (_ → _)))

variable (engine) in
/-- The table answers every query and count from a log. -/
structure Reports (store : Sql.Store) (log : Multiset SecEvent) : Prop where
  all : Answers log (fun _ => True) (DatabaseHelper.queryAllEvent engine store)
  byEventId : ∀ eventId, Answers log (·.eventId = eventId)
    (DatabaseHelper.queryEventByEventId engine store eventId)
  byEventIdAndDate : ∀ eventIds beginTime endTime, eventIds ≠ [] →
    Answers log (fun event => event.eventId ∈ eventIds ∧ Dated beginTime endTime event)
      (DatabaseHelper.queryEventByEventIdAndDate engine store eventIds beginTime endTime)
  byEventType : ∀ eventType, Answers log (·.eventType = eventType)
    (DatabaseHelper.queryEventByEventType engine store eventType)
  byLevel : ∀ level, Answers log (·.dataSensitivityLevel = level)
    (DatabaseHelper.queryEventByLevel engine store level)
  countAll : (DatabaseHelper.countAllEvent engine store).1 = log.card
  count : ∀ eventId, (DatabaseHelper.countEventByEventId engine store eventId).1 =
    log.countP (·.eventId = eventId)

section Answers

variable {store : Sql.Store} {row : Sql.Row}

theorem rowEvent_eq (keeps : Keeps row (eventOf row)) : rowEvent row = answered (eventOf row) := by
  have cells := fun cell mem => keeps cell mem
  simp only [columns, List.forall_mem_cons] at cells
  obtain ⟨eventId, version, date, content, -, -, -, userId, deviceId, -⟩ := cells
  simp [rowEvent, answered, readEvent, SgSqliteHelper.executeRowData, eventId, version, date,
    content, userId, deviceId, Statement.getValue, GenericValues.getInt64, GenericValues.getString,
    GenericValues.get?_put, VariantValue.getInt64, VariantValue.getString]

/-- What a query asks of the rows, it asks of their events. -/
theorem answers_of_returns (kept : Kept store.table) {asked : Sql.Row → Prop}
    [DecidablePred asked] {wanted : SecEvent → Prop} [DecidablePred wanted]
    {answer : Code × List SecEvent × Sql.Store} (returns : Returns store asked answer)
    (same : ∀ row, Keeps row (eventOf row) → (asked row ↔ wanted (eventOf row))) :
    Answers (events store.table) wanted answer := by
  obtain ⟨success, rows, perm, read⟩ := returns
  have mapped : (rows.map rowEvent).Perm ((store.table.rows.filter asked).map rowEvent) :=
    perm.map rowEvent
  refine ⟨success, ?_⟩
  rw [read, Multiset.coe_eq_coe.mpr mapped, events, Multiset.filter_coe, Multiset.map_coe,
    List.filter_map, List.map_map]
  refine congrArg _ (Eq.trans ?_ (List.map_congr_left fun row mem =>
    rowEvent_eq (kept row (List.mem_of_mem_filter mem))))
  refine congrArg _ (List.filter_congr fun row mem => ?_)
  rw [Bool.eq_iff_iff, decide_eq_true_iff, Function.comp_apply, decide_eq_true_iff]
  exact same row (kept row mem)

theorem integer_cell {row : Sql.Row} {event : SecEvent} (keeps : Keeps row event) {column : String}
    {value : Int} (cell : (column, .integer value) ∈ columns event) (wanted : Int) :
    row.value schema column = .integer wanted ↔ value = wanted := by
  rw [keeps _ cell]
  exact ⟨Sql.Value.integer.inj, congrArg _⟩

theorem answers_equal (reliable : engine.Reliable) (kept : Kept store.table) {key : String}
    (plain : SgSqliteHelper.operators.find? (SgSqliteHelper.endWith key) = none)
    (outside : ¬"_IN".toList <:+: key.toList) (numeric : schema.affinity key = .integer)
    {field : SecEvent → Int} (cell : ∀ event, (key, .integer (field event)) ∈ columns event)
    (value : Int) :
    Answers (events store.table) (field · = value)
      (queryEventBase engine store (.put .empty key (.string (toString value))) {}) :=
  have returns := returns_queryEventBase (reliable store.executed)
    fun row => SgSqliteHelper.matching_eq row plain outside numeric value
  answers_of_returns kept returns fun row keeps => integer_cell keeps (cell (eventOf row)) value

theorem matching_empty (row : Sql.Row) :
    Sql.matching schema (SgSqliteHelper.prepareBoundStateStmt .empty)
      (SgSqliteHelper.buildWhereClause .empty) row = true := rfl

theorem reports_events (reliable : engine.Reliable) (kept : Kept store.table) :
    Reports engine store (events store.table) where
  all :=
    have returns := returns_queryEventBase (reliable store.executed)
      fun row => iff_of_true (matching_empty row) trivial
    answers_of_returns kept returns fun _ _ => Iff.rfl
  byEventId eventId := answers_equal reliable kept (by decide) (by decide) rfl
    (fun event => by simp [columns]) eventId
  byEventIdAndDate eventIds beginTime endTime listed := by
    refine answers_of_returns kept (queryEventByEventIdAndDate_returns (reliable store.executed)
      listed beginTime endTime).1 fun row keeps => ?_
    have date : row.value schema "date" = .text (eventOf row).date :=
      keeps ("date", _) (by simp [columns])
    rw [requested_iff date]
    refine and_congr_left' ?_
    have named (eventId : Int) : row.value schema "event_id" = .integer eventId ↔
        (eventOf row).eventId = eventId := integer_cell keeps (by simp [columns]) eventId
    simp only [named, exists_eq_right']
  byEventType eventType := answers_equal reliable kept (by decide) (by decide) rfl
    (fun event => by simp [columns]) eventType
  byLevel level := answers_equal reliable kept (by decide) (by decide) rfl
    (fun event => by simp [columns]) level
  countAll := by
    have every : store.table.rows.countP (Sql.matching schema
        (SgSqliteHelper.prepareBoundStateStmt .empty) (SgSqliteHelper.buildWhereClause .empty)) =
        store.table.rows.length :=
      List.countP_eq_length.mpr fun row _ => matching_empty row
    rw [DatabaseHelper.countAllEvent, SgSqliteHelper.count,
      Sql.Engine.count_of_reliable reliable, every, events, Multiset.coe_card, List.length_map]
    rfl
  count eventId := by
    rw [countEventByEventId_of_reliable reliable, ← size_events kept]
    rfl

end Answers

/-- After every run, the table holds a log that the calls of the run make out of nothing, and it
answers every query from this log. -/
theorem table_refines_log (reliable : engine.Reliable)
    (reach : Transition.run (StoreSystem.next parseJson engine) {} calls = some final) :
    (∃ lost, Retention.Runs SecEvent.eventId NoNewer (history parseJson {} calls) 0
      (events final.store.table) lost) ∧
      Reports engine final.store (events final.store.table) := by
  obtain ⟨runs, sound⟩ := runs_history reliable limited_empty sound_initial reach
  exact ⟨runs, reports_events reliable sound.kept⟩

/-- A document with room for one event of id 7. -/
def roomForOne : Json :=
  .object [("eventcfg", .array [.object [("eventId", .text "7"), ("db_table", .text "risk_event"),
    ("storageRomNums", .number 1)]])]

/-- The service starts, two events of id 7 are stored and queried. -/
def twoOfSeven : List StoreCall :=
  [.restart (some ""), .insertEvent userSource [{ eventId := 7, date := "1" }],
    .insertEvent userSource [{ eventId := 7, date := "2" }], .query (ofEventId 7) {}]

/-- The system after these calls. -/
def afterTwoOfSeven (system : StoreSystem) : StoreSystem :=
  (Transition.run (StoreSystem.next (fun _ => some roomForOne) (.sequential schema)) system
    twoOfSeven).getD system

theorem table_refines_log_two_of_seven :
    Answers (events (afterTwoOfSeven {}).store.table) (·.eventId = 7)
      (DatabaseHelper.queryEventByEventId (.sequential schema) (afterTwoOfSeven {}).store 7) :=
  (table_refines_log (fun _ => rfl) (Transition.run_eq_getD rfl)).2.byEventId 7

/-- The quota of an event id in the configuration in force. -/
def QuotaWithin (eventId : Int) (bound : ℕ) (system : StoreSystem) : Prop :=
  ∀ cfg, system.config.getEventConfig eventId = some cfg → cfg.storageRomNums ≤ bound

instance (eventId : Int) (bound : ℕ) : DecidablePred (QuotaWithin eventId bound) := fun system =>
  inferInstanceAs
    (Decidable (∀ cfg ∈ system.config.getEventConfig eventId, cfg.storageRomNums ≤ bound))

theorem within_history {eventId : Int} {bound : ℕ} (known : 0 ≤ eventId)
    (permitted : Transition.Along (StoreSystem.next parseJson engine)
      (fun state _ => QuotaWithin eventId bound state) system calls) :
    ∀ operation ∈ history parseJson system.config calls,
      operation.Within SecEvent.eventId eventId bound := by
  induction calls generalizing system with
  | nil => exact fun _ mem => absurd mem List.not_mem_nil
  | cons call calls ih =>
      intro operation mem
      rcases List.mem_append.mp mem with now | later
      · exact within_operations known permitted.1 call operation now
      · exact ih (permitted.2 _ rfl) operation later

/-- An event id has at most as many rows as the largest of the quotas under which the calls of a
run were made, whatever its updates and restarts were, and never more than the parser allows. -/
theorem rows_stay_within_quotas (reliable : engine.Reliable) {eventId : Int}
    (known : 0 ≤ eventId)
    (reach : Transition.run (StoreSystem.next parseJson engine) {} calls = some final) :
    final.store.table.rows.countP (hasEventId eventId) ≤ dbMaxValue ∧
      ∀ bound, 1 ≤ bound →
        Transition.Along (StoreSystem.next parseJson engine)
          (fun state _ => QuotaWithin eventId bound state) {} calls →
        final.store.table.rows.countP (hasEventId eventId) ≤ bound := by
  obtain ⟨⟨lost, runs⟩, sound⟩ := runs_history reliable limited_empty sound_initial reach
  refine ⟨sound.few eventId known, fun bound positive permitted => ?_⟩
  rw [← size_events sound.kept]
  refine runs.size_le positive (within_history known permitted) ?_
  rw [size_events sound_initial.kept]
  exact Nat.zero_le bound

theorem rows_stay_within_quotas_two_of_seven :
    (afterTwoOfSeven {}).store.table.rows.countP (hasEventId 7) ≤ 1 :=
  (rows_stay_within_quotas (fun _ => rfl) (by decide) (Transition.run_eq_getD rfl)).2 1
    (by decide) (by decide +kernel)

/-- Where the events of every id are stored in the order of their dates, each of them is kept or
lost, and no lost one is dated after a kept one of its id. -/
theorem newest_events_are_kept (reliable : engine.Reliable)
    (reach : Transition.run (StoreSystem.next parseJson engine) {} calls = some final)
    (ordered : ((history parseJson {} calls).flatMap Retention.Operation.added).Pairwise
      fun old new => new.eventId = old.eventId → old.date ≤ new.date) :
    ∃ lost : Multiset SecEvent,
      ↑((history parseJson {} calls).flatMap Retention.Operation.added) =
          lost + events final.store.table ∧
        ∀ gone ∈ lost, ∀ stays ∈ events final.store.table,
          stays.eventId = gone.eventId → gone.date ≤ stays.date := by
  obtain ⟨⟨lost, runs⟩, -⟩ := runs_history reliable limited_empty sound_initial reach
  have newest := runs.newest (fun gone mem => absurd mem (Multiset.notMem_zero gone))
    (fun old mem => absurd (zero_add (0 : Multiset SecEvent) ▸ mem) (Multiset.notMem_zero old))
    ordered
  rw [zero_add] at newest
  exact ⟨lost, (zero_add _).symm.trans runs.balance, newest⟩

theorem newest_events_are_kept_two_of_seven :
    ∃ lost : Multiset SecEvent,
      ↑((history (fun _ => some roomForOne) {} twoOfSeven).flatMap Retention.Operation.added) =
          lost + events (afterTwoOfSeven {}).store.table ∧
        ∀ gone ∈ lost, ∀ stays ∈ events (afterTwoOfSeven {}).store.table,
          stays.eventId = gone.eventId → gone.date ≤ stays.date :=
  newest_events_are_kept (fun _ => rfl) (Transition.run_eq_getD rfl) (by decide +kernel)

end EventLog

end SecurityGuard
