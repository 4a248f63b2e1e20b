import SecurityGuard.Store.Transaction

/-!
# Room that was made for nothing

The turn of an event removes old rows before it inserts the new one.  The insertion can fail by
itself, and the transaction around the batch is committed whatever its statements returned.
-/

namespace SecurityGuard

namespace DatabaseManager

open DatabaseHelper

variable (engine : Sql.Engine schema) (store : Sql.Store) (event : SecEvent) (quota : Nat)

/-- The turn of an event removed some rows of its id and added its row, or it did nothing. -/
def BothOrNeither : Prop :=
  let turn := storeEvent engine store event quota
  (turn.1 = .success ∧ ∃ (evicted : List Sql.Row) (row : Sql.Row),
      (∀ old ∈ evicted, old ∈ store.table.rows ∧ hasEventId event.eventId old = true) ∧
        Keeps row event ∧
        turn.2.table = (without store.table (evicted.map Sql.Row.id)).append row.cells) ∨
    turn.1 ≠ .success ∧ turn.2.table = store.table

/-- An insertion that fails costs no older row of the event id. -/
def KeepsOlder : Prop :=
  let turn := storeEvent engine store event quota
  turn.1 ≠ .success → ∀ row ∈ store.table.rows, hasEventId event.eventId row = true →
    row ∈ turn.2.table.rows

/-- The number of rows that the turn of an event learns of. -/
def answeredCount (eventId : Int) : Int :=
  if engine.failure store.executed = some 0 then 0
  else store.table.rows.countP (hasEventId eventId)

/-- Statements remove rows of an event id: the arguments are accepted, the first statement finds
a row, and the second one works. -/
structure Evicts (eventId count : Int) : Prop where
  positive : 0 < count
  known : 0 ≤ eventId
  small : count ≤ int32Max
  present : ∃ row ∈ store.table.rows, hasEventId eventId row = true
  found : engine.failure store.executed ≠ some 0
  works : engine.failure (store.executed + 1) = none

/-- The turn of an event removes rows, and its last statement fails. -/
structure Loses : Prop where
  full : quota ≤ answeredCount engine store event.eventId
  evicts : Evicts engine { store with executed := store.executed + 1 } event.eventId
    (answeredCount engine store event.eventId + 1 - quota)
  fails : (engine.failure (store.executed + 3)).isSome = true

variable {engine store event quota}

theorem countEventByEventId_eq (eventId : Int) :
    countEventByEventId engine store eventId =
      (answeredCount engine store eventId, { store with executed := store.executed + 1 }) := by
  rw [countEventByEventId, SgSqliteHelper.count, Sql.Engine.count, matching_ofEventId,
    answeredCount]
  split_ifs <;> rfl

theorem oldestRows_subset {eventId : Int} {count : Nat} {row : Sql.Row}
    (mem : row ∈ oldestRows engine store eventId count) :
    row ∈ store.table.rows ∧ hasEventId eventId row = true := by
  rw [oldestRows, Sql.Engine.select, matching_ofEventId] at mem
  have asked : row ∈ (engine.arrange store.executed (some { column := "date" })
      (store.table.rows.filter (hasEventId eventId))).take count := by
    cases failed : engine.failure store.executed with
    | none => simpa [failed] using mem
    | some rows =>
        rw [failed] at mem
        exact List.mem_of_mem_take mem
  exact List.mem_filter.mp ((engine.arrange_perm _ _ _).mem_iff.mp (List.mem_of_mem_take asked))

theorem oldestRows_eq_nil {eventId : Int} {count : Nat} (positive : 0 < count) :
    oldestRows engine store eventId count = [] ↔
      engine.failure store.executed = some 0 ∨
        ∀ row ∈ store.table.rows, ¬hasEventId eventId row = true := by
  have none_there : engine.arrange store.executed (some { column := "date" })
      (store.table.rows.filter (hasEventId eventId)) = [] ↔
      ∀ row ∈ store.table.rows, ¬hasEventId eventId row = true := by
    rw [← List.length_eq_zero_iff, (engine.arrange_perm _ _ _).length_eq,
      List.length_eq_zero_iff, List.filter_eq_nil_iff]
  rw [oldestRows, Sql.Engine.select, matching_ofEventId, ← none_there]
  cases failed : engine.failure store.executed with
  | none => simp [positive.ne']
  | some rows => simp [positive.ne']

/-- What a removal does once its arguments are accepted. -/
theorem deleteOldEventByEventId_eq {eventId count : Int} (positive : 0 < count)
    (known : 0 ≤ eventId) (small : count ≤ int32Max) :
    deleteOldEventByEventId engine store eventId count =
      let found := oldestRows engine store eventId count.toNat
      let next : Sql.Store := { store with executed := store.executed + 1 }
      if found = [] then (Code.success, next)
      else SgSqliteHelper.delete engine next
        (.put .empty ("id" ++ "_IN")
          (.string (String.intercalate "," ((found.map Sql.Row.id).map toString)))) := by
  have queried : SgSqliteHelper.query engine store (ofEventId eventId)
      { orderBy := some { column := "date" }, limit := count, columns := ["id"] } =
      (Code.success,
        (oldestRows engine store eventId count.toNat).map
          (SgSqliteHelper.executeRowData schema ["id"]),
        { store with executed := store.executed + 1 }) := by
    simp only [SgSqliteHelper.query, if_pos positive]
    rfl
  rw [deleteOldEventByEventId, if_neg (by omega), if_neg (by omega), queried]
  simp only [ne_eq, not_true_eq_false, false_or, List.map_eq_nil_iff, List.map_map,
    Function.comp_def, getInt64_executeRowData]

/-- Rows that are removed are rows of the event id, and there are some. -/
theorem deleteOldEventByEventId_of_evicts {eventId count : Int}
    (evicts : Evicts engine store eventId count) :
    ∃ evicted : List Sql.Row, evicted ≠ [] ∧
      (∀ old ∈ evicted, old ∈ store.table.rows ∧ hasEventId eventId old = true) ∧
        (deleteOldEventByEventId engine store eventId count).2 =
          { table := without store.table (evicted.map Sql.Row.id)
            executed := store.executed + 2 } := by
  have positive : 0 < count.toNat := by
    have := evicts.positive
    omega
  have some_found : oldestRows engine store eventId count.toNat ≠ [] := by
    rw [Ne, oldestRows_eq_nil positive]
    rintro (failed | missing)
    · exact evicts.found failed
    · obtain ⟨row, mem, named⟩ := evicts.present
      exact missing row mem named
  refine ⟨_, some_found, fun old mem => oldestRows_subset mem, ?_⟩
  rw [deleteOldEventByEventId_eq evicts.positive evicts.known evicts.small]
  simp only [if_neg some_found]
  rw [delete_ids_of_works evicts.works]

/-- Otherwise nothing is removed. -/
theorem deleteOldEventByEventId_of_not_evicts {eventId count : Int}
    (not_evicts : ¬Evicts engine store eventId count) :
    (deleteOldEventByEventId engine store eventId count).2.table = store.table := by
  by_cases accepted : 0 < count ∧ 0 ≤ eventId ∧ count ≤ int32Max
  · obtain ⟨positive, known, small⟩ := accepted
    rw [deleteOldEventByEventId_eq positive known small]
    by_cases nothing : oldestRows engine store eventId count.toNat = []
    · simp only [if_pos nothing]
    · simp only [if_neg nothing]
      have fails : (engine.failure (store.executed + 1)).isSome = true := by
        rw [Option.isSome_iff_ne_none]
        intro works
        rw [oldestRows_eq_nil (by omega), not_or] at nothing
        obtain ⟨found, present⟩ := nothing
        push Not at present
        exact not_evicts ⟨positive, known, small, present, found, works⟩
      rw [SgSqliteHelper.delete, Sql.Engine.delete_of_fails fails]
  · rw [deleteOldEventByEventId]
    split_ifs <;> first | rfl | omega

variable (engine store) in
/-- The table when the turn of an event comes to its insertion. -/
def madeRoom (eventId : Int) (quota : Nat) : Sql.Store :=
  let counted := countEventByEventId engine store eventId
  if quota ≤ counted.1 then
    (deleteOldEventByEventId engine counted.2 eventId (counted.1 + 1 - quota)).2
  else counted.2

variable (engine store) in
/-- The turn of an event removes rows. -/
def Removes (eventId : Int) (quota : Nat) : Prop :=
  quota ≤ answeredCount engine store eventId ∧
    Evicts engine { store with executed := store.executed + 1 } eventId
      (answeredCount engine store eventId + 1 - quota)

theorem madeRoom_of_removes {eventId : Int} (removes : Removes engine store eventId quota) :
    ∃ evicted : List Sql.Row, evicted ≠ [] ∧
      (∀ old ∈ evicted, old ∈ store.table.rows ∧ hasEventId eventId old = true) ∧
        madeRoom engine store eventId quota =
          { table := without store.table (evicted.map Sql.Row.id)
            executed := store.executed + 3 } := by
  obtain ⟨full, evicts⟩ := removes
  obtain ⟨evicted, some_evicted, own, removed⟩ := deleteOldEventByEventId_of_evicts evicts
  refine ⟨evicted, some_evicted, own, ?_⟩
  rw [madeRoom, countEventByEventId_eq]
  simp only [if_pos full, removed]

theorem madeRoom_of_not_removes {eventId : Int} (stays : ¬Removes engine store eventId quota) :
    (madeRoom engine store eventId quota).table = store.table := by
  rw [madeRoom, countEventByEventId_eq]
  by_cases full : quota ≤ answeredCount engine store eventId
  · have not_evicts := fun evicts => stays ⟨full, evicts⟩
    simp only [if_pos full, deleteOldEventByEventId_of_not_evicts not_evicts]
  · simp only [if_neg full]

/-- A turn adds its row to what the removal left, or fails and leaves that. -/
theorem storeEvent_cases (engine : Sql.Engine schema) (store : Sql.Store) (event : SecEvent)
    (quota : Nat) :
    let room := madeRoom engine store event.eventId quota
    (engine.failure room.executed = none ∧
      ∃ row : Sql.Row, Keeps row event ∧ storeEvent engine store event quota =
        (Code.success,
          { table := room.table.append row.cells, executed := room.executed + 1 })) ∨
      (engine.failure room.executed).isSome = true ∧
        storeEvent engine store event quota =
          (Code.failed, { room with executed := room.executed + 1 }) := by
  intro room
  cases failed : engine.failure room.executed with
  | none =>
      obtain ⟨row, keeps, -, inserted⟩ := insertEvent_of_works failed event
      exact .inl ⟨rfl, row, keeps, inserted⟩
  | some rows =>
      have fails : (engine.failure room.executed).isSome = true := by
        rw [failed, Option.isSome_some]
      exact .inr ⟨rfl, insertEvent_of_fails fails event⟩

/-- One turn is atomic exactly when it does not remove rows and then fail. -/
theorem bothOrNeither_iff :
    (BothOrNeither engine store event quota ∧ KeepsOlder engine store event quota) ↔
      ¬Loses engine store event quota := by
  by_cases removes : Removes engine store event.eventId quota
  · obtain ⟨evicted, some_evicted, own, room⟩ := madeRoom_of_removes removes
    have turn := storeEvent_cases engine store event quota
    simp only [room] at turn
    rcases turn with ⟨works, row, keeps, stored⟩ | ⟨fails, stored⟩
    · have atomic : BothOrNeither engine store event quota := by
        rw [BothOrNeither, stored]
        exact .inl ⟨rfl, evicted, row, own, keeps, rfl⟩
      have keepsOlder : KeepsOlder engine store event quota := by
        rw [KeepsOlder, stored]
        exact fun failed => absurd rfl failed
      refine iff_of_true ⟨atomic, keepsOlder⟩ fun loses => ?_
      have := loses.fails
      rw [works] at this
      exact absurd this (by simp)
    · refine iff_of_false ?_ (not_not.mpr ⟨removes.1, removes.2, fails⟩)
      rintro ⟨-, keepsOlder⟩
      rw [KeepsOlder, stored] at keepsOlder
      obtain ⟨old, mem⟩ := List.exists_mem_of_ne_nil evicted some_evicted
      have failed : Code.failed ≠ Code.success := by decide
      have kept := keepsOlder failed old (own old mem).1 (own old mem).2
      rw [without, Sql.Table.mem_restrict, decide_eq_true_iff] at kept
      exact kept.2 (List.mem_map_of_mem mem)
  · have room := madeRoom_of_not_removes removes
    have unchanged : without store.table [] = store.table :=
      Sql.Table.restrict_of_forall _ (by simp)
    have never : ¬Loses engine store event quota := fun loses =>
      removes ⟨loses.full, loses.evicts⟩
    refine iff_of_true ?_ never
    rcases storeEvent_cases engine store event quota with
      ⟨-, row, keeps, stored⟩ | ⟨-, stored⟩
    · rw [BothOrNeither, KeepsOlder, stored]
      refine ⟨.inl ⟨rfl, [], row, by simp, keeps, ?_⟩, fun failed => absurd rfl failed⟩
      simp only [room, List.map_nil, unchanged]
    · rw [BothOrNeither, KeepsOlder, stored]
      refine ⟨.inr ⟨(by decide : Code.failed ≠ Code.success), room⟩, fun _ row mem _ => ?_⟩
      rw [room]
      exact mem

variable {config : ConfigData} {source : Nat}

/-- The table after some events does not depend on the code so far. -/
theorem foldl_insertNext_store (state state' : Code × Sql.Store) (same : state.2 = state'.2)
    (events : List SecEvent) :
    (events.foldl (insertNext engine config source) state).2 =
      (events.foldl (insertNext engine config source) state').2 := by
  induction events generalizing state state' with
  | nil => exact same
  | cons event events ih =>
      refine ih _ _ ?_
      rcases insertNext_cases engine config source state event with
        ⟨kept, never⟩ | ⟨cfg, stored, turn⟩
      · rcases insertNext_cases engine config source state' event with
          ⟨kept', -⟩ | ⟨cfg, stored, -⟩
        · rw [kept, kept', same]
        · exact absurd stored (never cfg)
      · rcases insertNext_cases engine config source state' event with
          ⟨-, never⟩ | ⟨cfg', stored', turn'⟩
        · exact absurd stored (never cfg)
        · rw [turn, turn', stored.unique stored', same]

/-- The turn of an event comes between the ones before and the ones after it. -/
theorem insertEvent_split {front back : List SecEvent} {cfg : EventCfg}
    (stored : Stored config source event.eventId cfg) :
    (insertEvent engine config store source (front ++ event :: back)).2 =
      (insertEvent engine config
        (storeEvent engine (insertEvent engine config store source front).2 event
          cfg.storageRomNums).2 source back).2 := by
  have next : (insertNext engine config source (insertEvent engine config store source front)
      event).2 = (storeEvent engine (insertEvent engine config store source front).2 event
        cfg.storageRomNums).2 := by
    rcases insertNext_cases engine config source (insertEvent engine config store source front)
      event with ⟨-, never⟩ | ⟨cfg', stored', turn⟩
    · exact absurd stored (never cfg)
    · rw [turn, stored.unique stored']
  generalize (storeEvent engine (insertEvent engine config store source front).2 event
    cfg.storageRomNums).2 = turned at next ⊢
  calc
    _ = (back.foldl (insertNext engine config source) (insertNext engine config source
        (insertEvent engine config store source front) event)).2 := by
      rw [insertEvent, List.foldl_append, List.foldl_cons, ← insertEvent]
    _ = _ := foldl_insertNext_store _ (Code.success, turned) next back

end DatabaseManager

namespace Database

open DatabaseHelper DatabaseManager

variable (engine : Sql.Engine schema) (config : ConfigData) (source : Nat) (database : Database)
  (events : List SecEvent)

/-- The table that lasts: while a transaction is open, the one with which it began. -/
def committed : Sql.Table := database.began.getD database.store.table

/-- The table when the turn of an event begins after the turns of others. -/
def beforeTurn (front : List SecEvent) : Sql.Store :=
  (DatabaseManager.insertEvent engine config (database.beginTransactionEvent engine).store source
    front).2

/-- Every event of a batch has both or neither of its removal and its row in the table that later
events start from, and the last of these tables is committed. -/
def AtomicBatch : Prop :=
  ∀ front event back cfg, events = front ++ event :: back →
    Stored config source event.eventId cfg →
    let before := database.beforeTurn engine config source front
    BothOrNeither engine before event cfg.storageRomNums ∧
      KeepsOlder engine before event cfg.storageRomNums ∧
        (database.insertEvent engine config source events).2.committed =
          (DatabaseManager.insertEvent engine config
            (storeEvent engine before event cfg.storageRomNums).2 source back).2.table

/-- A COMMIT that succeeds makes the table last. -/
theorem committed_insertEvent
    (commits : ((database.beforeCommit engine config source events).2.commit engine).1 = .success) :
    (database.insertEvent engine config source events).2.committed =
      (database.beforeTurn engine config source events).table := by
  rw [commit] at commits
  rw [insertEvent, commitEvent, commit, committed]
  split_ifs at commits ⊢
  · exact absurd commits (by decide : generalError ≠ Code.success)
  · rfl

/-- A committed batch is atomic exactly when no turn of it removes rows and then fails. -/
theorem atomicBatch_iff
    (commits : ((database.beforeCommit engine config source events).2.commit engine).1 = .success) :
    AtomicBatch engine config source database events ↔
      ∀ front event back cfg, events = front ++ event :: back →
        Stored config source event.eventId cfg →
        ¬Loses engine (database.beforeTurn engine config source front) event
          cfg.storageRomNums := by
  constructor
  · intro atomic front event back cfg split stored
    obtain ⟨both, older, -⟩ := atomic front event back cfg split stored
    exact bothOrNeither_iff.mp ⟨both, older⟩
  · intro never front event back cfg split stored before
    obtain ⟨both, older⟩ := bothOrNeither_iff.mpr (never front event back cfg split stored)
    refine ⟨both, older, ?_⟩
    rw [committed_insertEvent engine config source database events commits, split, beforeTurn,
      insertEvent_split stored]
    rfl

theorem atomicBatch_iff_two_events :
    AtomicBatch (Sql.Engine.sequential schema) oneRowConfig userSource {}
      [{ eventId := 1, date := "1" }, { eventId := 1, date := "2" }] := by
  refine (atomicBatch_iff _ _ _ _ _ (by decide +kernel)).mpr ?_
  intro front event back cfg _ _ loses
  exact absurd loses.fails (by simp [Sql.Engine.sequential])

/-- The engine of which one statement fails. -/
def failingOnce (time : Nat) : Sql.Engine schema :=
  { Sql.Engine.sequential schema with
    failure := fun other => if other = time then some 0 else none }

/-- The second event of a batch loses the row of the first one and leaves none. -/
theorem failed_insertion_costs_a_row :
    let events : List SecEvent := [{ eventId := 1, date := "1" }, { eventId := 1, date := "2" }]
    let engine := failingOnce 6
    let database : Database := {}
    ((database.beforeCommit engine oneRowConfig userSource events).2.commit engine).1 = .success ∧
      (database.insertEvent engine oneRowConfig userSource events).2.committed.rows.length = 0 ∧
        (database.beforeTurn engine oneRowConfig userSource
          [{ eventId := 1, date := "1" }]).table.rows.length = 1 ∧
          ¬AtomicBatch engine oneRowConfig userSource database events := by
  intro events engine database
  refine ⟨by decide +kernel, by decide +kernel, by decide +kernel, fun atomic => ?_⟩
  have stored : Stored oneRowConfig userSource 1 oneRow := ⟨rfl, rfl, rfl⟩
  obtain ⟨-, older, -⟩ := atomic [{ eventId := 1, date := "1" }] { eventId := 1, date := "2" } []
    oneRow rfl stored
  have code : (storeEvent engine (database.beforeTurn engine oneRowConfig userSource
      [{ eventId := 1, date := "1" }]) { eventId := 1, date := "2" } oneRow.storageRomNums).1 ≠
      Code.success := by decide +kernel
  have lost : ¬∀ row ∈ (database.beforeTurn engine oneRowConfig userSource
      [{ eventId := 1, date := "1" }]).table.rows, hasEventId 1 row = true →
      ∃ kept ∈ (storeEvent engine (database.beforeTurn engine oneRowConfig userSource
        [{ eventId := 1, date := "1" }]) { eventId := 1, date := "2" }
          oneRow.storageRomNums).2.table.rows, kept.id = row.id := by decide +kernel
  exact lost fun row mem named => ⟨row, older code row mem named, rfl⟩

end Database

end SecurityGuard
