import SecurityGuard.Store.Eviction

/-!
# How a scan ends

`Query` steps through a statement until a step returns no row, and does not look at what the step
returned instead.  A statement that could not be prepared ends at its first step in the same way.
-/

namespace SecurityGuard

namespace Sqlite

def row : Int := 100

/-- `SQLITE_DONE`. -/
def done : Int := 101
def busy : Int := 5
def misuse : Int := 21

end Sqlite

namespace Statement

/-- What a step of a statement answers. -/
inductive State where
  | unknown
  | busy
  | row
  | done
  | misuse
  deriving DecidableEq

/-- `Step`, on the result of `sqlite3_step`. -/
def step (ret : Int) : State :=
  if ret = Sqlite.row then .row
  else if ret = Sqlite.done then .done
  else if ret = Sqlite.busy then .busy
  else if ret = Sqlite.misuse then .misuse
  else .unknown

end Statement

/-- What the calls of `sqlite3_step` on one statement return, up to the first one without a
row. -/
inductive Steps where
  | row (data : Sql.Row) (later : Steps)
  | ends (ret : Int) (last : Statement.step ret ≠ .row)

namespace Steps

/-- The rows that the loop of `Query` fetches. -/
def fetch : Steps → List Sql.Row
  | row data later => data :: later.fetch
  | ends _ _ => []

/-- The result with which the loop of `Query` ends. -/
def final : Steps → Int
  | row _ later => later.final
  | ends ret _ => ret

/-- Some rows and the result after them. -/
def after (ret : Int) (last : Statement.step ret ≠ .row) : List Sql.Row → Steps
  | [] => ends ret last
  | data :: later => row data (after ret last later)

@[simp]
theorem fetch_after {ret : Int} (last : Statement.step ret ≠ .row) (rows : List Sql.Row) :
    (after ret last rows).fetch = rows := by
  induction rows with
  | nil => rfl
  | cons data later ih => rw [after, fetch, ih]

@[simp]
theorem final_after {ret : Int} (last : Statement.step ret ≠ .row) (rows : List Sql.Row) :
    (after ret last rows).final = ret := by
  induction rows with
  | nil => rfl
  | cons data later ih => rw [after, final, ih]

/-- The rows and the final result are all that there is to the steps. -/
theorem eq_after {steps : Steps} {ret : Int} (ended : steps.final = ret) :
    ∃ last, steps = after ret last steps.fetch := by
  induction steps with
  | row data later ih =>
      obtain ⟨last, same⟩ := ih ended
      exact ⟨last, congrArg (row data) same⟩
  | ends code last =>
      subst ended
      exact ⟨last, rfl⟩

end Steps

/-- The results of `prepare` and of the steps of one statement. -/
structure Scan where
  prepared : Bool
  steps : Steps

namespace Scan

variable (scan : Scan) (read : Sql.Row → GenericValues)

/-- A statement that was not prepared is null, and a step of it is a misuse. -/
def results : Steps :=
  if scan.prepared then scan.steps else .ends Sqlite.misuse (by decide)

/-- What `Query` returns for a scan. -/
def query : Code × List GenericValues := (Code.success, scan.results.fetch.map read)

/-- A scan was prepared and has returned every row. -/
def Completed : Prop := scan.prepared = true ∧ scan.steps.final = Sqlite.done

instance : Decidable scan.Completed := inferInstanceAs (Decidable (_ ∧ _))

/-- A successful query has the rows of a scan that ended with DONE. -/
def Answers : Prop :=
  (scan.query read).1 = .success →
    ∃ rows last, scan.prepared = true ∧ scan.steps = Steps.after Sqlite.done last rows ∧
      (scan.query read).2 = rows.map read

variable {scan read}

theorem answers_iff : scan.Answers read ↔ scan.Completed := by
  constructor
  · intro answers
    obtain ⟨rows, last, prepared, same, -⟩ := answers rfl
    exact ⟨prepared, by rw [same, Steps.final_after]⟩
  · rintro ⟨prepared, ended⟩ -
    obtain ⟨last, same⟩ := Steps.eq_after ended
    refine ⟨_, last, prepared, same, ?_⟩
    rw [query, results, if_pos prepared]

end Scan

/-- How a statement goes wrong: it is not prepared, or a step returns a code for an error. -/
structure Trouble where
  unprepared : Bool
  ret : Int
  last : Statement.step ret ≠ .row
  undone : ret ≠ Sqlite.done

/-- The results for a statement of an engine.  Without a row the trouble may be one of
`prepare`. -/
def scanOf {schema : Sql.Schema} (engine : Sql.Engine schema) (store : Sql.Store)
    (trouble : Trouble) (conditions : GenericValues) (options : QueryOptions) : Scan :=
  let rows := (engine.select store (SgSqliteHelper.prepareBoundStateStmt conditions)
    { conditions := SgSqliteHelper.buildWhereClause conditions
      order := options.orderBy
      limit := if 0 < options.limit then some options.limit.toNat else none }).1
  match engine.failure store.executed with
  | none => { prepared := true, steps := .after Sqlite.done (by decide) rows }
  | some _ =>
      { prepared := !(trouble.unprepared && rows.isEmpty)
        steps := .after trouble.ret trouble.last rows }

section Engine

variable {schema : Sql.Schema} (engine : Sql.Engine schema) (store : Sql.Store)
  (trouble : Trouble) (conditions : GenericValues) (options : QueryOptions)

theorem fetch_scanOf :
    (scanOf engine store trouble conditions options).results.fetch =
      (engine.select store (SgSqliteHelper.prepareBoundStateStmt conditions)
        { conditions := SgSqliteHelper.buildWhereClause conditions
          order := options.orderBy
          limit := if 0 < options.limit then some options.limit.toNat else none }).1 := by
  rw [scanOf]
  cases engine.failure store.executed with
  | none => simp [Scan.results]
  | some returned =>
      dsimp only
      cases trouble.unprepared with
      | false => simp [Scan.results]
      | true =>
          generalize (engine.select store _ _).1 = rows
          cases rows with
          | nil => rfl
          | cons first later => simp [Scan.results]

theorem query_eq_scan :
    (SgSqliteHelper.query engine store conditions options).2.1 =
        ((scanOf engine store trouble conditions options).query
          (SgSqliteHelper.executeRowData schema
            (if options.columns = [] then schema.key :: schema.columns.map Prod.fst
            else options.columns))).2 ∧
      (SgSqliteHelper.query engine store conditions options).1 =
        ((scanOf engine store trouble conditions options).query
          (SgSqliteHelper.executeRowData schema
            (if options.columns = [] then schema.key :: schema.columns.map Prod.fst
            else options.columns))).1 := by
  refine ⟨?_, rfl⟩
  rw [Scan.query, fetch_scanOf]
  rfl

end Engine

namespace DatabaseHelper

open DatabaseManager (rowEvent)

variable (engine : Sql.Engine schema) (store : Sql.Store) (trouble : Trouble)

/-- A successful answer has the events of a scan that ended with DONE. -/
def AnsweredBy (scan : Scan) (answer : Code × List SecEvent × Sql.Store) : Prop :=
  answer.1 = .success → scan.Completed ∧ answer.2.1 = scan.steps.fetch.map rowEvent

/-- Ask for the row with the greatest value of a column. -/
def newest (column : String) : QueryOptions :=
  { orderBy := some { column, descending := true }, limit := 1 }

/-- The event that a successful search for the most recent one returns is the first of a scan that
ended with DONE. -/
def RecentBy (scan : Scan) (answer : Code × SecEvent × Sql.Store) : Prop :=
  answer.1 = .success → scan.Completed ∧ scan.steps.fetch.head?.map rowEvent = some answer.2.1

/-- The arguments of `DeleteOldEventByEventId` are accepted. -/
def Accepted (eventId count : Int) : Prop := 0 < count ∧ 0 ≤ eventId ∧ count ≤ int32Max

/-- Ask for the ids of the oldest rows. -/
def oldest (count : Int) : QueryOptions :=
  { orderBy := some { column := "date" }, limit := count, columns := ["id"] }

/-- A removal whose scan failed reports it and executes nothing after it. -/
def StoppedBy (scan : Scan) (eventId count : Int) (removal : Code × Sql.Store) : Prop :=
  Accepted eventId count → ¬scan.Completed →
    removal.1 ≠ .success ∧ removal.2.executed = store.executed + 1

variable {engine store trouble}

theorem queryEventBase_eq_scan (trouble : Trouble) (conditions : GenericValues)
    (options : QueryOptions) :
    queryEventBase engine store conditions options =
      (Code.success,
        (scanOf engine store trouble conditions options).results.fetch.map rowEvent,
        { store with executed := store.executed + 1 }) := by
  rw [fetch_scanOf]
  simp [queryEventBase, SgSqliteHelper.query, rowEvent, Function.comp_def, Sql.Engine.select]

theorem answeredBy_queryEventBase {conditions : GenericValues} {options : QueryOptions} :
    AnsweredBy (scanOf engine store trouble conditions options)
        (queryEventBase engine store conditions options) ↔
      (scanOf engine store trouble conditions options).Completed := by
  rw [queryEventBase_eq_scan trouble]
  constructor
  · intro answered
    exact (answered rfl).1
  · intro completed _
    refine ⟨completed, ?_⟩
    rw [Scan.results, if_pos completed.1]

theorem recentBy_iff (eventId : Int) (event : SecEvent) :
    let scan := scanOf engine store trouble (ofEventId eventId) (newest "id")
    RecentBy scan (queryRecentEventByEventId engine store eventId event) ↔
      scan.Completed ∨ scan.results.fetch = [] := by
  intro scan
  have base : queryEventBase engine store (ofEventId eventId) (newest "id") =
      (Code.success, scan.results.fetch.map rowEvent,
        { store with executed := store.executed + 1 }) :=
    queryEventBase_eq_scan trouble (ofEventId eventId) (newest "id")
  rw [newest] at base
  rw [RecentBy, queryRecentEventByEventId, base]
  cases fetched : scan.results.fetch with
  | nil => simp [Code.failed, Code.success]
  | cons first later =>
      have complete : scan.Completed → scan.steps.fetch = first :: later := by
        intro completed
        rw [← fetched, Scan.results, if_pos completed.1]
      simp only [List.map_cons, if_true, true_imp_iff, reduceCtorEq, or_false]
      constructor
      · exact fun answered => answered.1
      · intro completed
        rw [complete completed]
        exact ⟨completed, rfl⟩

theorem stoppedBy_iff (eventId count : Int) :
    let scan := scanOf engine store trouble (ofEventId eventId) (oldest count)
    StoppedBy store scan eventId count (deleteOldEventByEventId engine store eventId count) ↔
      ¬Accepted eventId count ∨ scan.Completed := by
  intro scan
  constructor
  · intro stopped
    by_contra wrong
    rw [not_or, not_not] at wrong
    obtain ⟨accepted, incomplete⟩ := wrong
    obtain ⟨reported, executed⟩ := stopped accepted incomplete
    rw [DatabaseManager.deleteOldEventByEventId_eq accepted.1 accepted.2.1 accepted.2.2]
      at reported executed
    -- with no row the removal is a success, with some it goes on to DELETE
    by_cases nothing : oldestRows engine store eventId count.toNat = []
    · simp only [if_pos nothing] at reported
      exact reported rfl
    · simp only [if_neg nothing, SgSqliteHelper.delete, Sql.Engine.delete] at executed
      split_ifs at executed <;> exact absurd executed (by simp)
  · rintro (refused | completed) accepted incomplete
    · exact absurd accepted refused
    · exact absurd completed incomplete

/-- A query, and each caller of it, reports a scan that failed exactly when there is none to
report: when the scan ended with DONE, when the arguments were refused, or, for the most recent
event of one id, when there was no row before the failure. -/
theorem failures_reported_iff (scan : Scan) (read : Sql.Row → GenericValues)
    (engine : Sql.Engine schema) (store : Sql.Store) (trouble : Trouble) (eventId count : Int)
    (eventIds : List Int) (event : SecEvent) :
    (scan.Answers read ↔ scan.Completed) ∧
      (AnsweredBy (scanOf engine store trouble (ofEventId eventId) {})
          (queryEventByEventId engine store eventId) ↔
        (scanOf engine store trouble (ofEventId eventId) {}).Completed) ∧
      (AnsweredBy (scanOf engine store trouble (ofEventIds eventIds) {})
          (queryEventByEventIds engine store eventIds) ↔
        eventIds = [] ∨ (scanOf engine store trouble (ofEventIds eventIds) {}).Completed) ∧
      (RecentBy (scanOf engine store trouble (ofEventId eventId) (newest "id"))
          (queryRecentEventByEventId engine store eventId event) ↔
        (scanOf engine store trouble (ofEventId eventId) (newest "id")).Completed ∨
          (scanOf engine store trouble (ofEventId eventId) (newest "id")).results.fetch = []) ∧
      (AnsweredBy (scanOf engine store trouble (ofEventIds eventIds) (newest "date"))
          (queryRecentEventByEventIds engine store eventIds) ↔
        eventIds = [] ∨
          (scanOf engine store trouble (ofEventIds eventIds) (newest "date")).Completed) ∧
      (StoppedBy store (scanOf engine store trouble (ofEventId eventId) (oldest count)) eventId
          count (deleteOldEventByEventId engine store eventId count) ↔
        ¬Accepted eventId count ∨
          (scanOf engine store trouble (ofEventId eventId) (oldest count)).Completed) := by
  refine ⟨Scan.answers_iff, answeredBy_queryEventBase, ?_, recentBy_iff eventId event, ?_,
    stoppedBy_iff eventId count⟩
  · by_cases empty : eventIds = []
    · simp [queryEventByEventIds, empty, AnsweredBy, Code.badParam, Code.success]
    · rw [queryEventByEventIds, if_neg empty, answeredBy_queryEventBase]
      simp [empty]
  · have base : queryEventBase engine store (ofEventIds eventIds) (newest "date") = _ :=
      queryEventBase_eq_scan trouble (ofEventIds eventIds) (newest "date")
    by_cases empty : eventIds = []
    · simp [queryRecentEventByEventIds, empty, AnsweredBy, Code.failed, Code.success]
    · have whole : queryRecentEventByEventIds engine store eventIds =
          queryEventBase engine store (ofEventIds eventIds) (newest "date") := by
        rw [queryRecentEventByEventIds, if_neg empty, ← newest, base]
        rfl
      rw [whole, answeredBy_queryEventBase]
      simp [empty]

/-- A table that is busy, and one whose only row is not returned, look like empty ones. -/
theorem busy_table_looks_empty :
    let busy : Scan := { prepared := true, steps := .ends Sqlite.busy (by decide) }
    let trouble : Trouble :=
      { unprepared := false, ret := Sqlite.busy, last := by decide, undone := by decide }
    let engine := Database.failingOnce 1
    let store := (insertEvent engine {} { eventId := 1 }).2
    busy.query (SgSqliteHelper.executeRowData schema ["id"]) = (Code.success, []) ∧
      ¬busy.Answers (SgSqliteHelper.executeRowData schema ["id"]) ∧
        store.table.rows.length = 1 ∧
          (queryEventByEventId engine store 1).1 = .success ∧
            (queryEventByEventId engine store 1).2.1 = [] ∧
              ¬AnsweredBy (scanOf engine store trouble (ofEventId 1) {})
                (queryEventByEventId engine store 1) := by
  intro busy trouble engine store
  refine ⟨rfl, ?_, by decide +kernel, by decide +kernel, by decide +kernel, ?_⟩
  · intro answers
    exact absurd (Scan.answers_iff.mp answers).2 (by decide)
  · intro answered
    exact absurd (answeredBy_queryEventBase.mp answered) (by decide +kernel)

end DatabaseHelper

end SecurityGuard
