import SecurityGuard.ConfigData
import SecurityGuard.Foundation.SqlGrammar
import SecurityGuard.Store.DatabaseHelper

/-!
# The texts of the statements

`SgSqliteHelper` writes every statement as a text that the engine prepares.  Under names that are
names, whatever the values are, each text is read as the statement that the model executes: no
value is part of a text.
-/

namespace SecurityGuard

namespace SqlText

open SgSqliteHelper

/-- Join the items with a delimiter. -/
def join (items : List String) (delimiter : String) : String := delimiter.intercalate items

/-- The text of an `INSERT`, empty without columns. -/
def buildInsertSql (table : String) (values : GenericValues) : String :=
  let keys := values.getAllKeys
  if keys = [] then ""
  else
    " INSERT INTO " ++ table ++ " (" ++ join keys "," ++ ") VALUES (" ++
      join (keys.map (":" ++ ·)) "," ++ ")"

/-- The parameters of an `IN` list. -/
def buildInPlaceholders (key values : String) : String :=
  join ((SgSqliteHelper.buildInPlaceholders key values).map (":" ++ ·)) ","

/-- The clause for one condition. -/
def clause (key : String) (value : VariantValue) : String :=
  match operators.find? (endWith key) with
  | none => key ++ " = :" ++ key
  | some ending =>
      let field := String.ofList (key.toList.take (key.length - ending.length))
      if ending = "_IN" then field ++ " IN (" ++ buildInPlaceholders key value.getString ++ ")"
      else if ending = "_GE" then field ++ " >= :" ++ key
      else if ending = "_LT" then field ++ " < :" ++ key
      else field ++ " LIKE :" ++ key

/-- The conditions, joined by `AND`. -/
def buildWhereClause (conditions : GenericValues) : String :=
  join (conditions.getAllKeys.map fun key => clause key (conditions.get key)) " AND "

/-- What the clauses add to a statement. -/
def whereText (conditions : GenericValues) : String :=
  if buildWhereClause conditions = "" then "" else " WHERE " ++ buildWhereClause conditions

/-- An order as it is written in the options of a query. -/
def orderBy (order : Sql.Order) : String :=
  order.column ++ if order.descending then " DESC" else " ASC"

def orderText : Option Sql.Order → String
  | none => ""
  | some order => " ORDER BY " ++ orderBy order

def limitText (limit : Int) : String := if 0 < limit then " LIMIT " ++ toString limit else ""

/-- The text of a `SELECT`. -/
def buildSelectSql (table : String) (conditions : GenericValues) (options : QueryOptions) :
    String :=
  let columns := if options.columns = [] then "*" else join options.columns ", "
  "SELECT " ++ columns ++ " FROM " ++ table ++ whereText conditions ++ orderText options.orderBy ++
    limitText options.limit

/-- The text of a `SELECT COUNT`. -/
def buildCountSql (table : String) (conditions : GenericValues) : String :=
  "SELECT COUNT(*) FROM " ++ table ++ whereText conditions

/-- The text of a `DELETE`. -/
def buildDeleteSql (table : String) (conditions : GenericValues) : String :=
  "DELETE FROM " ++ table ++ whereText conditions

section Run

variable {schema : Sql.Schema} (engine : Sql.Engine schema) (store : Sql.Store) (table : String)

/-- Insert a row by its text. -/
def insert (values : GenericValues) : Code × Sql.Store :=
  if table = "" ∨ values.getAllKeys = [] then (Code.failed, store)
  else if buildInsertSql table values = "" then (Code.failed, store)
  else
    let step := engine.run table store (bindValues values values.getAllKeys)
      (buildInsertSql table values)
    match step.1 with
    | .done true => (Code.success, step.2)
    | _ => (Code.failed, step.2)

/-- Delete rows by the text. -/
def delete (conditions : GenericValues) : Code × Sql.Store :=
  let step := engine.run table store (prepareBoundStateStmt conditions)
    (buildDeleteSql table conditions)
  match step.1 with
  | .done true => (Code.success, step.2)
  | _ => (Code.failed, step.2)

/-- Count rows by the text. -/
def count (conditions : GenericValues) : Option Nat × Sql.Store :=
  let step := engine.run table store (prepareBoundStateStmt conditions)
    (buildCountSql table conditions)
  match step.1 with
  | .number number => (number, step.2)
  | _ => (none, step.2)

/-- A query succeeds also where the engine refuses its text. -/
def query (conditions : GenericValues) (options : QueryOptions) :
    Code × List GenericValues × Sql.Store :=
  if buildSelectSql table conditions options = "" then (Code.failed, [], store)
  else
    let step := engine.run table store (prepareBoundStateStmt conditions)
      (buildSelectSql table conditions options)
    match step.1 with
    | .rows columns rows => (Code.success, rows.map (executeRowData schema columns), step.2)
    | _ => (Code.success, [], step.2)

end Run

open Sql (Token Lexes LexesFreely Opens IsName between)

theorem isName_repr (number : ℕ) : IsName number.repr := by
  refine ⟨by simp, List.all_eq_true.mpr fun character mem => ?_⟩
  have digit : character ∈ Nat.toDigits 10 number := Nat.toList_repr ▸ mem
  have := Nat.isDigit_of_mem_toDigits (by omega) (by omega) digit
  simp [Sql.isNameChar, Char.isAlphanum, this]

theorem isName_itemParameter {key : String} (named : IsName key) (position : ℕ) :
    IsName (itemParameter key position) := by
  refine ⟨by simp [itemParameter], List.all_eq_true.mpr fun character mem => ?_⟩
  simp only [itemParameter, String.toList_append, List.mem_append] at mem
  rcases mem with (mem | mem) | mem
  · exact named.isNameChar mem
  · rw [List.mem_singleton.mp mem]
    rfl
  · exact (isName_repr position).isNameChar mem

theorem lexes_parameter {name : String} (named : IsName name) :
    Lexes (":" ++ name) (Sql.parameterTokens name) :=
  have colon : LexesFreely ":" [.mark ':'] := fun _ => rfl
  colon.append (Sql.lexes_name named)

theorem lexes_parameters {names : List String} (named : ∀ name ∈ names, IsName name) :
    Lexes (join (names.map (":" ++ ·)) ",")
      (between [.mark ','] (names.map Sql.parameterTokens)) :=
  have comma : LexesFreely "," [.mark ','] := fun _ => rfl
  Sql.lexes_join comma (Sql.separated_cons rfl ·) fun name mem => lexes_parameter (named name mem)

theorem lexes_names {names : List String} (named : ∀ name ∈ names, IsName name)
    {separator : String} (comma : LexesFreely separator [.mark ','])
    (opens : ∀ rest, Sql.Separated (separator.toList ++ rest)) :
    Lexes (join names separator) (between [.mark ','] (names.map Sql.nameTokens)) := by
  have lexes := Sql.lexes_join comma opens fun name mem => Sql.lexes_name (named name mem)
  rw [List.map_id'] at lexes
  exact lexes

theorem lexes_compare {field key sign : String} {operator : Sql.Operator} (column : IsName field)
    (named : IsName key) (signs : LexesFreely sign (operator.tokens ++ [.mark ':']))
    (opens : ∀ rest, Sql.Separated (sign.toList ++ rest)) :
    Lexes (field ++ sign ++ key) (Sql.Condition.compare field operator key).tokens := by
  have lexes := ((Sql.lexes_name column).append_free signs opens).append (Sql.lexes_name named)
  rw [List.append_assoc, List.append_assoc] at lexes
  exact lexes

theorem lexes_isIn {field : String} {names : List String} (column : IsName field)
    (named : ∀ name ∈ names, IsName name) :
    Lexes (field ++ " IN (" ++ join (names.map (":" ++ ·)) "," ++ ")")
      (Sql.Condition.isIn field names).tokens := by
  have opening : LexesFreely " IN (" [.name "IN", .mark '('] := fun _ => rfl
  have closing : LexesFreely ")" [.mark ')'] := fun _ => rfl
  have lexes := (((Sql.lexes_name column).append_free opening (Sql.separated_cons rfl ·)).append
    (lexes_parameters named)).append_free closing (Sql.separated_cons rfl ·)
  exact lexes.lexes

/-- A clause is read as its condition. -/
theorem lexes_clause {key : String} {value : VariantValue} (named : IsName key)
    (column : IsName (buildCondition key value).column) :
    Lexes (clause key value) (buildCondition key value).tokens := by
  rw [clause]
  rw [buildCondition] at column ⊢
  generalize operators.find? (endWith key) = found at column ⊢
  cases found with
  | none => exact lexes_compare column named (fun _ => rfl) (Sql.separated_cons rfl ·)
  | some ending =>
      dsimp only at column ⊢
      split_ifs at column ⊢
      · refine lexes_isIn column fun name mem => ?_
        obtain ⟨position, -, rfl⟩ := List.mem_map.mp mem
        exact isName_itemParameter named position
      · exact lexes_compare column named (fun _ => rfl) (Sql.separated_cons rfl ·)
      · exact lexes_compare column named (fun _ => rfl) (Sql.separated_cons rfl ·)
      · exact lexes_compare column named (fun _ => rfl) (Sql.separated_cons rfl ·)

theorem column_buildCondition (key : String) (value : VariantValue) :
    (buildCondition key value).column = (buildCondition key .null).column := by
  rw [buildCondition, buildCondition]
  cases operators.find? (endWith key) with
  | none => rfl
  | some ending =>
      dsimp only
      split_ifs <;> rfl

/-- The key is a name, and so is the column that its condition is about. -/
def NamedKey (key : String) : Prop := IsName key ∧ IsName (buildCondition key .null).column

instance : DecidablePred NamedKey := fun _ => inferInstanceAs (Decidable (_ ∧ _))

/-- Every condition has a name that the text can carry. -/
def Named (conditions : GenericValues) : Prop := ∀ key ∈ conditions.getAllKeys, NamedKey key

theorem named_empty : Named .empty := fun _ mem => absurd mem List.not_mem_nil

theorem Named.put {conditions : GenericValues} (named : Named conditions) {key : String}
    (new : NamedKey key) (value : VariantValue) : Named (conditions.put key value) := by
  intro other mem
  by_cases same : other = key
  · exact same ▸ new
  · refine named other ?_
    rw [GenericValues.getAllKeys, SortedMap.mem_keys_iff, SortedMap.contains] at mem ⊢
    rwa [GenericValues.get?_put, if_neg same] at mem

theorem lexes_whereClause {conditions : GenericValues} (named : Named conditions) :
    Lexes (buildWhereClause conditions) (between [.name "AND"]
      ((SgSqliteHelper.buildWhereClause conditions).map Sql.Condition.tokens)) := by
  have conjunction : LexesFreely " AND " [.name "AND"] := fun _ => rfl
  have lexes := Sql.lexes_join conjunction (Sql.separated_cons rfl ·) fun key mem =>
    lexes_clause (named key mem).1
      ((column_buildCondition key (conditions.get key)).symm ▸ (named key mem).2)
  rw [SgSqliteHelper.buildWhereClause, List.map_map]
  exact lexes

theorem lexes_whereText {conditions : GenericValues} (named : Named conditions) :
    Lexes (whereText conditions)
      (Sql.whereTokens (SgSqliteHelper.buildWhereClause conditions)) := by
  have lexes := lexes_whereClause named
  rw [whereText, Sql.whereTokens]
  by_cases nothing : SgSqliteHelper.buildWhereClause conditions = []
  · have empty : buildWhereClause conditions = "" := by
      rw [buildWhereClause, List.map_eq_nil_iff.mp nothing]
      rfl
    rw [if_pos nothing, if_pos empty]
    exact Sql.lexes_empty.lexes
  · have filled : buildWhereClause conditions ≠ "" := by
      intro empty
      have some := Sql.length_between (.name "AND") fun condition
        (_ : condition ∈ SgSqliteHelper.buildWhereClause conditions) => condition.tokens_ne_nil
      rw [← lexes.whole, empty] at some
      exact nothing (List.eq_nil_of_length_eq_zero (Nat.le_zero.mp some))
    have keyword : LexesFreely " WHERE " [.name "WHERE"] := fun _ => rfl
    rw [if_neg nothing, if_neg filled]
    exact keyword.append lexes

theorem opens_blank (text : String) : Opens (" " ++ text) := fun rest _ => by
  rw [String.toList_append]
  exact Sql.separated_cons rfl _

theorem opens_whereText (conditions : GenericValues) : Opens (whereText conditions) := by
  rw [whereText]
  split_ifs
  · exact Sql.opens_empty
  · exact opens_blank ("WHERE " ++ buildWhereClause conditions)

theorem lexes_direction (descending : Bool) :
    Lexes (if descending then " DESC" else " ASC") (Sql.directionTokens descending) := by
  have blank : LexesFreely " " [] := fun _ => rfl
  cases descending with
  | false => exact blank.append (Sql.lexes_name (by decide : IsName "ASC"))
  | true => exact blank.append (Sql.lexes_name (by decide : IsName "DESC"))

theorem opens_direction (descending : Bool) : Opens (if descending then " DESC" else " ASC") := by
  cases descending with
  | false => exact opens_blank "ASC"
  | true => exact opens_blank "DESC"

theorem lexes_orderText {order : Option Sql.Order} (named : ∀ o ∈ order, IsName o.column) :
    Lexes (orderText order) (Sql.orderTokens order) := by
  cases order with
  | none => exact Sql.lexes_empty.lexes
  | some order =>
      have keywords : LexesFreely " ORDER BY " [.name "ORDER", .name "BY"] := fun _ => rfl
      exact keywords.append ((Sql.lexes_name (named order rfl)).append
        (lexes_direction order.descending) (opens_direction order.descending))

theorem opens_orderText (order : Option Sql.Order) : Opens (orderText order) := by
  cases order with
  | none => exact Sql.opens_empty
  | some order => exact opens_blank ("ORDER BY " ++ orderBy order)

/-- The limit of a query, if it has one. -/
def limitOf (limit : Int) : Option ℕ := if 0 < limit then some limit.toNat else none

theorem lexes_limitText (limit : Int) :
    Lexes (limitText limit) (Sql.limitTokens (limitOf limit)) := by
  rw [limitText, limitOf]
  split_ifs with positive
  · obtain ⟨number, rfl⟩ := Int.eq_ofNat_of_zero_le positive.le
    have keyword : LexesFreely " LIMIT " [.name "LIMIT"] := fun _ => rfl
    exact keyword.append (Sql.lexes_name (isName_repr number))
  · exact Sql.lexes_empty.lexes

theorem opens_limitText (limit : Int) : Opens (limitText limit) := by
  rw [limitText]
  split_ifs
  · exact opens_blank ("LIMIT " ++ toString limit)
  · exact Sql.opens_empty

theorem lexes_buildInsertSql {table : String} {values : GenericValues} (named : IsName table)
    (columns : ∀ key ∈ values.getAllKeys, IsName key) (filled : values.getAllKeys ≠ []) :
    Lexes (buildInsertSql table values)
      (Sql.Statement.insert table (values.getAllKeys.map fun key => (key, key))).tokens := by
  have first : LexesFreely " INSERT INTO " [.name "INSERT", .name "INTO"] := fun _ => rfl
  have second : LexesFreely " (" [.mark '('] := fun _ => rfl
  have comma : LexesFreely "," [.mark ','] := fun _ => rfl
  have third : LexesFreely ") VALUES (" [.mark ')', .name "VALUES", .mark '('] := fun _ => rfl
  have fourth : LexesFreely ")" [.mark ')'] := fun _ => rfl
  have lexes := (((((first.append (Sql.lexes_name named)).append_free second
    (Sql.separated_cons rfl ·)).append
      (lexes_names columns comma (Sql.separated_cons rfl ·))).append_free third
        (Sql.separated_cons rfl ·)).append (lexes_parameters columns)).append_free fourth
          (Sql.separated_cons rfl ·)
  have paired : (values.getAllKeys.map fun key => (key, key)).map Prod.fst = values.getAllKeys ∧
      (values.getAllKeys.map fun key => (key, key)).map Prod.snd = values.getAllKeys := by
    simp [Function.comp_def]
  rw [buildInsertSql, if_neg filled, Sql.Statement.tokens, paired.1, paired.2]
  simpa only [List.append_assoc, List.cons_append, List.nil_append] using lexes.lexes

theorem lexes_buildSelectSql {table : String} {conditions : GenericValues} {options : QueryOptions}
    (named : IsName table) (keys : Named conditions)
    (columns : ∀ column ∈ options.columns, IsName column)
    (order : ∀ order ∈ options.orderBy, IsName order.column) :
    Lexes (buildSelectSql table conditions options)
      (Sql.Statement.select table options.columns
        { conditions := SgSqliteHelper.buildWhereClause conditions
          order := options.orderBy
          limit := limitOf options.limit }).tokens := by
  have first : LexesFreely "SELECT " [.name "SELECT"] := fun _ => rfl
  have listed : Lexes (if options.columns = [] then "*" else join options.columns ", ")
      (Sql.columnTokens options.columns) := by
    rw [Sql.columnTokens]
    split_ifs
    · exact fun _ _ => rfl
    · have comma : LexesFreely ", " [.mark ','] := fun _ => rfl
      exact lexes_names columns comma (Sql.separated_cons rfl ·)
  have second : LexesFreely " FROM " [.name "FROM"] := fun _ => rfl
  have lexes := ((((first.append listed).append_free second (Sql.separated_cons rfl ·)).append
    (Sql.lexes_name named)).append (lexes_whereText keys) (opens_whereText conditions)).append
      (lexes_orderText order) (opens_orderText options.orderBy)
  have whole := lexes.append (lexes_limitText options.limit) (opens_limitText options.limit)
  rw [buildSelectSql, Sql.Statement.tokens]
  simpa only [List.append_assoc, List.cons_append, List.nil_append] using whole

theorem lexes_buildCountSql {table : String} {conditions : GenericValues} (named : IsName table)
    (keys : Named conditions) :
    Lexes (buildCountSql table conditions)
      (Sql.Statement.count table (SgSqliteHelper.buildWhereClause conditions)).tokens := by
  have first : LexesFreely "SELECT COUNT(*) FROM "
      [.name "SELECT", .name "COUNT", .mark '(', .mark '*', .mark ')', .name "FROM"] :=
    fun _ => rfl
  exact (first.append (Sql.lexes_name named)).append (lexes_whereText keys)
    (opens_whereText conditions)

theorem lexes_buildDeleteSql {table : String} {conditions : GenericValues} (named : IsName table)
    (keys : Named conditions) :
    Lexes (buildDeleteSql table conditions)
      (Sql.Statement.delete table (SgSqliteHelper.buildWhereClause conditions)).tokens := by
  have first : LexesFreely "DELETE FROM " [.name "DELETE", .name "FROM"] := fun _ => rfl
  exact (first.append (Sql.lexes_name named)).append (lexes_whereText keys)
    (opens_whereText conditions)

/-! ## The statements of the helper -/

open DatabaseHelper

theorem named_ofText {key : String} (named : NamedKey key) (value : String) :
    Named (.put .empty key (.string value)) := named_empty.put named _

theorem named_ofEventIdsAndDate (eventIds : List Int) (beginTime endTime : String) :
    Named (ofEventIdsAndDate eventIds beginTime endTime) := by
  have ids : Named (ofEventIds eventIds) := named_ofText (by decide) _
  rw [ofEventIdsAndDate]
  split_ifs
  · exact (ids.put (by decide) _).put (by decide) _
  · exact ids.put (by decide) _
  · exact ids.put (by decide) _
  · exact ids

theorem named_putAll {entries : List (String × VariantValue)}
    (keys : ∀ key ∈ entries.map Prod.fst, NamedKey key) : Named (GenericValues.putAll entries) := by
  induction entries using List.reverseRecOn with
  | nil => exact named_empty
  | append_singleton entries entry ih =>
      rw [GenericValues.putAll, List.foldl_append]
      rw [List.map_append] at keys
      exact (ih fun key mem => keys key (List.mem_append_left _ mem)).put
        (keys entry.1 (List.mem_append_right _ List.mem_cons_self)) entry.2

theorem named_setValuesBucket (event : SecEvent) : Named (setValuesBucket event) := by
  have all : (schema.columns.map Prod.fst).all (fun key => decide (NamedKey key)) = true := by
    decide
  exact named_putAll fun key mem => of_decide_eq_true (List.all_eq_true.mp all key mem)

section Run

variable {schema : Sql.Schema} {engine : Sql.Engine schema} {store : Sql.Store}
  {table text : String}

theorem ne_empty_of_lexes {token : Token} {tokens : List Token}
    (lexes : Lexes text (token :: tokens)) : text ≠ "" := by
  rintro rfl
  exact absurd lexes.whole (List.cons_ne_nil token tokens).symm

theorem insert_eq (named : IsName table) {values : GenericValues}
    (columns : ∀ key ∈ values.getAllKeys, IsName key) :
    insert engine store table values = SgSqliteHelper.insert engine store values := by
  rw [insert, SgSqliteHelper.insert]
  by_cases filled : values.getAllKeys = []
  · rw [if_pos filled, if_pos (.inr filled)]
  · have lexes := lexes_buildInsertSql named columns filled
    rw [if_neg filled, if_neg (not_or.mpr ⟨named.1, filled⟩), if_neg (ne_empty_of_lexes lexes),
      Sql.Engine.run_of_lexes engine table store _ lexes rfl, Sql.Engine.execute]
    dsimp only
    cases (engine.insert store (bindValues values values.getAllKeys)
      (values.getAllKeys.map fun key => (key, key))).1 with
    | false => rfl
    | true => rfl

theorem delete_eq (named : IsName table) {conditions : GenericValues} (keys : Named conditions) :
    delete engine store table conditions = SgSqliteHelper.delete engine store conditions := by
  rw [delete, SgSqliteHelper.delete,
    Sql.Engine.run_of_lexes engine table store _ (lexes_buildDeleteSql named keys) rfl,
    Sql.Engine.execute]
  dsimp only
  cases (engine.delete store (prepareBoundStateStmt conditions)
    (SgSqliteHelper.buildWhereClause conditions)).1 with
  | false => rfl
  | true => rfl

theorem count_eq (named : IsName table) {conditions : GenericValues} (keys : Named conditions) :
    count engine store table conditions = SgSqliteHelper.count engine store conditions := by
  rw [count, SgSqliteHelper.count,
    Sql.Engine.run_of_lexes engine table store _ (lexes_buildCountSql named keys) rfl,
    Sql.Engine.execute]

theorem query_eq (named : IsName table) {conditions : GenericValues} {options : QueryOptions}
    (keys : Named conditions) (columns : ∀ column ∈ options.columns, IsName column)
    (order : ∀ order ∈ options.orderBy, IsName order.column) :
    query engine store table conditions options =
      SgSqliteHelper.query engine store conditions options := by
  have lexes := lexes_buildSelectSql named keys columns order
  rw [query, SgSqliteHelper.query, if_neg (ne_empty_of_lexes lexes),
    Sql.Engine.run_of_lexes engine table store _ lexes rfl, Sql.Engine.execute]
  rfl

/-- The conditions under which `DatabaseHelper` counts, deletes and queries rows. -/
inductive Asked : GenericValues → Prop where
  | all : Asked .empty
  | eventId (eventId : Int) : Asked (ofEventId eventId)
  | eventIds (eventIds : List Int) : Asked (ofEventIds eventIds)
  | eventIdsAndDate (eventIds : List Int) (beginTime endTime : String) :
      Asked (ofEventIdsAndDate eventIds beginTime endTime)
  | owner (owner : String) : Asked (ofOwner owner)
  | eventType (eventType : Int) :
      Asked (.put .empty "event_type" (.string (toString eventType)))
  | level (level : Int) :
      Asked (.put .empty "data_sensitivity_level" (.string (toString level)))
  | primaryKeys (primaryKeys : List String) :
      Asked (.put .empty ("id" ++ "_IN") (.string (String.intercalate "," primaryKeys)))

theorem Asked.named {conditions : GenericValues} (asked : Asked conditions) :
    Named conditions := by
  cases asked with
  | all => exact named_empty
  | eventId | eventIds | owner | eventType | level | primaryKeys =>
      exact named_ofText (by decide) _
  | eventIdsAndDate eventIds beginTime endTime =>
      exact named_ofEventIdsAndDate eventIds beginTime endTime

/-- The columns and the orders that `DatabaseHelper` asks for. -/
def Selects (options : QueryOptions) : Prop :=
  options.columns ∈
      [["id"], ["event_id", "version", "date", "content", "user_id", "device_id"]] ∧
    ∀ order ∈ options.orderBy, order.column ∈ ["id", "date"]

/-- Every statement of `DatabaseHelper` meets what its text needs, so that the events, ids, times
and owners of its callers are no part of a text. -/
theorem database_helper_runs_texts :
    (∀ event : SecEvent,
      insert engine store riskTable (setValuesBucket event) =
        SgSqliteHelper.insert engine store (setValuesBucket event)) ∧
    ∀ conditions, Asked conditions →
      delete engine store riskTable conditions = SgSqliteHelper.delete engine store conditions ∧
      count engine store riskTable conditions = SgSqliteHelper.count engine store conditions ∧
      ∀ options, Selects options →
        query engine store riskTable conditions options =
          SgSqliteHelper.query engine store conditions options := by
  have table : IsName riskTable := by decide
  have listed : ∀ columns ∈
      [["id"], ["event_id", "version", "date", "content", "user_id", "device_id"]],
      ∀ column ∈ columns, IsName column := by decide
  have ordered : ∀ column ∈ ["id", "date"], IsName column := by decide
  refine ⟨fun event => ?_, fun conditions asked => ⟨?_, ?_, fun options selects => ?_⟩⟩
  · exact insert_eq table fun key mem => (named_setValuesBucket event key mem).1
  · exact delete_eq table asked.named
  · exact count_eq table asked.named
  · exact query_eq table asked.named (listed options.columns selects.1) fun order mem =>
      ordered order.column (selects.2 order mem)

/-- For a table, keys, columns and orders that are names, every statement that is run from its text
does what the statement itself does, whatever texts and numbers the values are. -/
theorem texts_run_as_statements (named : IsName table) {values conditions : GenericValues}
    {options : QueryOptions} (cells : ∀ key ∈ values.getAllKeys, IsName key)
    (keys : Named conditions) (columns : ∀ column ∈ options.columns, IsName column)
    (order : ∀ order ∈ options.orderBy, IsName order.column) :
    insert engine store table values = SgSqliteHelper.insert engine store values ∧
      delete engine store table conditions = SgSqliteHelper.delete engine store conditions ∧
      count engine store table conditions = SgSqliteHelper.count engine store conditions ∧
      query engine store table conditions options =
        SgSqliteHelper.query engine store conditions options :=
  ⟨insert_eq named cells, delete_eq named keys, count_eq named keys,
    query_eq named keys columns order⟩

end Run

/-- The time would make its condition true, if it were part of the text. -/
theorem texts_run_as_statements_quoted :
    query (.sequential schema) {} "risk_event" (ofEventIdsAndDate [1] "' OR 1 = 1; --" "")
        { columns := ["content"] } =
      SgSqliteHelper.query (.sequential schema) {} (ofEventIdsAndDate [1] "' OR 1 = 1; --" "")
        { columns := ["content"] } :=
  have cells := named_setValuesBucket { content := "'); DROP TABLE risk_event; --" }
  have asked : ∀ column ∈ ["content"], IsName column := fun _ mem =>
    (List.mem_singleton.mp mem).symm ▸ (by decide : IsName "content")
  (texts_run_as_statements (by decide) (fun key mem => (cells key mem).1)
    (named_ofEventIdsAndDate [1] "' OR 1 = 1; --" "")
    asked (by simp)).2.2.2

end SqlText

end SecurityGuard
