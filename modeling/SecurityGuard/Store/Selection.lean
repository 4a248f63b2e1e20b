import SecurityGuard.Foundation.Like
import SecurityGuard.Store.Fidelity

/-!
# Which rows a query returns

The conditions of a query travel as named texts.  A list of event ids is joined, split again and
bound item by item, and an owner is filtered and put between two wildcards.
-/

namespace SecurityGuard

open DatabaseHelper DatabaseManager

variable {engine : Sql.Engine schema} {store : Sql.Store}

/-- A query succeeds with the events of exactly the rows that are asked for, in some order. -/
def Returns (store : Sql.Store) (asked : Sql.Row → Prop) [DecidablePred asked]
    (answer : Code × List SecEvent × Sql.Store) : Prop :=
  answer.1 = .success ∧
    ∃ rows : List Sql.Row, rows.Perm (store.table.rows.filter asked) ∧
      answer.2.1 = rows.map rowEvent

theorem returns_queryEventBase (works : engine.failure store.executed = none)
    {conditions : GenericValues} {asked : Sql.Row → Prop} [DecidablePred asked]
    (meets : ∀ row, Sql.matching schema (SgSqliteHelper.prepareBoundStateStmt conditions)
      (SgSqliteHelper.buildWhereClause conditions) row = true ↔ asked row) :
    Returns store asked (queryEventBase engine store conditions {}) := by
  refine ⟨rfl, answerRows engine store conditions, ?_, queryEventBase_events engine store _⟩
  have same : Sql.matching schema (SgSqliteHelper.prepareBoundStateStmt conditions)
      (SgSqliteHelper.buildWhereClause conditions) = fun row => decide (asked row) := by
    funext row
    rw [Bool.eq_iff_iff, meets, decide_eq_true_iff]
  simp only [answerRows, Sql.Engine.select, works, Option.map_none, Option.getD_none, same]
  exact engine.arrange_perm _ _ _

/-- A row is asked for by a query for some event ids in a range of dates; an empty time leaves its
side open. -/
def Requested (eventIds : List Int) (beginTime endTime : String) (row : Sql.Row) : Prop :=
  (∃ eventId ∈ eventIds, row.value schema "event_id" = .integer eventId) ∧
    (beginTime ≠ "" → Sql.Operator.ge.holds (row.value schema "date") (.text beginTime) = true) ∧
    (endTime ≠ "" → Sql.Operator.lt.holds (row.value schema "date") (.text endTime) = true)

instance (eventIds : List Int) (beginTime endTime : String) :
    DecidablePred (Requested eventIds beginTime endTime) := fun _ =>
  inferInstanceAs (Decidable (_ ∧ (_ → _) ∧ (_ → _)))

theorem requested_iff {eventIds : List Int} {beginTime endTime date : String} {row : Sql.Row}
    (dated : row.value schema "date" = .text date) :
    Requested eventIds beginTime endTime row ↔
      (∃ eventId ∈ eventIds, row.value schema "event_id" = .integer eventId) ∧
        (beginTime ≠ "" → beginTime ≤ date) ∧ (endTime ≠ "" → date < endTime) := by
  simp [Requested, dated, Sql.Operator.holds, Sql.Value.le]

theorem meets_since (time : String) (row : Sql.Row) :
    SgSqliteHelper.Meets schema row ("date" ++ "_GE") (.string time) ↔
      Sql.Operator.ge.holds (row.value schema "date") (.text time) = true := by
  have built : SgSqliteHelper.buildCondition ("date" ++ "_GE") (.string time) =
      .compare "date" .ge ("date" ++ "_GE") := by rfl
  rw [SgSqliteHelper.Meets, built]
  rfl

theorem meets_before (time : String) (row : Sql.Row) :
    SgSqliteHelper.Meets schema row ("date" ++ "_LT") (.string time) ↔
      Sql.Operator.lt.holds (row.value schema "date") (.text time) = true := by
  have built : SgSqliteHelper.buildCondition ("date" ++ "_LT") (.string time) =
      .compare "date" .lt ("date" ++ "_LT") := by rfl
  rw [SgSqliteHelper.Meets, built]
  rfl

/-- What the conditions of a query for event ids and dates are. -/
theorem get?_ofEventIdsAndDate (eventIds : List Int) (beginTime endTime key : String) :
    (ofEventIdsAndDate eventIds beginTime endTime).get? key =
      if key = "event_id" ++ "_IN" then
        some (.string (String.intercalate "," (eventIds.map toString)))
      else if key = "date" ++ "_GE" ∧ beginTime ≠ "" then some (.string beginTime)
      else if key = "date" ++ "_LT" ∧ endTime ≠ "" then some (.string endTime)
      else none := by
  simp only [ofEventIdsAndDate, ofEventIds]
  split_ifs <;> simp_all [GenericValues.get?_put]

theorem marked_ofEventIdsAndDate (eventIds : List Int) (beginTime endTime : String) :
    ∀ key ∈ (ofEventIdsAndDate eventIds beginTime endTime).getAllKeys,
      SgSqliteHelper.MarkedAtEnd key := by
  have ids : SgSqliteHelper.MarkedAtEnd ("event_id" ++ "_IN") := by decide
  have since : SgSqliteHelper.MarkedAtEnd ("date" ++ "_GE") := by decide
  have before : SgSqliteHelper.MarkedAtEnd ("date" ++ "_LT") := by decide
  have listed : ∀ key ∈ (ofEventIds eventIds).getAllKeys, SgSqliteHelper.MarkedAtEnd key :=
    SgSqliteHelper.marked_put SgSqliteHelper.marked_empty ids
  rw [ofEventIdsAndDate]
  split_ifs
  · exact SgSqliteHelper.marked_put (SgSqliteHelper.marked_put listed since) before
  · exact SgSqliteHelper.marked_put listed before
  · exact SgSqliteHelper.marked_put listed since
  · exact listed

theorem valued_ofEventIdsAndDate (eventIds : List Int) (beginTime endTime : String) :
    SgSqliteHelper.Valued (ofEventIdsAndDate eventIds beginTime endTime) := by
  intro key value found
  rw [get?_ofEventIdsAndDate] at found
  split_ifs at found <;> rw [← Option.some.inj found] <;> simp

/-- The clause of a query for event ids and dates selects the rows that are asked for. -/
theorem matching_ofEventIdsAndDate (eventIds : List Int) (beginTime endTime : String)
    (row : Sql.Row) :
    Sql.matching schema
        (SgSqliteHelper.prepareBoundStateStmt (ofEventIdsAndDate eventIds beginTime endTime))
        (SgSqliteHelper.buildWhereClause (ofEventIdsAndDate eventIds beginTime endTime)) row =
        true ↔ Requested eventIds beginTime endTime row := by
  rw [SgSqliteHelper.matching_iff (marked_ofEventIdsAndDate eventIds beginTime endTime)
    (valued_ofEventIdsAndDate eventIds beginTime endTime)]
  have found := get?_ofEventIdsAndDate eventIds beginTime endTime
  constructor
  · intro all
    refine ⟨(SgSqliteHelper.meets_isIn rfl eventIds row).mp
      (all _ _ ((found _).trans (if_pos rfl))), ?_, ?_⟩
    · intro given
      refine (meets_since beginTime row).mp (all _ _ ((found _).trans ?_))
      rw [if_neg (by decide), if_pos ⟨rfl, given⟩]
    · intro given
      refine (meets_before endTime row).mp (all _ _ ((found _).trans ?_))
      rw [if_neg (by decide), if_neg (by simp), if_pos ⟨rfl, given⟩]
  · rintro ⟨ids, since, before⟩ key value given
    rw [found key] at given
    split_ifs at given with listed dated ended
    · exact listed ▸ Option.some.inj given ▸ (SgSqliteHelper.meets_isIn rfl eventIds row).mpr ids
    · exact dated.1 ▸ Option.some.inj given ▸ (meets_since beginTime row).mpr (since dated.2)
    · exact ended.1 ▸ Option.some.inj given ▸ (meets_before endTime row).mpr (before ended.2)

/-- The placeholders of the list of event ids are bound to the ids in their order. -/
theorem placeholders_ofEventIdsAndDate (eventIds : List Int) (beginTime endTime : String) :
    ∃ placeholders : List String,
      .isIn "event_id" placeholders ∈
          SgSqliteHelper.buildWhereClause (ofEventIdsAndDate eventIds beginTime endTime) ∧
        placeholders.Nodup ∧
        placeholders.map
            (SgSqliteHelper.prepareBoundStateStmt
              (ofEventIdsAndDate eventIds beginTime endTime)).value =
          eventIds.map fun eventId => .text (toString eventId) := by
  let conditions := ofEventIdsAndDate eventIds beginTime endTime
  let key := "event_id" ++ "_IN"
  have found : conditions.get? key =
      some (.string (String.intercalate "," (eventIds.map toString))) :=
    (get?_ofEventIdsAndDate eventIds beginTime endTime key).trans (if_pos rfl)
  have bound : key ∈ conditions.getAllKeys :=
    SortedMap.mem_keys_iff.mpr (SortedMap.contains_iff.mpr ⟨_, found⟩)
  have items : Text.split ',' (conditions.get key).getString = eventIds.map toString := by
    rw [GenericValues.get, found]
    exact SgSqliteHelper.split_joined eventIds
  have size : (Text.split ',' (conditions.get key).getString).length = eventIds.length := by
    rw [items, List.length_map]
  refine ⟨SgSqliteHelper.buildInPlaceholders key (conditions.get key).getString, ?_, ?_, ?_⟩
  · rw [← SgSqliteHelper.buildCondition_in]
    exact List.mem_map_of_mem bound
  · exact List.nodup_range.map fun _ _ same => (SgSqliteHelper.itemParameter_inj same).2
  · refine List.ext_getElem (by simp [SgSqliteHelper.buildInPlaceholders, size]) ?_
    intro position inside inside'
    have below : position < (Text.split ',' (conditions.get key).getString).length := by
      rw [size]
      simpa using inside'
    have value := SgSqliteHelper.value_of_item
      (marked_ofEventIdsAndDate eventIds beginTime endTime)
      (valued_ofEventIdsAndDate eventIds beginTime endTime) bound (by decide) below
    rw [List.getElem_of_eq items below, List.getElem_map] at value
    simpa [SgSqliteHelper.buildInPlaceholders] using value

/-- A query for event ids and dates returns the rows that are asked for and no others. -/
theorem queryEventByEventIdAndDate_returns (works : engine.failure store.executed = none)
    {eventIds : List Int} (listed : eventIds ≠ []) (beginTime endTime : String) :
    Returns store (Requested eventIds beginTime endTime)
        (DatabaseHelper.queryEventByEventIdAndDate engine store eventIds beginTime endTime) ∧
      Text.split ',' (String.intercalate "," (eventIds.map toString)) = eventIds.map toString ∧
      ∃ placeholders : List String,
        .isIn "event_id" placeholders ∈
            SgSqliteHelper.buildWhereClause (ofEventIdsAndDate eventIds beginTime endTime) ∧
          placeholders.Nodup ∧
          placeholders.map
              (SgSqliteHelper.prepareBoundStateStmt
                (ofEventIdsAndDate eventIds beginTime endTime)).value =
            eventIds.map fun eventId => .text (toString eventId) := by
  refine ⟨?_, SgSqliteHelper.split_joined eventIds,
    placeholders_ofEventIdsAndDate eventIds beginTime endTime⟩
  rw [DatabaseHelper.queryEventByEventIdAndDate, if_neg listed]
  exact returns_queryEventBase works (matching_ofEventIdsAndDate eventIds beginTime endTime)

/-- Three rows, of which two have negative event ids. -/
def threeRows : Sql.Store :=
  [{ eventId := -3, date := "20250101" }, { eventId := 5, date := "20250201" },
    { eventId := -4, date := "20250301" }].foldl
    (fun store event => (DatabaseHelper.insertEvent (.sequential schema) store event).2) {}

theorem queryEventByEventIdAndDate_returns_some :
    let eventIds := [5, -3, 5]
    let answer := DatabaseHelper.queryEventByEventIdAndDate (.sequential schema) threeRows eventIds
      "20250101" "20250201"
    Returns threeRows (Requested eventIds "20250101" "20250201") answer ∧
      answer.2.1.map SecEvent.eventId = [-3] := by
  intro eventIds answer
  refine ⟨(queryEventByEventIdAndDate_returns rfl (by decide) _ _).1, by decide +kernel⟩

/-- The owner of a row contains a text. -/
def OwnerContains (owner : String) (row : Sql.Row) : Prop :=
  row.value schema "owner" ≠ .null ∧
    owner.toList <:+: (row.value schema "owner").toText.toList

/-- The owner of a row contains a text in any case. -/
def OwnerContainsFolded (owner : String) (row : Sql.Row) : Prop :=
  row.value schema "owner" ≠ .null ∧
    owner.toList.map Char.toLower <:+:
      (row.value schema "owner").toText.toList.map Char.toLower

instance (owner : String) : DecidablePred (OwnerContains owner) := fun _ =>
  inferInstanceAs (Decidable (_ ∧ _))

instance (owner : String) : DecidablePred (OwnerContainsFolded owner) := fun _ =>
  inferInstanceAs (Decidable (_ ∧ _))

/-- A part of the owner of a row matches what is left of a text without its special characters. -/
def OwnerLike (owner : String) (row : Sql.Row) : Prop :=
  row.value schema "owner" ≠ .null ∧
    ∃ front middle back, (row.value schema "owner").toText.toList = front ++ middle ++ back ∧
      Sql.Likes (filterSpecialChars owner).toList middle

theorem pattern_ofOwner (owner : String) :
    ("%" ++ filterSpecialChars owner ++ "%").toList =
      '%' :: (filterSpecialChars owner).toList ++ ['%'] := by
  rw [String.toList_append, String.toList_append]
  rfl

instance (owner : String) : DecidablePred (OwnerLike owner) := fun row =>
  let text := (row.value schema "owner").toText.toList
  have decides : Sql.like ("%" ++ filterSpecialChars owner ++ "%").toList text = true ↔
      ∃ front middle back, text = front ++ middle ++ back ∧
        Sql.Likes (filterSpecialChars owner).toList middle := by
    rw [pattern_ofOwner, Sql.like_iff, Sql.likes_between]
  have := decidable_of_iff _ decides
  inferInstanceAs (Decidable (_ ∧ _))

theorem meets_ofOwner (owner : String) (row : Sql.Row) :
    SgSqliteHelper.Meets schema row ("owner" ++ "_LIKE")
        (.string ("%" ++ filterSpecialChars owner ++ "%")) ↔ OwnerLike owner row := by
  have built : SgSqliteHelper.buildCondition ("owner" ++ "_LIKE")
      (.string ("%" ++ filterSpecialChars owner ++ "%")) =
      .compare "owner" .like ("owner" ++ "_LIKE") := by rfl
  have textual : schema.affinity "owner" = .text := rfl
  rw [SgSqliteHelper.Meets, built]
  simp only [textual, Statement.stored, Sql.Affinity.convert_text, Sql.Operator.holds,
    Sql.Value.toText, Bool.and_eq_true, decide_eq_true_eq, pattern_ofOwner, Sql.like_iff,
    Sql.likes_between, OwnerLike, ne_eq, reduceCtorEq, not_false_eq_true, and_true]

theorem matching_ofOwner (owner : String) (row : Sql.Row) :
    Sql.matching schema (SgSqliteHelper.prepareBoundStateStmt (ofOwner owner))
        (SgSqliteHelper.buildWhereClause (ofOwner owner)) row = true ↔ OwnerLike owner row := by
  have mark : SgSqliteHelper.MarkedAtEnd ("owner" ++ "_LIKE") := by decide
  rw [ofOwner, SgSqliteHelper.matching_single mark (by simp), meets_ofOwner]

theorem ownerLike_of_alphanum {owner : String}
    (plain : ∀ character ∈ owner.toList, character.isAlphanum = true) (row : Sql.Row) :
    OwnerLike owner row ↔ OwnerContainsFolded owner row := by
  have kept : filterSpecialChars owner = owner := by
    rw [filterSpecialChars, List.filter_eq_self.mpr, String.ofList_toList]
    intro character mem
    simp [plain character mem]
  have marks : ∀ mark ∈ owner.toList, Sql.Plain mark := by
    intro mark mem
    have letter := plain mark mem
    refine ⟨?_, ?_⟩ <;>
    · rintro rfl
      exact absurd letter (by decide)
  rw [OwnerLike, kept, Sql.likes_plain_part marks, OwnerContainsFolded]

/-- A query for an owner returns the rows whose owner has a part like it; an owner of letters and
digits is looked for in any case. -/
theorem queryEventByOwner_returns (works : engine.failure store.executed = none)
    (owner : String) :
    Returns store (OwnerLike owner) (DatabaseHelper.queryEventByOwner engine store owner) ∧
      ((∀ character ∈ owner.toList, character.isAlphanum = true) →
        Returns store (OwnerContainsFolded owner)
          (DatabaseHelper.queryEventByOwner engine store owner)) := by
  refine ⟨returns_queryEventBase works (matching_ofOwner owner), fun plain => ?_⟩
  refine returns_queryEventBase works fun row => ?_
  rw [matching_ofOwner, ownerLike_of_alphanum plain]

/-- A store with a row of one owner. -/
def ownedRow (owner : String) : Sql.Store :=
  (DatabaseHelper.insertEvent (.sequential schema) {} { eventId := 1, owner }).2

theorem queryEventByOwner_returns_wifi :
    let answer := DatabaseHelper.queryEventByOwner (.sequential schema)
      (ownedRow "the WIFI service") "wi_fi!"
    Returns (ownedRow "the WIFI service") (OwnerLike "wi_fi!") answer ∧ answer.2.1 = [] ∧
      Returns (ownedRow "the WIFI service") (OwnerContainsFolded "wifi")
        (DatabaseHelper.queryEventByOwner (.sequential schema) (ownedRow "the WIFI service")
          "wifi") := by
  intro answer
  have plain : ∀ character ∈ "wifi".toList, character.isAlphanum = true :=
    List.all_eq_true.mp (by decide : "wifi".toList.all Char.isAlphanum = true)
  exact ⟨(queryEventByOwner_returns rfl "wi_fi!").1, by decide +kernel,
    (queryEventByOwner_returns rfl "wifi").2 plain⟩

/-- An owner with a dot in it is not found. -/
theorem dotted_owner_not_found :
    ¬Returns (ownedRow "a.b") (OwnerContains "a.b")
      (DatabaseHelper.queryEventByOwner (.sequential schema) (ownedRow "a.b") "a.b") := by
  rintro ⟨-, rows, permuted, answered⟩
  have none_found : (DatabaseHelper.queryEventByOwner (.sequential schema) (ownedRow "a.b")
      "a.b").2.1 = [] := by decide +kernel
  have one_kept : ((ownedRow "a.b").table.rows.filter (OwnerContains "a.b")).length = 1 := by
    decide +kernel
  rw [none_found] at answered
  rw [← permuted.length_eq, List.map_eq_nil_iff.mp answered.symm] at one_kept
  exact absurd one_kept (by decide)

end SecurityGuard
