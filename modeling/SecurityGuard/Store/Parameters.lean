import Mathlib.Data.List.Pairwise
import SecurityGuard.Store.SqliteHelper

/-!
# The parameters of a statement

The clause of a statement is built from the conditions in one function and its parameters are
bound in another.  The first one tells the operator of a condition by the end of its name, the
second one by a text anywhere in it, so the two agree only on names in which the text stands
nowhere else.
-/

namespace SecurityGuard.SgSqliteHelper

variable (conditions : GenericValues)

/-- The parameters that occur in the clause. -/
def clauseParameters : List String :=
  (buildWhereClause conditions).flatMap Sql.Condition.parameters

/-- The calls of `Bind` that one condition leads to. -/
def bindCalls (key : String) : List (String × VariantValue) :=
  let value := conditions.get key
  if "_IN".toList <:+: key.toList then
    (Text.split ',' value.getString).zipIdx.map fun item =>
      (itemParameter key item.2, .string item.1)
  else [(key, value)]

/-- The names that `PrepareBoundStateStmt` binds. -/
def boundNames : List String :=
  (conditions.getAllKeys.flatMap (bindCalls conditions)).map Prod.fst

/-- The parameters of one condition in the clause, each with the value that the clause means. -/
def meanings (key : String) : List (String × Sql.Value) :=
  let value := conditions.get key
  match buildCondition key value with
  | .compare _ _ parameter => [(parameter, Statement.stored value)]
  | .isIn _ parameters => parameters.zip ((Text.split ',' value.getString).map .text)

/-- Every condition has a value. -/
def Valued : Prop := ∀ key value, conditions.get? key = some value → value ≠ .null

/-- The parameters of the clause are distinct and are the names that are bound, each to the value
that the clause means. -/
structure Agree : Prop where
  distinct : (clauseParameters conditions).Nodup
  bound : ∀ name, name ∈ boundNames conditions ↔ name ∈ clauseParameters conditions
  meant : ∀ key ∈ conditions.getAllKeys, ∀ meaning ∈ meanings conditions key,
    (prepareBoundStateStmt conditions).value meaning.1 = meaning.2 ∧ meaning.2 ≠ .null

/-- The text that stands for a list of values is found in a name only at its end. -/
def MarkedAtEnd (key : String) : Prop :=
  "_IN".toList <:+: key.toList → endWith key "_IN" = true

instance (key : String) : Decidable (MarkedAtEnd key) := inferInstanceAs (Decidable (_ → _))

variable {conditions} {key : String} {value : VariantValue}

theorem valued_empty : Valued .empty := fun _ _ found => absurd found (by simp)

theorem Valued.put (valued : Valued conditions) (given : value ≠ .null) :
    Valued (conditions.put key value) := by
  intro other value' found
  rw [GenericValues.get?_put] at found
  split_ifs at found
  · cases bound : conditions.get? key with
    | none =>
        rw [bound] at found
        exact Option.some.inj found ▸ given
    | some old =>
        rw [bound] at found
        exact Option.some.inj found ▸ valued key old bound
  · exact valued other value' found

theorem marked_empty : ∀ key ∈ GenericValues.getAllKeys .empty, MarkedAtEnd key :=
  fun _ mem => absurd mem (by simp [GenericValues.getAllKeys, SortedMap.keys, SortedMap.empty])

theorem marked_put (marked : ∀ key ∈ conditions.getAllKeys, MarkedAtEnd key)
    (mark : MarkedAtEnd key) :
    ∀ other ∈ (conditions.put key value).getAllKeys, MarkedAtEnd other := by
  intro other mem
  obtain ⟨_, found⟩ := SortedMap.contains_iff.mp (SortedMap.mem_keys_iff.mp mem)
  rw [GenericValues.get?_put] at found
  split_ifs at found with same
  · exact same ▸ mark
  · exact marked other (SortedMap.mem_keys_iff.mpr (SortedMap.contains_iff.mpr ⟨_, found⟩))

theorem endWith_isInfix {key ending : String} (ends : endWith key ending = true) :
    ending.toList <:+: key.toList :=
  (List.isSuffixOf_iff_suffix.mp ends).isInfix

theorem isInfix_itemParameter {key text : String} (inside : text.toList <:+: key.toList)
    (position : Nat) : text.toList <:+: (itemParameter key position).toList := by
  rw [itemParameter, String.append_assoc, String.toList_append]
  exact inside.trans (List.prefix_append ..).isInfix

theorem itemParameter_inj {key key' : String} {position position' : Nat}
    (same : itemParameter key position = itemParameter key' position') :
    key = key' ∧ position = position' := by
  have numerals : key ++ String.singleton '_' ++ toString (position : Int) =
      key' ++ String.singleton '_' ++ toString (position' : Int) := same
  obtain ⟨keys, positions⟩ := Text.append_numeral_inj (by decide) numerals
  exact ⟨keys, Int.natCast_inj.mp positions⟩

theorem length_lt_itemParameter (key : String) (position : Nat) :
    key.length < (itemParameter key position).length := by
  rw [itemParameter, String.length_append, String.length_append]
  exact Nat.lt_add_right _ (Nat.lt_succ_self _)

theorem buildCondition_of_end {key : String} (ends : endWith key "_IN" = true)
    (value : VariantValue) :
    ∃ field, buildCondition key value =
      .isIn field (buildInPlaceholders key value.getString) := by
  have found : operators.find? (endWith key) = some "_IN" := by simp [operators, ends]
  exact ⟨_, by rw [buildCondition, found]; rfl⟩

theorem buildCondition_of_not_end {key : String} (ends : ¬endWith key "_IN" = true)
    (value : VariantValue) :
    ∃ field operator, buildCondition key value = .compare field operator key := by
  rw [buildCondition]
  cases found : operators.find? (endWith key) with
  | none => exact ⟨_, _, rfl⟩
  | some ending =>
      have other : ending ≠ "_IN" := by
        rintro rfl
        exact ends (List.find?_some found)
      simp only [if_neg other]
      split_ifs <;> exact ⟨_, _, rfl⟩

theorem parameters_buildCondition (key : String) (value : VariantValue) :
    (buildCondition key value).parameters =
      if endWith key "_IN" = true then buildInPlaceholders key value.getString else [key] := by
  split_ifs with ends
  · obtain ⟨field, built⟩ := buildCondition_of_end ends value
    rw [built]
    rfl
  · obtain ⟨field, operator, built⟩ := buildCondition_of_not_end ends value
    rw [built]
    rfl

theorem names_of_items (key : String) (items : List String) :
    (items.zipIdx.map fun item => (itemParameter key item.2, VariantValue.string item.1)).map
        Prod.fst = (List.range items.length).map (itemParameter key) := by
  calc
    _ = (items.zipIdx.map Prod.snd).map (itemParameter key) := by
      rw [List.map_map, List.map_map]
      rfl
    _ = _ := by rw [List.zipIdx_map_snd, List.range_eq_range']

theorem bindCalls_names (key : String) :
    (bindCalls conditions key).map Prod.fst =
      if "_IN".toList <:+: key.toList then
        buildInPlaceholders key (conditions.get key).getString
      else [key] := by
  rw [bindCalls]
  split_ifs
  · rw [names_of_items, buildInPlaceholders]
  · rfl

/-- A name is bound for one condition only. -/
theorem eq_of_bindCalls {key key' name : String}
    (mem : name ∈ (bindCalls conditions key).map Prod.fst)
    (mem' : name ∈ (bindCalls conditions key').map Prod.fst) : key = key' := by
  rw [bindCalls_names] at mem mem'
  by_cases inside : "_IN".toList <:+: key.toList <;>
    by_cases inside' : "_IN".toList <:+: key'.toList <;>
    simp only [inside, inside', if_true, if_false] at mem mem'
  · obtain ⟨position, -, named⟩ := List.mem_map.mp mem
    obtain ⟨position', -, rfl⟩ := List.mem_map.mp mem'
    exact (itemParameter_inj named).1
  · obtain ⟨position, -, rfl⟩ := List.mem_map.mp mem
    exact absurd (List.mem_singleton.mp mem' ▸ isInfix_itemParameter inside position) inside'
  · obtain ⟨position, -, rfl⟩ := List.mem_map.mp mem'
    exact absurd (List.mem_singleton.mp mem ▸ isInfix_itemParameter inside' position) inside
  · rw [← List.mem_singleton.mp mem, List.mem_singleton.mp mem']

theorem bindCalls_nodup (key : String) : ((bindCalls conditions key).map Prod.fst).Nodup := by
  rw [bindCalls_names]
  split_ifs
  · exact List.nodup_range.map fun _ _ same => (itemParameter_inj same).2
  · exact List.nodup_singleton key

theorem parameters_of_marked {key : String} (marked : MarkedAtEnd key) :
    (bindCalls conditions key).map Prod.fst =
      (buildCondition key (conditions.get key)).parameters := by
  rw [bindCalls_names, parameters_buildCondition]
  by_cases inside : "_IN".toList <:+: key.toList
  · rw [if_pos inside, if_pos (marked inside)]
  · rw [if_neg inside, if_neg (mt endWith_isInfix inside)]

theorem clauseParameters_eq :
    clauseParameters conditions = conditions.getAllKeys.flatMap fun key =>
      (buildCondition key (conditions.get key)).parameters := by
  rw [clauseParameters, buildWhereClause, List.flatMap_map]

theorem boundNames_eq :
    boundNames conditions = conditions.getAllKeys.flatMap fun key =>
      (bindCalls conditions key).map Prod.fst := by
  rw [boundNames, List.map_flatMap]

theorem boundNames_nodup : (boundNames conditions).Nodup := by
  rw [boundNames_eq, List.nodup_flatMap]
  refine ⟨fun key _ => bindCalls_nodup key, (SortedMap.keys_nodup conditions).imp ?_⟩
  exact fun differ name mem mem' => differ (eq_of_bindCalls mem mem')

theorem boundNames_of_marked (marked : ∀ key ∈ conditions.getAllKeys, MarkedAtEnd key) :
    boundNames conditions = clauseParameters conditions := by
  rw [boundNames_eq, clauseParameters_eq]
  exact List.flatMap_congr fun key mem => parameters_of_marked (marked key mem)

/-- Binding distinct names leaves each with its value. -/
theorem value_of_call {calls : List (String × VariantValue)}
    (distinct : (calls.map Prod.fst).Nodup) {name : String} {value : VariantValue}
    (mem : (name, value) ∈ calls) (valued : value ≠ .null) (bindings : Sql.Bindings) :
    (calls.foldl (fun bindings call => Statement.bind bindings call.1 call.2) bindings).value
        name = Statement.stored value := by
  induction calls using List.reverseRecOn with
  | nil => simp at mem
  | append_singleton calls call ih =>
      rw [List.map_append, List.nodup_append] at distinct
      rw [List.foldl_append, List.foldl_cons, List.foldl_nil, Statement.value_bind]
      rcases List.mem_append.mp mem with earlier | last
      · have other : name ≠ call.1 :=
          distinct.2.2 name (List.mem_map_of_mem earlier) call.1 (by simp)
        rw [if_neg fun both => other both.1]
        exact ih distinct.1 earlier
      · obtain rfl : (name, value) = call := List.mem_singleton.mp last
        rw [if_pos ⟨rfl, valued⟩]

theorem prepareBoundStateStmt_eq :
    prepareBoundStateStmt conditions = (conditions.getAllKeys.flatMap (bindCalls conditions)).foldl
      (fun bindings call => Statement.bind bindings call.1 call.2) .empty := by
  rw [prepareBoundStateStmt, List.foldl_flatMap]
  have step : bindCondition conditions = fun bindings key => (bindCalls conditions key).foldl
      (fun bindings call => Statement.bind bindings call.1 call.2) bindings := by
    funext bindings key
    rw [bindCondition, bindCalls]
    split_ifs
    · rw [List.foldl_map]
      rfl
    · rfl
  rw [step]

/-- What the clause means by a parameter is what one of the calls binds. -/
theorem exists_call (valued : Valued conditions) {key : String}
    (bound : key ∈ conditions.getAllKeys) (marked : MarkedAtEnd key)
    {meaning : String × Sql.Value} (mem : meaning ∈ meanings conditions key) :
    ∃ value, (meaning.1, value) ∈ bindCalls conditions key ∧
      Statement.stored value = meaning.2 ∧ value ≠ .null := by
  rw [meanings] at mem
  rw [bindCalls]
  by_cases inside : "_IN".toList <:+: key.toList
  · obtain ⟨field, built⟩ := buildCondition_of_end (marked inside) (conditions.get key)
    rw [built] at mem
    obtain ⟨position, below, rfl⟩ := List.mem_iff_getElem.mp mem
    have short : position < (Text.split ',' (conditions.get key).getString).length := by
      rw [List.length_zip, List.length_map] at below
      exact (Nat.lt_min.mp below).2
    rw [if_pos inside]
    refine ⟨.string (Text.split ',' (conditions.get key).getString)[position], ?_, ?_, by simp⟩
    · refine List.mem_map.mpr ⟨(_, position), List.mk_mem_zipIdx_iff_getElem?.mpr
        (List.getElem?_eq_getElem short), ?_⟩
      simp [buildInPlaceholders]
    · simp [Statement.stored]
  · obtain ⟨field, operator, built⟩ :=
      buildCondition_of_not_end (mt endWith_isInfix inside) (conditions.get key)
    rw [built] at mem
    obtain rfl := List.mem_singleton.mp mem
    obtain ⟨value, found⟩ := SortedMap.contains_iff.mp (SortedMap.mem_keys_iff.mp bound)
    have given : conditions.get key = value := by rw [GenericValues.get, found, Option.getD_some]
    rw [if_neg inside]
    exact ⟨conditions.get key, List.mem_singleton_self _, rfl, given ▸ valued key value found⟩

theorem value_of_meaning (marked : ∀ key ∈ conditions.getAllKeys, MarkedAtEnd key)
    (valued : Valued conditions) {key : String} (bound : key ∈ conditions.getAllKeys)
    {meaning : String × Sql.Value} (mem : meaning ∈ meanings conditions key) :
    (prepareBoundStateStmt conditions).value meaning.1 = meaning.2 ∧ meaning.2 ≠ .null := by
  obtain ⟨value, called, stored, given⟩ := exists_call valued bound (marked key bound) mem
  have all : (meaning.1, value) ∈ conditions.getAllKeys.flatMap (bindCalls conditions) :=
    List.mem_flatMap.mpr ⟨key, bound, called⟩
  rw [prepareBoundStateStmt_eq, value_of_call boundNames_nodup all given, stored]
  refine ⟨rfl, fun null => given ?_⟩
  rw [null] at stored
  cases value with
  | null => rfl
  | int _ | int64 _ | string _ => exact absurd stored (by simp [Statement.stored])

theorem eq_of_parameters (distinct : (clauseParameters conditions).Nodup) {key key' name : String}
    (bound : key ∈ conditions.getAllKeys) (bound' : key' ∈ conditions.getAllKeys)
    (mem : name ∈ (buildCondition key (conditions.get key)).parameters)
    (mem' : name ∈ (buildCondition key' (conditions.get key')).parameters) : key = key' := by
  by_contra differ
  rw [clauseParameters_eq, List.nodup_flatMap] at distinct
  have : Std.Symm (Function.onFun List.Disjoint fun key =>
      (buildCondition key (conditions.get key)).parameters) :=
    ⟨fun _ _ apart _ mem mem' => apart mem' mem⟩
  exact distinct.2.forall bound bound' differ mem mem'

/-- A name that is marked elsewhere has a parameter which nothing binds, unless a shorter one is
marked elsewhere, too. -/
theorem marked_of_agree (agree : Agree conditions) (size : Nat) :
    ∀ key ∈ conditions.getAllKeys, key.length ≤ size → MarkedAtEnd key := by
  induction size using Nat.strong_induction_on with
  | _ size ih =>
      intro key bound small inside
      by_contra ends
      have own : key ∈ (buildCondition key (conditions.get key)).parameters := by
        rw [parameters_buildCondition, if_neg ends]
        exact List.mem_singleton_self key
      have occurs : key ∈ clauseParameters conditions := by
        rw [clauseParameters_eq]
        exact List.mem_flatMap.mpr ⟨key, bound, own⟩
      have named := (agree.bound key).mpr occurs
      rw [boundNames_eq] at named
      obtain ⟨binder, bound', called⟩ := List.mem_flatMap.mp named
      have calls := called
      rw [bindCalls_names] at calls
      split_ifs at calls with inside'
      · obtain ⟨position, -, item⟩ := List.mem_map.mp calls
        have shorter : binder.length < size := by
          have := length_lt_itemParameter binder position
          rw [item] at this
          omega
        have marked := ih binder.length shorter binder bound' le_rfl
        rw [parameters_of_marked marked] at called
        have same := eq_of_parameters agree.distinct bound bound' own called
        exact ends (same ▸ marked inside')
      · exact inside' (List.mem_singleton.mp calls ▸ inside)

/-- The parameters of the clause and the bindings agree exactly when `_IN` stands in no name but
at its end. -/
theorem agree_iff (valued : Valued conditions) :
    Agree conditions ↔ ∀ key ∈ conditions.getAllKeys, MarkedAtEnd key := by
  constructor
  · exact fun agree key bound => marked_of_agree agree key.length key bound le_rfl
  · intro marked
    have names := boundNames_of_marked marked
    refine ⟨names ▸ boundNames_nodup, fun name => by rw [names], ?_⟩
    exact fun key bound meaning mem => value_of_meaning marked valued bound mem

/-- The conditions of a query for some event ids from a date on. -/
def someIdsSince : GenericValues :=
  .put (.put .empty "event_id_IN" (.string "7,-8,7")) "date_GE" (.string "2025")

theorem agree_iff_some_ids :
    Agree someIdsSince ∧ clauseParameters someIdsSince =
      ["date_GE", "event_id_IN_0", "event_id_IN_1", "event_id_IN_2"] := by
  have valued : Valued someIdsSince := (valued_empty.put (by simp)).put (by simp)
  exact ⟨(agree_iff valued).mpr (by decide +kernel), by decide +kernel⟩

/-- A name that begins its last word with the marker is bound item by item, and its parameter is
left null. -/
theorem parameter_left_null :
    let conditions : GenericValues := .put .empty "event_INDEX" (.string "7")
    Valued conditions ∧ clauseParameters conditions = ["event_INDEX"] ∧
      boundNames conditions = ["event_INDEX_0"] ∧
        (prepareBoundStateStmt conditions).value "event_INDEX" = .null ∧ ¬Agree conditions := by
  refine ⟨valued_empty.put (by simp), by decide +kernel, by decide +kernel, by decide +kernel,
    fun agree => ?_⟩
  have marked := marked_of_agree agree 11 "event_INDEX" (by decide +kernel) (by decide)
  exact absurd (marked (by decide +kernel)) (by decide +kernel)

variable {schema : Sql.Schema}

/-- A row meets a condition as the clause means it. -/
def Meets (schema : Sql.Schema) (row : Sql.Row) (key : String) (value : VariantValue) : Prop :=
  match buildCondition key value with
  | .compare column operator _ =>
      operator.holds (row.value schema column)
        ((schema.affinity column).convert (Statement.stored value)) = true
  | .isIn column _ =>
      ∃ item ∈ Text.split ',' value.getString,
        Sql.Operator.eq.holds (row.value schema column)
          ((schema.affinity column).convert (.text item)) = true

/-- The placeholder of a position is bound to the item at the position. -/
theorem value_of_item (marked : ∀ key ∈ conditions.getAllKeys, MarkedAtEnd key)
    (valued : Valued conditions) (bound : key ∈ conditions.getAllKeys)
    (ends : endWith key "_IN" = true) {position : Nat}
    (below : position < (Text.split ',' (conditions.get key).getString).length) :
    (prepareBoundStateStmt conditions).value (itemParameter key position) =
      .text (Text.split ',' (conditions.get key).getString)[position] := by
  obtain ⟨field, built⟩ := buildCondition_of_end ends (conditions.get key)
  have mem : (itemParameter key position,
      .text (Text.split ',' (conditions.get key).getString)[position]) ∈
      meanings conditions key := by
    rw [meanings, built]
    refine List.mem_iff_getElem.mpr ⟨position, ?_, ?_⟩
    · simpa [buildInPlaceholders] using below
    · simp [buildInPlaceholders]
  exact (value_of_meaning marked valued bound mem).1

theorem holds_iff_meets (marked : ∀ key ∈ conditions.getAllKeys, MarkedAtEnd key)
    (valued : Valued conditions) (bound : key ∈ conditions.getAllKeys) (row : Sql.Row) :
    (buildCondition key (conditions.get key)).holds schema (prepareBoundStateStmt conditions) row =
        true ↔ Meets schema row key (conditions.get key) := by
  rw [Meets]
  by_cases ends : endWith key "_IN" = true
  · have items := fun position (below : position < _) =>
      @value_of_item conditions key marked valued bound ends position below
    obtain ⟨field, built⟩ := buildCondition_of_end ends (conditions.get key)
    rw [built]
    simp only [Sql.Condition.holds, List.any_eq_true, Sql.compares, buildInPlaceholders]
    constructor
    · rintro ⟨_, placed, same⟩
      obtain ⟨position, below, rfl⟩ := List.mem_map.mp placed
      rw [items position (List.mem_range.mp below)] at same
      exact ⟨_, List.getElem_mem _, same⟩
    · rintro ⟨item, mem, same⟩
      obtain ⟨position, below, rfl⟩ := List.mem_iff_getElem.mp mem
      refine ⟨_, List.mem_map_of_mem (List.mem_range.mpr below), ?_⟩
      rw [items position below]
      exact same
  · obtain ⟨field, operator, built⟩ := buildCondition_of_not_end ends (conditions.get key)
    have own : (key, Statement.stored (conditions.get key)) ∈ meanings conditions key := by
      rw [meanings, built]
      exact List.mem_singleton_self _
    rw [built]
    simp only [Sql.Condition.holds, Sql.compares, (value_of_meaning marked valued bound own).1]

/-- A clause whose names are marked at their ends selects the rows that meet its conditions. -/
theorem matching_iff (marked : ∀ key ∈ conditions.getAllKeys, MarkedAtEnd key)
    (valued : Valued conditions) (row : Sql.Row) :
    Sql.matching schema (prepareBoundStateStmt conditions) (buildWhereClause conditions) row =
        true ↔ ∀ key value, conditions.get? key = some value → Meets schema row key value := by
  rw [Sql.matching, buildWhereClause, List.all_map, List.all_eq_true]
  constructor
  · intro all key value found
    have bound : key ∈ conditions.getAllKeys :=
      SortedMap.mem_keys_iff.mpr (SortedMap.contains_iff.mpr ⟨value, found⟩)
    have given : conditions.get key = value := by rw [GenericValues.get, found, Option.getD_some]
    exact given ▸ (holds_iff_meets marked valued bound row).mp (all key bound)
  · intro all key bound
    obtain ⟨value, found⟩ := SortedMap.contains_iff.mp (SortedMap.mem_keys_iff.mp bound)
    have given : conditions.get key = value := by rw [GenericValues.get, found, Option.getD_some]
    exact (holds_iff_meets marked valued bound row).mpr (given ▸ all key value found)

theorem matching_single (mark : MarkedAtEnd key) (given : value ≠ .null) (row : Sql.Row) :
    Sql.matching schema (prepareBoundStateStmt (.put .empty key value))
      (buildWhereClause (.put .empty key value)) row = true ↔ Meets schema row key value := by
  have found : ∀ other, (GenericValues.put .empty key value).get? other =
      if other = key then some value else none := fun other => by
    simp [GenericValues.get?_put]
  rw [matching_iff (marked_put marked_empty mark) (valued_empty.put given)]
  constructor
  · intro all
    exact all key value ((found key).trans (if_pos rfl))
  · intro meets other value' bound
    rw [found other] at bound
    split_ifs at bound with same
    exact same ▸ Option.some.inj bound ▸ meets

theorem matching_eq (row : Sql.Row) (plain : operators.find? (endWith key) = none)
    (outside : ¬"_IN".toList <:+: key.toList) (numeric : schema.affinity key = .integer)
    (value : Int) :
    Sql.matching schema (prepareBoundStateStmt (.put .empty key (.string (toString value))))
      (buildWhereClause (.put .empty key (.string (toString value)))) row = true ↔
      row.value schema key = .integer value := by
  rw [matching_single (fun inside => absurd inside outside) (by simp), Meets, buildCondition, plain]
  simp only [numeric, Statement.stored, Sql.Affinity.convert_numeral,
    Sql.Operator.eq_holds_integer]

theorem split_joined (values : List Int) :
    Text.split ',' (String.intercalate "," (values.map toString)) = values.map toString :=
  Text.split_numerals (by decide) values

theorem meets_isIn {field : String} (numeric : schema.affinity field = .integer)
    (values : List Int) (row : Sql.Row) :
    Meets schema row (field ++ "_IN") (.string (String.intercalate "," (values.map toString))) ↔
      ∃ value ∈ values, row.value schema field = .integer value := by
  rw [Meets, buildCondition_in]
  simp only [VariantValue.getString, split_joined, List.mem_map, exists_exists_and_eq_and, numeric,
    Sql.Affinity.convert_numeral, Sql.Operator.eq_holds_integer]

theorem markedAtEnd_in (field : String) : MarkedAtEnd (field ++ "_IN") := fun _ => by
  rw [endWith, List.isSuffixOf_iff_suffix, String.toList_append]
  exact List.suffix_append field.toList "_IN".toList

theorem matching_isIn (row : Sql.Row) {field : String}
    (numeric : schema.affinity field = .integer) (values : List Int) :
    Sql.matching schema
      (prepareBoundStateStmt
        (.put .empty (field ++ "_IN") (.string (String.intercalate "," (values.map toString)))))
      (buildWhereClause
        (.put .empty (field ++ "_IN") (.string (String.intercalate "," (values.map toString)))))
      row = true ↔
      ∃ value ∈ values, row.value schema field = .integer value := by
  rw [matching_single (markedAtEnd_in field) (by simp), meets_isIn numeric]

end SecurityGuard.SgSqliteHelper
