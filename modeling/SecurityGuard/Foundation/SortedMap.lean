import Mathlib.Algebra.Order.Ring.Nat
import Mathlib.Data.List.Nodup
import Mathlib.Data.List.Perm.Subperm

/-!
# Finite maps kept in key order

A map is the list of its bindings with strictly increasing keys.  Equal maps are then equal
lists, a loop over a map visits its keys in order, and every operation evaluates on closed
arguments.  A set is a map into the one-point type.
-/

/-- A finite map, stored as its bindings in strictly increasing order of their keys. -/
@[ext]
structure SortedMap (κ ν : Type*) [LinearOrder κ] where
  /-- The bindings, in the order in which a loop over the map visits them. -/
  entries : List (κ × ν)
  /-- No key is bound twice and the keys increase. -/
  increasing : entries.Pairwise fun left right => left.1 < right.1

/-- A finite set, stored as a map into the one-point type. -/
abbrev SortedSet (κ : Type*) [LinearOrder κ] := SortedMap κ Unit

namespace SortedMap

variable {κ ν : Type*} [LinearOrder κ]

instance [DecidableEq ν] : DecidableEq (SortedMap κ ν) := fun left right =>
  decidable_of_iff (left.entries = right.entries) SortedMap.ext_iff.symm

/-- The map without bindings. -/
def empty : SortedMap κ ν := ⟨[], List.Pairwise.nil⟩

instance : Inhabited (SortedMap κ ν) := ⟨empty⟩

/-- The value bound to a key. -/
def get? (map : SortedMap κ ν) (key : κ) : Option ν := map.entries.lookup key

/-- Whether a key is bound. -/
def contains (map : SortedMap κ ν) (key : κ) : Bool := (map.get? key).isSome

/-- The bound keys, in increasing order. -/
def keys (map : SortedMap κ ν) : List κ := map.entries.map Prod.fst

/-- The number of bindings. -/
def size (map : SortedMap κ ν) : Nat := map.entries.length

/-- Bind a key in a list of bindings, at the place its key belongs. -/
def insertEntry (key : κ) (value : ν) : List (κ × ν) → List (κ × ν)
  | [] => [(key, value)]
  | entry :: rest =>
      if key < entry.1 then (key, value) :: entry :: rest
      else if key = entry.1 then (key, value) :: rest
      else entry :: insertEntry key value rest

theorem mem_insertEntry {key : κ} {value : ν} {entries : List (κ × ν)} {entry : κ × ν}
    (mem : entry ∈ insertEntry key value entries) : entry = (key, value) ∨ entry ∈ entries := by
  induction entries with
  | nil => simpa [insertEntry] using mem
  | cons head rest ih =>
      rw [insertEntry] at mem
      split_ifs at mem <;> grind

theorem insertEntry_increasing (key : κ) (value : ν) {entries : List (κ × ν)}
    (increasing : entries.Pairwise fun left right => left.1 < right.1) :
    (insertEntry key value entries).Pairwise fun left right => left.1 < right.1 := by
  induction entries with
  | nil => simp [insertEntry]
  | cons head rest ih =>
      obtain ⟨below, tail⟩ := List.pairwise_cons.mp increasing
      rw [insertEntry]
      split_ifs with before same
      · refine List.pairwise_cons.mpr ⟨?_, increasing⟩
        intro entry mem
        rcases List.mem_cons.mp mem with rfl | mem
        · exact before
        · exact lt_trans before (below entry mem)
      · refine List.pairwise_cons.mpr ⟨?_, tail⟩
        intro entry mem
        exact same ▸ below entry mem
      · refine List.pairwise_cons.mpr ⟨?_, ih tail⟩
        intro entry mem
        rcases mem_insertEntry mem with rfl | mem
        · exact lt_of_le_of_ne (not_lt.mp before) (Ne.symm same)
        · exact below entry mem

/-- Bind a key, replacing the value it had. -/
def insert (map : SortedMap κ ν) (key : κ) (value : ν) : SortedMap κ ν :=
  ⟨insertEntry key value map.entries, insertEntry_increasing key value map.increasing⟩

/-- Remove the binding of a key. -/
def erase (map : SortedMap κ ν) (key : κ) : SortedMap κ ν :=
  ⟨map.entries.filter fun entry => entry.1 ≠ key, map.increasing.filter _⟩

/-- Bind a key to a value, or remove its binding. -/
def replace (map : SortedMap κ ν) (key : κ) : Option ν → SortedMap κ ν
  | some value => map.insert key value
  | none => map.erase key

/-- Change the value bound to a key, if it is bound. -/
def modify (map : SortedMap κ ν) (key : κ) (change : ν → ν) : SortedMap κ ν :=
  match map.get? key with
  | none => map
  | some value => map.insert key (change value)

@[simp]
theorem get?_empty (key : κ) : (empty : SortedMap κ ν).get? key = none := rfl

theorem lookup_insertEntry (key other : κ) (value : ν) (entries : List (κ × ν)) :
    (insertEntry key value entries).lookup other =
      if other = key then some value else entries.lookup other := by
  induction entries with
  | nil =>
      by_cases same : other = key
      · simp [insertEntry, same]
      · simp [insertEntry, List.lookup_cons, beq_eq_false_iff_ne.mpr same, same]
  | cons head rest ih =>
      obtain ⟨headKey, headValue⟩ := head
      rw [insertEntry]
      split_ifs <;> grind

@[simp, grind =]
theorem get?_insert (map : SortedMap κ ν) (key other : κ) (value : ν) :
    (map.insert key value).get? other = if other = key then some value else map.get? other :=
  lookup_insertEntry key other value map.entries

theorem get?_insert_self (map : SortedMap κ ν) (key : κ) (value : ν) :
    (map.insert key value).get? key = some value := by simp

theorem get?_insert_eq_some {map : SortedMap κ ν} {key other : κ} {value value' : ν} :
    (map.insert key value).get? other = some value' ↔
      (other = key ∧ value = value') ∨ (other ≠ key ∧ map.get? other = some value') := by
  rw [get?_insert]
  split_ifs with same
  · simp [same]
  · simp [same]

theorem lookup_filter_ne (key other : κ) (entries : List (κ × ν)) :
    (entries.filter fun entry => entry.1 ≠ key).lookup other =
      if other = key then none else entries.lookup other := by
  induction entries with
  | nil => simp
  | cons head rest ih =>
      obtain ⟨headKey, headValue⟩ := head
      by_cases same : headKey = key <;> grind

@[simp, grind =]
theorem get?_erase (map : SortedMap κ ν) (key other : κ) :
    (map.erase key).get? other = if other = key then none else map.get? other :=
  lookup_filter_ne key other map.entries

theorem get?_erase_eq_some {map : SortedMap κ ν} {key other : κ} {value : ν} :
    (map.erase key).get? other = some value ↔ other ≠ key ∧ map.get? other = some value := by
  rw [get?_erase]
  split_ifs with same
  · simp [same]
  · simp [same]

@[simp, grind =]
theorem get?_modify (map : SortedMap κ ν) (key other : κ) (change : ν → ν) :
    (map.modify key change).get? other =
      if other = key then (map.get? key).map change else map.get? other := by
  unfold modify
  split <;> grind

theorem get?_modify_eq_some {map : SortedMap κ ν} {key other : κ} {change : ν → ν} {value : ν} :
    (map.modify key change).get? other = some value ↔
      (other = key ∧ ∃ old, map.get? other = some old ∧ change old = value) ∨
        (other ≠ key ∧ map.get? other = some value) := by
  rw [get?_modify]
  split_ifs with same
  · simp [same]
  · simp [same]

/-- The bindings after entering items that agree on the values of their keys. -/
theorem get?_foldl_insert {α : Type*} {keyOf : α → κ} {valueOf : α → ν} {items : List α}
    (agree : ∀ item ∈ items, ∀ other ∈ items, keyOf item = keyOf other →
      valueOf item = valueOf other) (map : SortedMap κ ν) {key : κ} {value : ν} :
    (items.foldl (fun map item => map.insert (keyOf item) (valueOf item)) map).get? key =
        some value ↔
      (∃ item ∈ items, keyOf item = key ∧ valueOf item = value) ∨
        (∀ item ∈ items, keyOf item ≠ key) ∧ map.get? key = some value := by
  induction items generalizing map with
  | nil => simp
  | cons item rest ih =>
      have later := ih (fun first mem other mem' => agree first (List.mem_cons_of_mem item mem)
        other (List.mem_cons_of_mem item mem')) (map.insert (keyOf item) (valueOf item))
      have own (other : α) (mem : other ∈ rest) (same : keyOf other = keyOf item) :
          valueOf other = valueOf item :=
        agree other (List.mem_cons_of_mem item mem) item List.mem_cons_self same
      rw [List.foldl_cons, later, get?_insert_eq_some, List.exists_mem_cons_iff,
        List.forall_mem_cons]
      grind

theorem get?_foldl_insert_entries (entries : List (κ × ν)) (map : SortedMap κ ν) (key : κ) :
    (entries.foldl (fun map entry => map.insert entry.1 entry.2) map).get? key =
      (entries.reverse.lookup key).or (map.get? key) := by
  induction entries generalizing map with
  | nil => rfl
  | cons entry entries ih =>
      obtain ⟨entryKey, value⟩ := entry
      rw [List.foldl_cons, ih, get?_insert, List.reverse_cons, List.lookup_append,
        Option.or_assoc]
      by_cases same : key = entryKey
      · simp [same]
      · simp [List.lookup_cons, beq_eq_false_iff_ne.mpr same, same]

theorem contains_iff {map : SortedMap κ ν} {key : κ} :
    map.contains key = true ↔ ∃ value, map.get? key = some value :=
  Option.isSome_iff_exists

@[simp]
theorem contains_empty (key : κ) : (empty : SortedMap κ ν).contains key = false := rfl

@[simp, grind =]
theorem contains_insert (map : SortedMap κ ν) (key other : κ) (value : ν) :
    (map.insert key value).contains other = (decide (other = key) || map.contains other) := by
  by_cases same : other = key <;> simp [contains, same]

@[simp, grind =]
theorem contains_erase (map : SortedMap κ ν) (key other : κ) :
    (map.erase key).contains other = (!decide (other = key) && map.contains other) := by
  by_cases same : other = key <;> simp [contains, same]

theorem contains_modify (map : SortedMap κ ν) (key other : κ) (change : ν → ν) :
    (map.modify key change).contains other = map.contains other := by
  rw [contains, get?_modify, contains]
  split_ifs with same
  · rw [same, Option.isSome_map]
  · rfl

theorem lookup_eq_some_iff {entries : List (κ × ν)}
    (increasing : entries.Pairwise fun left right => left.1 < right.1) {key : κ} {value : ν} :
    entries.lookup key = some value ↔ (key, value) ∈ entries := by
  induction entries with
  | nil => simp
  | cons head rest ih =>
      obtain ⟨headKey, headValue⟩ := head
      obtain ⟨below, tail⟩ := List.pairwise_cons.mp increasing
      have outside (same : key = headKey) : (key, value) ∉ rest := by
        intro mem
        exact absurd (below _ mem) (by simp [same])
      by_cases same : key = headKey
      · simp [same, eq_comm, same ▸ outside same]
      · simp [List.lookup_cons, beq_eq_false_iff_ne.mpr same, same, ih tail]

theorem mem_entries_iff {map : SortedMap κ ν} {key : κ} {value : ν} :
    (key, value) ∈ map.entries ↔ map.get? key = some value :=
  (lookup_eq_some_iff map.increasing).symm

theorem mem_keys_iff {map : SortedMap κ ν} {key : κ} :
    key ∈ map.keys ↔ map.contains key = true := by
  simp [keys, contains_iff, mem_entries_iff]

theorem keys_nodup (map : SortedMap κ ν) : map.keys.Nodup :=
  List.pairwise_map.mpr (map.increasing.imp fun below => ne_of_lt below)

@[simp]
theorem keys_length (map : SortedMap κ ν) : map.keys.length = map.size := by
  simp [keys, size]

theorem entries_nodup (map : SortedMap κ ν) : map.entries.Nodup :=
  map.increasing.imp fun below equal => absurd below (by simp [equal])

theorem ext_get? {left right : SortedMap κ ν} (same : ∀ key, left.get? key = right.get? key) :
    left = right := by
  have perm : left.entries.Perm right.entries := by
    refine (List.perm_ext_iff_of_nodup left.entries_nodup right.entries_nodup).mpr ?_
    rintro ⟨key, value⟩
    rw [mem_entries_iff, mem_entries_iff, same]
  refine SortedMap.ext (perm.eq_of_pairwise ?_ left.increasing right.increasing)
  intro first second _ _ forward backward
  exact absurd (lt_trans forward backward) (lt_irrefl _)

theorem foldl_insert_entries_again (entries : List (κ × ν)) (map : SortedMap κ ν) :
    entries.foldl (fun map entry => map.insert entry.1 entry.2)
        (entries.foldl (fun map entry => map.insert entry.1 entry.2) map) =
      entries.foldl (fun map entry => map.insert entry.1 entry.2) map := by
  apply ext_get?
  intro key
  rw [get?_foldl_insert_entries, get?_foldl_insert_entries, ← Option.or_assoc, Option.or_self]

@[simp]
theorem size_empty : (empty : SortedMap κ ν).size = 0 := rfl

theorem contains_eq_false_of_size {map : SortedMap κ ν} (empty : map.size = 0) (key : κ) :
    map.contains key = false := by
  have entries : map.entries = [] := List.length_eq_zero_iff.mp empty
  simp [contains, get?, entries]

theorem get?_eq_none_of_size {map : SortedMap κ ν} (empty : map.size = 0) (key : κ) :
    map.get? key = none := by
  simpa [contains] using contains_eq_false_of_size empty key

theorem length_insertEntry {key : κ} (value : ν) {entries : List (κ × ν)}
    (fresh : entries.lookup key = none) :
    (insertEntry key value entries).length = entries.length + 1 := by
  induction entries with
  | nil => rfl
  | cons head rest ih =>
      obtain ⟨headKey, headValue⟩ := head
      rw [insertEntry]
      split_ifs <;> grind

theorem size_insert_of_fresh {map : SortedMap κ ν} {key : κ} (value : ν)
    (fresh : map.contains key = false) : (map.insert key value).size = map.size + 1 := by
  have absent : map.get? key = none := by simpa [contains] using fresh
  exact length_insertEntry value absent

theorem size_le_of_keys_subset {map : SortedMap κ ν} {list : List κ}
    (within : ∀ key, map.contains key = true → key ∈ list) : map.size ≤ list.length := by
  rw [← keys_length]
  exact (map.keys_nodup.subperm fun key mem => within key (mem_keys_iff.mp mem)).length_le

theorem contains_of_length_le {map : SortedMap κ ν} {list : List κ}
    (within : ∀ key, map.contains key = true → key ∈ list) (full : list.length ≤ map.size)
    {key : κ} (mem : key ∈ list) : map.contains key = true := by
  have subperm := map.keys_nodup.subperm fun key mem => within key (mem_keys_iff.mp mem)
  have perm := subperm.perm_of_length_le (by simpa using full)
  exact mem_keys_iff.mp (perm.mem_iff.mpr mem)

theorem perm_erase {map : SortedMap κ ν} {key : κ} {value : ν}
    (found : map.get? key = some value) :
    map.entries.Perm ((key, value) :: (map.erase key).entries) := by
  have fresh : (key, value) ∉ (map.erase key).entries := by simp [mem_entries_iff]
  refine (List.perm_ext_iff_of_nodup map.entries_nodup
    (List.nodup_cons.mpr ⟨fresh, (map.erase key).entries_nodup⟩)).mpr ?_
  rintro ⟨other, bound⟩
  rw [List.mem_cons, mem_entries_iff, mem_entries_iff, get?_erase, Prod.mk.injEq]
  by_cases same : other = key
  · subst same
    simp [found, eq_comm]
  · simp [same]

theorem erase_insert (map : SortedMap κ ν) (key : κ) (value : ν) :
    (map.insert key value).erase key = map.erase key := by
  apply ext_get?
  intro other
  by_cases same : other = key <;> simp [same]

theorem insert_insert (map : SortedMap κ ν) (key : κ) (first second : ν) :
    (map.insert key first).insert key second = map.insert key second := by
  apply ext_get?
  intro other
  by_cases same : other = key <;> simp [same]

theorem insert_of_get? {map : SortedMap κ ν} {key : κ} {value : ν}
    (found : map.get? key = some value) : map.insert key value = map := by
  apply ext_get?
  intro other
  by_cases same : other = key <;> simp [same, found]

theorem erase_of_absent {map : SortedMap κ ν} {key : κ} (absent : map.get? key = none) :
    map.erase key = map := by
  apply ext_get?
  intro other
  by_cases same : other = key <;> simp [same, absent]

/-- Adding an item to the group of a key adds it to the items of all groups. -/
theorem group_perm {α : Type*} (groups : SortedMap κ (List α)) (key : κ) (item : α) :
    ((groups.insert key ((groups.get? key).getD [] ++ [item])).entries.flatMap Prod.snd).Perm
      (groups.entries.flatMap Prod.snd ++ [item]) := by
  have bound := (perm_erase (groups.get?_insert_self key
    ((groups.get? key).getD [] ++ [item]))).flatMap_right Prod.snd
  rw [erase_insert, List.flatMap_cons] at bound
  have before : (groups.entries.flatMap Prod.snd).Perm
      ((groups.get? key).getD [] ++ (groups.erase key).entries.flatMap Prod.snd) := by
    cases found : groups.get? key with
    | none => rw [erase_of_absent found, Option.getD_none, List.nil_append]
    | some group => exact (perm_erase found).flatMap_right Prod.snd
  have moved : ([item] ++ (groups.erase key).entries.flatMap Prod.snd).Perm
      ((groups.erase key).entries.flatMap Prod.snd ++ [item]) := List.perm_append_comm
  have kept := moved.append_left ((groups.get? key).getD [])
  rw [← List.append_assoc, ← List.append_assoc] at kept
  exact bound.trans (kept.trans (before.symm.append_right [item]))

theorem entries_subperm {small large : SortedMap κ ν}
    (within : ∀ key value, small.get? key = some value → large.get? key = some value) :
    small.entries.Subperm large.entries :=
  small.entries_nodup.subperm fun _ mem =>
    mem_entries_iff.mpr (within _ _ (mem_entries_iff.mp mem))

/-! ## Totals -/

/-- The sum of a measure of the bound values. -/
def total (measure : ν → Nat) (map : SortedMap κ ν) : Nat :=
  (map.entries.map fun entry => measure entry.2).sum

variable (measure : ν → Nat)

@[simp]
theorem total_empty : (empty : SortedMap κ ν).total measure = 0 := rfl

theorem total_of_get? {map : SortedMap κ ν} {key : κ} {value : ν}
    (found : map.get? key = some value) :
    map.total measure = measure value + (map.erase key).total measure :=
  ((perm_erase found).map fun entry : κ × ν => measure entry.2).sum_nat

theorem total_insert (map : SortedMap κ ν) (key : κ) (value : ν) :
    (map.insert key value).total measure = measure value + (map.erase key).total measure := by
  rw [total_of_get? measure (map.get?_insert_self key value), erase_insert]

theorem total_insert_of_fresh {map : SortedMap κ ν} {key : κ} (value : ν)
    (fresh : map.get? key = none) :
    (map.insert key value).total measure = measure value + map.total measure := by
  rw [total_insert, erase_of_absent fresh]

theorem total_erase_le (map : SortedMap κ ν) (key : κ) :
    (map.erase key).total measure ≤ map.total measure := by
  cases found : map.get? key with
  | none => exact Nat.le_of_eq (congrArg (total measure) (erase_of_absent found))
  | some value =>
      rw [total_of_get? measure found]
      omega

theorem length_filter_eq_total (has : ν → Bool) (map : SortedMap κ ν) :
    (map.entries.filter fun entry => has entry.2).length =
      map.total fun value => (has value).toNat := by
  rw [total]
  induction map.entries with
  | nil => rfl
  | cons entry rest ih =>
      rw [List.map_cons, List.sum_cons, ← ih]
      cases holds : has entry.2 <;> simp [holds, Nat.add_comm]

theorem le_total {map : SortedMap κ ν} {key : κ} {value : ν}
    (found : map.get? key = some value) : measure value ≤ map.total measure := by
  rw [total_of_get? measure found]
  omega

theorem total_count {α : Type*} [BEq α] (items : ν → List α) (item : α) (map : SortedMap κ ν) :
    (map.total fun value => (items value).count item) =
      (map.entries.flatMap fun entry => items entry.2).count item := by
  rw [List.count_flatMap]
  rfl

/-- A map whose values are bounded by those of another one has at most its total. -/
theorem total_le_total {small large : SortedMap κ ν}
    (within : ∀ key value, small.get? key = some value →
      ∃ value', large.get? key = some value' ∧ measure value ≤ measure value') :
    small.total measure ≤ large.total measure := by
  induction bindings : small.size generalizing small large with
  | zero =>
      have none : small.entries = [] := List.length_eq_zero_iff.mp bindings
      rw [total, none]
      exact Nat.zero_le _
  | succ size ih =>
      obtain ⟨entry, mem⟩ := List.exists_mem_of_length_pos (l := small.entries) (by
        rw [← SortedMap.size, bindings]
        exact Nat.succ_pos size)
      have found : small.get? entry.1 = some entry.2 := mem_entries_iff.mp mem
      obtain ⟨value', found', bound⟩ := within entry.1 entry.2 found
      have rest : (small.erase entry.1).size = size := by
        have whole := (perm_erase found).length_eq
        rw [← SortedMap.size, bindings] at whole
        exact (Nat.succ.inj whole).symm
      have less : (small.erase entry.1).total measure ≤ (large.erase entry.1).total measure := by
        refine ih (fun key value kept => ?_) rest
        obtain ⟨different, kept⟩ := get?_erase_eq_some.mp kept
        obtain ⟨value', kept', bound⟩ := within key value kept
        exact ⟨value', get?_erase_eq_some.mpr ⟨different, kept'⟩, bound⟩
      rw [total_of_get? measure found, total_of_get? measure found']
      omega

theorem exists_of_total_pos {map : SortedMap κ ν} (pos : 0 < map.total measure) :
    ∃ key value, map.get? key = some value ∧ 0 < measure value := by
  obtain ⟨part, mem, positive⟩ := List.sum_pos_iff_exists_pos_nat.mp pos
  obtain ⟨entry, bound, rfl⟩ := List.mem_map.mp mem
  exact ⟨entry.1, entry.2, mem_entries_iff.mp bound, positive⟩

theorem size_erase {map : SortedMap κ ν} {key : κ} (bound : map.contains key = true) :
    map.size = (map.erase key).size + 1 := by
  obtain ⟨value, found⟩ := contains_iff.mp bound
  exact (perm_erase found).length_eq

theorem size_ne_zero {map : SortedMap κ ν} {key : κ} {value : ν}
    (found : map.get? key = some value) : map.size ≠ 0 :=
  fun none => absurd (get?_eq_none_of_size none key) (by simp [found])

theorem size_insert_of_bound {map : SortedMap κ ν} {key : κ} (bound : map.contains key = true)
    (value : ν) : (map.insert key value).size = map.size := by
  have after := size_erase (contains_iff.mpr ⟨value, map.get?_insert_self key value⟩)
  rw [erase_insert] at after
  rw [after, size_erase bound]

theorem exists_of_size_pos {map : SortedMap κ ν} (pos : 0 < map.size) :
    ∃ key value, map.get? key = some value := by
  obtain ⟨entry, mem⟩ := List.exists_mem_of_length_pos pos
  exact ⟨entry.1, entry.2, mem_entries_iff.mp mem⟩

theorem exists_other {map : SortedMap κ ν} {key : κ} {value : ν}
    (found : map.get? key = some value) (more : map.size ≠ 1) :
    ∃ other value', other ≠ key ∧ map.get? other = some value' := by
  have smaller := size_erase (contains_iff.mpr ⟨value, found⟩)
  have pos : 0 < (map.erase key).size := by omega
  obtain ⟨other, value', left⟩ := exists_of_size_pos pos
  exact ⟨other, value', get?_erase_eq_some.mp left⟩

theorem eq_of_size_le_one {map : SortedMap κ ν} (single : map.size ≤ 1) {key other : κ}
    (bound : map.contains key = true) (bound' : map.contains other = true) : other = key := by
  by_contra different
  have smaller := size_erase bound
  have left : (map.erase key).contains other = true := by simp [different, bound']
  have rest := size_erase left
  omega

/-- Some key is bound to a value with a property. -/
def Has (holds : ν → Prop) (map : SortedMap κ ν) : Prop :=
  ∃ key value, map.get? key = some value ∧ holds value

instance (holds : ν → Prop) [DecidablePred holds] (map : SortedMap κ ν) :
    Decidable (map.Has holds) :=
  decidable_of_iff (∃ entry ∈ map.entries, holds entry.2) (by simp [Has, mem_entries_iff])

@[simp]
theorem not_has_empty (holds : ν → Prop) : ¬(empty : SortedMap κ ν).Has holds := by simp [Has]

/-- A bound value counts beside those of the other keys. -/
theorem has_of_get? {map : SortedMap κ ν} {key : κ} {value : ν}
    (found : map.get? key = some value) (holds : ν → Prop) :
    map.Has holds ↔ holds value ∨ (map.erase key).Has holds := by
  constructor
  · rintro ⟨other, value', found', holds'⟩
    by_cases same : other = key
    · rw [same, found] at found'
      obtain rfl := Option.some.inj found'
      exact .inl holds'
    · exact .inr ⟨other, value', by simp [same, found'], holds'⟩
  · rintro (here | ⟨other, value', found', holds'⟩)
    · exact ⟨key, value, found, here⟩
    · rw [get?_erase] at found'
      split_ifs at found'
      exact ⟨other, value', found', holds'⟩

theorem has_insert (map : SortedMap κ ν) (key : κ) (value : ν) (holds : ν → Prop) :
    (map.insert key value).Has holds ↔ holds value ∨ (map.erase key).Has holds := by
  rw [has_of_get? (map.get?_insert_self key value), erase_insert]

theorem has_replace (map : SortedMap κ ν) (key : κ) (value? : Option ν) (holds : ν → Prop) :
    (map.replace key value?).Has holds ↔
      (∃ value, value? = some value ∧ holds value) ∨ (map.erase key).Has holds := by
  cases value? with
  | none => simp [replace]
  | some value => simp [replace, has_insert]

theorem has_insert_of_fresh {map : SortedMap κ ν} {key : κ} (fresh : map.get? key = none)
    (value : ν) (holds : ν → Prop) :
    (map.insert key value).Has holds ↔ holds value ∨ map.Has holds := by
  rw [has_insert, erase_of_absent fresh]

theorem ext_contains {left right : SortedSet κ}
    (same : ∀ key, left.contains key = right.contains key) : left = right := by
  apply ext_get?
  intro key
  have bound (set : SortedSet κ) : set.get? key = if set.contains key then some () else none := by
    rw [contains]
    cases set.get? key <;> rfl
  rw [bound, bound, same]

theorem contains_foldl_insert (items : List κ) (set : SortedSet κ) (key : κ) :
    (items.foldl (fun set item => set.insert item ()) set).contains key =
      (decide (key ∈ items) || set.contains key) := by
  induction items generalizing set with
  | nil => simp
  | cons item items ih =>
      rw [List.foldl_cons, ih, contains_insert]
      by_cases same : key = item
      · simp [same]
      · simp [same]

theorem contains_foldl_erase (items : List κ) (map : SortedMap κ ν) (key : κ) :
    (items.foldl (fun map item => map.erase item) map).contains key =
      (decide (key ∉ items) && map.contains key) := by
  induction items generalizing map with
  | nil => simp
  | cons item items ih =>
      rw [List.foldl_cons, ih, contains_erase]
      by_cases same : key = item
      · simp [same]
      · simp [same]

theorem foldl_insert_keys (set : SortedSet κ) :
    set.keys.foldl (fun set item => set.insert item ()) empty = set := by
  apply ext_contains
  intro key
  rw [contains_foldl_insert, contains_empty, Bool.or_false, Bool.eq_iff_iff, decide_eq_true_iff]
  exact mem_keys_iff

theorem size_insert_le (map : SortedMap κ ν) (key : κ) (value : ν) :
    (map.insert key value).size ≤ map.size + 1 := by
  have within : ∀ other, (map.insert key value).contains other = true →
      other ∈ key :: map.keys := by
    intro other present
    rw [contains_insert, Bool.or_eq_true, decide_eq_true_iff] at present
    rcases present with rfl | old
    · exact List.mem_cons_self
    · exact List.mem_cons_of_mem key (mem_keys_iff.mpr old)
  simpa using size_le_of_keys_subset within

end SortedMap
