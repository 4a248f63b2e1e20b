import SecurityGuard.Store.DatabaseManager

/-!
# The quota of an event

An event is stored after the oldest rows of its id were removed, as many as needed for the quota.
A batch then leaves no more rows of an id than its quota and touches no other id.
-/

namespace SecurityGuard.DatabaseManager

open DatabaseHelper

variable {engine : Sql.Engine schema}

/-- Storing an event removes the oldest rows of its id and adds the row of the event. -/
structure Stores (before after : Sql.Table) (event : SecEvent) (evicted rest : List Sql.Row)
    (row : Sql.Row) : Prop where
  split : (evicted ++ rest).Perm (before.rows.filter (hasEventId event.eventId))
  oldest : ∀ first ∈ evicted, ∀ second ∈ rest, DateLe first second
  keeps : Keeps row event
  number : row.id = before.nextId
  rows : after.rows = (without before (evicted.map Sql.Row.id)).rows ++ [row]

/-- The rows of the event id are few enough for an eviction to be carried out. -/
def Evictable (table : Sql.Table) (eventId : Int) (quota : Nat) : Prop :=
  (table.rows.countP (hasEventId eventId) : Int) ≤ max int32Max quota

/-- Eviction splits the rows of an id; if it is carried out, as many go as it was asked to
remove. -/
theorem deleteOldEventByEventId_splits (reliable : engine.Reliable) (store : Sql.Store)
    (eventId : Int) {count : Int} (positive : 0 < count) :
    ∃ evicted rest : List Sql.Row,
      (evicted ++ rest).Perm (store.table.rows.filter (hasEventId eventId)) ∧
      (∀ first ∈ evicted, ∀ second ∈ rest, DateLe first second) ∧
      (deleteOldEventByEventId engine store eventId count).2.table =
        without store.table (evicted.map Sql.Row.id) ∧
      (0 ≤ eventId → count ≤ int32Max →
        evicted.length = min count.toNat (store.table.rows.countP (hasEventId eventId))) := by
  by_cases carried : 0 ≤ eventId ∧ count ≤ int32Max
  · obtain ⟨known, small⟩ := carried
    obtain ⟨rest, split, oldest⟩ := oldestRows_split reliable eventId count.toNat
    exact ⟨_, rest, split, oldest, deleteOldEventByEventId_table reliable known positive small,
      fun _ _ => length_oldestRows reliable eventId count.toNat⟩
  · refine ⟨[], _, List.Perm.refl _, by simp, ?_, by omega⟩
    have refused : (deleteOldEventByEventId engine store eventId count).2 = store := by
      unfold deleteOldEventByEventId
      split_ifs <;> first | rfl | omega
    rw [refused]
    exact (Sql.Table.restrict_of_forall _ (by simp)).symm

/-- What storing an event removes, if as many rows go as it asks for. -/
theorem storeEvent_evicts (reliable : engine.Reliable) (store : Sql.Store) (eventId : Int)
    (quota : Nat) :
    let counted := countEventByEventId engine store eventId
    let emptied :=
      if quota ≤ counted.1 then
        (deleteOldEventByEventId engine counted.2 eventId (counted.1 + 1 - quota)).2
      else counted.2
    ∃ evicted rest : List Sql.Row,
      (evicted ++ rest).Perm (store.table.rows.filter (hasEventId eventId)) ∧
      (∀ first ∈ evicted, ∀ second ∈ rest, DateLe first second) ∧
      emptied.table = without store.table (evicted.map Sql.Row.id) ∧
      (0 ≤ eventId → 1 ≤ quota → Evictable store.table eventId quota →
        rest.length + 1 ≤ quota) := by
  intro counted emptied
  have total : counted.1 = store.table.rows.countP (hasEventId eventId) := by
    simp only [counted, countEventByEventId_of_reliable reliable]
  have same : counted.2.table = store.table := by
    simp only [counted, countEventByEventId_of_reliable reliable]
  by_cases full : quota ≤ counted.1
  · obtain ⟨evicted, rest, split, oldest, removed, length⟩ :=
      deleteOldEventByEventId_splits reliable counted.2 eventId
        (show 0 < counted.1 + 1 - quota by omega)
    rw [same] at split removed length
    refine ⟨evicted, rest, split, oldest, ?_, ?_⟩
    · simp only [emptied, if_pos full, removed]
    · intro known positive evictable
      have parts := split.length_eq
      rw [List.length_append, ← List.countP_eq_length_filter] at parts
      have gone := length known (by unfold Evictable int32Max at *; omega)
      omega
  · refine ⟨[], _, List.Perm.refl _, by simp, ?_, ?_⟩
    · simp only [emptied, if_neg full, same]
      exact (Sql.Table.restrict_of_forall _ (by simp)).symm
    · intro _ _ _
      rw [← List.countP_eq_length_filter]
      omega

/-- Storing an event keeps the rows of its id within its quota. -/
theorem storeEvent_stores (reliable : engine.Reliable) (store : Sql.Store) (event : SecEvent)
    (quota : Nat) :
    ∃ evicted rest row,
      Stores store.table (storeEvent engine store event quota).2.table event evicted rest row ∧
      (0 ≤ event.eventId → 1 ≤ quota → Evictable store.table event.eventId quota →
        rest.length + 1 ≤ quota) := by
  obtain ⟨evicted, rest, split, oldest, removed, room⟩ :=
    storeEvent_evicts reliable store event.eventId quota
  obtain ⟨row, keeps, number, inserted⟩ := insertEvent_of_reliable reliable event
  refine ⟨evicted, rest, row, ⟨split, oldest, keeps, ?_, ?_⟩, room⟩
  · rw [number, removed]
    rfl
  · unfold storeEvent
    rw [inserted, Sql.Table.append, removed]
    obtain ⟨id, cells⟩ := row
    subst number
    rw [removed]

theorem hasEventId_inj {row : Sql.Row} {eventId eventId' : Int}
    (named : hasEventId eventId row = true) (named' : hasEventId eventId' row = true) :
    eventId = eventId' := by
  rw [hasEventId, decide_eq_true_iff] at named named'
  exact Sql.Value.integer.inj (named.symm.trans named')

namespace Stores

variable {before after : Sql.Table} {event : SecEvent} {evicted rest : List Sql.Row}
  {row : Sql.Row}

theorem hasEventId_row (stores : Stores before after event evicted rest row) (eventId : Int) :
    hasEventId eventId row = decide (event.eventId = eventId) := by
  have cell : row.value schema "event_id" = .integer event.eventId :=
    stores.keeps ("event_id", .integer event.eventId) (by simp [columns])
  simp [hasEventId, cell]

theorem mem_evicted (stores : Stores before after event evicted rest row) {old : Sql.Row}
    (mem : old ∈ evicted) : old ∈ before.rows ∧ hasEventId event.eventId old = true :=
  List.mem_filter.mp (stores.split.mem_iff.mp (List.mem_append_left rest mem))

theorem id_mem_evicted (stores : Stores before after event evicted rest row) {other : Sql.Row}
    (inside : other ∈ before.rows) : other.id ∈ evicted.map Sql.Row.id ↔ other ∈ evicted := by
  constructor
  · intro numbered
    obtain ⟨old, gone, same⟩ := List.mem_map.mp numbered
    exact Sql.Table.eq_of_id (stores.mem_evicted gone).1 inside same ▸ gone
  · intro gone
    exact List.mem_map_of_mem gone

theorem mem_after (stores : Stores before after event evicted rest row) {other : Sql.Row} :
    other ∈ after.rows ↔ (other ∈ before.rows ∧ other ∉ evicted) ∨ other = row := by
  rw [stores.rows, List.mem_append, List.mem_singleton, without, Sql.Table.mem_restrict,
    decide_eq_true_iff]
  exact or_congr_left (and_congr_right fun inside => not_congr (stores.id_mem_evicted inside))

/-- The rows of other ids stay. -/
theorem filter_other (stores : Stores before after event evicted rest row) {eventId : Int}
    (other : event.eventId ≠ eventId) :
    after.rows.filter (hasEventId eventId) = before.rows.filter (hasEventId eventId) := by
  have kept : ∀ old ∈ before.rows,
      (hasEventId eventId old && decide (old.id ∉ evicted.map Sql.Row.id)) =
        hasEventId eventId old := by
    intro old inside
    cases named : hasEventId eventId old with
    | false => rfl
    | true =>
        have stays : old.id ∉ evicted.map Sql.Row.id := by
          rw [stores.id_mem_evicted inside]
          intro gone
          exact other (hasEventId_inj (stores.mem_evicted gone).2 named)
        rw [Bool.true_and, decide_eq_true stays]
  rw [stores.rows, List.filter_append, without, Sql.Table.rows_restrict, List.filter_filter,
    List.filter_congr kept, List.filter_singleton, stores.hasEventId_row, decide_eq_false other]
  exact List.append_nil _

theorem nodup_split (stores : Stores before after event evicted rest row) :
    ((evicted ++ rest).map Sql.Row.id).Nodup :=
  (stores.split.map Sql.Row.id).nodup_iff.mpr
    (before.distinct.sublist (List.filter_sublist.map Sql.Row.id))

/-- The rows of the event's id are those that were not evicted and the new one. -/
theorem countP_self (stores : Stores before after event evicted rest row) :
    after.rows.countP (hasEventId event.eventId) = rest.length + 1 := by
  have parts := stores.nodup_split
  rw [List.map_append, List.nodup_append] at parts
  have gone : evicted.filter (fun old => decide (old.id ∉ evicted.map Sql.Row.id)) = [] := by
    refine List.filter_eq_nil_iff.mpr ?_
    intro old mem
    simpa using ⟨old, mem, rfl⟩
  have kept : rest.filter (fun old => decide (old.id ∉ evicted.map Sql.Row.id)) = rest := by
    refine List.filter_eq_self.mpr ?_
    intro old mem
    rw [decide_eq_true_iff]
    intro numbered
    exact parts.2.2 old.id numbered old.id (List.mem_map_of_mem mem) rfl
  have left := stores.split.filter fun old => decide (old.id ∉ evicted.map Sql.Row.id)
  rw [List.filter_append, gone, kept, List.nil_append] at left
  rw [stores.rows, List.countP_append, List.countP_singleton, stores.hasEventId_row, without,
    Sql.Table.rows_restrict, List.countP_eq_length_filter, List.filter_comm, left.length_eq]
  simp

end Stores

/-- The events of an id are stored when a source reports them, by their configuration. -/
structure Stored (config : ConfigData) (source : Nat) (eventId : Int) (cfg : EventCfg) :
    Prop where
  found : config.getEventConfig eventId = some cfg
  reported : cfg.source = source
  table : config.getTableFromEventId eventId = riskTable

variable {config : ConfigData} {source : Nat}

/-- A turn of the loop stores the event or leaves the table alone. -/
theorem insertNext_cases (engine : Sql.Engine schema) (config : ConfigData) (source : Nat)
    (state : Code × Sql.Store) (event : SecEvent) :
    (insertNext engine config source state event).2 = state.2 ∧
        (∀ cfg, ¬Stored config source event.eventId cfg) ∨
      ∃ cfg, Stored config source event.eventId cfg ∧
        insertNext engine config source state event =
          storeEvent engine state.2 event cfg.storageRomNums := by
  cases found : config.getEventConfig event.eventId with
  | none =>
      refine Or.inl ⟨by rw [insertNext, found], ?_⟩
      intro cfg stored
      exact absurd (stored.found.symm.trans found) (by simp)
  | some cfg =>
      by_cases reported : cfg.source = source
      · by_cases table : config.getTableFromEventId event.eventId = riskTable
        · refine Or.inr ⟨cfg, ⟨found, reported, table⟩, ?_⟩
          simp [insertNext, found, reported, table]
        · refine Or.inl ⟨by simp [insertNext, found, reported, table], ?_⟩
          intro other stored
          exact table stored.table
      · refine Or.inl ⟨by simp [insertNext, found, reported], ?_⟩
        intro other stored
        obtain rfl : cfg = other := Option.some.inj (found.symm.trans stored.found)
        exact reported stored.reported

variable (engine config source) in
/-- The table after a batch. -/
def tableAfter (store : Sql.Store) (events : List SecEvent) : Sql.Table :=
  (insertEvent engine config store source events).2.table

variable {store : Sql.Store}

@[simp]
theorem tableAfter_nil : tableAfter engine config source store [] = store.table := rfl

variable (config source store) in
/-- What the last event of a batch does to the table. -/
theorem tableAfter_append (reliable : engine.Reliable) (events : List SecEvent)
    (event : SecEvent) :
    tableAfter engine config source store (events ++ [event]) =
        tableAfter engine config source store events ∧
        (∀ cfg, ¬Stored config source event.eventId cfg) ∨
      ∃ cfg evicted rest row, Stored config source event.eventId cfg ∧
        Stores (tableAfter engine config source store events)
          (tableAfter engine config source store (events ++ [event])) event evicted rest row ∧
        (0 ≤ event.eventId → 1 ≤ cfg.storageRomNums →
          Evictable (tableAfter engine config source store events) event.eventId
            cfg.storageRomNums →
          rest.length + 1 ≤ cfg.storageRomNums) := by
  have last : tableAfter engine config source store (events ++ [event]) =
      (insertNext engine config source (insertEvent engine config store source events)
        event).2.table := by
    simp [tableAfter, insertEvent]
  rcases insertNext_cases engine config source (insertEvent engine config store source events)
    event with ⟨same, never⟩ | ⟨cfg, stored, turn⟩
  · exact Or.inl ⟨last.trans (congrArg Sql.Store.table same), never⟩
  · obtain ⟨evicted, rest, row, stores, room⟩ := storeEvent_stores reliable
      (insertEvent engine config store source events).2 event cfg.storageRomNums
    rw [turn] at last
    exact Or.inr ⟨cfg, evicted, rest, row, stored, last ▸ stores, room⟩

variable (config source store) in
theorem filter_tableAfter (reliable : engine.Reliable) (front : List SecEvent)
    {back : List SecEvent} {eventId : Int} (absent : ∀ event ∈ back, event.eventId ≠ eventId) :
    (tableAfter engine config source store (front ++ back)).rows.filter (hasEventId eventId) =
      (tableAfter engine config source store front).rows.filter (hasEventId eventId) := by
  induction back using List.reverseRecOn with
  | nil => rw [List.append_nil]
  | append_singleton back event ih =>
      have earlier := ih fun event mem => absent event (List.mem_append_left _ mem)
      rw [← List.append_assoc]
      rcases tableAfter_append config source store reliable (front ++ back) event with
        ⟨same, -⟩ | ⟨_, _, _, _, -, stores, -⟩
      · rw [same, earlier]
      · rw [stores.filter_other (absent event (by simp)), earlier]

theorem Stored.unique {eventId : Int} {cfg cfg' : EventCfg}
    (stored : Stored config source eventId cfg) (stored' : Stored config source eventId cfg') :
    cfg = cfg' :=
  Option.some.inj (stored.found.symm.trans stored'.found)

section Quota

variable {eventId : Int} {cfg : EventCfg}

theorem countP_append_le (reliable : engine.Reliable) {events : List SecEvent} {event : SecEvent}
    (stored : Stored config source event.eventId cfg) (known : 0 ≤ event.eventId)
    (positive : 1 ≤ cfg.storageRomNums)
    (evictable : Evictable (tableAfter engine config source store events) event.eventId
      cfg.storageRomNums) :
    (tableAfter engine config source store (events ++ [event])).rows.countP
      (hasEventId event.eventId) ≤ cfg.storageRomNums := by
  rcases tableAfter_append config source store reliable events event with
    ⟨-, never⟩ | ⟨other, _, _, _, stored', stores, room⟩
  · exact absurd stored (never cfg)
  · obtain rfl := stored.unique stored'
    rw [stores.countP_self]
    exact room known positive evictable

/-- In no state of a batch are there too many rows for an eviction. -/
theorem evictable_tableAfter (reliable : engine.Reliable)
    (few : (store.table.rows.length : Int) ≤ int32Max)
    (stored : Stored config source eventId cfg) (known : 0 ≤ eventId)
    (positive : 1 ≤ cfg.storageRomNums) (events : List SecEvent) :
    Evictable (tableAfter engine config source store events) eventId cfg.storageRomNums := by
  induction events using List.reverseRecOn with
  | nil =>
      have part : store.table.rows.countP (hasEventId eventId) ≤ store.table.rows.length :=
        List.countP_le_length
      rw [Evictable, tableAfter_nil]
      omega
  | append_singleton events event ih =>
      by_cases own : event.eventId = eventId
      · subst own
        have within := countP_append_le reliable stored known positive ih
        rw [Evictable]
        omega
      · rw [Evictable, List.countP_eq_length_filter,
          filter_tableAfter config source store reliable events (by simpa using own),
          ← List.countP_eq_length_filter]
        exact ih

end Quota

/-- The last event with a property splits a list. -/
theorem exists_last {α : Type*} (has : α → Prop) {list : List α} {item : α} (mem : item ∈ list)
    (holds : has item) :
    ∃ front last back, list = front ++ last :: back ∧ has last ∧ ∀ later ∈ back, ¬has later := by
  induction list using List.reverseRecOn with
  | nil => simp at mem
  | append_singleton list final ih =>
      by_cases ends : has final
      · exact ⟨list, final, [], rfl, ends, by simp⟩
      · have earlier : item ∈ list := by
          rcases List.mem_append.mp mem with inside | single
          · exact inside
          · exact absurd (List.mem_singleton.mp single ▸ holds) ends
        obtain ⟨front, last, back, rfl, hasLast, others⟩ := ih earlier
        refine ⟨front, last, back ++ [final], by simp, hasLast, ?_⟩
        intro later inside
        rcases List.mem_append.mp inside with inside | single
        · exact others later inside
        · exact List.mem_singleton.mp single ▸ ends

variable (store) in
/-- The row of the last stored event is the newest one of its id. -/
theorem newest_tableAfter (reliable : engine.Reliable) (event : SecEvent) {cfg : EventCfg}
    (stored : Stored config source event.eventId cfg) (front : List SecEvent)
    {back : List SecEvent} (last : ∀ later ∈ back, later.eventId ≠ event.eventId) :
    ∃ row ∈ (tableAfter engine config source store (front ++ event :: back)).rows,
      Keeps row event ∧
      ∀ other ∈ (tableAfter engine config source store (front ++ event :: back)).rows,
        hasEventId event.eventId other = true → other.id ≤ row.id := by
  rcases tableAfter_append config source store reliable front event with
    ⟨-, never⟩ | ⟨_, _, _, row, -, stores, -⟩
  · exact absurd stored (never cfg)
  · have kept := filter_tableAfter config source store reliable (front ++ [event]) last
    rw [List.append_assoc, List.singleton_append] at kept
    have named : hasEventId event.eventId row = true := by simp [stores.hasEventId_row]
    have mem : row ∈ (tableAfter engine config source store (front ++ [event])).rows :=
      stores.mem_after.mpr (Or.inr rfl)
    have inside := List.mem_filter.mpr ⟨mem, named⟩
    rw [← kept] at inside
    refine ⟨row, (List.mem_filter.mp inside).1, stores.keeps, ?_⟩
    intro other present same
    have before := List.mem_filter.mpr ⟨present, same⟩
    rw [kept] at before
    rcases stores.mem_after.mp (List.mem_filter.mp before).1 with ⟨old, -⟩ | rfl
    · have := Sql.Table.fresh _ other old
      have := stores.number
      omega
    · exact Int.le_refl _

/-- A row that a step evicts is no younger than a row of the same id that the step keeps. -/
theorem Stores.dateLe {before after : Sql.Table} {event : SecEvent} {evicted rest : List Sql.Row}
    {row : Sql.Row} (stores : Stores before after event evicted rest row) {gone kept : Sql.Row}
    (present : gone ∈ before.rows) (absent : gone ∉ after.rows) (present' : kept ∈ before.rows)
    (stays : kept ∈ after.rows)
    (same : kept.value schema "event_id" = gone.value schema "event_id") : DateLe gone kept := by
  have out : gone ∈ evicted := by
    by_contra inside
    exact absent (stores.mem_after.mpr (Or.inl ⟨present, inside⟩))
  have named : hasEventId event.eventId kept = true := by
    have own := (stores.mem_evicted out).2
    rw [hasEventId, decide_eq_true_iff] at own ⊢
    exact same.trans own
  have left : kept ∉ evicted := by
    rcases stores.mem_after.mp stays with ⟨-, outside⟩ | rfl
    · exact outside
    · have := before.fresh kept present'
      have := stores.number
      omega
  have part := stores.split.mem_iff.mpr (List.mem_filter.mpr ⟨present', named⟩)
  exact stores.oldest gone out kept ((List.mem_append.mp part).resolve_left left)

variable (config source store) in
/-- After a batch, every id that was stored is within its quota and its newest row is the one of
its last event.  What a step evicts is no younger than what it keeps, and the rows of the ids
that are not in the batch are unchanged. -/
theorem quota_holds (reliable : engine.Reliable) (few : store.table.rows.length < 2 ^ 31)
    (events : List SecEvent) :
    (∀ event ∈ events, ∀ cfg, Stored config source event.eventId cfg → 0 ≤ event.eventId →
      1 ≤ cfg.storageRomNums →
      (tableAfter engine config source store events).rows.countP (hasEventId event.eventId) ≤
        cfg.storageRomNums) ∧
    (∀ front event back cfg, events = front ++ event :: back →
      (∀ later ∈ back, later.eventId ≠ event.eventId) →
      Stored config source event.eventId cfg →
      ∃ row ∈ (tableAfter engine config source store events).rows, Keeps row event ∧
        ∀ other ∈ (tableAfter engine config source store events).rows,
          hasEventId event.eventId other = true → other.id ≤ row.id) ∧
    (∀ front event back, events = front ++ event :: back →
      ∀ gone ∈ (tableAfter engine config source store front).rows,
        gone ∉ (tableAfter engine config source store (front ++ [event])).rows →
        ∀ kept ∈ (tableAfter engine config source store front).rows,
          kept ∈ (tableAfter engine config source store (front ++ [event])).rows →
          kept.value schema "event_id" = gone.value schema "event_id" → DateLe gone kept) ∧
    ∀ eventId, (∀ event ∈ events, event.eventId ≠ eventId) →
      (tableAfter engine config source store events).rows.filter (hasEventId eventId) =
        store.table.rows.filter (hasEventId eventId) := by
  have few' : (store.table.rows.length : Int) ≤ int32Max := by
    unfold int32Max
    omega
  refine ⟨?_, ?_, ?_, ?_⟩
  · intro event mem cfg stored known positive
    obtain ⟨front, last, back, rfl, same, others⟩ :=
      exists_last (fun other => other.eventId = event.eventId) mem rfl
    rw [← same] at stored known others ⊢
    have within := countP_append_le reliable stored known positive
      (evictable_tableAfter reliable few' stored known positive front)
    have kept := filter_tableAfter config source store reliable (front ++ [last]) others
    rw [List.append_assoc, List.singleton_append] at kept
    rw [List.countP_eq_length_filter, kept, ← List.countP_eq_length_filter]
    exact within
  · rintro front event back cfg rfl last stored
    exact newest_tableAfter store reliable event stored front last
  · rintro front event back - gone present absent kept present' stays same
    rcases tableAfter_append config source store reliable front event with
      ⟨unchanged, -⟩ | ⟨_, _, _, _, -, stores, -⟩
    · exact absurd present (unchanged ▸ absent)
    · exact stores.dateLe present absent present' stays same
  · intro eventId absent
    exact filter_tableAfter config source store reliable [] absent

/-- A configuration with room for one row. -/
def oneRow : EventCfg := { eventId := 1, storageRomNums := 1 }

/-- A configuration in which an event has room for one row. -/
def oneRowConfig : ConfigData :=
  { eventMap := SortedMap.empty.insert 1 oneRow
    eventToTableMap := SortedMap.empty.insert 1 riskTable }

/-- Of two events the second stays. -/
theorem quota_holds_one_row :
    let events : List SecEvent := [{ eventId := 1, date := "1" }, { eventId := 1, date := "2" }]
    let after := tableAfter (Sql.Engine.sequential schema) oneRowConfig userSource {} events
    after.rows.countP (hasEventId 1) ≤ 1 ∧
      ∃ row ∈ after.rows, Keeps row { eventId := 1, date := "2" } ∧
        ∀ other ∈ after.rows, hasEventId 1 other = true → other.id ≤ row.id := by
  intro events after
  have stored : Stored oneRowConfig userSource 1 oneRow := ⟨rfl, rfl, rfl⟩
  obtain ⟨within, newest, -, -⟩ := quota_holds oneRowConfig userSource {}
    (show (Sql.Engine.sequential schema).Reliable from fun _ => rfl) (by decide) events
  exact ⟨within { eventId := 1, date := "2" } (by simp [events]) oneRow stored (by decide)
      (by decide),
    newest [{ eventId := 1, date := "1" }] { eventId := 1, date := "2" } [] oneRow rfl (by simp)
      stored⟩

end SecurityGuard.DatabaseManager
