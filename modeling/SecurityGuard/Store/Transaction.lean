import SecurityGuard.Store.Fidelity

/-!
# The transaction around a batch

`InsertEvent` stores a batch between BEGIN and COMMIT.  A transaction remembers the table as it
was when it began; one connection has at most one transaction open.
-/

namespace SecurityGuard

/-- The only connection to the table of risk events. -/
structure Database where
  store : Sql.Store := {}
  /-- The table that ROLLBACK restores, while a transaction is open. -/
  began : Option Sql.Table := none

namespace Database

open DatabaseHelper DatabaseManager

/-- `GENERAL_ERROR`. -/
def generalError : Code := -1

variable (engine : Sql.Engine schema) (database : Database)

/-- A statement was executed, whether or not it succeeded. -/
def executed : Sql.Store := { database.store with executed := database.store.executed + 1 }

/-- Begin a transaction, which fails inside another one. -/
def beginTransaction : Code × Database :=
  if (engine.failure database.store.executed).isSome ∨ database.began.isSome then
    (generalError, { database with store := database.executed })
  else (.success, { store := database.executed, began := some database.store.table })

/-- Return to the store at the beginning of the transaction. -/
def rollBack : Code × Database :=
  match database.began with
  | none => (generalError, { database with store := database.executed })
  | some table =>
      if (engine.failure database.store.executed).isSome then
        (generalError, { database with store := database.executed })
      else (.success, { store := { database.executed with table }, began := none })

/-- A COMMIT that fails leaves the transaction open. -/
def commit : Code × Database :=
  if (engine.failure database.store.executed).isSome ∨ database.began = none then
    (generalError, { database with store := database.executed })
  else (.success, { store := database.executed, began := none })

/-- Begin a transaction, after giving up the one that is still open. -/
def beginTransactionEvent : Database :=
  let first := database.beginTransaction engine
  if first.1 ≠ .success then ((first.2.rollBack engine).2.beginTransaction engine).2
  else first.2

def commitEvent : Database := (database.commit engine).2

variable (config : ConfigData) (source : Nat) (events : List SecEvent)

/-- The connection when the events of a batch were tried and COMMIT is next. -/
def beforeCommit : Code × Database :=
  let began := database.beginTransactionEvent engine
  let stored := DatabaseManager.insertEvent engine config began.store source events
  (stored.1, { began with store := stored.2 })

/-- `InsertEvent` with its transaction. -/
def insertEvent : Code × Database :=
  let stored := database.beforeCommit engine config source events
  (stored.1, stored.2.commitEvent engine)

end Database

namespace DatabaseManager

open DatabaseHelper

variable (engine : Sql.Engine schema) (config : ConfigData) (source : Nat) (store : Sql.Store)

/-- Every event of a batch has a configuration. -/
def Configured (events : List SecEvent) : Prop :=
  ∀ event ∈ events, ∃ cfg, config.getEventConfig event.eventId = some cfg

/-- Every event of a batch that belongs into the table is inserted when its turn comes. -/
def Inserted (events : List SecEvent) : Prop :=
  ∀ front event back cfg, events = front ++ event :: back →
    Stored config source event.eventId cfg →
    (storeEvent engine (insertEvent engine config store source front).2 event
      cfg.storageRomNums).1 = .success

/-- The turn of an event goes wrong. -/
def Fails (event : SecEvent) : Prop :=
  config.getEventConfig event.eventId = none ∨
    ∃ cfg, Stored config source event.eventId cfg ∧
      (storeEvent engine store event cfg.storageRomNums).1 ≠ .success

/-- The table is not for an event, which has a configuration. -/
def Passes (event : SecEvent) : Prop :=
  (∃ cfg, config.getEventConfig event.eventId = some cfg) ∧
    ∀ cfg, ¬Stored config source event.eventId cfg

/-- Of the events that do not pass, the last one goes wrong. -/
def LastFails (events : List SecEvent) : Prop :=
  ∃ front event back, events = front ++ event :: back ∧
    Fails engine config source (insertEvent engine config store source front).2 event ∧
    ∀ later ∈ back, Passes config source later

variable {engine config source store}

theorem insertEvent_append (events : List SecEvent) (event : SecEvent) :
    insertEvent engine config store source (events ++ [event]) =
      insertNext engine config source (insertEvent engine config store source events) event := by
  simp [insertEvent]

theorem lastFails_append (events : List SecEvent) (event : SecEvent) :
    LastFails engine config source store (events ++ [event]) ↔
      Fails engine config source (insertEvent engine config store source events).2 event ∨
        Passes config source event ∧ LastFails engine config source store events := by
  constructor
  · rintro ⟨front, failing, back, split, fails, passes⟩
    rcases List.eq_nil_or_concat back with rfl | ⟨middle, last, rfl⟩
    · obtain ⟨rfl, same⟩ := List.append_inj' split rfl
      obtain rfl : event = failing := by simpa using same
      exact .inl fails
    · rw [List.concat_eq_append, ← List.cons_append, ← List.append_assoc] at split
      obtain ⟨rfl, same⟩ := List.append_inj' split rfl
      obtain rfl : event = last := by simpa using same
      refine .inr ⟨passes event (by simp), front, failing, middle, rfl, fails, ?_⟩
      exact fun later mem => passes later (by simp [mem])
  · rintro (fails | ⟨passing, front, failing, back, rfl, fails, passes⟩)
    · exact ⟨events, event, [], rfl, fails, by simp⟩
    · refine ⟨front, failing, back ++ [event], by simp, fails, fun later mem => ?_⟩
      rcases List.mem_append.mp mem with earlier | last
      · exact passes later earlier
      · exact List.mem_singleton.mp last ▸ passing

/-- The code of a batch is the one of the last event that does not pass. -/
theorem insertEvent_code (events : List SecEvent) :
    (insertEvent engine config store source events).1 ≠ .success ↔
      LastFails engine config source store events := by
  induction events using List.reverseRecOn with
  | nil =>
      constructor
      · exact fun failed => absurd rfl failed
      · rintro ⟨front, event, back, split, -⟩
        exact absurd split (by simp)
  | append_singleton events event ih =>
      rw [lastFails_append, insertEvent_append]
      generalize before_eq : insertEvent engine config store source events = before at ih ⊢
      cases found : config.getEventConfig event.eventId with
      | none =>
          have turn : (insertNext engine config source before event).1 = .notFound := by
            rw [insertNext, found]
          simp [turn, Fails, found, Code.notFound, Code.success]
      | some cfg =>
          rcases insertNext_cases engine config source before event with
            ⟨-, never⟩ | ⟨other, stored, turn⟩
          · have kept : (insertNext engine config source before event).1 = before.1 := by
              rw [insertNext, found]
              dsimp only
              split_ifs with reported table
              · rfl
              · exact absurd ⟨found, not_not.mp reported, table⟩ (never cfg)
              · rfl
            have passes : Passes config source event := ⟨⟨cfg, found⟩, never⟩
            have works : ¬Fails engine config source before.2 event := by
              rintro (missing | ⟨cfg', stored, -⟩)
              · exact absurd (found.symm.trans missing) (by simp)
              · exact never cfg' stored
            rw [kept, ih]
            simp [passes, works]
          · have stays : ¬Passes config source event := fun passes => passes.2 other stored
            have fails : Fails engine config source before.2 event ↔
                (storeEvent engine before.2 event other.storageRomNums).1 ≠ .success := by
              constructor
              · rintro (missing | ⟨cfg', stored', failed⟩)
                · exact absurd (found.symm.trans missing) (by simp)
                · rwa [stored.unique stored']
              · exact fun failed => .inr ⟨other, stored, failed⟩
            rw [turn]
            simp [stays, fails]

theorem not_lastFails {events : List SecEvent} (configured : Configured config events)
    (inserted : Inserted engine config source store events) :
    ¬LastFails engine config source store events := by
  rintro ⟨front, event, back, rfl, missing | ⟨cfg, stored, failed⟩, -⟩
  · obtain ⟨cfg, found⟩ := configured event (by simp)
    exact absurd (found.symm.trans missing) (by simp)
  · exact failed (inserted front event back cfg rfl stored)

end DatabaseManager

namespace Database

open DatabaseHelper DatabaseManager

variable (engine : Sql.Engine schema) (config : ConfigData) (source : Nat) (database : Database)
  (events : List SecEvent)

/-- Every event of a batch is configured and inserted, and its transaction is committed. -/
structure Complete : Prop where
  configured : Configured config events
  inserted : Inserted engine config source (database.beginTransactionEvent engine).store events
  committed : ((database.beforeCommit engine config source events).2.commit engine).1 = .success

/-- The code that a batch returns is SUCCESS exactly when the batch is complete. -/
def Faithful : Prop :=
  (database.insertEvent engine config source events).1 = .success ↔
    Complete engine config source database events

/-- A batch reports faithfully exactly when it is complete, or when the last of its events that
does not pass goes wrong. -/
theorem insertEvent_faithful_iff :
    Faithful engine config source database events ↔
      Complete engine config source database events ∨
        LastFails engine config source (database.beginTransactionEvent engine).store events := by
  have code : (database.insertEvent engine config source events).1 = .success ↔
      ¬LastFails engine config source (database.beginTransactionEvent engine).store events := by
    rw [← insertEvent_code, not_not]
    rfl
  have ends : Complete engine config source database events →
      ¬LastFails engine config source (database.beginTransactionEvent engine).store events :=
    fun complete => not_lastFails complete.configured complete.inserted
  rw [Faithful, code]
  tauto

/-- An event without a configuration is forgotten when the event after it is stored. -/
theorem unknown_event_reported_as_success :
    ¬Faithful (Sql.Engine.sequential schema) oneRowConfig userSource {}
      [{ eventId := 2 }, { eventId := 1 }] := by
  intro faithful
  have code : (insertEvent (Sql.Engine.sequential schema) {} oneRowConfig userSource
      [{ eventId := 2 }, { eventId := 1 }]).1 = .success := by decide +kernel
  obtain ⟨cfg, found⟩ := (faithful.mp code).configured { eventId := 2 } (by simp)
  have missing : oneRowConfig.getEventConfig 2 = none := by decide
  exact absurd (missing.symm.trans found) (by simp)

end Database

end SecurityGuard
