import SecurityGuard.Sdk.Orphans
import SecurityGuard.Sdk.Recovery

/-!
# The release of a provider

`Release` of a provider marks it deleted, takes a copy of its session, destroys that and clears the
members, while a recovery may have a new session made.  A recovery that finds the provider deleted
forgets the new session, where that of a subscriber destroys it.
-/

namespace SecurityGuard

/-- The next section of `Release`. -/
inductive ProviderReleaseStage where
  | idle
  | copySession
  | destroy (session : Option Address)
  | clear
  | returned
  deriving DecidableEq, Repr

/-- A provider with the sessions that the service has made for it. -/
structure ProviderSessions where
  system : ProviderSystem := {}
  table : SessionTable := {}
  release : ProviderReleaseStage := .idle

/-- A step of the client, or of a release that runs beside it. -/
inductive ProviderSessionsAction where
  | client (action : ProviderAction)
  | copySession
  | destroy
  deriving DecidableEq, Repr

/-- The session that `CreateAuthProvider` returns in a section, with the object it is called on. -/
def ProviderSystem.created? (system : ProviderSystem) : ProviderAction → Option (Address × Address)
  | .proceedCreation answer =>
      match system.creation with
      | .createAuthProvider object =>
          if answer.code = .success then answer.newRemote.map (object, ·) else none
      | _ => none
  | .proceed id answer =>
      (system.recoveries.get? id).bind fun recovery =>
        match recovery.stage with
        | .createAuthProvider object =>
            if answer.code = .success then answer.newRemote.map (object, ·) else none
        | _ => none
  | _ => none

/-- The new session that a recovery has not handed over. -/
def Recovery.carried? (recovery : Recovery) : Option Address :=
  match recovery.stage with
  | .switch _ newRemote => some newRemote
  | _ => none

/-- The task has come to its end. -/
def Recovery.ended (recovery : Recovery) : Bool :=
  match recovery.stage with
  | .finished _ => true
  | _ => false

namespace ProviderSessions

variable (sessions : ProviderSessions)

/-- The state after a step that is possible. -/
def next : Transition ProviderSessions ProviderSessionsAction := fun sessions action =>
  match action with
  | .client action =>
      (ProviderSystem.next sessions.system action).bind fun system =>
        match action with
        | .deleteProvider =>
            let release :=
              if sessions.system.client.deleted then sessions.release else .copySession
            some { sessions with system, release }
        | .clear =>
            if sessions.release = .clear then some { sessions with system, release := .returned }
            else none
        | _ =>
            match sessions.system.created? action with
            | none => some { sessions with system }
            | some (object, session) =>
                (sessions.table.create? sessions.system.service object session).map fun table =>
                  { sessions with system, table }
  | .copySession =>
      if sessions.release = .copySession then
        some { sessions with release := .destroy sessions.system.client.sessionRemote }
      else none
  | .destroy =>
      match sessions.release with
      | .destroy none => some { sessions with release := .clear }
      | .destroy (some session) =>
          let table := sessions.table.destroy sessions.system.service session
          some { sessions with table, release := .clear }
      | _ => none

/-- The session is in somebody's hands. -/
def Holds (session : Address) : Prop :=
  ((sessions.release = .idle ∨ sessions.release = .copySession) ∧
      sessions.system.client.sessionRemote = some session) ∨
    sessions.release = .destroy (some session) ∨
      sessions.system.recoveries.Has fun recovery => recovery.carried? = some session

/-- The provider holds no session that is open. -/
def Spent : Prop :=
  ∀ session ∈ sessions.system.client.sessionRemote,
    sessions.table.isOpen sessions.system.service session = false

instance : Decidable sessions.Spent :=
  inferInstanceAs (Decidable (∀ session ∈ sessions.system.client.sessionRemote, _))

/-- A section of a recovery forgets its new session, or replaces that of the provider, only when it
is no longer open. -/
def DropsNoneAt : RecoveryStage → Prop
  | .switch _ newRemote =>
      if sessions.system.client.deleted then
        sessions.table.isOpen sessions.system.service newRemote = false
      else sessions.Spent
  | _ => True

instance : ∀ stage, Decidable (sessions.DropsNoneAt stage)
  | .switch _ newRemote =>
      inferInstanceAs (Decidable
        (if sessions.system.client.deleted then
          sessions.table.isOpen sessions.system.service newRemote = false
        else sessions.Spent))
  | .wake | .search | .copyCallback _ | .createAuthProvider _ | .setDeathRecipient _
  | .finished _ => inferInstanceAs (Decidable True)

/-- A step drops no session that nobody else holds. -/
def DropsNone : ProviderSessionsAction → Prop
  | .client (.proceed id _) =>
      ∀ recovery ∈ sessions.system.recoveries.get? id, sessions.DropsNoneAt recovery.stage
  | _ => True

instance : ∀ action, Decidable (sessions.DropsNone action)
  | .client (.proceed id _) =>
      inferInstanceAs (Decidable
        (∀ recovery ∈ sessions.system.recoveries.get? id, sessions.DropsNoneAt recovery.stage))
  | .client (.serviceStarts _) | .client .serviceDies | .client (.remoteDied _ _ _)
  | .client (.createProvider _ _ _) | .client (.proceedCreation _) | .client .deleteProvider
  | .client .clear | .copySession | .destroy => inferInstanceAs (Decidable True)

/-- The release and every recovery have come to their end. -/
structure Finished : Prop where
  released : sessions.release = .returned
  recoveries : ¬sessions.system.recoveries.Has fun recovery => recovery.ended = false

/-- What every step keeps. -/
structure Kept : Prop where
  held : ∀ session, sessions.table.isOpen sessions.system.service session = true →
    sessions.Holds session
  watches : sessions.system.WatchesOne
  within : sessions.table.Within sessions.system.started
  deleted : sessions.system.client.deleted = true ↔ sessions.release ≠ .idle
  made : sessions.release ≠ .idle → ∃ code, sessions.system.creation = .returned code

variable {sessions} {after : ProviderSessions}

theorem kept_initial : Kept {} where
  held := fun session found => absurd found (by simp [SessionTable.isOpen])
  watches := ProviderSystem.watchesOne_initial
  within := fun session object found => absurd found (by simp)
  deleted := by simp
  made := fun released => absurd rfl released

theorem Holds.late {session : Address} (holds : sessions.Holds session)
    (begun : sessions.release ≠ .idle) (copied : sessions.release ≠ .copySession) :
    sessions.release = .destroy (some session) ∨
      sessions.system.recoveries.Has fun recovery => recovery.carried? = some session := by
  rcases holds with ⟨early | early, _⟩ | later
  · exact absurd early begun
  · exact absurd early copied
  · exact later

theorem Kept.allDestroyed (kept : sessions.Kept) (finished : sessions.Finished) :
    sessions.table.AllDestroyed sessions.system.service := by
  refine .of_closed fun session opened => ?_
  have late := (kept.held session opened).late (by simp [finished.released])
    (by simp [finished.released])
  rcases late with taken | ⟨id, recovery, present, carried⟩
  · exact absurd (finished.released.symm.trans taken) (by simp)
  · refine finished.recoveries ⟨id, recovery, present, ?_⟩
    obtain ⟨delays, stage⟩ := recovery
    cases stage with
    | switch object newRemote => rfl
    | _ => exact absurd carried (by simp [Recovery.carried?])

/-! ## Steps -/

section

variable {system : ProviderSystem}

/-- A section of the client that leaves the service and its sessions as they were. -/
theorem Kept.client (kept : sessions.Kept) (watches : system.WatchesOne)
    (service : system.service = sessions.system.service)
    (started : system.started = sessions.system.started)
    (deleted : system.client.deleted = sessions.system.client.deleted)
    (creation : ∀ code, sessions.system.creation = .returned code →
      ∃ code, system.creation = .returned code)
    (holds : ∀ session, sessions.table.isOpen sessions.system.service session = true →
      sessions.Holds session → ProviderSessions.Holds { sessions with system } session) :
    ProviderSessions.Kept { sessions with system } where
  held := by
    dsimp only
    rw [service]
    exact fun session opened => holds session opened (kept.held session opened)
  watches := watches
  within := by
    dsimp only
    rw [started]
    exact kept.within
  deleted := by
    dsimp only
    rw [deleted]
    exact kept.deleted
  made := fun released =>
    let ⟨code, returned⟩ := kept.made released
    creation code returned

/-- A section of the client in which the service makes it a session. -/
theorem Kept.create (kept : sessions.Kept) {object session : Address} {table : SessionTable}
    (made : sessions.table.create? sessions.system.service object session = some table)
    (watches : system.WatchesOne) (service : system.service = sessions.system.service)
    (started : system.started = sessions.system.started)
    (deleted : system.client.deleted = sessions.system.client.deleted)
    (creation : ∀ code, sessions.system.creation = .returned code →
      ∃ code, system.creation = .returned code)
    (holds : ProviderSessions.Holds { sessions with system, table } session) :
    ProviderSessions.Kept { sessions with system, table } where
  held := by
    dsimp only
    rw [service]
    intro other opened
    obtain rfl := SessionTable.isOpen_of_create? made opened
    exact holds
  watches := watches
  within := by
    dsimp only
    rw [started]
    exact kept.within.create? (kept.watches.live object (SessionTable.create?_eq_some.mp made).1)
      made
  deleted := by
    dsimp only
    rw [deleted]
    exact kept.deleted
  made := fun released =>
    let ⟨code, returned⟩ := kept.made released
    creation code returned

theorem Holds.of_same {session : Address} (holds : sessions.Holds session)
    (remote : system.client.sessionRemote = sessions.system.client.sessionRemote)
    (recoveries : system.recoveries = sessions.system.recoveries) :
    ProviderSessions.Holds { sessions with system } session := by
  rw [ProviderSessions.Holds]
  dsimp only
  rw [remote, recoveries]
  exact holds

theorem Kept.proceedCreation (kept : sessions.Kept) {answer : ProviderAnswer}
    (taken : next sessions (.client (.proceedCreation answer)) = some after) : after.Kept := by
  obtain ⟨system, stepped, moved⟩ := Option.bind_eq_some_iff.mp taken
  have watches := kept.watches.next stepped
  dsimp only at moved
  rw [ProviderSystem.created?] at moved
  simp only [ProviderSystem.next, ProviderSystem.proceedCreation] at stepped
  cases creation : sessions.system.creation with
  | start =>
      rw [creation] at stepped
      exact absurd stepped (by simp)
  | createAuthProvider object =>
      have unreturned (code : Code) (returned : sessions.system.creation = .returned code) :
          ∃ code, system.creation = .returned code :=
        absurd (creation.symm.trans returned) (by simp)
      rw [creation] at stepped moved
      dsimp only at stepped moved
      split_ifs at stepped moved
      · cases remote : answer.newRemote with
        | none =>
            rw [remote] at stepped moved
            obtain rfl := Option.some.inj stepped
            obtain rfl := Option.some.inj moved
            exact kept.client watches rfl rfl rfl unreturned fun session _ holds =>
              holds.of_same rfl rfl
        | some newRemote =>
            rw [remote] at stepped moved
            obtain rfl := Option.some.inj stepped
            obtain ⟨table, made, rfl⟩ := Option.map_eq_some_iff.mp moved
            refine kept.create made watches rfl rfl rfl unreturned (.inl ⟨.inl ?_, rfl⟩)
            by_contra released
            obtain ⟨code, returned⟩ := kept.made released
            exact absurd (creation.symm.trans returned) (by simp)
      · obtain rfl := Option.some.inj stepped
        obtain rfl := Option.some.inj moved
        exact kept.client watches rfl rfl rfl unreturned fun _ _ holds => holds.of_same rfl rfl
  | setDeathRecipient object =>
      rw [creation] at stepped moved
      obtain rfl := Option.some.inj stepped
      obtain rfl := Option.some.inj moved
      exact kept.client watches rfl rfl rfl (fun _ _ => ⟨_, rfl⟩) fun _ _ holds =>
        holds.of_same rfl rfl
  | returned code =>
      rw [creation] at stepped
      exact absurd stepped (by simp)

@[simp]
theorem carried?_attempt (delays : List Nat) : (Recovery.attempt delays).carried? = none := by
  cases delays <;> rfl

/-- A recovery goes on, and what the others hold stays held. -/
theorem Holds.recovery {session : Address} (holds : sessions.Holds session) {id : RecoveryId}
    {current : Recovery} (found : sessions.system.recoveries.get? id = some current)
    (next : Recovery) (uncarried : current.carried? ≠ some session)
    (remote : sessions.system.client.sessionRemote = some session →
      system.client.sessionRemote = some session) :
    ProviderSessions.Holds
      { sessions with
        system := { system with recoveries := sessions.system.recoveries.insert id next } }
      session := by
  rcases holds with ⟨early, held⟩ | taken | carries
  · exact .inl ⟨early, remote held⟩
  · exact .inr (.inl taken)
  · rw [SortedMap.has_of_get? found] at carries
    rcases carries with own | others
    · exact absurd own uncarried
    · exact .inr (.inr ((SortedMap.has_insert ..).mpr (.inr others)))

theorem Kept.proceed (kept : sessions.Kept) {id : RecoveryId} {answer : ProviderAnswer}
    (permitted : sessions.DropsNone (.client (.proceed id answer)))
    (taken : next sessions (.client (.proceed id answer)) = some after) : after.Kept := by
  obtain ⟨system, stepped, moved⟩ := Option.bind_eq_some_iff.mp taken
  have watches := kept.watches.next stepped
  obtain ⟨⟨delays, stage⟩, found, recovered⟩ := Option.bind_eq_some_iff.mp stepped
  obtain ⟨result, sectioned, rfl⟩ := Option.map_eq_some_iff.mp recovered
  have drops := permitted _ found
  dsimp only at moved
  simp only [ProviderSystem.created?, found, Option.bind_some] at moved
  have returned (code : Code) (was : sessions.system.creation = .returned code) :
      ∃ code, sessions.system.creation = .returned code := ⟨code, was⟩
  have onward (next : Recovery) (later : ProviderSystem)
      (watches : ProviderSystem.WatchesOne
        { later with recoveries := sessions.system.recoveries.insert id next })
      (uncarried : Recovery.carried? ⟨delays, stage⟩ = none)
      (service : later.service = sessions.system.service)
      (started : later.started = sessions.system.started)
      (deleted : later.client.deleted = sessions.system.client.deleted)
      (creation : later.creation = sessions.system.creation)
      (remote : later.client.sessionRemote = sessions.system.client.sessionRemote) :
      ProviderSessions.Kept
        { sessions with
          system := { later with recoveries := sessions.system.recoveries.insert id next } } := by
    refine kept.client watches service started deleted (fun code was => ⟨code, ?_⟩)
      fun session _ holds => ?_
    · exact creation.trans was
    · exact holds.recovery found next (by simp [uncarried]) remote.trans
  cases stage with
  | wake =>
      simp only [ProviderSystem.recover?] at sectioned
      obtain rfl := Option.some.inj moved
      split_ifs at sectioned <;> obtain rfl := Option.some.inj sectioned <;>
        exact onward _ sessions.system watches rfl rfl rfl rfl rfl rfl
  | search =>
      simp only [ProviderSystem.recover?] at sectioned
      obtain rfl := Option.some.inj moved
      split at sectioned
      · obtain rfl := Option.some.inj sectioned
        exact onward _ sessions.system watches rfl rfl rfl rfl rfl rfl
      · obtain rfl := Option.some.inj sectioned
        exact onward _ sessions.system watches rfl rfl rfl rfl rfl rfl
      · split_ifs at sectioned
        obtain rfl := Option.some.inj sectioned
        exact onward _ sessions.system watches rfl rfl rfl rfl rfl rfl
  | copyCallback object =>
      simp only [ProviderSystem.recover?] at sectioned
      obtain rfl := Option.some.inj moved
      split_ifs at sectioned <;> obtain rfl := Option.some.inj sectioned <;>
        exact onward _ sessions.system watches rfl rfl rfl rfl rfl rfl
  | createAuthProvider object =>
      simp only [ProviderSystem.recover?] at sectioned
      split_ifs at sectioned moved
      · cases remote : answer.newRemote with
        | none =>
            rw [remote] at sectioned moved
            obtain rfl := Option.some.inj sectioned
            obtain rfl := Option.some.inj moved
            exact onward _ sessions.system watches rfl rfl rfl rfl rfl rfl
        | some newRemote =>
            rw [remote] at sectioned moved
            obtain rfl := Option.some.inj sectioned
            obtain ⟨table, made, rfl⟩ := Option.map_eq_some_iff.mp moved
            refine kept.create made watches rfl rfl rfl returned ?_
            exact .inr (.inr ((SortedMap.has_insert ..).mpr (.inl rfl)))
      · obtain rfl := Option.some.inj sectioned
        obtain rfl := Option.some.inj moved
        exact onward _ sessions.system watches rfl rfl rfl rfl rfl rfl
  | switch object newRemote =>
      simp only [ProviderSystem.recover?] at sectioned
      obtain rfl := Option.some.inj moved
      rw [ProviderSessions.DropsNoneAt] at drops
      split_ifs at drops sectioned with deleted <;> obtain rfl := Option.some.inj sectioned
      · refine kept.client watches rfl rfl rfl returned fun session opened holds => ?_
        refine holds.recovery found _ (fun own => ?_) fun held => held
        obtain rfl := Option.some.inj own
        exact absurd opened (by simp [drops])
      · refine kept.client watches rfl rfl rfl returned fun session opened holds => ?_
        rcases holds with ⟨_, held⟩ | taken | carries
        · exact absurd opened (by simp [drops session held])
        · exact .inr (.inl taken)
        · rw [SortedMap.has_of_get? found] at carries
          rcases carries with own | others
          · refine .inl ⟨.inl ?_, own⟩
            by_contra released
            exact deleted (kept.deleted.mpr released)
          · exact .inr (.inr ((SortedMap.has_insert ..).mpr (.inr others)))
  | setDeathRecipient object =>
      simp only [ProviderSystem.recover?] at sectioned
      obtain rfl := Option.some.inj moved
      obtain rfl := Option.some.inj sectioned
      exact onward _ (sessions.system.setDeathRecipient object answer.allocated).2 watches rfl rfl
        rfl rfl rfl rfl
  | finished recovered => exact absurd sectioned (by simp [ProviderSystem.recover?])

theorem Kept.serviceStarts (kept : sessions.Kept) {object : Address}
    (taken : next sessions (.client (.serviceStarts object)) = some after) : after.Kept := by
  obtain ⟨system, stepped, moved⟩ := Option.bind_eq_some_iff.mp taken
  have watches := kept.watches.next stepped
  obtain rfl := Option.some.inj moved
  simp only [ProviderSystem.next] at stepped
  split_ifs at stepped with used
  obtain rfl := Option.some.inj stepped
  have fresh : sessions.system.started.contains object = false := by simp_all
  refine ⟨fun session opened => ?_, watches, fun session other created => ?_, kept.deleted,
    kept.made⟩
  · exact absurd opened (by simp [kept.within.isOpen_fresh fresh])
  · simp [kept.within session other created]

theorem Kept.releases (kept : sessions.Kept) (begun : sessions.release ≠ .idle)
    {release : ProviderReleaseStage} (later : release ≠ .idle) {table : SessionTable}
    (within : table.Within sessions.system.started)
    (held : ∀ session, table.isOpen sessions.system.service session = true →
      ProviderSessions.Holds { sessions with table, release } session) :
    ProviderSessions.Kept { sessions with table, release } where
  held := held
  watches := kept.watches
  within := within
  deleted := by simp [kept.deleted.mpr begun, later]
  made := fun _ => kept.made begun

/-- A step in which no recovery drops an open session. -/
theorem Kept.next (kept : sessions.Kept) {action : ProviderSessionsAction}
    (permitted : sessions.DropsNone action)
    (taken : ProviderSessions.next sessions action = some after) : after.Kept := by
  cases action with
  | client action =>
      cases action with
      | serviceStarts object => exact kept.serviceStarts taken
      | serviceDies =>
          obtain ⟨system, stepped, moved⟩ := Option.bind_eq_some_iff.mp taken
          have watches := kept.watches.next stepped
          obtain rfl := Option.some.inj moved
          obtain ⟨object, alive, rfl⟩ := Option.map_eq_some_iff.mp stepped
          -- With the service all its sessions are gone.
          refine ⟨fun session opened => ?_, watches, kept.within, kept.deleted, kept.made⟩
          exact absurd opened (by simp [ProviderSystem.serviceDies, SessionTable.isOpen_none])
      | remoteDied object id promoted =>
          obtain ⟨system, stepped, moved⟩ := Option.bind_eq_some_iff.mp taken
          have watches := kept.watches.next stepped
          obtain rfl := Option.some.inj moved
          simp only [ProviderSystem.next] at stepped
          split_ifs at stepped with noticed
          obtain rfl := Option.some.inj stepped
          have absent : sessions.system.recoveries.get? id = none := by
            simp_all [SortedMap.contains]
          refine kept.client watches rfl rfl rfl (fun code was => ⟨code, was⟩)
            fun session _ holds => ?_
          rcases holds with held | taken | carried
          · exact .inl held
          · exact .inr (.inl taken)
          -- A recovery that carries a session goes on beside the new one.
          · exact .inr (.inr ((SortedMap.has_insert_of_fresh absent _ _).mpr (.inr carried)))
      | createProvider callback search allocated =>
          obtain ⟨system, stepped, moved⟩ := Option.bind_eq_some_iff.mp taken
          have watches := kept.watches.next stepped
          obtain rfl := Option.some.inj moved
          simp only [ProviderSystem.next] at stepped
          split_ifs at stepped with start
          obtain ⟨creation, _, rfl⟩ := Option.map_eq_some_iff.mp stepped
          refine kept.client watches rfl rfl rfl (fun code was => ?_) fun _ _ holds =>
            holds.of_same rfl rfl
          exact absurd (start.symm.trans was) (by simp)
      | proceedCreation answer => exact kept.proceedCreation taken
      | proceed id answer => exact kept.proceed permitted taken
      | deleteProvider =>
          obtain ⟨system, stepped, moved⟩ := Option.bind_eq_some_iff.mp taken
          have watches := kept.watches.next stepped
          obtain rfl := Option.some.inj moved
          simp only [ProviderSystem.next] at stepped
          split at stepped
          · next code returned =>
            split_ifs at stepped with deleted
            · obtain rfl := Option.some.inj stepped
              rw [if_pos deleted]
              exact kept
            · obtain rfl := Option.some.inj stepped
              -- The provider is marked as deleted before its session is copied.
              have idle : sessions.release = .idle := by
                by_contra released
                exact deleted (kept.deleted.mpr released)
              rw [if_neg deleted]
              refine ⟨fun session opened => ?_, watches, kept.within, by simp,
                fun _ => ⟨code, returned⟩⟩
              rcases kept.held session opened with ⟨_, held⟩ | taken | carried
              · exact .inl ⟨.inr rfl, held⟩
              · exact absurd (idle.symm.trans taken) (by simp)
              · exact .inr (.inr carried)
          · exact absurd stepped (by simp)
      | clear =>
          obtain ⟨system, stepped, moved⟩ := Option.bind_eq_some_iff.mp taken
          have watches := kept.watches.next stepped
          dsimp only at moved
          split_ifs at moved with ready
          obtain rfl := Option.some.inj moved
          have released : sessions.release ≠ .idle := by simp [ready]
          simp only [ProviderSystem.next] at stepped
          split_ifs at stepped with releasing
          obtain rfl := Option.some.inj stepped
          refine ⟨fun session opened => ?_, watches, kept.within, ?_,
            fun _ => kept.made released⟩
          · rcases (kept.held session opened).late released (by simp [ready]) with taken | carried
            · exact absurd (ready.symm.trans taken) (by simp)
            · exact .inr (.inr carried)
          · simp [kept.deleted.mpr released]
  | copySession =>
      simp only [ProviderSessions.next] at taken
      split_ifs at taken with ready
      obtain rfl := Option.some.inj taken
      refine kept.releases (by simp [ready]) (by simp) kept.within fun session opened => ?_
      rcases kept.held session opened with ⟨_, held⟩ | taken | carried
      · exact .inr (.inl (congrArg _ held))
      · exact absurd (ready.symm.trans taken) (by simp)
      · exact .inr (.inr carried)
  | destroy =>
      simp only [ProviderSessions.next] at taken
      split at taken
      · next ready =>
        obtain rfl := Option.some.inj taken
        have begun : sessions.release ≠ .idle := by simp [ready]
        refine kept.releases begun (by simp) kept.within fun session opened => ?_
        rcases (kept.held session opened).late begun (by simp [ready]) with taken | carried
        · exact absurd (ready.symm.trans taken) (by simp)
        · exact .inr (.inr carried)
      · next gone ready =>
        obtain rfl := Option.some.inj taken
        have begun : sessions.release ≠ .idle := by simp [ready]
        refine kept.releases begun (by simp) (kept.within.destroy _ _) fun session opened => ?_
        -- The session that the release took is destroyed, so that an open one is another one.
        obtain ⟨other, before⟩ := SessionTable.isOpen_destroy.mp opened
        rcases (kept.held session before).late begun (by simp [ready]) with taken | carried
        · obtain rfl : gone = session := by simpa using ready.symm.trans taken
          exact absurd rfl other
        · exact .inr (.inr carried)
      · exact absurd taken (by simp)

end

theorem allDestroyed_of_run {actions : List ProviderSessionsAction} {final : ProviderSessions}
    (permitted : Transition.Along ProviderSessions.next DropsNone {} actions)
    (reach : Transition.run ProviderSessions.next {} actions = some final)
    (finished : final.Finished) : final.table.AllDestroyed final.system.service :=
  (Transition.run_invariant (fun kept permits taken => kept.next permits taken) kept_initial
    permitted reach).allDestroyed finished

end ProviderSessions

/-- Of neither class is a session left, when the release and the recoveries have come to their end,
in a run in which no recovery drops one that is open. -/
theorem no_orphan_of_dropsNone (subscriber : List AuthEventAction)
    (provider : List ProviderSessionsAction) :
    (∀ final,
      Transition.Along AuthEventSystem.next AuthEventSystem.DropsNone {} subscriber →
        Transition.run AuthEventSystem.next {} subscriber = some final → final.Finished →
          final.table.AllDestroyed final.service) ∧
    ∀ final,
      Transition.Along ProviderSessions.next ProviderSessions.DropsNone {} provider →
        Transition.run ProviderSessions.next {} provider = some final → final.Finished →
          final.table.AllDestroyed final.system.service :=
  ⟨fun _ permitted reach finished =>
      AuthEventSystem.allDestroyed_of_run permitted reach finished,
    fun _ permitted reach finished =>
      ProviderSessions.allDestroyed_of_run permitted reach finished⟩

/-- The service starts, makes a session, dies and starts again, and a task comes as far as
`CreatAuthEventClient`. -/
def subscriberReconnects : List AuthEventAction :=
  [.serviceStarts 1, .creatClient 1 50, .setDeathRecipient true, .serviceDies,
    .remoteDied 1 1 true, .reconnect 1 {}, .serviceStarts 2, .reconnect 1 {},
    .reconnect 1 { search := .proxy 2 }, .reconnect 1 {}]

/-- The same for a provider, as far as `CreateAuthProvider`. -/
def providerReconnects : List ProviderSessionsAction :=
  [.client (.serviceStarts 1), .client (.createProvider true (.proxy 1) true),
    .client (.proceedCreation { newRemote := some 50 }), .client (.proceedCreation {}),
    .client .serviceDies, .client (.remoteDied 1 1 true), .client (.serviceStarts 2),
    .client (.proceed 1 {}), .client (.proceed 1 { search := .proxy 2 }),
    .client (.proceed 1 {})]

/-- A release that runs to its end. -/
def providerReleases : List ProviderSessionsAction :=
  [.client .deleteProvider, .copySession, .destroy, .client .clear]

/-- A subscriber is released while the service makes its new session, which the task destroys; a
provider is released after its recovery. -/
theorem no_orphan_after_release :
    let subscriber := (Transition.run AuthEventSystem.next {}
      (subscriberReconnects ++ [.reconnect 1 { newSession := some 51 }, .deleteClient 1,
        .proceed 1 {}, .proceed 1 {}, .proceed 1 {}, .reconnect 1 {}])).getD {}
    let provider := (Transition.run ProviderSessions.next {}
      (providerReconnects ++ [.client (.proceed 1 { newRemote := some 51 }),
        .client (.proceed 1 {}), .client (.proceed 1 {})] ++ providerReleases)).getD {}
    subscriber.table.AllDestroyed subscriber.service ∧
      subscriber.table.creator.get? 51 = some 2 ∧
        provider.table.AllDestroyed provider.system.service ∧
          provider.table.creator.get? 51 = some 2 := by
  refine ⟨?_, by decide +kernel, ?_, by decide +kernel⟩
  · exact (no_orphan_of_dropsNone _ []).1 _ (by decide +kernel)
      (Transition.run_eq_getD (by decide +kernel))
      ⟨by decide +kernel, by decide +kernel, by decide +kernel⟩
  · exact (no_orphan_of_dropsNone [] _).2 _ (by decide +kernel)
      (Transition.run_eq_getD (by decide +kernel)) ⟨by decide +kernel, by decide +kernel⟩

/-- A provider is released while the service makes its new session, which nobody destroys.  Of a
subscriber a second death is noticed late, and the second recovery lets go of the session that the
first has made on a third instance. -/
theorem released_clients_leave_sessions :
    ∃ provider subscriber,
      Transition.run ProviderSessions.next {}
          (providerReconnects ++ [.client (.proceed 1 { newRemote := some 51 })] ++
            providerReleases ++ [.client (.proceed 1 {}), .client (.proceed 1 {})]) =
          some provider ∧
        provider.Finished ∧ ¬provider.table.AllDestroyed provider.system.service ∧
      Transition.run AuthEventSystem.next {}
          (subscriberReconnects ++ [.serviceDies, .serviceStarts 3,
            .reconnect 1 { code := .failed }, .reconnect 1 {}, .reconnect 1 { search := .proxy 3 },
            .reconnect 1 {}, .reconnect 1 { newSession := some 52 }, .reconnect 1 {},
            .remoteDied 2 2 true, .reconnect 2 {}, .deleteClient 1, .proceed 1 {}, .proceed 1 {},
            .proceed 1 {}, .reconnect 2 {}]) = some subscriber ∧
        subscriber.Finished ∧ ¬subscriber.table.AllDestroyed subscriber.service := by
  let provider := (Transition.run ProviderSessions.next {}
    (providerReconnects ++ [.client (.proceed 1 { newRemote := some 51 })] ++
      providerReleases ++ [.client (.proceed 1 {}), .client (.proceed 1 {})])).getD {}
  let subscriber := (Transition.run AuthEventSystem.next {}
    (subscriberReconnects ++ [.serviceDies, .serviceStarts 3, .reconnect 1 { code := .failed },
      .reconnect 1 {}, .reconnect 1 { search := .proxy 3 }, .reconnect 1 {},
      .reconnect 1 { newSession := some 52 }, .reconnect 1 {}, .remoteDied 2 2 true,
      .reconnect 2 {}, .deleteClient 1, .proceed 1 {}, .proceed 1 {}, .proceed 1 {},
      .reconnect 2 {}])).getD {}
  have provided : provider.table.destroyed.contains 51 = false := by decide +kernel
  have subscribed : subscriber.table.destroyed.contains 52 = false := by decide +kernel
  refine ⟨provider, subscriber, Transition.run_eq_getD (by decide +kernel),
    ⟨by decide +kernel, by decide +kernel⟩, fun all => ?_,
    Transition.run_eq_getD (by decide +kernel),
    ⟨by decide +kernel, by decide +kernel, by decide +kernel⟩, fun all => ?_⟩
  · exact absurd (all 51 2 (by decide +kernel) (by decide +kernel)) (by simp [provided])
  · exact absurd (all 52 3 (by decide +kernel) (by decide +kernel)) (by simp [subscribed])

end SecurityGuard
