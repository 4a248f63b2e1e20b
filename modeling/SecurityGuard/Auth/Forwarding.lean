import SecurityGuard.Auth.Invariant
import SecurityGuard.Foundation.FirstCome

/-!
# Votes on their way to the coordinator

Before a vote is forwarded to the coordinator it is written under its event into a table that all
clients share and that never loses an event.  A vote therefore reaches its request exactly when
its event is among the first that were voted on, up to the size of the table.
-/

namespace SecurityGuard

open AuthEventSubscribeManager

/-- What `SetAuthResult` checks of a vote before it looks at its table. -/
def AuthEventSubscribeManager.Accepts (manager : AuthEventSubscribeManager) (answer : Answer) :
    Prop :=
  answer.event.content.utf8ByteSize ≤ maxAuthEventStrLen ∧
    answer.event.metadata.utf8ByteSize ≤ maxAuthEventStrLen ∧
      manager.sessions.contains answer.session = true

instance (manager : AuthEventSubscribeManager) (answer : Answer) :
    Decidable (manager.Accepts answer) :=
  inferInstanceAs (Decidable (_ ∧ _ ∧ _))

/-- The table has or can take the event of a vote. -/
def AuthEventSubscribeManager.HasPlace (manager : AuthEventSubscribeManager) (answer : Answer) :
    Prop :=
  FirstCome.Admits maxAuthEventResultSize manager.authResults answer.event.eventId

instance (manager : AuthEventSubscribeManager) (answer : Answer) :
    Decidable (manager.HasPlace answer) :=
  inferInstanceAs (Decidable (FirstCome.Admits _ _ _))

namespace AuthEventSubscribeManager

variable {manager : AuthEventSubscribeManager} {answer : Answer}

/-- Write a vote into the table. -/
def store (manager : AuthEventSubscribeManager) (answer : Answer) : AuthEventSubscribeManager :=
  { manager with
    authResults := manager.authResults.insert answer.event.eventId answer.strategy }

theorem setAuthResult_of_refused (refused : ¬manager.Accepts answer) :
    manager.setAuthResult answer.session answer.event answer.strategy = (.badParam, manager) := by
  rw [setAuthResult]
  split_ifs with long gone full
  · rfl
  · rfl
  all_goals
    rw [not_or, not_lt, not_lt] at long
    exact absurd ⟨long.1, long.2, by simpa using gone⟩ refused

theorem setAuthResult_of_accepts (accepts : manager.Accepts answer) :
    manager.setAuthResult answer.session answer.event answer.strategy =
      if manager.HasPlace answer then (.success, manager.store answer)
      else (.filterExceedLimit, manager) := by
  obtain ⟨content, metadata, live⟩ := accepts
  have short : ¬(maxAuthEventStrLen < answer.event.content.utf8ByteSize ∨
      maxAuthEventStrLen < answer.event.metadata.utf8ByteSize) := by omega
  rw [setAuthResult, if_neg short, if_neg (by simp [live])]
  by_cases place : manager.HasPlace answer
  · rw [if_pos place, if_neg]
    · rfl
    · rintro ⟨absent, full⟩
      rcases place with held | room
      · simp [held] at absent
      · omega
  · rw [HasPlace, FirstCome.Admits, not_or, Bool.not_eq_true, not_lt] at place
    rw [if_pos ⟨by simp [place.1], place.2⟩, if_neg]
    simp [HasPlace, FirstCome.Admits, place]

end AuthEventSubscribeManager

namespace AuthSystem

variable {hash : String → Nat} {before after system : AuthSystem} {action : AuthAction}
  {answerId : AnswerId} {answer : Answer} {requestId : RequestId}

/-- The event of a vote that passes the checks, when its call is about to write it. -/
def offered (system : AuthSystem) : AuthAction → List Int
  | .answer answerId =>
      match system.answers.get? answerId with
      | none => []
      | some answer =>
          if answer.stage = .store ∧ system.coordinator.manager.Accepts answer then
            [answer.event.eventId]
          else []
  | _ => []

section Store

variable (hash) (calling : system.answers.get? answerId = some answer)
  (stage : answer.stage = .store)
  (accepts : system.coordinator.manager.Accepts answer)

include calling stage accepts

theorem next_forwards (place : system.coordinator.manager.HasPlace answer) :
    next hash system (.answer answerId) = some
      { system.withManager (system.coordinator.manager.store answer) with
        answers := system.answers.insert answerId { answer with stage := .find } } := by
  simp [next, calling, answerStep, stage, setAuthResult_of_accepts accepts, place]

theorem next_drops (full : ¬system.coordinator.manager.HasPlace answer) :
    next hash system (.answer answerId) =
      some { system with answers := system.answers.erase answerId } := by
  have failed : Code.filterExceedLimit ≠ Code.success := by decide
  simp [next, calling, answerStep, stage, setAuthResult_of_accepts accepts, full, failed]

end Store

/-- A critical section of a call that does not write keeps the table. -/
theorem answerStep_authResults
    (idle : ¬(answer.stage = .store ∧ before.coordinator.manager.Accepts answer))
    (taken : before.answerStep hash answerId answer = some after) :
    after.coordinator.manager.authResults = before.coordinator.manager.authResults := by
  simp only [answerStep] at taken
  split at taken
  · next stage =>
      rw [setAuthResult_of_refused fun accepts => idle ⟨stage, accepts⟩] at taken
      cases taken
      rfl
  · split at taken
    all_goals
      cases taken
      rfl
  · split at taken
    · cases taken
    · cases taken
      rfl

/-- Only the calls that answer write into the table. -/
theorem next_authResults (others : action.answer? = none)
    (taken : next hash before action = some after) :
    after.coordinator.manager.authResults = before.coordinator.manager.authResults := by
  have step := next_manager taken
  generalize after.coordinator.manager = manager at step ⊢
  cases step with
  | unchanged => rfl
  | created params fresh =>
      rw [creatAuthEventClient]
      split
      · rfl
      · dsimp only
        split_ifs <;> rfl
  | subscribed named =>
      rw [subscribeAuthEvent]
      split_ifs
      · rfl
      · split
        · rfl
        · split_ifs <;> rfl
  | unsubscribed =>
      rw [unsubscribeAuthEvent]
      split_ifs <;> rfl
  | removed session =>
      rw [removeSessionLocked]
      split_ifs <;> rfl
  | generated session => rfl
  | stored session event strategy => cases others

/-! ## The table over a run -/

/-- The table holds the first events that were offered, and the calls know their requests. -/
structure Tabled (recorded : AuthSystem × List Int) : Prop where
  registered : recorded.1.Registered
  holds : FirstCome.Holds maxAuthEventResultSize recorded.2
    recorded.1.coordinator.manager.authResults

theorem tabled_initial : Tabled ({}, []) where
  registered := registered_initial
  holds := FirstCome.holds_empty _

theorem Tabled.step {recorded later : AuthSystem × List Int} (tabled : Tabled recorded)
    (taken : Transition.recording (next hash) offered recorded action = some later) :
    Tabled later := by
  obtain ⟨after, stepped, rfl⟩ := Transition.recording_eq_some.mp taken
  obtain ⟨before, history⟩ := recorded
  refine ⟨tabled.registered.step (next_cases stepped), ?_⟩
  have holds := tabled.holds
  dsimp only at holds stepped ⊢
  cases action with
  | answer answerId =>
      cases calling : before.answers.get? answerId with
      | none => simp [next, calling] at stepped
      | some answer =>
          by_cases offers : answer.stage = .store ∧ before.coordinator.manager.Accepts answer
          · have emitted : before.offered (.answer answerId) = [answer.event.eventId] := by
              simp [offered, calling, offers]
            rw [emitted]
            by_cases place : before.coordinator.manager.HasPlace answer
            · rw [next_forwards hash calling offers.1 offers.2 place] at stepped
              cases stepped
              exact holds.insert place answer.strategy
            · rw [next_drops hash calling offers.1 offers.2 place] at stepped
              cases stepped
              exact holds.turn_away place
          · have silent : before.offered (.answer answerId) = [] := by
              simp [offered, calling, offers]
            rw [silent, List.append_nil]
            simp only [next, calling] at stepped
            rw [answerStep_authResults offers stepped]
            exact holds
  | _ =>
      rw [next_authResults rfl stepped]
      simpa [offered] using holds

theorem tabled_of_run {actions : List AuthAction} {history : List Int}
    (reach : Transition.run (Transition.recording (next hash) offered) ({}, []) actions =
      some (system, history)) : Tabled (system, history) :=
  Transition.run_stable Tabled.step tabled_initial reach

/-- Steps that are not taken by the call. -/
def LeavesCall (answerId : AnswerId) (actions : List AuthAction) : Prop :=
  ∀ action ∈ actions, action.answer? ≠ some answerId

/-- The call takes its last step and records its vote unless the request is completed. -/
def Records (hash : String → Nat) (system : AuthSystem) (answerId : AnswerId) (answer : Answer)
    (requestId : RequestId) : Prop :=
  ∃ request final later, system.requests.get? requestId = some request ∧
    next hash system (.answer answerId) = some final ∧
      final.requests.get? requestId = some later ∧
        later.ctx = request.ctx.recordClientResult answer.clientId answer.strategy ∧
          (request.ctx.completed = false →
            later.ctx.clientResults.get? answer.clientId = some answer.strategy)

/-- The call forwards its vote; if it then finds its request, it records the vote there, wherever
the steps of the others fall. -/
def Aggregates (hash : String → Nat) (system : AuthSystem) (answerId : AnswerId)
    (answer : Answer) : Prop :=
  ∃ forwarded, next hash system (.answer answerId) = some forwarded ∧
    forwarded.answers.get? answerId = some { answer with stage := .find } ∧
      ∀ others routed requestId, LeavesCall answerId others →
        Transition.run (next hash) forwarded others = some routed →
          routed.coordinator.findRoutingContext hash answer.clientId answer.event.seqnum =
              some requestId →
            ∃ found, next hash routed (.answer answerId) = some found ∧
              ∀ others' ready, LeavesCall answerId others' →
                Transition.run (next hash) found others' = some ready →
                  Records hash ready answerId answer requestId

/-- The steps of the others keep a call where it is. -/
theorem next_keeps_call (other : action.answer? ≠ some answerId)
    (taken : next hash before action = some after)
    (calling : before.answers.get? answerId = some answer) :
    after.answers.get? answerId = some answer := by
  cases action with
  | setAuthResult caller session event allowFlag configured entered =>
      simp only [next] at taken
      split at taken
      · cases taken
      · next fresh =>
          have differs : answerId ≠ entered := by
            rintro rfl
            exact fresh (SortedMap.contains_iff.mpr ⟨answer, calling⟩)
          split at taken
          · split at taken
            · cases taken
              rw [SortedMap.get?_insert, if_neg differs, calling]
            · cases taken
              exact calling
          · cases taken
            exact calling
  | answer stepping =>
      have differs : answerId ≠ stepping := fun same => other (congrArg some same.symm)
      simp only [next] at taken
      split at taken
      · cases taken
      · simp only [answerStep] at taken
        repeat' split at taken
        all_goals cases taken <;> simp [differs, calling]
  | task id now =>
      obtain ⟨_, _, _, _, _, rfl⟩ := next_task taken
      exact calling
  | removeSession session | removeProvider provider =>
      cases taken
      exact calling
  | _ =>
      simp only [next] at taken
      repeat' split at taken
      all_goals cases taken <;> exact calling

theorem run_keeps_call {actions : List AuthAction} (leaves : LeavesCall answerId actions)
    (reach : Transition.run (next hash) before actions = some after)
    (calling : before.answers.get? answerId = some answer) :
    after.answers.get? answerId = some answer := by
  induction actions generalizing before with
  | nil =>
      obtain rfl : before = after := Option.some.inj reach
      exact calling
  | cons action actions ih =>
      obtain ⟨middle, taken, rest⟩ := Transition.run_cons_eq_some.mp reach
      exact ih (fun other mem => leaves other (List.mem_cons_of_mem _ mem)) rest
        (next_keeps_call (leaves action List.mem_cons_self) taken calling)

variable (hash) in
theorem next_finds (calling : system.answers.get? answerId = some answer)
    (stage : answer.stage = .find)
    (route : system.coordinator.findRoutingContext hash answer.clientId answer.event.seqnum =
      some requestId) :
    next hash system (.answer answerId) = some
      { system with
        answers := system.answers.insert answerId { answer with stage := .record requestId } } := by
  simp [next, calling, answerStep, stage, route]

theorem next_finds_nothing (calling : system.answers.get? answerId = some answer)
    (stage : answer.stage = .find)
    (unrouted : system.coordinator.findRoutingContext hash answer.clientId answer.event.seqnum =
      none) :
    next hash system (.answer answerId) =
      some { system with answers := system.answers.erase answerId } := by
  simp [next, calling, answerStep, stage, unrouted]

theorem Registered.records (registered : system.Registered)
    (calling : system.answers.get? answerId = some { answer with stage := .record requestId }) :
    Records hash system answerId answer requestId := by
  obtain ⟨request, found, -⟩ := registered.answers answerId _ requestId calling rfl
  let ctx := request.ctx.recordClientResult answer.clientId answer.strategy
  let reports := if answer.strategy = .deny then ctx.reportDenyResult answer.clientId else []
  let final : AuthSystem :=
    { coordinator := system.coordinator.report reports
      requests := system.requests.insert requestId { request with ctx }
      answers := system.answers.erase answerId }
  have taken : next hash system (.answer answerId) = some final := by
    simp only [next, calling, answerStep, found]
    rfl
  refine ⟨request, final, { request with ctx }, found, taken, SortedMap.get?_insert_self _ _ _,
    rfl, fun pending => ?_⟩
  change ctx.clientResults.get? answer.clientId = some answer.strategy
  rw [RoutingContext.recordClientResult_clientResults _ _ pending, SortedMap.get?_insert_self]

/-- A vote that has a place in the table is recorded in its request. -/
theorem Registered.aggregates (registered : system.Registered)
    (calling : system.answers.get? answerId = some answer) (stage : answer.stage = .store)
    (accepts : system.coordinator.manager.Accepts answer)
    (place : system.coordinator.manager.HasPlace answer) :
    Aggregates hash system answerId answer := by
  have forwards := next_forwards hash calling stage accepts place
  refine ⟨_, forwards, SortedMap.get?_insert_self _ _ _, ?_⟩
  intro others routed requestId leaves reach route
  have registered_routed : routed.Registered :=
    Transition.run_stable (fun registered taken => registered.step (next_cases taken))
      (registered.step (next_cases forwards)) reach
  have finding : routed.answers.get? answerId = some { answer with stage := .find } :=
    run_keeps_call leaves reach (SortedMap.get?_insert_self _ _ _)
  have finds := next_finds hash finding rfl route
  refine ⟨_, finds, fun others' ready leaves' reach' => ?_⟩
  have registered_ready : ready.Registered :=
    Transition.run_stable (fun registered taken => registered.step (next_cases taken))
      (registered_routed.step (next_cases finds)) reach'
  have recording : ready.answers.get? answerId =
      some { answer with stage := .record requestId } :=
    run_keeps_call leaves' reach' (SortedMap.get?_insert_self _ _ _)
  exact registered_ready.records recording

/-- A vote without a place is dropped although its request has a route. -/
theorem not_aggregates (calling : system.answers.get? answerId = some answer)
    (stage : answer.stage = .store) (accepts : system.coordinator.manager.Accepts answer)
    (full : ¬system.coordinator.manager.HasPlace answer) :
    ¬Aggregates hash system answerId answer := by
  rintro ⟨forwarded, taken, finding, -⟩
  rw [next_drops hash calling stage accepts full] at taken
  cases taken
  simp at finding

/-- In every run, a vote that passes the checks is recorded in the request that its route leads
to exactly when its event is among the first 1024 that were voted on. -/
theorem vote_aggregates_iff {actions : List AuthAction} {history : List Int}
    (reach : Transition.run (Transition.recording (next hash) offered) ({}, []) actions =
      some (system, history))
    (calling : system.answers.get? answerId = some answer) (stage : answer.stage = .store)
    (content : answer.event.content.utf8ByteSize ≤ maxAuthEventStrLen)
    (metadata : answer.event.metadata.utf8ByteSize ≤ maxAuthEventStrLen)
    (live : system.coordinator.manager.sessions.contains answer.session = true) :
    Aggregates hash system answerId answer ↔
      answer.event.eventId ∈
        FirstCome.admitted maxAuthEventResultSize (history ++ [answer.event.eventId]) := by
  have tabled := tabled_of_run reach
  have accepts : system.coordinator.manager.Accepts answer := ⟨content, metadata, live⟩
  rw [← tabled.holds.admits_iff]
  constructor
  · intro aggregates
    by_contra full
    exact not_aggregates calling stage accepts full aggregates
  · intro place
    exact tabled.registered.aggregates calling stage accepts place

/-- A client is asked and waits to be heard. -/
def asksClient : List AuthAction := joinClient 1 7 1 ++ askDecision ++ taskSteps 14

/-- The client begins to answer. -/
def beginsToAnswer : List AuthAction := asksClient ++ (vote 1 1 true).take 1

theorem vote_aggregates_iff_first :
    ∃ system answer,
      Transition.run (Transition.recording (next String.length) offered) ({}, [])
          beginsToAnswer = some (system, []) ∧
        system.answers.get? 0 = some answer ∧
          system.coordinator.findRoutingContext String.length answer.clientId
              answer.event.seqnum = some 0 ∧
            Aggregates String.length system 0 answer := by
  have evaluated : (Transition.run (Transition.recording (next String.length) offered) ({}, [])
      beginsToAnswer).any (fun recorded => recorded.2 = [] ∧
        (recorded.1.answers.get? 0).any fun answer => answer.stage = .store ∧
          recorded.1.coordinator.manager.Accepts answer ∧
            recorded.1.coordinator.findRoutingContext String.length answer.clientId
              answer.event.seqnum = some 0) = true := by
    decide +kernel
  obtain ⟨⟨system, history⟩, reach, rest⟩ := (Option.any_eq_true _ _).mp evaluated
  obtain ⟨empty, rest⟩ := of_decide_eq_true rest
  obtain ⟨answer, calling, rest⟩ := (Option.any_eq_true _ _).mp rest
  obtain ⟨stage, ⟨content, metadata, live⟩, route⟩ := of_decide_eq_true rest
  dsimp only at empty calling live route
  subst empty
  refine ⟨system, answer, reach, calling, route, ?_⟩
  refine (vote_aggregates_iff reach calling stage content metadata live).mpr ?_
  simp [FirstCome.admitted, List.eraseDups_cons, maxAuthEventResultSize]

/-- Votes on some events with a number that has no route, one after the other. -/
def flood (session : Address) (seqnum : Int) (events : List Int) : List AuthAction :=
  events.flatMap fun eventId =>
    [.setAuthResult clientCaller session { eventId, seqnum } true true 0, .answer 0, .answer 0]

section Flood

variable {session : Address} {object : AuthEventSessionService} {seqnum : Int}
  (live : system.coordinator.manager.sessions.contains session = true)
  (found : system.sessionObject? session = some object)
  (allowed : sessionCaller clientCaller object = true)
  (unrouted : system.coordinator.findRoutingContext hash object.clientId seqnum = none)
  (idle : system.answers.get? 0 = none)

include live found allowed unrouted idle

/-- A vote without a route enters its event into the table and changes nothing else. -/
theorem run_flood_one (eventId : Int)
    (room : system.coordinator.manager.authResults.size < maxAuthEventResultSize) :
    ∃ after, Transition.run (next hash) system (flood session seqnum [eventId]) = some after ∧
      after.coordinator = system.coordinator.withManager
          { system.coordinator.manager with
            authResults := system.coordinator.manager.authResults.insert eventId .allow } ∧
        after.requests = system.requests ∧ after.answers.get? 0 = none := by
  let answer : Answer :=
    { session, clientId := object.clientId, event := { eventId, seqnum }, allowFlag := true }
  let entered : AuthSystem := { system with answers := system.answers.insert 0 answer }
  have enters : next hash system
      (.setAuthResult clientCaller session { eventId, seqnum } true true 0) = some entered := by
    simp [next, SortedMap.contains, idle, found, allowed, entered, answer]
  have calling : entered.answers.get? 0 = some answer := SortedMap.get?_insert_self _ _ _
  have empty : ("" : String).utf8ByteSize ≤ maxAuthEventStrLen := by decide
  let forwarded : AuthSystem :=
    { entered.withManager (entered.coordinator.manager.store answer) with
      answers := entered.answers.insert 0 { answer with stage := .find } }
  have forwards : next hash entered (.answer 0) = some forwarded :=
    next_forwards hash calling rfl ⟨empty, empty, live⟩ (.inr room)
  have finding : forwarded.answers.get? 0 = some { answer with stage := .find } :=
    SortedMap.get?_insert_self _ _ _
  have loses : next hash forwarded (.answer 0) =
      some { forwarded with answers := forwarded.answers.erase 0 } :=
    next_finds_nothing finding rfl unrouted
  refine ⟨{ forwarded with answers := forwarded.answers.erase 0 }, ?_, rfl, rfl, by simp⟩
  refine Transition.run_cons_eq_some.mpr ⟨entered, enters, ?_⟩
  refine Transition.run_cons_eq_some.mpr ⟨forwarded, forwards, ?_⟩
  exact Transition.run_cons_eq_some.mpr ⟨_, loses, Transition.run_nil _⟩

/-- Votes on new events fill the table and change nothing else. -/
theorem run_flood {events : List Int}
    (fresh : ∀ eventId ∈ events, system.coordinator.manager.authResults.contains eventId = false)
    (nodup : events.Nodup)
    (room : system.coordinator.manager.authResults.size + events.length ≤
      maxAuthEventResultSize) :
    ∃ final table, Transition.run (next hash) system (flood session seqnum events) = some final ∧
      final.coordinator = system.coordinator.withManager
          { system.coordinator.manager with authResults := table } ∧
        final.requests = system.requests ∧ final.answers.get? 0 = none ∧
          table.size = system.coordinator.manager.authResults.size + events.length ∧
            ∀ eventId ∉ events, table.contains eventId =
              system.coordinator.manager.authResults.contains eventId := by
  induction events generalizing system with
  | nil =>
      exact ⟨system, _, rfl, rfl, rfl, idle, rfl, fun _ _ => rfl⟩
  | cons eventId events ih =>
      rw [List.length_cons] at room
      obtain ⟨new, nodup⟩ := List.nodup_cons.mp nodup
      have absent := fresh eventId List.mem_cons_self
      obtain ⟨after, one, coordinator, requests, idle'⟩ :=
        run_flood_one live found allowed unrouted idle eventId (by omega)
      have size := SortedMap.size_insert_of_fresh AuthStrategy.allow absent
      have others : ∀ other ∈ events,
          after.coordinator.manager.authResults.contains other = false := by
        intro other mem
        have differs : other ≠ eventId := fun same => new (same ▸ mem)
        rw [coordinator]
        simp [AuthCoordinator.withManager, differs, fresh other (List.mem_cons_of_mem _ mem)]
      obtain ⟨final, table, rest, coordinator', requests', idle'', size', kept⟩ :=
        @ih after (by rw [coordinator]; exact live)
          (by rw [sessionObject?, coordinator]; exact found)
          (by rw [coordinator]; exact unrouted) idle' others nodup
          (by rw [coordinator]; simp only [AuthCoordinator.withManager, size]; omega)
      refine ⟨final, table, ?_, ?_, requests'.trans requests, idle'', ?_, ?_⟩
      · have split : flood session seqnum (eventId :: events) =
            flood session seqnum [eventId] ++ flood session seqnum events := by
          simp [flood]
        rw [split, Transition.run_append, one, Option.bind_some, rest]
      · rw [coordinator', coordinator]
        rfl
      · rw [size', coordinator, List.length_cons]
        simp only [AuthCoordinator.withManager, size]
        omega
      · intro other absentOther
        rw [List.mem_cons, not_or] at absentOther
        rw [kept other absentOther.2, coordinator]
        simp [AuthCoordinator.withManager, absentOther.1]

end Flood

/-- After votes on 1024 other events, a vote with a route is dropped while its request waits. -/
theorem full_table_drops_vote :
    ∃ actions system answer request, Transition.run (next fun _ => 0) {} actions = some system ∧
      system.answers.get? 0 = some answer ∧ answer.stage = .store ∧
        system.coordinator.manager.Accepts answer ∧
          system.coordinator.findRoutingContext (fun _ => 0) answer.clientId
              answer.event.seqnum = some 0 ∧
            system.requests.get? 0 = some request ∧ request.ctx.completed = false ∧
              ¬Aggregates (fun _ => 0) system 0 answer := by
  -- The request is evaluated; the events that fill the table are too many and are counted.
  have evaluated : (Transition.run (next fun _ => 0) {} asksClient).any (fun asked =>
      asked.answers.get? 0 = none ∧ asked.coordinator.manager.sessions.contains 1 = true ∧
        asked.coordinator.manager.authResults = .empty ∧
          (asked.coordinator.manager.sessionObjects.get? 1).any (fun object =>
            sessionCaller clientCaller object = true ∧
              asked.coordinator.findRoutingContext (fun _ => 0) object.clientId 0 = none ∧
                asked.coordinator.findRoutingContext (fun _ => 0) object.clientId 1 = some 0) ∧
            (asked.requests.get? 0).any fun request => request.ctx.completed = false) = true := by
    decide +kernel
  obtain ⟨asked, reach, rest⟩ := (Option.any_eq_true _ _).mp evaluated
  obtain ⟨idle, live, empty, rest, rest'⟩ := of_decide_eq_true rest
  obtain ⟨object, found, rest⟩ := (Option.any_eq_true _ _).mp rest
  obtain ⟨allowed, unrouted, route⟩ := of_decide_eq_true rest
  obtain ⟨request, foundRequest, pending⟩ := (Option.any_eq_true _ _).mp rest'
  let events : List Int := (List.range maxAuthEventResultSize).map Int.negSucc
  have nodup : events.Nodup :=
    List.nodup_range.map fun _ _ same => Int.negSucc.inj same
  have fresh : ∀ eventId ∈ events,
      asked.coordinator.manager.authResults.contains eventId = false := by
    simp [empty]
  have size : asked.coordinator.manager.authResults.size + events.length =
      maxAuthEventResultSize := by
    simp [empty, events]
  have other : (5 : Int) ∉ events := by
    simp only [events, List.mem_map, not_exists, not_and]
    exact fun event _ => Int.noConfusion
  obtain ⟨flooded, table, floods, coordinator, requests, idle', size', kept⟩ :=
    run_flood live found allowed unrouted idle fresh nodup size.le
  let answer : Answer :=
    { session := 1
      clientId := object.clientId
      event := { eventId := 5, seqnum := 1 }
      allowFlag := true }
  let system : AuthSystem := { flooded with answers := flooded.answers.insert 0 answer }
  have enters : next (fun _ => 0) flooded
      (.setAuthResult clientCaller 1 { eventId := 5, seqnum := 1 } true true 0) = some system := by
    have known : flooded.sessionObject? 1 = some object := by
      rw [sessionObject?, coordinator]
      exact found
    simp [next, SortedMap.contains, idle', known, allowed, system, answer]
  have calling : system.answers.get? 0 = some answer := SortedMap.get?_insert_self _ _ _
  have noText : ("" : String).utf8ByteSize ≤ maxAuthEventStrLen := by decide
  have accepts : system.coordinator.manager.Accepts answer := by
    refine ⟨noText, noText, ?_⟩
    rw [coordinator]
    exact live
  have full : ¬system.coordinator.manager.HasPlace answer := by
    have same : system.coordinator.manager.authResults = table := by rw [coordinator]; rfl
    have absent : table.contains 5 = false := by rw [kept 5 other, empty]; rfl
    rw [AuthEventSubscribeManager.HasPlace, FirstCome.Admits, same, size', size]
    simp [answer, absent]
  refine ⟨asksClient ++ (flood 1 0 events ++
    [.setAuthResult clientCaller 1 { eventId := 5, seqnum := 1 } true true 0]), system, answer,
    request, ?_, calling, rfl, accepts, ?_, ?_, of_decide_eq_true pending,
    not_aggregates calling rfl accepts full⟩
  · rw [Transition.run_append, reach, Option.bind_some, Transition.run_append, floods,
      Option.bind_some]
    exact Transition.run_cons_eq_some.mpr ⟨system, enters, Transition.run_nil _⟩
  · rw [coordinator]
    exact route
  · rw [← foundRequest, ← requests]

end AuthSystem

end SecurityGuard
