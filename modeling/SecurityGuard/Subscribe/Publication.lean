import SecurityGuard.Subscribe.Manager

/-!
# Publishing an event to its subscribers

An event goes to every session that subscribes it and whose filters let it pass.  A sticky event
goes to a client once: `reportedStickyEvents_` remembers the client, not the session.
-/

namespace SecurityGuard

/-- An event with the clients whose filters it has passed. -/
structure PublishedEvent where
  eventId : Int
  eventSubscribes : SortedSet String
  deriving DecidableEq

def ConfigData.isStickyEvent (config : ConfigData) (eventId : Int) : Bool :=
  (config.getEventConfig eventId).any fun cfg => cfg.isSticky ≠ 0

namespace Manager

variable {σ : Type} (config : ConfigData) (manager : Manager σ)

/-- The event was reported to the client before. -/
def hasStickyEventReported (eventId : Int) (clientId : String) : Bool :=
  (manager.reportedStickyEvents.get? clientId).any fun reported => reported.contains eventId

/-- Mark an event as reported, once. -/
def markStickyEventReported (eventId : Int) (clientId : String) : Bool × Manager σ :=
  if manager.hasStickyEventReported eventId clientId then (false, manager)
  else
    let reported := (manager.reportedStickyEvents.get? clientId).getD .empty
    (true,
      { manager with
        reportedStickyEvents :=
          manager.reportedStickyEvents.insert clientId (reported.insert eventId ()) })

def isFindFlag (eventSubscribes : SortedSet String) (eventId : Int) (clientId : String) : Bool :=
  match manager.sessionsMap.get? clientId with
  | none => false
  | some session => filtersOf session eventId = [] ∨ eventSubscribes.contains clientId

/-- The sessions of a list to notify, with the marks of a sticky event. -/
def collectEach (event : PublishedEvent) (isSticky : Bool) :
    List (String × ClientSession) → Manager σ → List ClientSession × Manager σ
  | [], manager => ([], manager)
  | (_, session) :: rest, manager =>
      if !session.subEvents.contains event.eventId then collectEach event isSticky rest manager
      else if !manager.isFindFlag event.eventSubscribes event.eventId session.clientId then
        collectEach event isSticky rest manager
      else if isSticky then
        -- The mark is set before the event is sent.
        let marked := manager.markStickyEventReported event.eventId session.clientId
        if !marked.1 then collectEach event isSticky rest manager
        else
          let later := collectEach event isSticky rest marked.2
          (session :: later.1, later.2)
      else
        let later := collectEach event isSticky rest manager
        (session :: later.1, later.2)

/-- The sessions that get the event. -/
def collectNotifyObjs (event : PublishedEvent) (isSticky : Bool) :
    List ClientSession × Manager σ :=
  collectEach event isSticky manager.sessionsMap.entries manager

/-- The sessions whose callbacks are notified; the token bucket of file events may refuse. -/
def publishEventToSub (refused : Bool) (event : PublishedEvent) :
    List ClientSession × Manager σ :=
  match config.getEventConfig event.eventId with
  | none => ([], manager)
  | some cfg =>
      if refused then ([], manager)
      else manager.collectNotifyObjs event (decide (cfg.isSticky ≠ 0))

variable {config manager} {eventId : Int} {clientId : String}

theorem hasStickyEventReported_mark (other : Int) (otherClient : String) :
    (manager.markStickyEventReported eventId clientId).2.hasStickyEventReported other
        otherClient =
      (decide (other = eventId ∧ otherClient = clientId) ||
        manager.hasStickyEventReported other otherClient) := by
  rw [markStickyEventReported]
  split_ifs with marked
  · by_cases same : other = eventId ∧ otherClient = clientId
    · obtain ⟨rfl, rfl⟩ := same
      simp [marked]
    · simp [same]
  · by_cases client : otherClient = clientId
    · subst client
      cases found : manager.reportedStickyEvents.get? otherClient with
      | none => simp [hasStickyEventReported, found]
      | some reported => simp [hasStickyEventReported, found]
    · simp [hasStickyEventReported, client]

theorem reported_mark {otherClient : String}
    (reported : (manager.markStickyEventReported eventId
      clientId).2.reportedStickyEvents.contains otherClient = true) :
    otherClient = clientId ∨ manager.reportedStickyEvents.contains otherClient = true := by
  rw [markStickyEventReported] at reported
  split_ifs at reported
  · exact .inr reported
  · rw [SortedMap.contains_insert, Bool.or_eq_true, decide_eq_true_eq] at reported
    exact reported

/-- How often a client is notified. -/
def notices (clientId : String) (notified : List ClientSession) : Nat :=
  notified.countP fun session => session.clientId = clientId

/-- What one publication of a sticky event does: it notifies clients without the mark, each of
them once, and marks them. -/
structure StickyRound (event : PublishedEvent) (entries : List (String × ClientSession))
    (before : Manager σ) (after : List ClientSession × Manager σ) : Prop where
  sessionsMap : after.2.sessionsMap = before.sessionsMap
  once : ∀ clientId, notices clientId after.1 ≤ 1
  unmarked : ∀ clientId, 0 < notices clientId after.1 →
    before.hasStickyEventReported event.eventId clientId = false
  marks : ∀ eventId clientId, after.2.hasStickyEventReported eventId clientId =
    (decide (eventId = event.eventId ∧ 0 < notices clientId after.1) ||
      before.hasStickyEventReported eventId clientId)
  reported : ∀ clientId, after.2.reportedStickyEvents.contains clientId = true →
    before.reportedStickyEvents.contains clientId = true ∨ 0 < notices clientId after.1
  within : ∀ session ∈ after.1, ∃ key, (key, session) ∈ entries

theorem StickyRound.skip {event : PublishedEvent} {entries : List (String × ClientSession)}
    {after : List ClientSession × Manager σ} (round : StickyRound event entries manager after)
    (entry : String × ClientSession) : StickyRound event (entry :: entries) manager after :=
  { round with
    within := fun session mem => (round.within session mem).imp fun _ => List.mem_cons_of_mem _ }

/-- The first session of a list is notified, and then the others. -/
theorem StickyRound.mark {event : PublishedEvent} {entries : List (String × ClientSession)}
    {session : ClientSession} {after : List ClientSession × Manager σ}
    (round : StickyRound event entries
      (manager.markStickyEventReported event.eventId session.clientId).2 after)
    (fresh : manager.hasStickyEventReported event.eventId session.clientId = false)
    (key : String) :
    StickyRound event ((key, session) :: entries) manager (session :: after.1, after.2) := by
  have last : notices session.clientId after.1 = 0 := by
    by_contra some
    have unmarked := round.unmarked session.clientId (Nat.pos_of_ne_zero some)
    rw [hasStickyEventReported_mark] at unmarked
    simp at unmarked
  have total (clientId : String) : notices clientId (session :: after.1) =
      notices clientId after.1 + if session.clientId = clientId then 1 else 0 := by
    rw [notices, List.countP_cons]
    simp [notices]
  constructor
  · rw [round.sessionsMap, markStickyEventReported]
    split_ifs <;> rfl
  · intro clientId
    rw [total]
    split_ifs with own
    · rw [← own, last]
    · exact round.once clientId
  · intro clientId pos
    rw [total] at pos
    split_ifs at pos with own
    · exact own ▸ fresh
    · have unmarked := round.unmarked clientId pos
      rw [hasStickyEventReported_mark, Bool.or_eq_false_iff] at unmarked
      exact unmarked.2
  · intro eventId clientId
    rw [round.marks, hasStickyEventReported_mark, total]
    by_cases own : session.clientId = clientId
    · subst own
      by_cases same : eventId = event.eventId <;> simp [same, last]
    · simp [own, Ne.symm own]
  · intro clientId reported
    rw [total]
    rcases round.reported clientId reported with marked | pos
    · rcases reported_mark marked with rfl | before
      · exact .inr (by simp)
      · exact .inl before
    · exact .inr (by omega)
  · intro other mem
    rcases List.mem_cons.mp mem with rfl | later
    · exact ⟨key, List.mem_cons_self⟩
    · exact (round.within other later).imp fun _ => List.mem_cons_of_mem _

theorem collectEach_sticky (event : PublishedEvent) (entries : List (String × ClientSession)) :
    StickyRound event entries manager (collectEach event true entries manager) := by
  induction entries generalizing manager with
  | nil =>
      exact ⟨rfl, fun _ => Nat.zero_le 1, fun _ pos => absurd pos (by simp [collectEach, notices]),
        fun _ _ => by simp [collectEach, notices], fun _ reported => .inl reported,
        fun _ mem => absurd mem List.not_mem_nil⟩
  | cons entry rest ih =>
      obtain ⟨key, session⟩ := entry
      rw [collectEach]
      simp only [if_true]
      split_ifs with _ _ refused
      · exact ih.skip _
      · exact ih.skip _
      · exact ih.skip _
      · have fresh : manager.hasStickyEventReported event.eventId session.clientId = false := by
          rw [markStickyEventReported] at refused
          split_ifs at refused with marked
          · exact absurd rfl refused
          · exact Bool.not_eq_true _ ▸ marked
        exact ih.mark fresh key

@[simp]
theorem markStickyEventReported_sessionsMap :
    (manager.markStickyEventReported eventId clientId).2.sessionsMap = manager.sessionsMap := by
  rw [markStickyEventReported]
  split_ifs <;> rfl

@[simp]
theorem isFindFlag_mark (eventSubscribes : SortedSet String) (other : Int)
    (otherClient : String) :
    (manager.markStickyEventReported eventId clientId).2.isFindFlag eventSubscribes other
        otherClient =
      manager.isFindFlag eventSubscribes other otherClient := by
  rw [isFindFlag, markStickyEventReported_sessionsMap, ← isFindFlag]

/-- Every subscriber that lets a sticky event pass has its mark afterwards. -/
theorem marked_of_mem {event : PublishedEvent} {entries : List (String × ClientSession)}
    {key : String} {session : ClientSession} (mem : (key, session) ∈ entries)
    (subscribed : session.subEvents.contains event.eventId = true)
    (passes : manager.isFindFlag event.eventSubscribes event.eventId session.clientId = true) :
    (collectEach event true entries manager).2.hasStickyEventReported event.eventId
      session.clientId = true := by
  induction entries generalizing manager with
  | nil => exact absurd mem List.not_mem_nil
  | cons entry rest ih =>
      have kept (middle : Manager σ)
          (marked : middle.hasStickyEventReported event.eventId session.clientId = true) :
          (collectEach event true rest middle).2.hasStickyEventReported event.eventId
            session.clientId = true := by
        rw [(collectEach_sticky event rest).marks, marked, Bool.or_true]
      obtain ⟨other, head⟩ := entry
      rw [collectEach]
      simp only [if_true]
      rcases List.mem_cons.mp mem with same | later
      · obtain ⟨rfl, rfl⟩ := Prod.mk.inj same
        rw [if_neg (by simp [subscribed]), if_neg (by simp [passes])]
        split_ifs with refused
        · refine kept manager ?_
          rw [markStickyEventReported] at refused
          split_ifs at refused with marked
          · exact marked
          · exact absurd refused (by simp)
        · exact kept _ (by simp [hasStickyEventReported_mark])
      · split_ifs
        · exact ih later passes
        · exact ih later passes
        · exact ih later passes
        · exact ih later (by rw [isFindFlag_mark, passes])

theorem notified_of_unmarked {event : PublishedEvent} {session : ClientSession} {key : String}
    (found : manager.sessionsMap.get? key = some session)
    (subscribed : session.subEvents.contains event.eventId = true)
    (passes : manager.isFindFlag event.eventSubscribes event.eventId session.clientId = true)
    (unmarked : manager.hasStickyEventReported event.eventId session.clientId = false) :
    0 < notices session.clientId (manager.collectNotifyObjs event true).1 := by
  have marked := marked_of_mem (SortedMap.mem_entries_iff.mpr found) subscribed passes
  rw [(collectEach_sticky event _).marks, unmarked, Bool.or_false] at marked
  exact (of_decide_eq_true marked).2

theorem collectEach_plain (event : PublishedEvent) (entries : List (String × ClientSession)) :
    (collectEach event false entries manager).2 = manager := by
  induction entries with
  | nil => rfl
  | cons entry rest ih =>
      rw [collectEach]
      simp only [Bool.false_eq_true, if_false]
      split_ifs <;> exact ih

variable (config manager) in
/-- A publication leaves the marks alone, or it is a round of a sticky event. -/
theorem publishEventToSub_cases (refused : Bool) (event : PublishedEvent) :
    let published := manager.publishEventToSub config refused event
    (published.2 = manager ∧
        (config.isStickyEvent event.eventId = true → published.1 = [])) ∨
      (config.isStickyEvent event.eventId = true ∧
        StickyRound event manager.sessionsMap.entries manager published) := by
  rw [publishEventToSub, ConfigData.isStickyEvent]
  cases config.getEventConfig event.eventId with
  | none => exact .inl ⟨rfl, fun _ => rfl⟩
  | some cfg =>
      dsimp only
      split_ifs
      · exact .inl ⟨rfl, fun _ => rfl⟩
      · by_cases sticky : cfg.isSticky ≠ 0
        · rw [decide_eq_true sticky]
          exact .inr ⟨by simpa using sticky, collectEach_sticky event _⟩
        · rw [decide_eq_false sticky]
          exact .inl ⟨collectEach_plain event _, by simp [sticky]⟩

end Manager

end SecurityGuard
