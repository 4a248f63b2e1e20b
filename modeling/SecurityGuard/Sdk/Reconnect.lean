import SecurityGuard.Foundation.Refill
import SecurityGuard.Sdk.DataCollectManager

/-!
# Reconnection after the death of the service

Both managers of the library empty their set of subscribers when the service dies, wait, look
for the service and subscribe what the set held.  They wait nine times at most; the first look
that finds a service which takes the death recipient is the only one that subscribes, and a
subscription that fails there is only logged.
-/

namespace SecurityGuard

/-- The times at which a handler that has slept for some seconds wakes up. -/
def wakeUps : Nat → List Nat → List Nat
  | _, [] => []
  | slept, delay :: rest => (slept + delay) :: wakeUps (slept + delay) rest

/-- Whether a search ends with an object of the service. -/
def ServiceSearch.isProxy : ServiceSearch → Bool
  | .noRegistry | .noProxy => false
  | .proxy _ => true

/-- What a handler meets when it wakes up. -/
structure Attempt (Answer : Type) where
  search : ServiceSearch
  /-- Whether the object of the service takes the death recipient. -/
  taken : Bool
  /-- What each subscriber meets that is subscribed during the attempt. -/
  answer : Address → Answer

namespace Attempt

variable {Answer : Type} (attempt : Attempt Answer) (watch : DeathWatch)

/-- The handler goes on with a service that it found and now watches. -/
def usable : Bool := attempt.search.isProxy && watch.recipient && attempt.taken

/-- The death recipient after an attempt. -/
def watching : DeathWatch :=
  match attempt.search with
  | .noRegistry | .noProxy => watch
  | .proxy object => if watch.recipient then watch.add object attempt.taken else watch

@[simp]
theorem watching_recipient : (attempt.watching watch).recipient = watch.recipient := by
  rw [watching]
  split
  · rfl
  · rfl
  · split_ifs with made
    · rw [DeathWatch.add]
      split_ifs <;> rfl
    · rfl

end Attempt

/-- The first wake-up of use, if there is one. -/
def firstUse {Answer : Type} (attempts : Nat → Attempt Answer) (watch : DeathWatch) :
    Option Nat :=
  (wakeUps 0 reconnectRetryDelaySeconds).find? fun time => (attempts time).usable watch

theorem recipient_of_firstUse {Answer : Type} {attempts : Nat → Attempt Answer}
    {watch : DeathWatch} {time : Nat} (used : firstUse attempts watch = some time) :
    watch.recipient = true := by
  have usable := List.find?_some used
  simp only [Attempt.usable, Bool.and_eq_true] at usable
  exact usable.1.2

/-- No subscriber that was there is forgotten. -/
def Remembers (before after : SortedSet Address) : Prop :=
  ∀ subscriber, before.contains subscriber = true → after.contains subscriber = true

theorem remembers_iff {before after : SortedSet Address} :
    Remembers before after ↔ ∀ subscriber ∈ before.keys, after.contains subscriber = true := by
  simp only [Remembers, SortedMap.mem_keys_iff]

theorem remembers_empty {before : SortedSet Address} :
    Remembers before .empty ↔ before.keys = [] := by
  rw [remembers_iff, List.eq_nil_iff_forall_not_mem]
  simp

namespace DataCollectManager

variable (eventId : Address → Int) (manager : DataCollectManager)

/-- `Subscribe`, when no other call of the library comes between its sections. -/
def subscribe (subscriber : Address) (answer : CollectAnswer) : Code × DataCollectManager :=
  match answer.search with
  | .noRegistry | .noProxy => (.nullObject, manager)
  | .proxy object =>
      let registered := manager.register subscriber object answer
      match registered.1 with
      | .finished code => (code, registered.2)
      | _ =>
          if registered.2.isCurrentSubscriberEventIdExist eventId subscriber ∨
              answer.code = .success then
            (.success, registered.2.insert subscriber)
          else (answer.code, registered.2)

/-- The library takes every subscriber up again after the service has died. -/
def handleDecipient (attempts : Nat → Attempt CollectAnswer) : DataCollectManager :=
  if manager.callback = false then manager
  else
    -- The set is emptied first, so that every subscriber is new to the object that is found.
    let emptied := { manager with subscribers := .empty }
    if manager.subscribers.keys = [] then emptied
    else
      match firstUse attempts manager.deathRecipient with
      | none => emptied
      | some time =>
          manager.subscribers.keys.foldl
            (fun manager subscriber =>
              (manager.subscribe eventId subscriber ((attempts time).answer subscriber)).2)
            { emptied with deathRecipient := (attempts time).watching manager.deathRecipient }

/-- What lets a subscriber in again: it finds the service, and the service takes it unless an
earlier subscriber is for the same event. -/
def Readmits (answer : Address → CollectAnswer) (front : List Address) (subscriber : Address) :
    Prop :=
  (answer subscriber).search.isProxy = true ∧
    ((∃ earlier ∈ front, eventId earlier = eventId subscriber) ∨
      (answer subscriber).code = .success)

variable {eventId manager}

theorem register_snd (made : manager.deathRecipient.recipient = true) (subscriber object : Address)
    (answer : CollectAnswer) : (manager.register subscriber object answer).2 = manager := by
  rw [register, DeathWatch.setDeathRecipient_of_recipient made]
  split_ifs <;> rfl

theorem register_stage (manager : DataCollectManager) (subscriber object : Address)
    (answer : CollectAnswer) :
    (manager.register subscriber object answer).1 = .askFirst ∨
      ∃ code, (manager.register subscriber object answer).1 = .finished code := by
  rw [register]
  split_ifs
  · exact .inr ⟨_, rfl⟩
  · exact .inr ⟨_, rfl⟩
  · dsimp only
    split_ifs
    · exact .inl rfl
    · exact .inr ⟨_, rfl⟩

theorem subscribe_cases (made : manager.deathRecipient.recipient = true) (subscriber : Address)
    (answer : CollectAnswer) :
    (manager.subscribe eventId subscriber answer).2 = manager ∨
      (manager.subscribe eventId subscriber answer).2 = manager.insert subscriber := by
  rw [subscribe]
  split
  · exact .inl rfl
  · exact .inl rfl
  · rename_i object found
    dsimp only
    rw [register_snd made]
    split
    · exact .inl rfl
    · split_ifs
      · exact .inr rfl
      · exact .inl rfl

/-- A new subscriber gets in when the service is found, and takes it or need not be asked. -/
theorem subscribe_held {subscriber : Address} {answer : CollectAnswer}
    (set : manager.callback = true) (made : manager.deathRecipient.recipient = true)
    (absent : manager.subscribers.contains subscriber = false) :
    (manager.subscribe eventId subscriber answer).2.subscribers.contains subscriber = true ↔
      answer.search.isProxy = true ∧
        (manager.isCurrentSubscriberEventIdExist eventId subscriber = true ∨
          answer.code = .success) := by
  rw [subscribe]
  cases found : answer.search with
  | noRegistry => simp [absent, ServiceSearch.isProxy]
  | noProxy => simp [absent, ServiceSearch.isProxy]
  | proxy object =>
      have asks : (manager.register subscriber object answer).1 = .askFirst := by
        simp [register, DeathWatch.setDeathRecipient_of_recipient made, set, absent]
      dsimp only
      rw [asks, register_snd made]
      dsimp only
      split_ifs with enters
      · simp [insert, ServiceSearch.isProxy, enters]
      · simp [absent, enters]

theorem isCurrentSubscriberEventIdExist_iff {front : List Address}
    (filled : ∀ other, manager.subscribers.contains other = true ↔ other ∈ front)
    (subscriber : Address) :
    manager.isCurrentSubscriberEventIdExist eventId subscriber = true ↔
      ∃ earlier ∈ front, eventId earlier = eventId subscriber := by
  simp [isCurrentSubscriberEventIdExist, List.any_eq_true, SortedMap.mem_keys_iff, filled]

variable (eventId) in
theorem subscribe_refills (answer : Address → CollectAnswer) :
    Refills (fun manager subscriber => (subscribe eventId manager subscriber (answer subscriber)).2)
      (fun manager => manager.subscribers.contains)
      (fun manager => manager.callback = true ∧ manager.deathRecipient.recipient = true)
      (Readmits eventId answer) where
  keeps_ready item ready := by
    rcases subscribe_cases ready.2 item (answer item) with same | entered
    · rwa [same]
    · rwa [entered]
  others {state item other} ready ne := by
    rcases subscribe_cases ready.2 item (answer item) with same | entered
    · rw [same]
    · rw [entered]
      simp [insert, ne]
  own {state front item} ready fresh filled := by
    have absent : state.subscribers.contains item = false := by
      rw [← Bool.not_eq_true, filled]
      exact fresh
    rw [subscribe_held ready.1 ready.2 absent, isCurrentSubscriberEventIdExist_iff filled, Readmits]

/-- The handler keeps the subscribers exactly when it has no callback or no subscriber, or when
the first attempt of use lets all of them in again. -/
theorem handleDecipient_remembers (attempts : Nat → Attempt CollectAnswer) :
    Remembers manager.subscribers (manager.handleDecipient eventId attempts).subscribers ↔
      manager.callback = false ∨ manager.subscribers.keys = [] ∨
        ∃ time, firstUse attempts manager.deathRecipient = some time ∧
          ∀ front subscriber back, manager.subscribers.keys = front ++ subscriber :: back →
            Readmits eventId (attempts time).answer front subscriber := by
  rw [handleDecipient]
  dsimp only
  split_ifs with unset empty
  · simp [Remembers, unset]
  · simp [remembers_empty, empty]
  · cases used : firstUse attempts manager.deathRecipient with
    | none => simp [remembers_empty, empty, unset]
    | some time =>
        have made : manager.deathRecipient.recipient = true := recipient_of_firstUse used
        have refilled := (subscribe_refills eventId (attempts time).answer).foldl_empty
          { manager with
            subscribers := .empty
            deathRecipient := (attempts time).watching manager.deathRecipient }
          ⟨by simpa using unset, by simpa using made⟩ (by simp) manager.subscribers.keys_nodup
        rw [remembers_iff]
        simpa [unset, empty] using refilled

end DataCollectManager

namespace CollectSystem

variable {system : CollectSystem} {id : CollectCallId}

/-- `Subscribe` as one function is the run of its sections. -/
theorem subscribe_run (eventId : Address → Int) (fresh : system.calls.contains id = false)
    (subscriber : Address) (answer : CollectAnswer) :
    ∃ sections final,
      Transition.run (next eventId) system
        (.subscribe id (some subscriber) answer.search ::
          List.replicate sections (.proceed id answer)) = some final ∧
      final.manager = (system.manager.subscribe eventId subscriber answer).2 ∧
      final.calls.get? id =
        some { subscriber
               stage := .finished (system.manager.subscribe eventId subscriber answer).1 } := by
  rw [DataCollectManager.subscribe]
  cases found : answer.search with
  | noRegistry =>
      refine ⟨0, _, by simp [Transition.run, next, fresh]; rfl, ?_⟩
      simp [subscribe, withCall]
  | noProxy =>
      refine ⟨0, _, by simp [Transition.run, next, fresh]; rfl, ?_⟩
      simp [subscribe, withCall]
  | proxy object =>
      rcases DataCollectManager.register_stage system.manager subscriber object answer with
        asks | ⟨code, ends⟩
      · simp only [asks]
        cases exist : ((system.manager.register subscriber object
            answer).2.isCurrentSubscriberEventIdExist eventId subscriber) with
        | true =>
            refine ⟨3, _, by
              simp [Transition.run, next, fresh, subscribe, section?, withCall, List.replicate,
                asks, exist]; rfl, ?_⟩
            simp
        | false =>
            by_cases taken : answer.code = .success
            · refine ⟨4, _, by
                simp [Transition.run, next, fresh, subscribe, section?, withCall, List.replicate,
                  asks, exist, taken]; rfl, ?_⟩
              simp [taken]
            · refine ⟨3, _, by
                simp [Transition.run, next, fresh, subscribe, section?, withCall, List.replicate,
                  asks, exist, taken]; rfl, ?_⟩
              simp [taken]
      · refine ⟨1, _, by simp [Transition.run, next, fresh, subscribe, section?, withCall]; rfl, ?_⟩
        simp [ends]

end CollectSystem

/-! ## `CollectorManager` -/

/-- What a subscription of the library of collectors learns from outside. -/
structure CollectorAnswer where
  search : ServiceSearch := .proxy 0
  /-- Whether a death recipient can be allocated. -/
  recipientAllocated : Bool := true
  /-- Whether the object of the service takes the death recipient. -/
  alive : Bool := true
  callbackAllocated : Bool := true
  /-- What the service returns. -/
  code : Code := .success

/-- The library of collectors; the listeners are known by their subscribers. -/
structure CollectorManager where
  deathRecipient : DeathWatch := {}
  eventListeners : SortedSet Address := .empty

namespace CollectorManager

/-- What a subscriber meets: a first call, and a second one in case the service died. -/
structure Calls where
  first : CollectorAnswer := {}
  second : CollectorAnswer := {}

variable (brDeadReply : Code) (manager : CollectorManager)

/-- Subscribe a new listener. -/
def subscribeImpl (subscriber : Address) (answer : CollectorAnswer) : Code × CollectorManager :=
  if manager.eventListeners.contains subscriber then (.badParam, manager)
  else
    match answer.search with
    | .noRegistry | .noProxy => (.nullObject, manager)
    | .proxy object =>
        if !(manager.deathRecipient.recipient || answer.recipientAllocated) then
          (.nullObject, manager)
        else
          let watching :=
            { manager with
              deathRecipient :=
                { manager.deathRecipient with recipient := true }.add object answer.alive }
          if !answer.alive then (.nullObject, watching)
          else if !answer.callbackAllocated then (.nullObject, watching)
          else if answer.code = .success then
            (.success,
              { watching with eventListeners := watching.eventListeners.insert subscriber () })
          else (answer.code, watching)

/-- Subscribe, and once more when the object was dead. -/
def subscribe (subscriber : Address) (calls : Calls) : Code × CollectorManager :=
  let ret := manager.subscribeImpl subscriber calls.first
  if ret.1 = brDeadReply then ret.2.subscribeImpl subscriber calls.second else ret

/-- Take every listener up again after the service has died. -/
def handleDecipient (attempts : Nat → Attempt Calls) : CollectorManager :=
  let emptied := { manager with eventListeners := .empty }
  if manager.eventListeners.keys = [] then emptied
  else
    match firstUse attempts manager.deathRecipient with
    | none => emptied
    | some time =>
        manager.eventListeners.keys.foldl
          (fun manager subscriber =>
            (manager.subscribe brDeadReply subscriber ((attempts time).answer subscriber)).2)
          { emptied with deathRecipient := (attempts time).watching manager.deathRecipient }

/-- The service is found and asked. -/
def Asks (answer : CollectorAnswer) : Prop :=
  answer.search.isProxy = true ∧ answer.alive = true ∧ answer.callbackAllocated = true

/-- What lets a subscriber in again: the service takes it, in the second call if it dies in the
first. -/
def Readmits (calls : Calls) : Prop :=
  Asks calls.first ∧
    (calls.first.code = .success ∨
      calls.first.code = brDeadReply ∧ Asks calls.second ∧ calls.second.code = .success)

variable {brDeadReply manager}

/-- A call that finds the death recipient made may register it, and enters its subscriber or
leaves the set. -/
theorem subscribeImpl_cases (made : manager.deathRecipient.recipient = true) (subscriber : Address)
    (answer : CollectorAnswer) :
    (manager.subscribeImpl subscriber answer).2.deathRecipient.recipient = true ∧
      ((manager.subscribeImpl subscriber answer).2.eventListeners = manager.eventListeners ∨
        (manager.subscribeImpl subscriber answer).2.eventListeners =
          manager.eventListeners.insert subscriber ()) := by
  have kept (object : Address) :
      ({ manager.deathRecipient with recipient := true }.add object answer.alive).recipient =
        true := by
    rw [DeathWatch.add]
    split_ifs <;> rfl
  rw [subscribeImpl]
  cases manager.eventListeners.contains subscriber with
  | true => exact ⟨made, .inl rfl⟩
  | false =>
      rw [if_neg Bool.false_ne_true]
      cases answer.search with
      | noRegistry => exact ⟨made, .inl rfl⟩
      | noProxy => exact ⟨made, .inl rfl⟩
      | proxy object =>
          dsimp only
          split_ifs
          · exact ⟨made, .inl rfl⟩
          · exact ⟨kept object, .inl rfl⟩
          · exact ⟨kept object, .inl rfl⟩
          · exact ⟨kept object, .inr rfl⟩
          · exact ⟨kept object, .inl rfl⟩

/-- A call for a new subscriber returns what the service does, if it asks the service. -/
theorem subscribeImpl_spec {subscriber : Address} (answer : CollectorAnswer)
    (made : manager.deathRecipient.recipient = true)
    (absent : manager.eventListeners.contains subscriber = false) :
    (Asks answer ∧ (manager.subscribeImpl subscriber answer).1 = answer.code ∨
        ¬Asks answer ∧ (manager.subscribeImpl subscriber answer).1 = .nullObject) ∧
      ((manager.subscribeImpl subscriber answer).2.eventListeners.contains subscriber = true ↔
        Asks answer ∧ answer.code = .success) := by
  rw [subscribeImpl, absent]
  cases found : answer.search with
  | noRegistry => simp [Asks, found, absent, ServiceSearch.isProxy]
  | noProxy => simp [Asks, found, absent, ServiceSearch.isProxy]
  | proxy object =>
      simp only [Asks, found, ServiceSearch.isProxy, made]
      cases alive : answer.alive with
      | false => simp [absent]
      | true =>
          cases allocated : answer.callbackAllocated with
          | false => simp [absent]
          | true =>
              by_cases taken : answer.code = .success
              · simp [taken]
              · simp [taken, absent]

theorem subscribe_cases (made : manager.deathRecipient.recipient = true) (subscriber : Address)
    (calls : Calls) :
    (manager.subscribe brDeadReply subscriber calls).2.deathRecipient.recipient = true ∧
      ∀ other, other ≠ subscriber →
        (manager.subscribe brDeadReply subscriber calls).2.eventListeners.contains other =
          manager.eventListeners.contains other := by
  have others {manager : CollectorManager} (made : manager.deathRecipient.recipient = true)
      (answer : CollectorAnswer) (other : Address) (ne : other ≠ subscriber) :
      (manager.subscribeImpl subscriber answer).2.eventListeners.contains other =
        manager.eventListeners.contains other := by
    rcases (subscribeImpl_cases made subscriber answer).2 with same | entered
    · rw [same]
    · rw [entered]
      simp [ne]
  obtain ⟨still, -⟩ := subscribeImpl_cases made subscriber calls.first
  rw [subscribe]
  split_ifs
  · exact ⟨(subscribeImpl_cases still subscriber calls.second).1, fun other ne =>
      (others still calls.second other ne).trans (others made calls.first other ne)⟩
  · exact ⟨still, others made calls.first⟩

/-- A new subscriber gets in when the service takes it. -/
theorem subscribe_held (ipc : brDeadReply ≠ .nullObject) {subscriber : Address} {calls : Calls}
    (made : manager.deathRecipient.recipient = true)
    (absent : manager.eventListeners.contains subscriber = false) :
    (manager.subscribe brDeadReply subscriber calls).2.eventListeners.contains subscriber = true ↔
      Readmits brDeadReply calls := by
  have still := (subscribeImpl_cases made subscriber calls.first).1
  obtain ⟨code, enters⟩ := subscribeImpl_spec calls.first made absent
  rw [subscribe]
  rcases code with ⟨asks, code⟩ | ⟨silent, code⟩
  · rw [code]
    by_cases taken : calls.first.code = .success
    · have entered := enters.mpr ⟨asks, taken⟩
      have readmitted : Readmits brDeadReply calls := ⟨asks, .inl taken⟩
      split_ifs
      · rw [subscribeImpl, if_pos entered]
        exact iff_of_true entered readmitted
      · simp [entered, readmitted]
    · have outside :
          (manager.subscribeImpl subscriber calls.first).2.eventListeners.contains subscriber =
            false := by
        rw [← Bool.not_eq_true, enters]
        exact fun both => taken both.2
      split_ifs with died
      · rw [(subscribeImpl_spec calls.second still outside).2]
        have other : brDeadReply ≠ .success := died ▸ taken
        simp [Readmits, asks, died, other]
      · simp [Readmits, outside, taken, died]
  · rw [code, if_neg (Ne.symm ipc), enters]
    simp [Readmits, silent]

theorem subscribe_refills (ipc : brDeadReply ≠ .nullObject) (calls : Address → Calls) :
    Refills (fun manager subscriber =>
        (subscribe brDeadReply manager subscriber (calls subscriber)).2)
      (fun manager => manager.eventListeners.contains)
      (fun manager => manager.deathRecipient.recipient = true)
      (fun _ subscriber => Readmits brDeadReply (calls subscriber)) where
  keeps_ready item made := (subscribe_cases made item (calls item)).1
  others {state item other} made ne := (subscribe_cases made item (calls item)).2 other ne
  own {state front item} made fresh filled := by
    have absent : state.eventListeners.contains item = false := by
      rw [← Bool.not_eq_true, filled]
      exact fresh
    exact subscribe_held ipc made absent

/-- The handler keeps the subscribers exactly when there is none, or when the first attempt of
use lets all of them in again. -/
theorem handleDecipient_remembers (ipc : brDeadReply ≠ .nullObject)
    (attempts : Nat → Attempt Calls) :
    Remembers manager.eventListeners (manager.handleDecipient brDeadReply attempts).eventListeners ↔
      manager.eventListeners.keys = [] ∨
        ∃ time, firstUse attempts manager.deathRecipient = some time ∧
          ∀ subscriber ∈ manager.eventListeners.keys,
            Readmits brDeadReply ((attempts time).answer subscriber) := by
  rw [handleDecipient]
  dsimp only
  split_ifs with empty
  · simp [remembers_empty, empty]
  · cases used : firstUse attempts manager.deathRecipient with
    | none => simp [remembers_empty, empty]
    | some time =>
        have made : manager.deathRecipient.recipient = true := recipient_of_firstUse used
        have refilled := (subscribe_refills ipc (attempts time).answer).foldl_empty_alone
          { manager with
            eventListeners := .empty
            deathRecipient := (attempts time).watching manager.deathRecipient }
          (by simpa using made) (by simp) manager.eventListeners.keys_nodup
        rw [remembers_iff]
        simpa [empty] using refilled

end CollectorManager

/-- Reconnection forgets no subscriber exactly when there is none, or when the first attempt of
use lets all of them in again; the library of the data collector also keeps them when it has no
callback. -/
theorem reconnection_remembers_iff {brDeadReply : Code} (ipc : brDeadReply ≠ .nullObject)
    (eventId : Address → Int) (collect : DataCollectManager)
    (collectAttempts : Nat → Attempt CollectAnswer) (collector : CollectorManager)
    (collectorAttempts : Nat → Attempt CollectorManager.Calls) :
    (Remembers collect.subscribers (collect.handleDecipient eventId collectAttempts).subscribers ↔
      collect.callback = false ∨ collect.subscribers.keys = [] ∨
        ∃ time, firstUse collectAttempts collect.deathRecipient = some time ∧
          ∀ front subscriber back, collect.subscribers.keys = front ++ subscriber :: back →
            DataCollectManager.Readmits eventId (collectAttempts time).answer front subscriber) ∧
    (Remembers collector.eventListeners
        (collector.handleDecipient brDeadReply collectorAttempts).eventListeners ↔
      collector.eventListeners.keys = [] ∨
        ∃ time, firstUse collectorAttempts collector.deathRecipient = some time ∧
          ∀ subscriber ∈ collector.eventListeners.keys,
            CollectorManager.Readmits brDeadReply
              ((collectorAttempts time).answer subscriber)) :=
  ⟨DataCollectManager.handleDecipient_remembers collectAttempts,
    CollectorManager.handleDecipient_remembers ipc collectorAttempts⟩

/-- A service that is up, but refuses a subscriber. -/
def refusing {Answer : Type} (answer : Answer) : Nat → Attempt Answer := fun _ =>
  { search := .proxy 2, taken := true, answer := fun _ => answer }

/-- A subscriber that is refused once is gone from both libraries. -/
theorem refused_subscriber_is_forgotten :
    let subscribers : SortedSet Address := .insert .empty 1 ()
    let watch : DeathWatch := { recipient := true }
    ¬Remembers subscribers
        (DataCollectManager.handleDecipient (fun _ => 7)
          { subscribers := subscribers, deathRecipient := watch }
          (refusing { code := .failed })).subscribers ∧
      ¬Remembers subscribers
        (CollectorManager.handleDecipient 29189
          { eventListeners := subscribers, deathRecipient := watch }
          (refusing { first := { code := .failed } })).eventListeners := by
  refine ⟨fun remembers => ?_, fun remembers => ?_⟩
  · exact absurd (remembers 1 (by decide)) (by decide)
  · exact absurd (remembers 1 (by decide)) (by decide)

theorem reconnection_remembers_one :
    let subscribers : SortedSet Address := .insert .empty 1 ()
    let watch : DeathWatch := { recipient := true }
    let collect : DataCollectManager := { subscribers := subscribers, deathRecipient := watch }
    let collector : CollectorManager := { eventListeners := subscribers, deathRecipient := watch }
    (Remembers collect.subscribers
        (collect.handleDecipient (fun _ => 7) (refusing {})).subscribers ↔
      collect.callback = false ∨ collect.subscribers.keys = [] ∨
        ∃ time, firstUse (refusing ({} : CollectAnswer)) collect.deathRecipient = some time ∧
          ∀ front subscriber back, collect.subscribers.keys = front ++ subscriber :: back →
            DataCollectManager.Readmits (fun _ => 7) (refusing {} time).answer front subscriber) ∧
    (Remembers collector.eventListeners
        (collector.handleDecipient 29189 (refusing {})).eventListeners ↔
      collector.eventListeners.keys = [] ∨
        ∃ time, firstUse (refusing ({} : CollectorManager.Calls)) collector.deathRecipient =
            some time ∧
          ∀ subscriber ∈ collector.eventListeners.keys,
            CollectorManager.Readmits 29189 ((refusing {} time).answer subscriber)) := by
  intro subscribers watch collect collector
  exact reconnection_remembers_iff (by decide) (fun _ => 7) collect (refusing {}) collector
    (refusing {})

end SecurityGuard
