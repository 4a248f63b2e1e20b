import SecurityGuard.Config.Indexing
import SecurityGuard.Subscribe.MuteRaces
import SecurityGuard.Upload.Task

/-!
# The two ids of an event

A configuration entry may give an event an old id beside its own, and a lookup accepts both.
`UploadEventTask` changes the old id of an event to the new one, but a subscription keeps the id
it was made under, so that a session which subscribes the old id is not notified.
-/

namespace SecurityGuard

namespace ConfigData

variable {config : ConfigData}

/-- Every entry is found under its own id, or another one is. -/
def EntersOwnIds (config : ConfigData) : Prop :=
  ∀ eventId cfg, config.getEventConfig eventId = some cfg →
    (config.getEventConfig cfg.eventId).isSome = true

/-- `CacheEventConfig` enters an entry under both of its ids. -/
theorem EntersOwnIds.cacheEventConfig (enters : config.EntersOwnIds) (configs : List EventCfg) :
    (config.cacheEventConfig configs).EntersOwnIds := by
  have events : (config.cacheEventConfig configs).eventMap =
      enterAll id config.eventMap configs := (cacheEventConfig_maps config configs).1
  have found (eventId : Int) : (config.cacheEventConfig configs).getEventConfig eventId =
      (lastUse configs eventId).or (config.getEventConfig eventId) := by
    rw [getEventConfig, events, get?_enterAll, Option.map_id_fun, id, getEventConfig]
  intro eventId cfg entered
  rw [found] at entered ⊢
  rw [Option.isSome_or, Bool.or_eq_true]
  cases last : lastUse configs eventId with
  | none =>
      rw [last, Option.none_or] at entered
      exact .inr (enters eventId cfg entered)
  | some used =>
      rw [last, Option.some_or] at entered
      obtain rfl := Option.some.inj entered
      exact .inl (lastUse_isSome.mpr ⟨used, (lastUse_mem last).1, .inl rfl⟩)

/-- The id that `UploadEventTask` gives to an event. -/
def currentId (config : ConfigData) (eventId : Int) : Int :=
  ((config.getEventConfig eventId).map EventCfg.eventId).getD eventId

end ConfigData

namespace Manager

variable {σ : Type} {manager : Manager σ} {event : PublishedEvent} {isSticky : Bool}

/-- A session subscribes an event and lets it pass, and its client has not received it yet if it
is sticky. -/
def Hears (manager : Manager σ) (event : PublishedEvent) (isSticky : Bool)
    (session : ClientSession) : Prop :=
  session.subEvents.contains event.eventId = true ∧
    manager.isFindFlag event.eventSubscribes event.eventId session.clientId = true ∧
    (isSticky = true →
      manager.hasStickyEventReported event.eventId session.clientId = false)

theorem markStickyEventReported_fst (eventId : Int) (clientId : String) :
    (manager.markStickyEventReported eventId clientId).1 =
      !manager.hasStickyEventReported eventId clientId := by
  rw [markStickyEventReported]
  split_ifs with reported <;> simp [reported]

/-- The first session of a list is passed over, or it is notified before the others. -/
theorem collectEach_cons (key : String) (session : ClientSession)
    (rest : List (String × ClientSession)) :
    ¬manager.Hears event isSticky session ∧
        collectEach event isSticky ((key, session) :: rest) manager =
          collectEach event isSticky rest manager ∨
      manager.Hears event isSticky session ∧
        (collectEach event isSticky ((key, session) :: rest) manager).1 =
          session :: (collectEach event isSticky rest
            (if isSticky then
              (manager.markStickyEventReported event.eventId session.clientId).2
            else manager)).1 := by
  rw [collectEach]
  by_cases subscribed : session.subEvents.contains event.eventId = true
  · by_cases passes :
        manager.isFindFlag event.eventSubscribes event.eventId session.clientId = true
    · rw [if_neg (by simp [subscribed]), if_neg (by simp [passes])]
      cases isSticky with
      | false => exact .inr ⟨⟨subscribed, passes, fun holds => Bool.noConfusion holds⟩, rfl⟩
      | true =>
          cases reported : manager.hasStickyEventReported event.eventId session.clientId with
          | true =>
              refine .inl ⟨fun hears => ?_, by simp [markStickyEventReported_fst, reported]⟩
              rw [hears.2.2 rfl] at reported
              exact Bool.noConfusion reported
          | false =>
              exact .inr ⟨⟨subscribed, passes, fun _ => reported⟩,
                by simp [markStickyEventReported_fst, reported]⟩
    · refine .inl ⟨fun hears => passes hears.2.1, ?_⟩
      rw [if_neg (by simp [subscribed]), if_pos (by simpa using passes)]
  · refine .inl ⟨fun hears => subscribed hears.1, ?_⟩
    rw [if_pos (by simpa using subscribed)]

theorem hears_mark {session : ClientSession} {clientId : String}
    (ne : session.clientId ≠ clientId) :
    (manager.markStickyEventReported event.eventId clientId).2.Hears event isSticky session ↔
      manager.Hears event isSticky session := by
  simp [Hears, hasStickyEventReported_mark, ne]

/-- The sessions of different clients are notified if they hear the event. -/
theorem mem_collectEach {entries : List (String × ClientSession)}
    (distinct : (entries.map fun entry => entry.2.clientId).Nodup) {session : ClientSession} :
    session ∈ (collectEach event isSticky entries manager).1 ↔
      (∃ key, (key, session) ∈ entries) ∧ manager.Hears event isSticky session := by
  induction entries generalizing manager with
  | nil => simp [collectEach]
  | cons entry rest ih =>
      obtain ⟨key, head⟩ := entry
      obtain ⟨apart, distinct⟩ := List.nodup_cons.mp distinct
      rcases collectEach_cons key head rest with ⟨deaf, same⟩ | ⟨hears, first⟩
      · rw [same, ih distinct]
        refine and_congr_left fun own => exists_congr fun other => ?_
        rw [List.mem_cons, iff_or_self]
        rintro same
        obtain ⟨-, rfl⟩ := Prod.mk.inj same
        exact absurd own deaf
      · have unaffected {other : String} (mem : (other, session) ∈ rest) :
            (if isSticky then (manager.markStickyEventReported event.eventId head.clientId).2
              else manager).Hears event isSticky session ↔
            manager.Hears event isSticky session := by
          have ne : session.clientId ≠ head.clientId := fun same =>
            apart (List.mem_map.mpr ⟨(other, session), mem, same⟩)
          split_ifs
          · exact hears_mark ne
          · exact Iff.rfl
        rw [first, List.mem_cons, ih distinct]
        constructor
        · rintro (rfl | ⟨⟨other, mem⟩, later⟩)
          · exact ⟨⟨key, List.mem_cons_self⟩, hears⟩
          · exact ⟨⟨other, List.mem_cons_of_mem _ mem⟩, (unaffected mem).mp later⟩
        · rintro ⟨⟨other, mem⟩, own⟩
          rcases List.mem_cons.mp mem with same | later
          · exact .inl (Prod.mk.inj same).2
          · exact .inr ⟨⟨other, later⟩, (unaffected later).mpr own⟩

/-- An object is notified if a session with this callback hears the event. -/
theorem Named.mem_callbacks (named : manager.Named) {callback : Address} :
    callback ∈ (manager.collectNotifyObjs event isSticky).1.map ClientSession.callback ↔
      ∃ clientId session, manager.sessionsMap.get? clientId = some session ∧
        session.callback = callback ∧ manager.Hears event isSticky session := by
  have keys : manager.sessionsMap.entries.map (fun entry => entry.2.clientId) =
      manager.sessionsMap.keys :=
    List.map_congr_left fun entry mem =>
      named entry.1 entry.2 (SortedMap.mem_entries_iff.mp mem)
  have distinct : (manager.sessionsMap.entries.map fun entry => entry.2.clientId).Nodup :=
    keys ▸ manager.sessionsMap.keys_nodup
  simp only [List.mem_map, collectNotifyObjs, mem_collectEach distinct,
    SortedMap.mem_entries_iff]
  constructor
  · rintro ⟨session, ⟨⟨clientId, found⟩, hears⟩, own⟩
    exact ⟨clientId, session, found, own, hears⟩
  · rintro ⟨clientId, session, found, own, hears⟩
    exact ⟨session, ⟨⟨clientId, found⟩, hears⟩, own⟩

end Manager

/-- A change of filters leaves every session under its client. -/
theorem FilterChange.owner_of_apply {sessions : SortedMap String ClientSession}
    {change : FilterChange} {clientId : String} {session : ClientSession}
    (found : (change.apply sessions).get? clientId = some session) :
    ∃ old, sessions.get? clientId = some old ∧ session.clientId = old.clientId := by
  cases change with
  | inserted other filter | removed other filter =>
      rcases SortedMap.get?_modify_eq_some.mp found with ⟨-, old, present, rfl⟩ | ⟨-, found⟩
      · exact ⟨old, present, rfl⟩
      · exact ⟨session, found, rfl⟩

namespace MuteSystem

variable {σ : Type} {config : ConfigData} {env : Externals σ} {world : σ}
  {state after : MuteSystem σ} {actions : List MuteAction} {action : MuteAction}

theorem named_next (named : state.system.manager.Named)
    (taken : next config env state action = some after) : after.system.manager.Named := by
  rcases next_cases taken with ⟨keeps, -, -⟩ | ⟨id, stage, -, -, rfl⟩
  · exact keeps.named named
  · intro clientId session found
    rw [moveOn_manager, MuteStage.take_sessionsMap] at found
    cases changed : stage.change? state.system.manager with
    | none =>
        rw [changed] at found
        exact named clientId session found
    | some change =>
        rw [changed] at found
        obtain ⟨old, present, owner⟩ := FilterChange.owner_of_apply found
        exact owner.trans (named clientId old present)

theorem named_of_run (reach : Transition.run (next config env) (initial world) actions =
    some state) : state.system.manager.Named :=
  Transition.run_stable named_next (fun _ _ found => by simp [initial] at found) reach

end MuteSystem

/-- The plugins do not change the id of an event. -/
structure Surroundings.KeepsEventIds (outside : Surroundings) : Prop where
  flags : ∀ event, (outside.getFlagsEventNeedToUpload event).eventId = event.eventId
  wrapper : ∀ event, (outside.wrapperEvent event).eventId = event.eventId

/-- What the subscribers receive of an event. -/
def CollectorEvent.published (event : CollectorEvent) : PublishedEvent :=
  { eventId := event.eventId, eventSubscribes := event.eventSubscribes }

/-- A configured event with two ids, a session that subscribes it under one of them and has no
filter for it there, and the event as it is uploaded under one of them. -/
structure AliasedUpload {σ : Type} (config : ConfigData) (manager : Manager σ) where
  cfg : EventCfg
  configured : ∃ eventId, config.getEventConfig eventId = some cfg
  aliased : cfg.oldEventId ≠ 0
  clientId : String
  session : ClientSession
  found : manager.sessionsMap.get? clientId = some session
  subscribed : Int
  either : cfg.UsesId subscribed
  subscribes : session.subEvents.contains subscribed = true
  unmuted : Manager.filtersOf session subscribed = []
  event : CollectorEvent
  uploaded : cfg.UsesId event.eventId

theorem Surroundings.published_eventId {outside : Surroundings} (keeps : outside.KeepsEventIds)
    {event published : CollectorEvent} (accepted : outside.uploadedEvent event = some published) :
    published.eventId = outside.config.currentId event.eventId ∧
      ∃ cfg, outside.config.getEventConfig event.eventId = some cfg ∧
        cfg.eventId = published.eventId := by
  obtain ⟨cfg, found, rfl⟩ := Option.map_eq_some_iff.mp accepted
  rw [ConfigData.currentId, found, keeps.wrapper, keeps.flags]
  exact ⟨rfl, cfg, rfl, rfl⟩

namespace AliasedUpload

variable {σ : Type} {outside : Surroundings} {env : Externals σ} {world : σ}
  {state : MuteSystem σ} {actions : List MuteAction}

/-- The subscriber of an event with two ids is notified exactly if it subscribes the id that the
event is changed to and has not received it yet as a sticky event, or if another session with its
callback hears the event. -/
theorem notified_iff (enters : outside.config.EntersOwnIds)
    (keeps : outside.KeepsEventIds)
    (reach : Transition.run (MuteSystem.next outside.config env) (MuteSystem.initial world)
      actions = some state)
    (upload : AliasedUpload outside.config state.system.manager) {published : CollectorEvent}
    (accepted : outside.uploadedEvent upload.event = some published) :
    let manager := state.system.manager
    let newId := outside.config.currentId upload.event.eventId
    let isSticky := outside.config.isStickyEvent newId
    upload.session.callback ∈
        (manager.publishEventToSub outside.config false published.published).1.map
          ClientSession.callback ↔
      (upload.subscribed = newId ∧
          (isSticky = true → manager.hasStickyEventReported newId upload.clientId = false)) ∨
        ∃ clientId session, manager.sessionsMap.get? clientId = some session ∧
          session.callback = upload.session.callback ∧
          manager.Hears published.published isSticky session := by
  intro manager newId isSticky
  have named : manager.Named := MuteSystem.named_of_run reach
  obtain ⟨current, entry, lookup, own⟩ := Surroundings.published_eventId keeps accepted
  obtain ⟨cfg, found⟩ := Option.isSome_iff_exists.mp
    (enters upload.event.eventId entry lookup)
  rw [own] at found
  have sticky : isSticky = decide (cfg.isSticky ≠ 0) := by
    simp only [isSticky, newId, ← current, ConfigData.isStickyEvent, found, Option.any_some]
  have collected : manager.publishEventToSub outside.config false published.published =
      manager.collectNotifyObjs published.published isSticky := by
    rw [Manager.publishEventToSub, CollectorEvent.published, found, sticky]
    simp
  rw [collected, named.mem_callbacks, or_iff_right_of_imp]
  -- a session without filters lets the event pass
  rintro ⟨under, unreported⟩
  have owner := named upload.clientId upload.session upload.found
  have same : published.published.eventId = upload.subscribed := current.trans under.symm
  refine ⟨upload.clientId, upload.session, upload.found, rfl, ?_, ?_, fun holds => ?_⟩
  · rw [same]
    exact upload.subscribes
  · rw [same, owner, Manager.isFindFlag, upload.found]
    simp [upload.unmuted]
  · rw [same, owner, under]
    exact unreported holds

/-- A subscriber of the id that an event is changed to is notified, whichever id the event comes
under, unless the event is sticky and the client has received it. -/
theorem subscriber_of_new_id_is_notified (enters : outside.config.EntersOwnIds)
    (keeps : outside.KeepsEventIds)
    (reach : Transition.run (MuteSystem.next outside.config env) (MuteSystem.initial world)
      actions = some state)
    (upload : AliasedUpload outside.config state.system.manager)
    (current : upload.subscribed = outside.config.currentId upload.event.eventId)
    {published : CollectorEvent}
    (accepted : outside.uploadedEvent upload.event = some published)
    (unreported : outside.config.isStickyEvent upload.subscribed = true →
      state.system.manager.hasStickyEventReported upload.subscribed upload.clientId = false) :
    upload.session.callback ∈
      (state.system.manager.publishEventToSub outside.config false published.published).1.map
        ClientSession.callback := by
  refine (notified_iff enters keeps reach upload accepted).mpr (.inl ⟨current, ?_⟩)
  rw [← current]
  exact unreported

/-- Event 7, which was event 5 before. -/
def renumbered (isSticky : Nat) : EventCfg := { eventId := 7, oldEventId := 5, isSticky }

def renumberedConfig (isSticky : Nat) : ConfigData :=
  ({} : ConfigData).cacheEventConfig [renumbered isSticky]

def renumberedSurroundings (isSticky : Nat) : Surroundings where
  config := renumberedConfig isSticky
  isJson _ := true

theorem renumberedConfig_entersOwnIds (isSticky : Nat) :
    (renumberedConfig isSticky).EntersOwnIds :=
  ConfigData.EntersOwnIds.cacheEventConfig (fun _ _ entered => by
    simp [ConfigData.getEventConfig] at entered) [renumbered isSticky]

theorem renumberedSurroundings_keepsEventIds (isSticky : Nat) :
    (renumberedSurroundings isSticky).KeepsEventIds := ⟨fun _ => rfl, fun _ => rfl⟩

/-- A client subscribes the event under an id. -/
def subscribeUnder (eventId : Int) : List MuteAction :=
  (SubscribeSystem.uninterrupted 0 (.creatClient "auditGroup" "a" 100 10) 2).map .act ++
    (SubscribeSystem.uninterrupted 0 (.insertSubscribeRecord eventId "a") 4).map .act

def subscriber (eventId : Int) : ClientSession where
  pid := 100
  callback := 10
  clientId := "a"
  eventGroup := "auditGroup"
  subEvents := SortedMap.empty.insert eventId ()

/-- The state after a run under the configuration of event 7. -/
def renumberedRun (isSticky : Nat) (actions : List MuteAction) : MuteSystem Unit :=
  (Transition.run (MuteSystem.next (renumberedConfig isSticky) SubscribeSystem.idleExternals)
    (MuteSystem.initial ()) actions).getD (MuteSystem.initial ())

/-- The event comes under its old id, after the client has subscribed it. -/
def uploadOldId {isSticky : Nat} {manager : Manager Unit} {subscribed : Int}
    (either : (renumbered isSticky).UsesId subscribed)
    (found : manager.sessionsMap.get? "a" = some (subscriber subscribed)) :
    AliasedUpload (renumberedConfig isSticky) manager where
  cfg := renumbered isSticky
  configured := ⟨7, rfl⟩
  aliased := by simp [renumbered]
  clientId := "a"
  session := subscriber subscribed
  found
  subscribed
  either
  subscribes := by simp [subscriber]
  unmuted := by simp [subscriber, Manager.filtersOf]
  event := { eventId := 5 }
  uploaded := .inr ⟨by simp [renumbered], rfl⟩

theorem subscriber_of_new_id_is_notified_uploadOldId :
    (subscriber 7).callback ∈ ((renumberedRun 0 (subscribeUnder 7)).system.manager.publishEventToSub
      (renumberedConfig 0) false ⟨7, .empty⟩).1.map ClientSession.callback :=
  @subscriber_of_new_id_is_notified Unit (renumberedSurroundings 0) SubscribeSystem.idleExternals
    () (renumberedRun 0 (subscribeUnder 7)) (subscribeUnder 7) (renumberedConfig_entersOwnIds 0)
    (renumberedSurroundings_keepsEventIds 0) (Transition.run_eq_getD (by decide +kernel))
    (uploadOldId (.inl rfl) (by decide +kernel)) (by decide +kernel) { eventId := 7 }
    (by decide +kernel) (by decide +kernel)

/-- Every subscriber of the event under one of its ids is notified of it under either. -/
def NotifiesEverySubscriber (isSticky : Nat) : Prop :=
  ∀ (actions : List MuteAction) (state : MuteSystem Unit),
    Transition.run (MuteSystem.next (renumberedConfig isSticky) SubscribeSystem.idleExternals)
      (MuteSystem.initial ()) actions = some state →
    ∀ (upload : AliasedUpload (renumberedConfig isSticky) state.system.manager)
      (published : CollectorEvent),
      (renumberedSurroundings isSticky).uploadedEvent upload.event = some published →
      upload.session.callback ∈ (state.system.manager.publishEventToSub
        (renumberedConfig isSticky) false published.published).1.map ClientSession.callback

/-- A sticky event is not reported to a client again, and a subscriber of the old id is not
notified at all. -/
theorem not_every_subscriber_is_notified :
    ¬NotifiesEverySubscriber 1 ∧ ¬NotifiesEverySubscriber 0 := by
  constructor
  · intro always
    have notified := always (subscribeUnder 7 ++ [.publish false ⟨7, .empty⟩])
      (renumberedRun 1 (subscribeUnder 7 ++ [.publish false ⟨7, .empty⟩]))
      (Transition.run_eq_getD (by decide +kernel))
      (uploadOldId (.inl rfl) (by decide +kernel)) _ rfl
    exact absurd notified (by decide +kernel)
  · intro always
    have notified := always (subscribeUnder 5) (renumberedRun 0 (subscribeUnder 5))
      (Transition.run_eq_getD (by decide +kernel))
      (uploadOldId (.inr ⟨by decide, rfl⟩) (by decide +kernel)) _ rfl
    exact absurd notified (by decide +kernel)

end AliasedUpload

end SecurityGuard
