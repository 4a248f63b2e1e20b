import SecurityGuard.Collector.DataCollection
import SecurityGuard.Subscribe.Interleaving
import SecurityGuard.Subscribe.Sessions

/-!
# The manager over the collectors of its process

The world outside the manager becomes the bookkeeping of `DataCollection` and a rest, on which
the collector service and the filter plugin act.  A call for one event leaves the bookkeeping of
every other event alone, whatever the plugins answer.
-/

namespace SecurityGuard

/-- The collectors of the process and the rest of the world. -/
structure Hosted (ω : Type) where
  collection : DataCollection := {}
  rest : ω

/-- The calls of the manager that do not go to `DataCollection`. -/
structure OtherCalls (ω : Type) where
  scSubscribe : Int → ω → Code × ω
  scUnsubscribe : Int → ω → Code × ω
  eventFilter : Option (FilterPlugin ω)
  /-- What a call to `DataCollection` leaves of the rest. -/
  called : ω → ω

namespace Hosted

variable {ω : Type}

/-- Let a call act on the rest only. -/
def onRest {α : Type} (call : ω → α × ω) (world : Hosted ω) : α × Hosted ω :=
  ((call world.rest).1, { world with rest := (call world.rest).2 })

def filterPlugin (plugin : FilterPlugin ω) : FilterPlugin (Hosted ω) where
  setEventFilter filter := onRest (plugin.setEventFilter filter)
  removeEventFilter filter := onRest (plugin.removeEventFilter filter)
  removeSdkAllEventFilter clientId world :=
    { world with rest := plugin.removeSdkAllEventFilter clientId world.rest }

/-- Let `DataCollection` serve a call. -/
def onCollection (others : OtherCalls ω) (call : DataCollection → Code × DataCollection)
    (world : Hosted ω) : Code × Hosted ω :=
  ((call world.collection).1,
    { collection := (call world.collection).2, rest := others.called world.rest })

/-- The calls of the manager, those for the collectors of the process to `DataCollection`. -/
def externals (plugins : ω → Plugins) (others : OtherCalls ω) : Externals (Hosted ω) where
  subscribeCollectors eventId world :=
    onCollection others (·.subscribeCollectors (plugins world.rest) [eventId]) world
  subscribeCollectorsBySticky eventId world :=
    onCollection others (·.subscribeCollectorsBySticky (plugins world.rest) [eventId]) world
  unsubscribeCollectors eventId world :=
    onCollection others (·.unsubscribeCollectors (plugins world.rest) [eventId]) world
  scSubscribe eventId := onRest (others.scSubscribe eventId)
  scUnsubscribe eventId := onRest (others.scUnsubscribe eventId)
  eventFilter := others.eventFilter.map filterPlugin

end Hosted

/-- The events whose collectors start with the service. -/
def ConfigData.onStartEvents (config : ConfigData) : List Int :=
  config.getAllEventIds.filter fun eventId =>
    (config.getEventConfig eventId).any fun cfg => cfg.collectOnStart = 1

/-- `SubscriberEventOnSgStart`, which ignores a failure. -/
def DataCollection.subscriberEventOnSgStart (config : ConfigData) (plugins : Plugins)
    (collection : DataCollection) : DataCollection :=
  (collection.subscribeCollectors plugins config.onStartEvents).2

namespace Manager

variable {ω : Type} {config : ConfigData} {plugins : ω → Plugins} {others : OtherCalls ω}
  {manager : Manager (Hosted ω)} {clientId : String} {eventId event : Int}

/-- The bookkeeping of an event, here and in `DataCollection`, is the same. -/
structure SameHosted (event : Int) (before after : Manager (Hosted ω)) : Prop where
  collection : DataCollection.SameEvent event before.world.collection after.world.collection
  listener : after.eventToListenner.contains event = before.eventToListenner.contains event

theorem SameHosted.refl (event : Int) (manager : Manager (Hosted ω)) :
    SameHosted event manager manager := ⟨⟨rfl, rfl⟩, rfl⟩

theorem SameHosted.trans {before middle after : Manager (Hosted ω)}
    (first : SameHosted event before middle) (second : SameHosted event middle after) :
    SameHosted event before after :=
  ⟨first.collection.trans second.collection, second.listener.trans first.listener⟩

theorem SessionsOnly.sameHosted {before after : Manager (Hosted ω)}
    (only : before.SessionsOnly after) : SameHosted event before after := by
  refine ⟨?_, by rw [only.eventToListenner]⟩
  rw [only.world]
  exact ⟨rfl, rfl⟩

/-- Neither the bookkeeping of an event nor its subscriptions differ. -/
structure Untouched (event : Int) (before after : Manager (Hosted ω)) : Prop
    extends SameHosted event before after where
  subscribes : ∀ clientId, after.subscribes clientId event = before.subscribes clientId event

theorem Untouched.refl (event : Int) (manager : Manager (Hosted ω)) :
    Untouched event manager manager := ⟨.refl event manager, fun _ => rfl⟩

theorem Untouched.trans {before middle after : Manager (Hosted ω)}
    (first : Untouched event before middle) (second : Untouched event middle after) :
    Untouched event before after :=
  ⟨first.toSameHosted.trans second.toSameHosted, fun clientId =>
    (second.subscribes clientId).trans (first.subscribes clientId)⟩

theorem Untouched.isAnySessionSubscribes {before after : Manager (Hosted ω)}
    (untouched : Untouched event before after) :
    after.isAnySessionSubscribes event = before.isAnySessionSubscribes event :=
  isAnySessionSubscribes_congr untouched.subscribes

theorem SessionsOnly.untouched {before after : Manager (Hosted ω)}
    (only : before.SessionsOnly after)
    (same : ∀ clientId, after.subscribes clientId event = before.subscribes clientId event) :
    Untouched event before after := ⟨only.sameHosted, same⟩

theorem callFilter_untouched
    {call : FilterPlugin (Hosted ω) → SecurityCollectorEventMuteFilter → Hosted ω →
      Code × Hosted ω}
    (keeps : ∀ plugin filter world,
      (call (Hosted.filterPlugin plugin) filter world).2.collection = world.collection)
    (filter : EventMuteFilter) :
    Untouched event manager
      (manager.callFilter config (Hosted.externals plugins others) call filter clientId).2 := by
  rw [callFilter]
  cases config.getEventConfig filter.eventId with
  | none => exact .refl event manager
  | some cfg =>
      cases present : others.eventFilter with
      | none =>
          simp only [Hosted.externals, present, Option.map_none]
          exact .refl event manager
      | some plugin =>
          simp only [Hosted.externals, present, Option.map_some]
          have collection := keeps plugin (convertFilter filter clientId) manager.world
          refine ⟨⟨?_, rfl⟩, fun _ => rfl⟩
          rw [withWorld, collection]
          exact ⟨rfl, rfl⟩

theorem insertMutes_untouched (filters : List EventMuteFilter) :
    Untouched event manager
      (insertMutes config (Hosted.externals plugins others) clientId filters manager) := by
  induction filters generalizing manager with
  | nil => exact .refl event manager
  | cons filter rest ih =>
      rw [insertMutes]
      split_ifs
      · exact (callFilter_untouched (fun _ _ _ => rfl) filter).trans ih
      · exact ih

theorem removeMutes_untouched (filters : List EventMuteFilter) :
    Untouched event manager
      (removeMutes config (Hosted.externals plugins others) clientId filters manager) := by
  induction filters generalizing manager with
  | nil => exact .refl event manager
  | cons filter rest ih =>
      rw [removeMutes]
      exact (callFilter_untouched (fun _ _ _ => rfl) filter).trans ih

variable (plugins others manager clientId event) in
theorem removeSdkAllEventFilter_untouched :
    Untouched event manager
      (manager.removeSdkAllEventFilter (Hosted.externals plugins others) clientId) := by
  rw [removeSdkAllEventFilter]
  cases present : others.eventFilter with
  | none =>
      simp only [Hosted.externals, present, Option.map_none]
      exact .refl event manager
  | some plugin =>
      simp only [Hosted.externals, present, Option.map_some]
      split_ifs
      · exact .refl event manager
      · exact ⟨⟨⟨rfl, rfl⟩, rfl⟩, fun _ => rfl⟩

theorem subscribeSc_untouched (ne : event ≠ eventId) :
    Untouched event manager
      (manager.subscribeSc config (Hosted.externals plugins others) eventId).2 := by
  have only := subscribeSc_collectorOnly config (Hosted.externals plugins others) manager eventId
  have called := DataCollection.subscribeCollectors_sameEvent (plugins manager.world.rest)
    manager.world.collection ne
  refine ⟨⟨?_, only.eventToListenner event ne⟩, fun clientId => only.subscribes clientId event⟩
  rw [subscribeSc]
  cases config.getEventConfig eventId with
  | none => exact ⟨rfl, rfl⟩
  | some cfg =>
      simp only [subscribeScInSg, subscribeScInSc]
      split_ifs <;> first | exact ⟨rfl, rfl⟩ | exact called

theorem unSubscribeSc_untouched (ne : event ≠ eventId) :
    Untouched event manager
      (manager.unSubscribeSc config (Hosted.externals plugins others) eventId).2 := by
  have only := unSubscribeSc_collectorOnly config (Hosted.externals plugins others) manager eventId
  have called := DataCollection.unsubscribeCollectors_sameEvent (plugins manager.world.rest)
    manager.world.collection ne
  refine ⟨⟨?_, only.eventToListenner event ne⟩, fun clientId => only.subscribes clientId event⟩
  rw [unSubscribeSc]
  cases config.getEventConfig eventId with
  | none => exact ⟨rfl, rfl⟩
  | some cfg =>
      dsimp only
      split_ifs <;> first | exact ⟨rfl, rfl⟩ | exact called

variable (config plugins others manager) in
theorem subscribeScIfNeeded_untouched (ne : event ≠ eventId) :
    Untouched event manager
      (manager.subscribeScIfNeeded config (Hosted.externals plugins others) eventId).2 := by
  rw [subscribeScIfNeeded]
  split_ifs
  · exact .refl event manager
  · exact subscribeSc_untouched ne

variable (config plugins others manager) in
theorem unSubscribeScIfLast_untouched (ne : event ≠ eventId) :
    Untouched event manager
      (manager.unSubscribeScIfLast config (Hosted.externals plugins others) eventId).2 := by
  rw [unSubscribeScIfLast]
  split_ifs
  · exact .refl event manager
  · exact unSubscribeSc_untouched ne

variable (config plugins others manager) in
theorem unSubscribeAll_untouched {events : List Int} (absent : event ∉ events) :
    Untouched event manager
      (unSubscribeAll config (Hosted.externals plugins others) events manager) := by
  induction events generalizing manager with
  | nil => exact .refl event manager
  | cons eventId rest ih =>
      obtain ⟨ne, absent⟩ := not_or.mp (mt List.mem_cons.mpr absent)
      exact (unSubscribeScIfLast_untouched _ _ _ _ ne).trans (ih _ absent)

end Manager

end SecurityGuard
