import SecurityGuard.Subscribe.Outcome

/-!
# The filters of a session beside those of the plugin

A session files its filters under their events.  The plugin has the filters of all clients in
one set, so what it has of one client is compared with the session of that client.
-/

namespace SecurityGuard

namespace ClientSession

variable {session : ClientSession} {eventId : Int} {filter : EventMuteFilter}

/-- Every filter of a session, event after event. -/
def filters (session : ClientSession) : List EventMuteFilter :=
  session.eventFilters.entries.flatMap Prod.snd

/-- The session with one more filter. -/
def withFilter (session : ClientSession) (filter : EventMuteFilter) : ClientSession :=
  { session with
    eventFilters := session.eventFilters.insert filter.eventId
      (Manager.filtersOf session filter.eventId ++ [filter]) }

/-- The session without a filter, and without the list of its event once that is empty. -/
def withoutFilter (session : ClientSession) (filter : EventMuteFilter) : ClientSession :=
  let remaining := (Manager.filtersOf session filter.eventId).erase filter
  { session with
    eventFilters :=
      if remaining = [] then session.eventFilters.erase filter.eventId
      else session.eventFilters.insert filter.eventId remaining }

theorem mem_filters : filter ∈ session.filters ↔
    ∃ eventId, filter ∈ Manager.filtersOf session eventId := by
  simp only [filters, List.mem_flatMap, Manager.filtersOf]
  constructor
  · rintro ⟨⟨eventId, filed⟩, mem, found⟩
    refine ⟨eventId, ?_⟩
    rw [SortedMap.mem_entries_iff.mp mem]
    exact found
  · rintro ⟨eventId, mem⟩
    cases filed : session.eventFilters.get? eventId with
    | none => simp [filed] at mem
    | some list =>
        rw [filed] at mem
        exact ⟨(eventId, list), SortedMap.mem_entries_iff.mpr filed, mem⟩

@[simp]
theorem filtersOf_withFilter : Manager.filtersOf (session.withFilter filter) eventId =
    if eventId = filter.eventId then Manager.filtersOf session eventId ++ [filter]
    else Manager.filtersOf session eventId := by
  by_cases same : eventId = filter.eventId
  · simp [Manager.filtersOf, withFilter, same]
  · simp [Manager.filtersOf, withFilter, same]

@[simp]
theorem filtersOf_withoutFilter : Manager.filtersOf (session.withoutFilter filter) eventId =
    if eventId = filter.eventId then (Manager.filtersOf session eventId).erase filter
    else Manager.filtersOf session eventId := by
  by_cases same : eventId = filter.eventId
  · subst same
    simp only [withoutFilter, if_true]
    split_ifs with emptied
    · rw [emptied]
      simp [Manager.filtersOf]
    · simp [Manager.filtersOf]
  · simp only [withoutFilter, same, if_false]
    split_ifs <;> simp [Manager.filtersOf, same]

/-- Every filter stands under its own event, once. -/
structure WellFiled (session : ClientSession) : Prop where
  event : ∀ eventId, ∀ filter ∈ Manager.filtersOf session eventId, filter.eventId = eventId
  nodup : ∀ eventId, (Manager.filtersOf session eventId).Nodup

theorem WellFiled.withFilter (filed : session.WellFiled)
    (fresh : filter ∉ Manager.filtersOf session filter.eventId) :
    (session.withFilter filter).WellFiled where
  event eventId other mem := by
    rw [filtersOf_withFilter] at mem
    split_ifs at mem with same
    · rcases List.mem_append.mp mem with old | new
      · exact filed.event eventId other old
      · rw [List.mem_singleton.mp new, same]
    · exact filed.event eventId other mem
  nodup eventId := by
    rw [filtersOf_withFilter]
    split_ifs with same
    · subst same
      exact List.nodup_append.mpr ⟨filed.nodup _, List.nodup_singleton filter,
        fun other old new mem => by
          rw [List.mem_singleton.mp mem]
          rintro rfl
          exact fresh old⟩
    · exact filed.nodup eventId

theorem WellFiled.withoutFilter (filed : session.WellFiled) :
    (session.withoutFilter filter).WellFiled where
  event eventId other mem := by
    rw [filtersOf_withoutFilter] at mem
    split_ifs at mem
    · exact filed.event eventId other (List.mem_of_mem_erase mem)
    · exact filed.event eventId other mem
  nodup eventId := by
    rw [filtersOf_withoutFilter]
    split_ifs
    · exact (filed.nodup eventId).erase filter
    · exact filed.nodup eventId

theorem WellFiled.mem_withoutFilter (filed : session.WellFiled) {other : EventMuteFilter} :
    other ∈ Manager.filtersOf (session.withoutFilter filter) eventId ↔
      other ≠ filter ∧ other ∈ Manager.filtersOf session eventId := by
  rw [filtersOf_withoutFilter]
  split_ifs with same
  · exact (filed.nodup eventId).mem_erase_iff
  · constructor
    · intro mem
      refine ⟨?_, mem⟩
      rintro rfl
      exact same (filed.event eventId other mem).symm
    · exact And.right

end ClientSession

namespace Manager

variable {σ : Type} {config : ConfigData} {env : Externals σ} {manager : Manager σ}
  {clientId : String} {eventId : Int} {holds : σ → SecurityCollectorEventMuteFilter → Prop}
  {filter : EventMuteFilter}

theorem convertFilter_injective {left right : EventMuteFilter}
    (same : convertFilter left clientId = convertFilter right clientId) : left = right := by
  cases left
  cases right
  simpa [convertFilter, and_assoc, and_comm, and_left_comm] using same

/-- The filters that the plugin has of a client fit its session, if there is one. -/
structure ClientInStep (config : ConfigData) (held : SecurityCollectorEventMuteFilter → Prop)
    (clientId : String) (session : Option ClientSession) : Prop where
  pushed : ∀ found ∈ session, ∀ eventId, found.subEvents.contains eventId = true →
    ∀ filter ∈ filtersOf found eventId, held (convertFilter filter clientId)
  recorded : ∀ filter, held filter → filter.instanceFlag = clientId →
    ∃ found ∈ session, ∃ own ∈ filtersOf found filter.eventId,
      filter = convertFilter own clientId
  configured : ∀ filter, held filter → filter.instanceFlag = clientId →
    (config.getEventConfig filter.eventId).isSome = true
  wellFiled : ∀ found ∈ session, found.WellFiled

namespace ClientInStep

variable {held after : SecurityCollectorEventMuteFilter → Prop} {session : Option ClientSession}
  {found : ClientSession}

theorem congr (inStep : ClientInStep config held clientId session)
    (same : ∀ filter : SecurityCollectorEventMuteFilter, filter.instanceFlag = clientId →
      (after filter ↔ held filter)) :
    ClientInStep config after clientId session where
  pushed session present eventId contains filter mem :=
    (same _ rfl).mpr (inStep.pushed session present eventId contains filter mem)
  recorded filter has own := inStep.recorded filter ((same filter own).mp has) own
  configured filter has own := inStep.configured filter ((same filter own).mp has) own
  wellFiled := inStep.wellFiled

theorem gone (absent : ∀ filter, after filter → filter.instanceFlag ≠ clientId) :
    ClientInStep config after clientId none where
  pushed _ present := (Option.not_mem_none _ present).elim
  recorded filter has own := (absent filter has own).elim
  configured filter has own := (absent filter has own).elim
  wellFiled _ present := (Option.not_mem_none _ present).elim

theorem not_held (inStep : ClientInStep config held clientId none)
    (other : SecurityCollectorEventMuteFilter) (has : held other) :
    other.instanceFlag ≠ clientId := by
  intro own
  obtain ⟨found, present, -⟩ := inStep.recorded other has own
  exact Option.not_mem_none _ present

/-- A new session has no filters yet. -/
theorem created (inStep : ClientInStep config held clientId none)
    (noEvents : found.subEvents = .empty) (noFilters : found.eventFilters = .empty) :
    ClientInStep config held clientId (some found) where
  pushed session present eventId contains filter mem := by
    obtain rfl := Option.some.inj present
    simp [noEvents] at contains
  recorded filter has own := (inStep.not_held filter has own).elim
  configured filter has own := (inStep.not_held filter has own).elim
  wellFiled session present := by
    obtain rfl := Option.some.inj present
    constructor
    · intro eventId filter mem
      simp [filtersOf, noFilters] at mem
    · intro eventId
      simp [filtersOf, noFilters]

/-- An event may enter the session once the plugin has all its filters. -/
theorem withEvent (inStep : ClientInStep config held clientId (some found))
    (complete : ∀ filter ∈ filtersOf found eventId, held (convertFilter filter clientId)) :
    ClientInStep config held clientId (some (found.withEvent eventId)) where
  pushed session present event contains filter mem := by
    obtain rfl := Option.some.inj present
    rw [ClientSession.withEvent, SortedMap.contains_insert, Bool.or_eq_true] at contains
    rcases contains with same | had
    · obtain rfl := of_decide_eq_true same
      exact complete filter mem
    · exact inStep.pushed found rfl event had filter mem
  recorded filter has own := by
    obtain ⟨session, present, record⟩ := inStep.recorded filter has own
    obtain rfl := Option.some.inj present
    exact ⟨_, rfl, record⟩
  configured := inStep.configured
  wellFiled session present := by
    obtain rfl := Option.some.inj present
    exact ⟨(inStep.wellFiled found rfl).event, (inStep.wellFiled found rfl).nodup⟩

theorem withoutEvent (inStep : ClientInStep config held clientId (some found)) (eventId : Int) :
    ClientInStep config held clientId (some (found.withoutEvent eventId)) where
  pushed session present event contains filter mem := by
    obtain rfl := Option.some.inj present
    rw [ClientSession.withoutEvent, SortedMap.contains_erase, Bool.and_eq_true] at contains
    exact inStep.pushed found rfl event contains.2 filter mem
  recorded filter has own := by
    obtain ⟨session, present, record⟩ := inStep.recorded filter has own
    obtain rfl := Option.some.inj present
    exact ⟨_, rfl, record⟩
  configured := inStep.configured
  wellFiled session present := by
    obtain rfl := Option.some.inj present
    exact ⟨(inStep.wellFiled found rfl).event, (inStep.wellFiled found rfl).nodup⟩

/-- The plugin may receive filters that the session has. -/
theorem push (inStep : ClientInStep config held clientId (some found))
    {list : List EventMuteFilter}
    (recorded : ∀ filter ∈ list, filter ∈ filtersOf found filter.eventId)
    (grown : ∀ other, after other ↔
      (∃ filter ∈ list, (config.getEventConfig filter.eventId).isSome = true ∧
        other = convertFilter filter clientId) ∨ held other) :
    ClientInStep config after clientId (some found) where
  pushed session present eventId contains filter mem :=
    (grown _).mpr (.inr (inStep.pushed session present eventId contains filter mem))
  recorded other has own := by
    rcases (grown other).mp has with ⟨filter, mem, -, rfl⟩ | had
    · exact ⟨found, rfl, filter, recorded filter mem, rfl⟩
    · exact inStep.recorded other had own
  configured other has own := by
    rcases (grown other).mp has with ⟨filter, mem, configured, rfl⟩ | had
    · exact configured
    · exact inStep.configured other had own
  wellFiled := inStep.wellFiled

/-- A new filter enters the session, and the plugin if its event is subscribed. -/
theorem withFilter (inStep : ClientInStep config held clientId (some found))
    (fresh : filter ∉ filtersOf found filter.eventId) {applied : Prop}
    (applies : found.subEvents.contains filter.eventId = true → applied)
    (configured : applied → (config.getEventConfig filter.eventId).isSome = true)
    (grown : ∀ other, after other ↔
      (applied ∧ other = convertFilter filter clientId) ∨ held other) :
    ClientInStep config after clientId (some (found.withFilter filter)) where
  pushed session present eventId contains other mem := by
    obtain rfl := Option.some.inj present
    rw [ClientSession.filtersOf_withFilter] at mem
    refine (grown _).mpr ?_
    split_ifs at mem with same
    · rcases List.mem_append.mp mem with old | new
      · exact .inr (inStep.pushed found rfl eventId contains other old)
      · obtain rfl := List.mem_singleton.mp new
        exact .inl ⟨applies (same ▸ contains), rfl⟩
    · exact .inr (inStep.pushed found rfl eventId contains other mem)
  recorded other has own := by
    rcases (grown other).mp has with ⟨-, rfl⟩ | had
    · refine ⟨_, rfl, filter, ?_, rfl⟩
      simp [convertFilter]
    · obtain ⟨session, present, record, mem, rfl⟩ := inStep.recorded other had own
      obtain rfl := Option.some.inj present
      refine ⟨_, rfl, record, ?_, rfl⟩
      rw [ClientSession.filtersOf_withFilter]
      split_ifs
      · exact List.mem_append_left _ mem
      · exact mem
  configured other has own := by
    rcases (grown other).mp has with ⟨applied, rfl⟩ | had
    · exact configured applied
    · exact inStep.configured other had own
  wellFiled session present := by
    obtain rfl := Option.some.inj present
    exact (inStep.wellFiled found rfl).withFilter fresh

/-- A filter leaves the session and the plugin together. -/
theorem withoutFilter (inStep : ClientInStep config held clientId (some found))
    (shrunk : ∀ other, after other ↔ other ≠ convertFilter filter clientId ∧ held other) :
    ClientInStep config after clientId (some (found.withoutFilter filter)) where
  pushed session present eventId contains other mem := by
    obtain rfl := Option.some.inj present
    obtain ⟨ne, kept⟩ := (inStep.wellFiled found rfl).mem_withoutFilter.mp mem
    refine (shrunk _).mpr ⟨fun same => ne (convertFilter_injective same), ?_⟩
    exact inStep.pushed found rfl eventId contains other kept
  recorded other has own := by
    obtain ⟨ne, had⟩ := (shrunk other).mp has
    obtain ⟨session, present, record, mem, rfl⟩ := inStep.recorded other had own
    obtain rfl := Option.some.inj present
    refine ⟨_, rfl, record, ?_, rfl⟩
    refine (inStep.wellFiled found rfl).mem_withoutFilter.mpr ⟨?_, mem⟩
    rintro rfl
    exact ne rfl
  configured other has own := inStep.configured other ((shrunk other).mp has).2 own
  wellFiled session present := by
    obtain rfl := Option.some.inj present
    exact (inStep.wellFiled found rfl).withoutFilter

end ClientInStep

/-- The filters of the plugin fit the session of every client. -/
def FiltersKept (config : ConfigData) (holds : σ → SecurityCollectorEventMuteFilter → Prop)
    (manager : Manager σ) : Prop :=
  ∀ clientId, ClientInStep config (holds manager.world) clientId
    (manager.sessionsMap.get? clientId)

namespace FiltersKept

variable {after : Manager σ}

theorem same (kept : FiltersKept config holds manager)
    (sessions : after.sessionsMap = manager.sessionsMap)
    (world : holds after.world = holds manager.world) : FiltersKept config holds after := by
  intro clientId
  rw [sessions, world]
  exact kept clientId

variable (clientId) in
theorem of_own (kept : FiltersKept config holds manager)
    (others : ∀ other ≠ clientId,
      after.sessionsMap.get? other = manager.sessionsMap.get? other)
    (foreign : ∀ filter : SecurityCollectorEventMuteFilter, filter.instanceFlag ≠ clientId →
      (holds after.world filter ↔ holds manager.world filter))
    (own : ClientInStep config (holds after.world) clientId (after.sessionsMap.get? clientId)) :
    FiltersKept config holds after := by
  intro other
  by_cases same : other = clientId
  · rw [same]
    exact own
  · rw [others other same]
    exact (kept other).congr fun filter flag => foreign filter (flag ▸ same)

theorem insert (kept : FiltersKept config holds manager) {session : ClientSession}
    (sessions : after.sessionsMap = manager.sessionsMap.insert clientId session)
    (world : holds after.world = holds manager.world)
    (own : ClientInStep config (holds manager.world) clientId (some session)) :
    FiltersKept config holds after := by
  refine kept.of_own clientId (fun other ne => ?_) (fun filter _ => by rw [world]) ?_
  · rw [sessions, SortedMap.get?_insert, if_neg ne]
  · rw [sessions, SortedMap.get?_insert_self, world]
    exact own

theorem erase (kept : FiltersKept config holds manager)
    (sessions : after.sessionsMap = manager.sessionsMap.erase clientId)
    (foreign : ∀ filter : SecurityCollectorEventMuteFilter, filter.instanceFlag ≠ clientId →
      (holds after.world filter ↔ holds manager.world filter))
    (absent : ∀ filter, holds after.world filter → filter.instanceFlag ≠ clientId) :
    FiltersKept config holds after := by
  refine kept.of_own clientId (fun other ne => ?_) foreign ?_
  · rw [sessions, SortedMap.get?_erase, if_neg ne]
  · rw [sessions, SortedMap.get?_erase, if_pos rfl]
    exact .gone absent

end FiltersKept

end Manager

end SecurityGuard
