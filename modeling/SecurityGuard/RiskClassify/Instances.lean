import SecurityGuard.RiskClassify.ModelManager

/-!
# Instances of the models

The use count protects an instance from being unloaded, but not from being replaced: two calls
that both find no instance both load one, and the second destroys that of the first.  As long as
an instance is entered only where there is none, the instances in use stay and every instance is
released before it is destroyed.
-/

namespace SecurityGuard

/-- The instance that a call is about to enter. -/
def ModelStage.attrs? : ModelStage → Option Address
  | .install attrs => some attrs
  | _ => none

namespace ModelRequest

@[simp]
theorem attrs?_start (request : ModelRequest) : request.start.attrs? = none := by
  cases request with
  | initModel => rfl
  | getResult startOnDemand => cases startOnDemand <;> rfl
  | subscribeResult listener => cases listener <;> rfl
  | startSecurityModel => rfl

@[simp]
theorem attrs?_held (request : ModelRequest) : request.held.attrs? = none := by
  cases request with
  | getResult startOnDemand => rcases startOnDemand with _ | _ | _ <;> rfl
  | initModel | subscribeResult | startSecurityModel => rfl

@[simp]
theorem attrs?_initialised (request : ModelRequest) (code : Code) :
    (request.initialised code).attrs? = none := by
  cases request with
  | initModel => rfl
  | getResult | subscribeResult | startSecurityModel =>
      rw [initialised]
      split <;> rfl

end ModelRequest

namespace ModelManager

variable {manager after : ModelManager}

/-- The instance of a model in use is neither released nor erased nor replaced. -/
def KeepsInUse (before after : ModelManager) : Prop :=
  ∀ modelId attrs, before.inUse modelId = true →
    before.modelIdApiMap.get? modelId = some attrs →
      after.modelIdApiMap.get? modelId = some attrs ∧
        after.objects.get? attrs = before.objects.get? attrs

/-- Every instance that was entered and is destroyed has been released. -/
def ReleasedFirst (manager : ModelManager) : Prop :=
  ∀ attrs object, manager.objects.get? attrs = some object → object.installed = true →
    object.destroyed = true → object.released = true

/-- The condition on a step: an instance is entered only where the model has none. -/
def installsFresh (manager : ModelManager) : ModelAction → Bool
  | .proceed id _ =>
      (manager.calls.get? id).all fun call =>
        call.stage.attrs?.isNone || !manager.modelIdApiMap.contains call.modelId
  | _ => true

/-- The instances in the map are alive, and those that are still to be entered are untouched. -/
structure Sound (manager : ModelManager) : Prop where
  entered : ∀ modelId attrs, manager.modelIdApiMap.get? modelId = some attrs →
    manager.objects.get? attrs = some { modelId, installed := true }
  pending : ∀ id call attrs, manager.calls.get? id = some call → call.stage.attrs? = some attrs →
    manager.objects.get? attrs = some { modelId := call.modelId }
  own : ∀ id other call call' attrs, manager.calls.get? id = some call →
    manager.calls.get? other = some call' → call.stage.attrs? = some attrs →
    call'.stage.attrs? = some attrs → id = other
  releasedFirst : manager.ReleasedFirst

theorem sound_initial : ({} : ModelManager).Sound where
  entered := fun _ _ found => absurd found (by simp)
  pending := fun _ _ _ found => absurd found (by simp)
  own := fun _ _ _ _ _ found => absurd found (by simp)
  releasedFirst := fun _ _ found => absurd found (by simp)

theorem Sound.apart (sound : manager.Sound) {modelId other : ModelId} {attrs attrs' : Address}
    (found : manager.modelIdApiMap.get? modelId = some attrs)
    (found' : manager.modelIdApiMap.get? other = some attrs') (different : other ≠ modelId) :
    attrs' ≠ attrs := by
  rintro rfl
  have same := (sound.entered modelId attrs' found).symm.trans (sound.entered other attrs' found')
  exact different (congrArg ModelAttrs.modelId (Option.some.inj same)).symm

/-- An instance still to be entered is not in the map. -/
theorem Sound.outside (sound : manager.Sound) {id : ModelCallId} {call : ModelCall}
    {modelId : ModelId} {attrs attrs' : Address} (found : manager.calls.get? id = some call)
    (loaded : call.stage.attrs? = some attrs)
    (entered : manager.modelIdApiMap.get? modelId = some attrs') : attrs' ≠ attrs := by
  rintro rfl
  have same := (sound.entered modelId attrs' entered).symm.trans
    (sound.pending id call attrs' found loaded)
  exact absurd (congrArg ModelAttrs.installed (Option.some.inj same)) (by simp)

/-- A call goes on to a stage that enters no instance. -/
theorem Sound.withCall (sound : manager.Sound) (id : ModelCallId) (call : ModelCall)
    {stage : ModelStage} (enters : stage.attrs? = none) :
    (manager.withCall id call stage).Sound := by
  have earlier {other : ModelCallId} {call' : ModelCall} {attrs : Address}
      (found : (manager.withCall id call stage).calls.get? other = some call')
      (loaded : call'.stage.attrs? = some attrs) : manager.calls.get? other = some call' := by
    rcases SortedMap.get?_insert_eq_some.mp found with ⟨_, rfl⟩ | ⟨_, found⟩
    · exact absurd (enters.symm.trans loaded) (by simp)
    · exact found
  constructor
  · exact sound.entered
  · exact fun other call' attrs found loaded =>
      sound.pending other call' attrs (earlier found loaded) loaded
  · exact fun first second call₁ call₂ attrs found found' loaded loaded' =>
      sound.own first second call₁ call₂ attrs (earlier found loaded) (earlier found' loaded')
        loaded loaded'
  · exact sound.releasedFirst

/-- Counting changes neither the map nor the instances. -/
theorem Sound.of_same (sound : manager.Sound)
    (map : after.modelIdApiMap = manager.modelIdApiMap)
    (objects : after.objects = manager.objects) (calls : after.calls = manager.calls) :
    after.Sound where
  entered := by
    rw [map, objects]
    exact sound.entered
  pending := by
    rw [calls, objects]
    exact sound.pending
  own := by
    rw [calls]
    exact sound.own
  releasedFirst := by
    rw [ReleasedFirst, objects]
    exact sound.releasedFirst

theorem KeepsInUse.of_same (map : after.modelIdApiMap = manager.modelIdApiMap)
    (objects : after.objects = manager.objects) : manager.KeepsInUse after := by
  intro modelId attrs _ found
  rw [map, objects]
  exact ⟨found, rfl⟩

theorem dropModelUse_same (manager : ModelManager) (modelId : ModelId) :
    (manager.dropModelUse modelId).modelIdApiMap = manager.modelIdApiMap ∧
      (manager.dropModelUse modelId).objects = manager.objects ∧
        (manager.dropModelUse modelId).calls = manager.calls := by
  rw [dropModelUse]
  split <;> exact ⟨rfl, rfl, rfl⟩

theorem Sound.unload (sound : manager.Sound) {modelId : ModelId} {attrs : Address}
    (found : manager.modelIdApiMap.get? modelId = some attrs) :
    (manager.unload modelId attrs).Sound := by
  have object := sound.entered modelId attrs found
  constructor
  · intro other attrs' present
    obtain ⟨same, present⟩ := SortedMap.get?_erase_eq_some.mp present
    rw [ModelManager.unload, SortedMap.get?_modify, if_neg (sound.apart found present same)]
    exact sound.entered other attrs' present
  · intro id call attrs' present loaded
    have different : attrs' ≠ attrs := (sound.outside present loaded found).symm
    rw [ModelManager.unload, SortedMap.get?_modify, if_neg different]
    exact sound.pending id call attrs' present loaded
  · exact sound.own
  · intro attrs' object' present installed destroyed
    rw [ModelManager.unload, SortedMap.get?_modify] at present
    split_ifs at present
    · rw [object] at present
      obtain rfl := Option.some.inj present
      rfl
    · exact sound.releasedFirst attrs' object' present installed destroyed

theorem Sound.unload_keeps (sound : manager.Sound) {modelId : ModelId} {attrs : Address}
    (found : manager.modelIdApiMap.get? modelId = some attrs)
    (unused : ¬manager.inUse modelId = true) :
    manager.KeepsInUse (manager.unload modelId attrs) := by
  intro other attrs' used present
  have different : other ≠ modelId := by
    rintro rfl
    exact unused used
  rw [ModelManager.unload, SortedMap.get?_erase, if_neg different, SortedMap.get?_modify,
    if_neg (sound.apart found present different)]
  exact ⟨present, rfl⟩

theorem Sound.reuseModelIfInUse (sound : manager.Sound) (modelId : ModelId) :
    (manager.reuseModelIfInUse modelId).2.Sound ∧
      manager.KeepsInUse (manager.reuseModelIfInUse modelId).2 := by
  rw [ModelManager.reuseModelIfInUse]
  split
  · exact ⟨sound, .of_same rfl rfl⟩
  · next attrs found =>
      split_ifs with used
      · exact ⟨sound, .of_same rfl rfl⟩
      · exact ⟨sound.unload found, sound.unload_keeps found used⟩

theorem Sound.release (sound : manager.Sound) (modelId : ModelId) :
    (manager.release modelId).Sound ∧ manager.KeepsInUse (manager.release modelId) := by
  rw [ModelManager.release]
  split_ifs with used
  · exact ⟨sound, .of_same rfl rfl⟩
  · split
    · exact ⟨sound, .of_same rfl rfl⟩
    · next attrs found => exact ⟨sound.unload found, sound.unload_keeps found used⟩

/-- Where the model has no instance the new one is entered, and the others stay. -/
theorem Sound.install (sound : manager.Sound) {id : ModelCallId} {call : ModelCall}
    {attrs : Address} {stage : ModelStage} (found : manager.calls.get? id = some call)
    (loaded : call.stage.attrs? = some attrs) (enters : stage.attrs? = none)
    (fresh : manager.modelIdApiMap.get? call.modelId = none) :
    ((manager.install call.modelId attrs).withCall id call stage).Sound ∧
      manager.KeepsInUse ((manager.install call.modelId attrs).withCall id call stage) := by
  have object := sound.pending id call attrs found loaded
  have objects : ((manager.install call.modelId attrs).withCall id call stage).objects =
      manager.objects.modify attrs fun object => { object with installed := true } := by
    rw [ModelManager.withCall, ModelManager.install, fresh]
  have map : ((manager.install call.modelId attrs).withCall id call stage).modelIdApiMap =
      manager.modelIdApiMap.insert call.modelId attrs := rfl
  have earlier {other : ModelCallId} {call' : ModelCall} {attrs' : Address}
      (present : ((manager.install call.modelId attrs).withCall id call stage).calls.get? other =
        some call') (loaded' : call'.stage.attrs? = some attrs') :
      other ≠ id ∧ manager.calls.get? other = some call' := by
    rcases SortedMap.get?_insert_eq_some.mp present with ⟨_, rfl⟩ | later
    · exact absurd (enters.symm.trans loaded') (by simp)
    · exact later
  refine ⟨⟨?_, ?_, ?_, ?_⟩, ?_⟩
  · intro modelId attrs' present
    rw [map, SortedMap.get?_insert] at present
    rw [objects, SortedMap.get?_modify]
    split_ifs at present with same
    · obtain rfl := Option.some.inj present
      rw [if_pos rfl, object, same]
      rfl
    · rw [if_neg (sound.outside found loaded present)]
      exact sound.entered modelId attrs' present
  · intro other call' attrs' present loaded'
    obtain ⟨different, before⟩ := earlier present loaded'
    have apart : attrs' ≠ attrs := by
      rintro rfl
      exact different (sound.own other id call' call attrs' before found loaded' loaded)
    rw [objects, SortedMap.get?_modify, if_neg apart]
    exact sound.pending other call' attrs' before loaded'
  · intro first second call₁ call₂ attrs' present present' loaded₁ loaded₂
    exact sound.own first second call₁ call₂ attrs' (earlier present loaded₁).2
      (earlier present' loaded₂).2 loaded₁ loaded₂
  · intro attrs' object' present installed destroyed
    rw [objects, SortedMap.get?_modify] at present
    split_ifs at present
    · rw [object] at present
      obtain rfl := Option.some.inj present
      exact absurd destroyed (by simp)
    · exact sound.releasedFirst attrs' object' present installed destroyed
  · intro modelId attrs' _ present
    have different : modelId ≠ call.modelId := by
      rintro rfl
      exact absurd (fresh.symm.trans present) (by simp)
    rw [map, objects, SortedMap.get?_insert, if_neg different, SortedMap.get?_modify,
      if_neg (sound.outside found loaded present)]
    exact ⟨present, rfl⟩

theorem Sound.install_replaces (sound : manager.Sound) {id : ModelCallId} {call : ModelCall}
    {attrs old : Address} {stage : ModelStage} (found : manager.calls.get? id = some call)
    (loaded : call.stage.attrs? = some attrs)
    (present : manager.modelIdApiMap.get? call.modelId = some old) :
    ¬((manager.install call.modelId attrs).withCall id call stage).ReleasedFirst := by
  intro released
  have destroyed : ((manager.install call.modelId attrs).withCall id call stage).objects.get? old =
      some { modelId := call.modelId, installed := true, destroyed := true } := by
    rw [ModelManager.withCall, ModelManager.install, present]
    dsimp only
    rw [SortedMap.get?_modify, if_neg (sound.outside found loaded present), SortedMap.get?_modify,
      if_pos rfl, sound.entered call.modelId old present]
    rfl
  exact absurd (released old _ destroyed rfl rfl) (by simp)

/-- A loaded instance is at an unused address, so that nothing else changes. -/
theorem Sound.loadStep (sound : manager.Sound) {id : ModelCallId} {call : ModelCall}
    {outcome : LoadOutcome} (taken : manager.loadStep id call outcome = some after) :
    after.Sound ∧ manager.KeepsInUse after := by
  have returned (code : Code) :
      (manager.withCall id call (call.request.initialised code)).Sound ∧
        manager.KeepsInUse (manager.withCall id call (call.request.initialised code)) :=
    ⟨sound.withCall id call (call.request.attrs?_initialised code), .of_same rfl rfl⟩
  cases outcome with
  | notFound | fileErr | failed =>
      obtain rfl := Option.some.inj taken
      exact returned _
  | initFailed code =>
      rw [ModelManager.loadStep] at taken
      split_ifs at taken
      obtain rfl := Option.some.inj taken
      exact returned code
  | initialised attrs =>
      rw [ModelManager.loadStep] at taken
      split_ifs at taken with used
      obtain rfl := Option.some.inj taken
      have unused {attrs' : Address} {object : ModelAttrs}
          (known : manager.objects.get? attrs' = some object) : attrs' ≠ attrs := by
        rintro rfl
        exact used (SortedMap.contains_iff.mpr ⟨object, known⟩)
      refine ⟨⟨?_, ?_, ?_, ?_⟩, ?_⟩
      · intro modelId attrs' found
        have known := sound.entered modelId attrs' found
        exact (SortedMap.get?_insert _ _ _ _).trans ((if_neg (unused known)).trans known)
      · intro other call' attrs' found loaded
        rw [ModelManager.withCall, SortedMap.get?_insert] at found
        rw [ModelManager.withCall, SortedMap.get?_insert]
        split_ifs at found with same
        · obtain rfl := Option.some.inj found
          obtain rfl := Option.some.inj loaded
          rw [if_pos rfl]
        · have known := sound.pending other call' attrs' found loaded
          rw [if_neg (unused known), known]
      · intro first second call₁ call₂ attrs' found found' loaded loaded'
        rw [ModelManager.withCall, SortedMap.get?_insert] at found found'
        split_ifs at found found' with isFirst isSecond isSecond
        · exact isFirst.trans isSecond.symm
        · obtain rfl := Option.some.inj found
          obtain rfl := Option.some.inj loaded
          exact absurd rfl (unused (sound.pending second call₂ _ found' loaded'))
        · obtain rfl := Option.some.inj found'
          obtain rfl := Option.some.inj loaded'
          exact absurd rfl (unused (sound.pending first call₁ _ found loaded))
        · exact sound.own first second call₁ call₂ attrs' found found' loaded loaded'
      · intro attrs' object found installed destroyed
        rcases SortedMap.get?_insert_eq_some.mp found with ⟨_, rfl⟩ | ⟨_, found⟩
        · exact absurd installed (by simp)
        · exact sound.releasedFirst attrs' object found installed destroyed
      · intro modelId attrs' _ found
        have known := sound.entered modelId attrs' found
        exact ⟨found, (SortedMap.get?_insert _ _ _ _).trans (if_neg (unused known))⟩

/-- A section of a call keeps the instances, unless it enters one where there is one. -/
theorem Sound.section (sound : manager.Sound) {id : ModelCallId} {call : ModelCall}
    {answer : ModelAnswer} (found : manager.calls.get? id = some call)
    (taken : manager.section? id call answer = some after) :
    ((call.stage.attrs? = none ∨ manager.modelIdApiMap.get? call.modelId = none) ∧
        after.Sound ∧ manager.KeepsInUse after) ∨
      ((∃ attrs old, call.stage.attrs? = some attrs ∧
          manager.modelIdApiMap.get? call.modelId = some old) ∧ ¬after.ReleasedFirst) := by
  have onward {middle : ModelManager} {stage : ModelStage} (stays : call.stage.attrs? = none)
      (enters : stage.attrs? = none) (kept : middle.Sound ∧ manager.KeepsInUse middle) :
      (call.stage.attrs? = none ∨ manager.modelIdApiMap.get? call.modelId = none) ∧
        (middle.withCall id call stage).Sound ∧
          manager.KeepsInUse (middle.withCall id call stage) :=
    ⟨.inl stays, kept.1.withCall id call enters, kept.2⟩
  rw [section?] at taken
  cases stage : call.stage with
  | hold =>
      rw [stage] at taken onward
      obtain rfl := Option.some.inj taken
      exact .inl (onward rfl call.request.attrs?_held
        ⟨sound.of_same rfl rfl rfl, .of_same rfl rfl⟩)
  | reuse =>
      rw [stage] at taken onward
      obtain rfl := Option.some.inj taken
      refine .inl (onward rfl ?_ (sound.reuseModelIfInUse call.modelId))
      split
      · exact call.request.attrs?_initialised .success
      · rfl
  | load =>
      rw [stage] at taken
      exact absurd taken (by simp)
  | install attrs =>
      have loaded : call.stage.attrs? = some attrs := by rw [stage]; rfl
      rw [stage] at taken
      obtain rfl := Option.some.inj taken
      cases present : manager.modelIdApiMap.get? call.modelId with
      | none =>
          exact .inl ⟨.inr rfl, sound.install found loaded
            (call.request.attrs?_initialised .success) present⟩
      | some old =>
          exact .inr ⟨⟨attrs, old, rfl, rfl⟩, sound.install_replaces found loaded present⟩
  | use =>
      rw [stage] at taken onward
      obtain rfl := Option.some.inj taken
      exact .inl (onward rfl rfl ⟨sound, .of_same rfl rfl⟩)
  | drop given releases =>
      rw [stage] at taken onward
      obtain rfl := Option.some.inj taken
      obtain ⟨map, objects, calls⟩ := dropModelUse_same manager call.modelId
      refine .inl (onward rfl ?_ ⟨sound.of_same map objects calls, .of_same map objects⟩)
      cases releases <;> rfl
  | release given =>
      rw [stage] at taken onward
      obtain rfl := Option.some.inj taken
      exact .inl (onward rfl rfl (sound.release call.modelId))
  | finished given =>
      rw [stage] at taken
      exact absurd taken (by simp)

/-- Every step keeps the instances exactly when it enters one only where there is none. -/
theorem Sound.step {action : ModelAction} (sound : manager.Sound)
    (taken : next manager action = some after) :
    (manager.installsFresh action = true ∧ after.Sound ∧ manager.KeepsInUse after) ∨
      (manager.installsFresh action = false ∧ ¬after.ReleasedFirst) := by
  cases action with
  | call id modelId request =>
      simp only [next] at taken
      split_ifs at taken
      obtain rfl := Option.some.inj taken
      exact .inl ⟨rfl, sound.withCall id _ request.attrs?_start, .of_same rfl rfl⟩
  | load id outcome =>
      simp only [next] at taken
      split at taken
      · split_ifs at taken
        exact .inl ⟨rfl, sound.loadStep taken⟩
      · exact absurd taken (by simp)
  | proceed id answer =>
      simp only [next] at taken
      split at taken
      · next call found =>
          rw [installsFresh, found, Option.all_some]
          rcases sound.section found taken with
            ⟨fresh, kept⟩ | ⟨⟨attrs, old, loaded, present⟩, lost⟩
          · refine .inl ⟨?_, kept⟩
            rcases fresh with stays | absent
            · rw [stays]
              rfl
            · rw [SortedMap.contains, absent]
              exact Bool.or_true _
          · refine .inr ⟨?_, lost⟩
            rw [loaded, SortedMap.contains, present]
            rfl
      · exact absurd taken (by simp)
  | release modelId =>
      obtain rfl := Option.some.inj taken
      exact .inl ⟨rfl, sound.release modelId⟩

/-- A step that is refused enters no instance. -/
theorem installsFresh_of_refused {action : ModelAction} (refused : next manager action = none) :
    manager.installsFresh action = true := by
  cases action with
  | call | load | release => rfl
  | proceed id answer =>
      rw [installsFresh]
      simp only [next] at refused
      split at refused
      · next call found =>
          rw [found, Option.all_some]
          rw [section?] at refused
          split at refused
          · exact absurd refused (by simp)
          · exact absurd refused (by simp)
          · exact absurd refused (by simp)
          · exact absurd refused (by simp)
          · exact absurd refused (by simp)
          · exact absurd refused (by simp)
          · next stage => rw [stage]; rfl
          · next stage => rw [stage]; rfl
      · next found => rw [found]; rfl

/-- In a run the models in use keep their instances and no instance is destroyed unreleased
exactly when an instance is entered only where the model has none. -/
theorem models_in_use_are_kept_iff (actions : List ModelAction) :
    (Transition.Along next
        (fun manager action => ∀ after, next manager action = some after →
          manager.KeepsInUse after) {} actions ∧
      Transition.Visits next ReleasedFirst {} actions) ↔
      Transition.Along next (fun manager action => manager.installsFresh action = true) {}
        actions := by
  have step {before after : ModelManager} {action : ModelAction} (sound : before.Sound)
      (fresh : before.installsFresh action = true) (taken : next before action = some after) :
      after.Sound ∧ before.KeepsInUse after := by
    rcases sound.step taken with ⟨_, kept⟩ | ⟨stale, _⟩
    · exact kept
    · exact absurd (fresh.symm.trans stale) (by simp)
  have exact_step {before after : ModelManager} {action : ModelAction} (sound : before.Sound)
      (taken : next before action = some after) :
      after.ReleasedFirst ↔ before.installsFresh action = true := by
    rcases sound.step taken with ⟨fresh, kept, _⟩ | ⟨stale, lost⟩
    · exact iff_of_true kept.releasedFirst fresh
    · exact iff_of_false lost (by simp [stale])
  have visits : Transition.Visits next ReleasedFirst {} actions ↔
      Transition.Along next (fun manager action => manager.installsFresh action = true) {}
        actions := by
    refine Transition.visits_iff_along_of_refused ?_ ?_ exact_step ?_ sound_initial
    · exact installsFresh_of_refused
    · exact fun sound fresh taken => (step sound fresh taken).1
    · exact fun _ sound => sound.releasedFirst
  rw [visits]
  refine ⟨And.right, fun fresh => ⟨?_, fresh⟩⟩
  exact Transition.Along.of_invariant (fun sound fresh taken => (step sound fresh taken).1)
    (fun sound fresh _ taken => (step sound fresh taken).2) sound_initial fresh

/-- Two calls count themselves and find no instance.  Each loads one, and the second enters its
own over that of the first, which is in use and is destroyed without its `Release`. -/
theorem model_in_use_is_replaced :
    ∃ actions action before after, Transition.run next {} actions = some before ∧
      next before action = some after ∧ ¬before.KeepsInUse after ∧ ¬after.ReleasedFirst := by
  let actions : List ModelAction :=
    [.call 1 7 (.subscribeResult true), .call 2 7 (.subscribeResult true),
      .proceed 1 (.code .success), .proceed 2 (.code .success),
      .proceed 1 (.code .success), .proceed 2 (.code .success),
      .load 1 (.initialised 1), .load 2 (.initialised 2), .proceed 1 (.code .success)]
  let action : ModelAction := .proceed 2 (.code .success)
  let before := (Transition.run next {} actions).getD {}
  let after := (next before action).getD {}
  refine ⟨actions, action, before, after, ?_, ?_, ?_, ?_⟩
  · exact Transition.run_eq_getD (by decide +kernel)
  · exact (Option.some_get (by decide +kernel)).symm.trans
      (congrArg some (Option.get_eq_getD _))
  · intro keeps
    have kept := (keeps 7 1 (by decide +kernel) (by decide +kernel)).1
    have replaced : after.modelIdApiMap.get? 7 = some 2 := by decide +kernel
    exact absurd (kept.symm.trans replaced) (by decide)
  · intro released
    have destroyed : after.objects.get? 1 =
        some { modelId := 7, installed := true, destroyed := true } := by decide +kernel
    exact absurd (released 1 _ destroyed rfl rfl) (by decide)

end ModelManager

end SecurityGuard
