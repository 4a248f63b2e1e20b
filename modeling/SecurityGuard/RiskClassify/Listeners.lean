import SecurityGuard.RiskClassify.Instances

/-!
# Listeners of the models

A listener is registered on the instance of a model and is lost with it.  Where calls do not
overlap, the calls that use a model keep its instance, as they count themselves before they look
for it.  `InitModel` alone does not, and an instance that is started on demand is given up by the
call that asks it for a result.
-/

namespace SecurityGuard

namespace ModelStage

/-- The call has returned. -/
def isFinished : ModelStage → Bool
  | .finished _ => true
  | _ => false

/-- A new instance is loaded or to be entered. -/
def loads : ModelStage → Bool
  | .load | .install _ => true
  | _ => false

/-- No instance is about to be entered or given up. -/
def keeps : ModelStage → Bool
  | .load | .install _ | .drop _ true | .release _ => false
  | .hold | .reuse | .use | .drop _ false | .finished _ => true

theorem running_of_loads {stage : ModelStage} (loads : stage.loads = true) :
    stage.isFinished = false := by
  cases stage with
  | finished => simp [ModelStage.loads] at loads
  | hold | reuse | load | install | use | drop | release => rfl

end ModelStage

namespace ModelCall

/-- The call has counted itself, and is counted still. -/
def holds (call : ModelCall) : Bool :=
  match call.stage with
  | .reuse | .load | .install _ => call.request ≠ .initModel
  | .use | .drop _ _ => true
  | .hold | .release _ | .finished _ => false

/-- `InitModel` from outside does not count itself. -/
def wellStaged (call : ModelCall) : Bool :=
  match call.request, call.stage with
  | .initModel, .hold | .initModel, .use | .initModel, .drop _ _ | .initModel, .release _ => false
  | _, _ => true

theorem running_of_holds {call : ModelCall} (holds : call.holds = true) :
    call.stage.isFinished = false := by
  rw [ModelCall.holds] at holds
  cases stage : call.stage with
  | finished => simp [stage] at holds
  | hold | reuse | load | install | use | drop | release => rfl

theorem wellStaged_of_ne {call : ModelCall} (different : call.request ≠ .initModel)
    (stage : ModelStage) : wellStaged { call with stage } = true := by
  rw [wellStaged]
  cases request : call.request with
  | initModel => exact absurd request different
  | getResult | subscribeResult | startSecurityModel => rfl

end ModelCall

/-- The request gives the instance of its model up. -/
def ModelRequest.givesUp : ModelRequest → Bool
  | .initModel | .getResult (some true) => true
  | _ => false

namespace ModelRequest

variable {request : ModelRequest}

theorem keeps_start (request : ModelRequest) : request.start.keeps = true := by
  cases request with
  | initModel | startSecurityModel => rfl
  | getResult startOnDemand => cases startOnDemand <;> rfl
  | subscribeResult listener => cases listener <;> rfl

theorem keeps_held (request : ModelRequest) : request.held.keeps = true := by
  cases request with
  | getResult startOnDemand => rcases startOnDemand with _ | _ | _ <;> rfl
  | initModel | subscribeResult | startSecurityModel => rfl

theorem keeps_initialised (different : request ≠ .initModel) :
    (request.initialised .success).keeps = true := by
  cases request with
  | initModel => exact absurd rfl different
  | getResult | subscribeResult | startSecurityModel => rfl

theorem ne_initModel_of_givesUp (gives : request.givesUp = false) : request ≠ .initModel := by
  rintro rfl
  exact absurd gives (by decide)

theorem releases_of_givesUp (gives : request.givesUp = false) : request.releases = false := by
  cases request with
  | getResult startOnDemand =>
      rcases startOnDemand with _ | _ | _
      · rfl
      · rfl
      · exact absurd gives (by decide)
  | initModel | subscribeResult | startSecurityModel => rfl

end ModelRequest

/-- The action gives the instance of a model up, or begins to. -/
def ModelAction.givesUp (modelId : ModelId) : ModelAction → Bool
  | .release other => other = modelId
  | .call _ other request => other = modelId && request.givesUp
  | _ => false

namespace ModelManager

variable (manager : ModelManager)

/-- The calls of a sequence: one begins when the others have returned. -/
def apart : ModelAction → Bool
  | .call _ _ _ => manager.calls.entries.all fun entry => entry.2.stage.isFinished
  | _ => true

/-- The next section of a call registers its listener on an instance. -/
structure Registers (id : ModelCallId) (modelId : ModelId) (attrs : Address) : Prop where
  subscribes : manager.calls.get? id =
    some { modelId, request := .subscribeResult true, stage := .use }
  entered : manager.modelIdApiMap.get? modelId = some attrs

/-- An instance is installed and not released. -/
def Stays (modelId : ModelId) (attrs : Address) : Prop :=
  manager.modelIdApiMap.get? modelId = some attrs ∧
    (manager.objects.get? attrs).any fun object => object.installed && !object.released

/-! ## Calls that do not overlap -/

/-- One call at most is under way, it alone is counted, and its model has no instance while it
loads one. -/
structure Sequential : Prop where
  sound : manager.Sound
  alone : ∀ id other call call', manager.calls.get? id = some call →
    manager.calls.get? other = some call' → call.stage.isFinished = false →
      call'.stage.isFinished = false → other = id
  staged : ∀ id call, manager.calls.get? id = some call → call.wellStaged = true
  held : ∀ id call, manager.calls.get? id = some call → call.holds = true →
    manager.modelUseCount.get? call.modelId = some 1
  counted : ∀ modelId count, manager.modelUseCount.get? modelId = some count →
    ∃ id call, manager.calls.get? id = some call ∧ call.modelId = modelId ∧ call.holds = true
  fresh : ∀ id call, manager.calls.get? id = some call → call.stage.loads = true →
    manager.modelIdApiMap.get? call.modelId = none

theorem sequential_initial : ({} : ModelManager).Sequential where
  sound := sound_initial
  alone _ _ _ _ found := absurd found (by simp)
  staged _ _ found := absurd found (by simp)
  held _ _ found := absurd found (by simp)
  counted _ _ found := absurd found (by simp)
  fresh _ _ found := absurd found (by simp)

variable {manager after : ModelManager} {id : ModelCallId} {call : ModelCall}

/-- Only the call under way is counted. -/
theorem Sequential.get?_modelUseCount (sequential : manager.Sequential)
    (found : manager.calls.get? id = some call) (running : call.stage.isFinished = false)
    (modelId : ModelId) :
    manager.modelUseCount.get? modelId =
      if call.holds = true ∧ modelId = call.modelId then some 1 else none := by
  split_ifs with own
  · rw [own.2]
    exact sequential.held id call found own.1
  · rw [Option.eq_none_iff_forall_ne_some]
    intro count counted
    obtain ⟨other, call', found', model, holds⟩ := sequential.counted modelId count counted
    obtain rfl := sequential.alone id other call call' found found' running
      (ModelCall.running_of_holds holds)
    obtain rfl := Option.some.inj (found.symm.trans found')
    exact own ⟨holds, model.symm⟩

/-- The call under way goes on, while the others have returned. -/
theorem Sequential.of_others
    (others : ∀ other call', other ≠ id → manager.calls.get? other = some call' →
      call'.stage.isFinished = true ∧ call'.wellStaged = true)
    (calls : after.calls = manager.calls.insert id call) (sound : after.Sound)
    (staged : call.wellStaged = true)
    (held : call.holds = true → after.modelUseCount.get? call.modelId = some 1)
    (counted : ∀ modelId count, after.modelUseCount.get? modelId = some count →
      modelId = call.modelId ∧ call.holds = true)
    (fresh : call.stage.loads = true → after.modelIdApiMap.get? call.modelId = none) :
    after.Sequential := by
  have cases {other : ModelCallId} {call' : ModelCall}
      (found : after.calls.get? other = some call') :
      (other = id ∧ call' = call) ∨ (call'.stage.isFinished = true ∧ call'.wellStaged = true) := by
    rw [calls] at found
    rcases SortedMap.get?_insert_eq_some.mp found with ⟨same, rfl⟩ | ⟨different, found⟩
    · exact .inl ⟨same, rfl⟩
    · exact .inr (others other call' different found)
  refine ⟨sound, ?_, ?_, ?_, ?_, ?_⟩
  · intro first second call₁ call₂ found found' running running'
    rcases cases found with ⟨rfl, rfl⟩ | ⟨finished, -⟩
    · rcases cases found' with ⟨rfl, rfl⟩ | ⟨finished, -⟩
      · rfl
      · simp [finished] at running'
    · simp [finished] at running
  · intro other call' found
    rcases cases found with ⟨rfl, rfl⟩ | ⟨-, well⟩
    · exact staged
    · exact well
  · intro other call' found holds
    rcases cases found with ⟨rfl, rfl⟩ | ⟨finished, -⟩
    · exact held holds
    · simp [ModelCall.running_of_holds holds] at finished
  · intro modelId count found
    obtain ⟨rfl, holds⟩ := counted modelId count found
    exact ⟨id, call, by rw [calls, SortedMap.get?_insert_self], rfl, holds⟩
  · intro other call' found loads
    rcases cases found with ⟨rfl, rfl⟩ | ⟨finished, -⟩
    · exact fresh loads
    · simp [ModelStage.running_of_loads loads] at finished

theorem Sequential.installsFresh (sequential : manager.Sequential) (action : ModelAction) :
    manager.installsFresh action = true := by
  cases action with
  | call | load | release => rfl
  | proceed id answer =>
      rw [ModelManager.installsFresh]
      cases found : manager.calls.get? id with
      | none => rfl
      | some call =>
          rw [Option.all_some]
          cases stage : call.stage with
          | hold | reuse | load | use | drop | release | finished => rfl
          | install attrs =>
              have none := sequential.fresh id call found (by rw [stage]; rfl)
              rw [SortedMap.contains, none]
              rfl

theorem Sequential.sound_next (sequential : manager.Sequential) {action : ModelAction}
    (taken : next manager action = some after) : after.Sound := by
  rcases sequential.sound.step taken with ⟨-, sound, -⟩ | ⟨stale, -⟩
  · exact sound
  · exact absurd ((sequential.installsFresh action).symm.trans stale) (by simp)

/-- The section of the call under way keeps the calls apart. -/
theorem Sequential.turn (sequential : manager.Sequential)
    (found : manager.calls.get? id = some call) (running : call.stage.isFinished = false)
    {stage : ModelStage} (calls : after.calls = manager.calls.insert id { call with stage })
    (sound : after.Sound) (staged : ModelCall.wellStaged { call with stage } = true)
    (counts : ∀ modelId, after.modelUseCount.get? modelId =
      if ModelCall.holds { call with stage } = true ∧ modelId = call.modelId then some 1 else none)
    (fresh : stage.loads = true → after.modelIdApiMap.get? call.modelId = none) :
    after.Sequential := by
  refine .of_others (fun other call' different found' => ⟨?_, sequential.staged other call' found'⟩)
    calls sound staged (fun holds => ?_) (fun modelId count counted => ?_) fresh
  · by_contra unfinished
    exact different (sequential.alone id other call call' found found' running
      (Bool.eq_false_iff.mpr unfinished))
  · rw [counts, if_pos ⟨holds, rfl⟩]
  · rw [counts] at counted
    split_ifs at counted with own
    exact own.symm

theorem initialised_spec (call : ModelCall) (code : Code) :
    ModelCall.holds { call with stage := call.request.initialised code } =
        decide (call.request ≠ .initModel) ∧
      ModelCall.wellStaged { call with stage := call.request.initialised code } = true ∧
      (call.request.initialised code).loads = false := by
  cases request : call.request with
  | initModel => exact ⟨rfl, rfl, rfl⟩
  | getResult | subscribeResult | startSecurityModel =>
      rw [ModelRequest.initialised]
      split_ifs <;> exact ⟨rfl, rfl, rfl⟩

theorem Sequential.returnInit (sequential : manager.Sequential)
    (found : manager.calls.get? id = some call) (running : call.stage.isFinished = false)
    (holds : call.holds = decide (call.request ≠ .initModel)) {code : Code} (sound : after.Sound)
    (calls : after.calls =
      manager.calls.insert id { call with stage := call.request.initialised code })
    (counts : after.modelUseCount = manager.modelUseCount) : after.Sequential := by
  obtain ⟨counted, staged, loads⟩ := initialised_spec call code
  refine sequential.turn found running calls sound staged (fun modelId => ?_)
    fun loading => absurd loads (by simp [loading])
  rw [counts, counted, ← holds]
  exact sequential.get?_modelUseCount found running modelId

/-- Loading a model keeps the calls apart. -/
theorem Sequential.loadStep (sequential : manager.Sequential)
    (found : manager.calls.get? id = some call) (loading : call.stage = .load)
    {outcome : LoadOutcome} (taken : manager.loadStep id call outcome = some after)
    (sound : after.Sound) : after.Sequential := by
  have running : call.stage.isFinished = false := by rw [loading]; rfl
  have holds : call.holds = decide (call.request ≠ .initModel) := by rw [ModelCall.holds, loading]
  cases outcome with
  | notFound | fileErr | failed =>
      obtain rfl := Option.some.inj taken
      exact sequential.returnInit found running holds sound rfl rfl
  | initFailed code =>
      rw [ModelManager.loadStep] at taken
      split_ifs at taken
      obtain rfl := Option.some.inj taken
      exact sequential.returnInit found running holds sound rfl rfl
  | initialised attrs =>
      rw [ModelManager.loadStep] at taken
      dsimp only at taken
      split_ifs at taken
      obtain rfl := Option.some.inj taken
      refine sequential.turn found running rfl sound ?_ (fun modelId => ?_) fun _ =>
        sequential.fresh id call found (by rw [loading]; rfl)
      · rw [ModelCall.wellStaged]
        cases call.request <;> rfl
      · have counts := sequential.get?_modelUseCount found running modelId
        rw [holds] at counts
        exact counts

theorem release_same (manager : ModelManager) (modelId : ModelId) :
    (manager.release modelId).modelUseCount = manager.modelUseCount ∧
      (manager.release modelId).calls = manager.calls := by
  rw [release]
  split_ifs
  · exact ⟨rfl, rfl⟩
  · split <;> exact ⟨rfl, rfl⟩

theorem release_map (manager : ModelManager) (modelId : ModelId) :
    (manager.release modelId).modelIdApiMap = manager.modelIdApiMap ∨
      (manager.release modelId).modelIdApiMap = manager.modelIdApiMap.erase modelId := by
  rw [release]
  split_ifs
  · exact .inl rfl
  · split
    · exact .inl rfl
    · exact .inr rfl

theorem reuseModelIfInUse_cases (manager : ModelManager) (modelId : ModelId) :
    manager.reuseModelIfInUse modelId = (true, manager) ∨
      ∃ middle, manager.reuseModelIfInUse modelId = (false, middle) ∧
        middle.modelUseCount = manager.modelUseCount ∧ middle.calls = manager.calls ∧
          middle.modelIdApiMap = manager.modelIdApiMap.erase modelId := by
  rw [reuseModelIfInUse]
  split
  · next absent => exact .inr ⟨manager, rfl, rfl, rfl, (SortedMap.erase_of_absent absent).symm⟩
  · split_ifs
    · exact .inl rfl
    · exact .inr ⟨_, rfl, rfl, rfl, rfl⟩

theorem reuseModelIfInUse_of_held {modelId : ModelId} {attrs : Address}
    (entered : manager.modelIdApiMap.get? modelId = some attrs)
    (held : manager.modelUseCount.get? modelId = some 1) :
    manager.reuseModelIfInUse modelId = (true, manager) := by
  rw [reuseModelIfInUse, inUse, held, entered]
  rfl

section Section

variable (sequential : manager.Sequential) (found : manager.calls.get? id = some call)
include sequential found

theorem request_ne_of_staged (looks : call.stage ≠ .reuse) (loads : call.stage.loads = false)
    (running : call.stage.isFinished = false) : call.request ≠ .initModel := by
  intro alone
  have staged := sequential.staged id call found
  rw [ModelCall.wellStaged, alone] at staged
  cases stage : call.stage with
  | reuse => exact looks stage
  | load | install => simp [stage, ModelStage.loads] at loads
  | finished => simp [stage, ModelStage.isFinished] at running
  | hold | use | drop | release => simp [stage] at staged

theorem sequential_hold (stage : call.stage = .hold)
    (sound : ((manager.holdModelUse call.modelId).withCall id call call.request.held).Sound) :
    ((manager.holdModelUse call.modelId).withCall id call call.request.held).Sequential := by
  have running : call.stage.isFinished = false := by rw [stage]; rfl
  have different := request_ne_of_staged sequential found (by simp [stage]) (by rw [stage]; rfl)
    running
  have uncounted := sequential.get?_modelUseCount found running
  have held : ModelCall.holds { call with stage := call.request.held } = true ∧
      call.request.held.loads = false := by
    cases request : call.request with
    | initModel => exact absurd request different
    | getResult startOnDemand =>
        rcases startOnDemand with _ | _ | _ <;> exact ⟨rfl, rfl⟩
    | subscribeResult | startSecurityModel => exact ⟨rfl, rfl⟩
  refine sequential.turn found running rfl sound (ModelCall.wellStaged_of_ne different _)
    (fun modelId => ?_) fun loads => absurd held.2 (by simp [loads])
  have idle : call.holds = false := by rw [ModelCall.holds, stage]
  rw [held.1]
  refine (SortedMap.get?_insert ..).trans ?_
  rw [uncounted, uncounted, idle]
  by_cases own : modelId = call.modelId
  · simp [own]
  · simp [own]

theorem sequential_reuse (stage : call.stage = .reuse)
    (sound : ((manager.reuseModelIfInUse call.modelId).2.withCall id call
      (if (manager.reuseModelIfInUse call.modelId).1 then call.request.initialised .success
        else .load)).Sound) :
    ((manager.reuseModelIfInUse call.modelId).2.withCall id call
      (if (manager.reuseModelIfInUse call.modelId).1 then call.request.initialised .success
        else .load)).Sequential := by
  have running : call.stage.isFinished = false := by rw [stage]; rfl
  have holds : call.holds = decide (call.request ≠ .initModel) := by rw [ModelCall.holds, stage]
  rcases reuseModelIfInUse_cases manager call.modelId with
    reused | ⟨middle, reused, same, calls, map⟩
  · rw [reused] at sound ⊢
    exact sequential.returnInit found running holds sound rfl rfl
  · rw [reused] at sound ⊢
    have staged : ModelCall.wellStaged { call with stage := .load } = true := by
      rw [ModelCall.wellStaged]
      cases call.request <;> rfl
    have counts := sequential.get?_modelUseCount found running
    rw [holds] at counts
    refine sequential.turn found running ?_ sound staged (fun modelId => ?_) fun _ => ?_
    · exact congrArg (fun calls => SortedMap.insert calls id { call with stage := .load }) calls
    · exact (congrArg (fun counts => SortedMap.get? counts modelId) same).trans (counts modelId)
    · exact (congrArg (fun map => SortedMap.get? map call.modelId) map).trans (by simp)

theorem sequential_use (stage : call.stage = .use) (given : ModelAnswer)
    (sound : (manager.withCall id call (.drop given call.request.releases)).Sound) :
    (manager.withCall id call (.drop given call.request.releases)).Sequential := by
  have running : call.stage.isFinished = false := by rw [stage]; rfl
  have different := request_ne_of_staged sequential found (by simp [stage]) (by rw [stage]; rfl)
    running
  refine sequential.turn found running rfl sound (ModelCall.wellStaged_of_ne different _)
    (fun modelId => ?_) fun loads => absurd loads (by simp [ModelStage.loads])
  have counts := sequential.get?_modelUseCount found running modelId
  have holds : call.holds = true := by rw [ModelCall.holds, stage]
  rw [holds] at counts
  exact counts

theorem sequential_drop {given : ModelAnswer} {releases : Bool}
    (stage : call.stage = .drop given releases)
    (sound : ((manager.dropModelUse call.modelId).withCall id call
      (if releases then .release given else .finished given)).Sound) :
    ((manager.dropModelUse call.modelId).withCall id call
      (if releases then .release given else .finished given)).Sequential := by
  have running : call.stage.isFinished = false := by rw [stage]; rfl
  have different := request_ne_of_staged sequential found (by simp [stage]) (by rw [stage]; rfl)
    running
  have counts := sequential.get?_modelUseCount found running
  have holds : call.holds = true := by rw [ModelCall.holds, stage]
  obtain ⟨-, -, calls⟩ := dropModelUse_same manager call.modelId
  have uncounted : (manager.dropModelUse call.modelId).modelUseCount =
      manager.modelUseCount.erase call.modelId := by
    have last : (1 : UInt32) - 1 = 0 := rfl
    rw [dropModelUse, counts, if_pos ⟨holds, rfl⟩]
    simp only [last, if_true]
  have turn {next : ModelStage} (idle : ModelCall.holds { call with stage := next } = false)
      (loads : next.loads = false)
      (sound : ((manager.dropModelUse call.modelId).withCall id call next).Sound) :
      ((manager.dropModelUse call.modelId).withCall id call next).Sequential := by
    refine sequential.turn found running (by rw [withCall, calls]) sound
      (ModelCall.wellStaged_of_ne different _) (fun modelId => ?_)
      fun loading => absurd loads (by simp [loading])
    rw [idle, withCall, uncounted, SortedMap.get?_erase, counts, holds]
    simp
  cases releases with
  | false => exact turn rfl rfl sound
  | true => exact turn rfl rfl sound

theorem sequential_release {given : ModelAnswer} (stage : call.stage = .release given)
    (sound : ((manager.release call.modelId).withCall id call (.finished given)).Sound) :
    ((manager.release call.modelId).withCall id call (.finished given)).Sequential := by
  have running : call.stage.isFinished = false := by rw [stage]; rfl
  have different := request_ne_of_staged sequential found (by simp [stage]) (by rw [stage]; rfl)
    running
  obtain ⟨same, calls⟩ := release_same manager call.modelId
  have onward : ((manager.release call.modelId).withCall id call (.finished given)).calls =
      manager.calls.insert id { call with stage := .finished given } := by rw [withCall, calls]
  refine sequential.turn found running onward sound (ModelCall.wellStaged_of_ne different _)
    (fun modelId => ?_) fun loads => absurd loads (by simp [ModelStage.loads])
  have counts := sequential.get?_modelUseCount found running modelId
  have idle : call.holds = false := by rw [ModelCall.holds, stage]
  rw [idle] at counts
  rw [withCall, same]
  exact counts

/-- A section of the call under way keeps the calls apart. -/
theorem sequential_section {answer : ModelAnswer}
    (taken : manager.section? id call answer = some after) (sound : after.Sound) :
    after.Sequential := by
  rw [section?] at taken
  cases stage : call.stage with
  | hold =>
      rw [stage] at taken
      obtain rfl := Option.some.inj taken
      exact sequential_hold sequential found stage sound
  | reuse =>
      rw [stage] at taken
      obtain rfl := Option.some.inj taken
      exact sequential_reuse sequential found stage sound
  | load =>
      rw [stage] at taken
      exact absurd taken (by simp)
  | install attrs =>
      rw [stage] at taken
      obtain rfl := Option.some.inj taken
      exact sequential.returnInit found (by rw [stage]; rfl) (by rw [ModelCall.holds, stage])
        sound rfl rfl
  | use =>
      rw [stage] at taken
      obtain rfl := Option.some.inj taken
      exact sequential_use sequential found stage _ sound
  | drop given releases =>
      rw [stage] at taken
      obtain rfl := Option.some.inj taken
      exact sequential_drop sequential found stage sound
  | release given =>
      rw [stage] at taken
      obtain rfl := Option.some.inj taken
      exact sequential_release sequential found stage sound
  | finished given =>
      rw [stage] at taken
      exact absurd taken (by simp)

end Section

/-- A release from outside keeps the calls apart. -/
theorem Sequential.releaseModel (sequential : manager.Sequential) (modelId : ModelId) :
    (manager.release modelId).Sequential := by
  obtain ⟨same, calls⟩ := release_same manager modelId
  refine ⟨(sequential.sound.release modelId).1, ?_, ?_, ?_, ?_, ?_⟩
  · rw [calls]
    exact sequential.alone
  · rw [calls]
    exact sequential.staged
  · rw [calls, same]
    exact sequential.held
  · rw [calls, same]
    exact sequential.counted
  · rw [calls]
    intro id call found loads
    have absent := sequential.fresh id call found loads
    rcases release_map manager modelId with map | map
    · rw [map, absent]
    · rw [map, SortedMap.get?_erase, absent, ite_self]

/-- A call that begins when the others have returned is alone. -/
theorem Sequential.begin (sequential : manager.Sequential) {id : ModelCallId} {modelId : ModelId}
    {request : ModelRequest} (apart : manager.apart (.call id modelId request) = true)
    (sound : (manager.withCall id { modelId, request, stage := request.start }
      request.start).Sound) :
    (manager.withCall id { modelId, request, stage := request.start }
      request.start).Sequential := by
  have finished {other : ModelCallId} {call : ModelCall}
      (found : manager.calls.get? other = some call) : call.stage.isFinished = true :=
    List.all_eq_true.mp apart (other, call) (SortedMap.mem_entries_iff.mpr found)
  have start : ModelCall.wellStaged { modelId, request, stage := request.start } = true ∧
      ModelCall.holds { modelId, request, stage := request.start } = false ∧
        request.start.loads = false := by
    cases request with
    | initModel | startSecurityModel => exact ⟨rfl, rfl, rfl⟩
    | getResult startOnDemand => cases startOnDemand <;> exact ⟨rfl, rfl, rfl⟩
    | subscribeResult listener => cases listener <;> exact ⟨rfl, rfl, rfl⟩
  obtain ⟨staged, holds, loads⟩ := start
  refine .of_others
    (fun other call' _ found => ⟨finished found, sequential.staged other call' found⟩)
    rfl sound staged (fun held => absurd held (by simp [holds])) (fun modelId count counted => ?_)
    fun loading => absurd loads (by simp [loading])
  obtain ⟨other, call, found, -, held⟩ := sequential.counted modelId count counted
  exact absurd (finished found) (by simp [ModelCall.running_of_holds held])

/-- Every step of a sequence of calls keeps them apart. -/
theorem Sequential.step (sequential : manager.Sequential) {action : ModelAction}
    (apart : manager.apart action = true) (taken : next manager action = some after) :
    after.Sequential := by
  have sound := sequential.sound_next taken
  cases action with
  | call id modelId request =>
      simp only [next] at taken
      split_ifs at taken
      obtain rfl := Option.some.inj taken
      exact sequential.begin apart sound
  | load id outcome =>
      simp only [next] at taken
      split at taken
      · next call found =>
          split_ifs at taken with loading
          exact sequential.loadStep found loading taken sound
      · exact absurd taken (by simp)
  | proceed id answer =>
      simp only [next] at taken
      split at taken
      · next call found => exact sequential_section sequential found taken sound
      · exact absurd taken (by simp)
  | release modelId =>
      obtain rfl := Option.some.inj taken
      exact sequential.releaseModel modelId

/-! ## The instance of a listener -/

/-- A model has an instance that no call under way enters another over or gives up. -/
structure Listening (manager : ModelManager) (modelId : ModelId) (attrs : Address) : Prop where
  entered : manager.modelIdApiMap.get? modelId = some attrs
  calm : ∀ id call, manager.calls.get? id = some call → call.modelId = modelId →
    call.stage.isFinished = false → call.request.givesUp = false ∧ call.stage.keeps = true

section Listening

variable {modelId : ModelId} {attrs : Address} (listening : manager.Listening modelId attrs)
include listening

theorem Listening.stays (sound : manager.Sound) : manager.Stays modelId attrs := by
  refine ⟨listening.entered, ?_⟩
  rw [sound.entered modelId attrs listening.entered]
  rfl

theorem Listening.turn (entered : after.modelIdApiMap.get? modelId = some attrs)
    (calls : after.calls = manager.calls.insert id call)
    (calm : call.modelId = modelId → call.stage.isFinished = false →
      call.request.givesUp = false ∧ call.stage.keeps = true) :
    after.Listening modelId attrs := by
  refine ⟨entered, fun other call' found => ?_⟩
  rw [calls] at found
  rcases SortedMap.get?_insert_eq_some.mp found with ⟨-, rfl⟩ | ⟨-, found⟩
  · exact calm
  · exact listening.calm other call' found

theorem Listening.turn_elsewhere (elsewhere : modelId ≠ call.modelId)
    (entered : after.modelIdApiMap.get? modelId = manager.modelIdApiMap.get? modelId)
    {stage : ModelStage} (calls : after.calls = manager.calls.insert id { call with stage }) :
    after.Listening modelId attrs :=
  listening.turn (entered.trans listening.entered) calls fun own => absurd own.symm elsewhere

end Listening

theorem loadStep_same {outcome : LoadOutcome}
    (taken : manager.loadStep id call outcome = some after) :
    after.modelIdApiMap = manager.modelIdApiMap ∧
      ∃ stage, after.calls = manager.calls.insert id { call with stage } := by
  cases outcome with
  | notFound | fileErr | failed =>
      obtain rfl := Option.some.inj taken
      exact ⟨rfl, _, rfl⟩
  | initFailed | initialised =>
      rw [loadStep] at taken
      split_ifs at taken
      obtain rfl := Option.some.inj taken
      exact ⟨rfl, _, rfl⟩

/-- A section of a call leaves the instances of the other models. -/
theorem section_elsewhere {modelId : ModelId} {answer : ModelAnswer}
    (elsewhere : modelId ≠ call.modelId) (taken : manager.section? id call answer = some after) :
    after.modelIdApiMap.get? modelId = manager.modelIdApiMap.get? modelId ∧
      ∃ stage, after.calls = manager.calls.insert id { call with stage } := by
  have erased {map : SortedMap ModelId Address}
      (map_eq : map = manager.modelIdApiMap.erase call.modelId) :
      map.get? modelId = manager.modelIdApiMap.get? modelId := by
    rw [map_eq, SortedMap.get?_erase, if_neg elsewhere]
  rw [section?] at taken
  cases stage : call.stage with
  | hold | use =>
      rw [stage] at taken
      obtain rfl := Option.some.inj taken
      exact ⟨rfl, _, rfl⟩
  | reuse =>
      rw [stage] at taken
      obtain rfl := Option.some.inj taken
      rcases reuseModelIfInUse_cases manager call.modelId with
        reused | ⟨middle, reused, -, calls, map⟩
      · rw [reused]
        exact ⟨rfl, _, rfl⟩
      · rw [reused]
        exact ⟨erased map, _, congrArg (fun calls => SortedMap.insert calls id _) calls⟩
  | install attrs =>
      rw [stage] at taken
      obtain rfl := Option.some.inj taken
      exact ⟨(SortedMap.get?_insert ..).trans (if_neg elsewhere), _, rfl⟩
  | drop given releases =>
      rw [stage] at taken
      obtain rfl := Option.some.inj taken
      obtain ⟨map, -, calls⟩ := dropModelUse_same manager call.modelId
      exact ⟨congrArg (fun map => SortedMap.get? map modelId) map, _,
        congrArg (fun calls => SortedMap.insert calls id _) calls⟩
  | release given =>
      rw [stage] at taken
      obtain rfl := Option.some.inj taken
      obtain ⟨-, calls⟩ := release_same manager call.modelId
      refine ⟨?_, _, congrArg (fun calls => SortedMap.insert calls id _) calls⟩
      rcases release_map manager call.modelId with map | map
      · exact congrArg (fun map => SortedMap.get? map modelId) map
      · exact erased map
  | load | finished =>
      rw [stage] at taken
      exact absurd taken (by simp)

section Step

variable {modelId : ModelId} {attrs : Address} (listening : manager.Listening modelId attrs)
include listening

/-- A section of a call on the model itself, which is counted before it looks for the instance. -/
theorem Listening.section_here (sequential : manager.Sequential)
    (found : manager.calls.get? id = some call) (here : call.modelId = modelId)
    {answer : ModelAnswer} (taken : manager.section? id call answer = some after) :
    after.Listening modelId attrs := by
  have calm (running : call.stage.isFinished = false) := listening.calm id call found here running
  rw [section?] at taken
  cases stage : call.stage with
  | hold =>
      rw [stage] at taken calm
      obtain rfl := Option.some.inj taken
      obtain ⟨gives, -⟩ := calm rfl
      exact listening.turn listening.entered rfl fun _ _ => ⟨gives, call.request.keeps_held⟩
  | reuse =>
      rw [stage] at taken calm
      obtain ⟨gives, -⟩ := calm rfl
      have different := ModelRequest.ne_initModel_of_givesUp gives
      have holds : call.holds = true := by
        rw [ModelCall.holds, stage]
        exact decide_eq_true different
      rw [reuseModelIfInUse_of_held (here ▸ listening.entered)
        (sequential.held id call found holds)] at taken
      obtain rfl := Option.some.inj taken
      exact listening.turn listening.entered rfl fun _ _ =>
        ⟨gives, ModelRequest.keeps_initialised different⟩
  | use =>
      rw [stage] at taken calm
      obtain rfl := Option.some.inj taken
      obtain ⟨gives, -⟩ := calm rfl
      refine listening.turn listening.entered rfl fun _ _ => ⟨gives, ?_⟩
      rw [ModelRequest.releases_of_givesUp gives]
      rfl
  | drop given releases =>
      rw [stage] at taken calm
      obtain ⟨gives, keeps⟩ := calm rfl
      cases releases with
      | true => exact absurd keeps (by simp [ModelStage.keeps])
      | false =>
          obtain rfl := Option.some.inj taken
          obtain ⟨map, -, calls⟩ := dropModelUse_same manager call.modelId
          refine listening.turn ?_ (congrArg (fun calls => SortedMap.insert calls id _) calls)
            fun _ _ => ⟨gives, rfl⟩
          exact (congrArg (fun map => SortedMap.get? map modelId) map).trans listening.entered
  | install | release =>
      rw [stage] at calm
      exact absurd (calm rfl).2 (by simp [ModelStage.keeps])
  | load | finished =>
      rw [stage] at taken
      exact absurd taken (by simp)

/-- The instance stays through every step that does not give it up. -/
theorem Listening.step (sequential : manager.Sequential) {action : ModelAction}
    (kept : action.givesUp modelId = false) (taken : next manager action = some after) :
    after.Listening modelId attrs := by
  cases action with
  | call id other request =>
      simp only [next] at taken
      split_ifs at taken
      obtain rfl := Option.some.inj taken
      refine listening.turn listening.entered rfl fun here _ => ⟨?_, request.keeps_start⟩
      simpa [ModelAction.givesUp, show other = modelId from here] using kept
  | load id outcome =>
      simp only [next] at taken
      split at taken
      · next call found =>
          split_ifs at taken with loading
          obtain ⟨map, stage, calls⟩ := loadStep_same taken
          refine listening.turn_elsewhere (fun here => ?_) (by rw [map]) calls
          have calm := listening.calm id call found here.symm
          rw [loading] at calm
          exact absurd (calm rfl).2 (by decide)
      · exact absurd taken (by simp)
  | proceed id answer =>
      simp only [next] at taken
      split at taken
      · next call found =>
          by_cases here : call.modelId = modelId
          · exact listening.section_here sequential found here taken
          · have elsewhere := Ne.symm here
            obtain ⟨entered, stage, calls⟩ := section_elsewhere elsewhere taken
            exact listening.turn_elsewhere elsewhere entered calls
      · exact absurd taken (by simp)
  | release other =>
      obtain rfl := Option.some.inj taken
      have elsewhere : modelId ≠ other := by
        rintro rfl
        simp [ModelAction.givesUp] at kept
      obtain ⟨-, calls⟩ := release_same manager other
      refine ⟨?_, by rw [calls]; exact listening.calm⟩
      rcases release_map manager other with map | map
      · rw [map]
        exact listening.entered
      · rw [map, SortedMap.get?_erase, if_neg elsewhere]
        exact listening.entered

end Step

theorem Sequential.listening (sequential : manager.Sequential) {modelId : ModelId}
    {attrs : Address} (registers : manager.Registers id modelId attrs) :
    manager.Listening modelId attrs := by
  refine ⟨registers.entered, fun other call found _ running => ?_⟩
  obtain rfl := sequential.alone id other _ call registers.subscribes found rfl running
  obtain rfl := Option.some.inj (registers.subscribes.symm.trans found)
  exact ⟨rfl, rfl⟩

/-- In a sequence of calls, a listener stays connected until its model is released from outside,
initialised again, or asked for a result while it is started on demand. -/
theorem listeners_stay_connected {actions later : List ModelAction} {before manager : ModelManager}
    {id : ModelCallId} {modelId : ModelId} {attrs : Address}
    (apart : Transition.Along next (fun manager action => manager.apart action = true) {}
      (actions ++ .proceed id (.code .success) :: later))
    (reach : Transition.run next {} actions = some before)
    (registers : before.Registers id modelId attrs)
    (kept : ∀ action ∈ later, action.givesUp modelId = false)
    (reach' : Transition.run next before (.proceed id (.code .success) :: later) = some manager) :
    manager.Stays modelId attrs := by
  obtain ⟨first, second⟩ := (Transition.along_append reach).mp apart
  have sequential : before.Sequential :=
    Transition.run_invariant (fun sequential apart taken => sequential.step apart taken)
      sequential_initial first reach
  have keeps : ∀ action ∈ ModelAction.proceed id (.code .success) :: later,
      action.givesUp modelId = false := by
    rintro action (_ | ⟨_, mem⟩)
    · rfl
    · exact kept action mem
  have step {before after : ModelManager} {action : ModelAction}
      (state : before.Sequential ∧ before.Listening modelId attrs)
      (guard : before.apart action = true ∧ action.givesUp modelId = false)
      (taken : next before action = some after) :
      after.Sequential ∧ after.Listening modelId attrs :=
    ⟨state.1.step guard.1 taken, state.2.step state.1 guard.2 taken⟩
  obtain ⟨sound, listening⟩ := Transition.run_invariant step
    ⟨sequential, sequential.listening registers⟩ (second.and_mem keeps) reach'
  exact listening.stays sound.sound

/-- A listener stays connected while the model is started again. -/
theorem listener_of_started_model_stays :
    ∃ manager, Transition.run next {}
        ([.call 1 7 (.subscribeResult true), .proceed 1 (.code .success),
          .proceed 1 (.code .success), .load 1 (.initialised 1), .proceed 1 (.code .success)] ++
        .proceed 1 (.code .success) :: [.proceed 1 (.code .success),
          .call 2 7 .startSecurityModel, .proceed 2 (.code .success), .proceed 2 (.code .success),
          .proceed 2 (.code .success), .proceed 2 (.code .success)]) = some manager ∧
      manager.Stays 7 1 := by
  let actions : List ModelAction :=
    [.call 1 7 (.subscribeResult true), .proceed 1 (.code .success),
      .proceed 1 (.code .success), .load 1 (.initialised 1), .proceed 1 (.code .success)]
  let later : List ModelAction :=
    [.proceed 1 (.code .success), .call 2 7 .startSecurityModel, .proceed 2 (.code .success),
      .proceed 2 (.code .success), .proceed 2 (.code .success), .proceed 2 (.code .success)]
  obtain ⟨before, manager, reach, registers, reach'⟩ : ∃ before manager,
      Transition.run next {} actions = some before ∧ before.Registers 1 7 1 ∧
        Transition.run next before (.proceed 1 (.code .success) :: later) = some manager := by
    refine ⟨(Transition.run next {} actions).getD {}, (Transition.run next
      ((Transition.run next {} actions).getD {}) (.proceed 1 (.code .success) :: later)).getD {},
      Transition.run_eq_getD (by decide +kernel), ⟨by decide +kernel, by decide +kernel⟩,
      Transition.run_eq_getD (by decide +kernel)⟩
  refine ⟨manager, ?_, ?_⟩
  · refine (Transition.run_append _ actions _).trans ?_
    rw [reach]
    exact reach'
  · exact listeners_stay_connected (by decide +kernel) reach registers (by decide +kernel) reach'

/-- `InitModel` and a result asked of a model started on demand each give up the instance that has
the listener, though the model was never released from outside. -/
theorem listeners_are_disconnected :
    ∃ actions before, Transition.run next {} actions = some before ∧ before.Registers 1 7 1 ∧
      (∀ later ∈
        ([[.proceed 1 (.code .success), .call 2 7 .initModel, .proceed 2 (.code .success),
            .load 2 (.initialised 2), .proceed 2 (.code .success)],
          [.proceed 1 (.code .success), .call 2 7 (.getResult (some true)),
            .proceed 2 (.code .success), .proceed 2 (.code .success),
            .proceed 2 (.result "risk"), .proceed 2 (.code .success),
            .proceed 2 (.code .success)]] : List (List ModelAction)),
        Transition.Along next (fun manager action => manager.apart action = true) {}
            (actions ++ .proceed 1 (.code .success) :: later) ∧
          (∀ action ∈ later, action ≠ .release 7) ∧
            ∃ manager,
              Transition.run next before (.proceed 1 (.code .success) :: later) = some manager ∧
                ¬manager.Stays 7 1) := by
  let actions : List ModelAction :=
    [.call 1 7 (.subscribeResult true), .proceed 1 (.code .success),
      .proceed 1 (.code .success), .load 1 (.initialised 1), .proceed 1 (.code .success)]
  let before := (Transition.run next {} actions).getD {}
  refine ⟨actions, before, Transition.run_eq_getD (by decide +kernel),
    ⟨by decide +kernel, by decide +kernel⟩, ?_⟩
  intro later mem
  rcases List.mem_cons.mp mem with rfl | mem
  · refine ⟨by decide +kernel, by decide +kernel, (Transition.run next before _).getD {},
      Transition.run_eq_getD (by decide +kernel), ?_⟩
    exact fun stays => absurd stays.1 (by decide +kernel)
  · obtain rfl := List.mem_singleton.mp mem
    refine ⟨by decide +kernel, by decide +kernel, (Transition.run next before _).getD {},
      Transition.run_eq_getD (by decide +kernel), ?_⟩
    exact fun stays => absurd stays.1 (by decide +kernel)

end ModelManager

end SecurityGuard
