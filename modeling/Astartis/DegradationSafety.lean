import Astartis.BridgeSafety
import Astartis.Degradation

/-!
Which subsystems the bridge cannot do without.
-/

namespace Astartis.Degradation

open Bridge (Globals Inputs Platform Setup bridgeSystem launch)
open Stdin (Request)
open TransitionSystem

section Deref

variable {pointers : Pointers} {subsystem : Subsystem} {β : Type} {f : Unit → Except Subsystem β}

theorem deref_bind_of_isSet (hset : pointers.isSet subsystem = true) :
    (pointers.deref subsystem >>= f) = f () := by
  rw [Pointers.deref, if_pos hset]
  rfl

theorem deref_bind_of_null (hnull : pointers.isSet subsystem = false) :
    (pointers.deref subsystem >>= f) = .error subsystem := by
  rw [Pointers.deref, if_neg (by simp [hnull])]
  rfl

theorem deref_bind_eq_ok_iff {b : β} :
    (pointers.deref subsystem >>= f) = .ok b ↔
      pointers.isSet subsystem = true ∧ f () = .ok b := by
  cases hset : pointers.isSet subsystem with
  | true => rw [deref_bind_of_isSet hset]; exact (and_iff_right rfl).symm
  | false => rw [deref_bind_of_null hset]; simp

end Deref

/-- What every command and callback relies on is there. -/
structure Pointers.Suffices (pointers : Pointers) : Prop where
  ruleEngine : pointers.isSet .ruleEngine = true
  chaosDetector : pointers.isSet .chaosDetector = true
  decoy : pointers.isSet .decoy = true
  activeResponse : pointers.isSet .activeResponse = true
  quarantine : pointers.isSet .clamd = true → pointers.isSet .quarantine = true

theorem Pointers.Suffices.threatLevel {pointers : Pointers} (h : pointers.Suffices) :
    pointers.isSet .threatLevel = true :=
  pointers.threatLevel_set h.ruleEngine

theorem Pointers.Suffices.sandbox {pointers : Pointers} (h : pointers.Suffices) :
    pointers.isSet .sandbox = true :=
  pointers.sandbox_set h.decoy

/-- The failures that the bridge bears. -/
structure Bearable (outcome : Subsystem → InitOutcome) : Prop where
  sandbox : (outcome .sandbox).sets = true
  threatLevel : (outcome .threatLevel).sets = true
  ruleEngine : (outcome .ruleEngine).sets = true
  chaosDetector : (outcome .chaosDetector).sets = true
  decoy : (outcome .decoy).sets = true
  activeResponse : (outcome .activeResponse).sets = true
  quarantine : (outcome .clamd).sets = true → (outcome .quarantine).sets = true

theorem suffices_startUp_iff (outcome : Subsystem → InitOutcome) (protect : Bool) :
    (Pointers.startUp outcome protect).Suffices ↔ Bearable outcome := by
  constructor
  · intro h
    obtain ⟨hthreat, hrules⟩ := Bool.and_eq_true_iff.mp h.ruleEngine
    obtain ⟨hsandbox, hdecoy⟩ := Bool.and_eq_true_iff.mp h.decoy
    exact ⟨hsandbox, hthreat, hrules, h.chaosDetector, hdecoy, h.activeResponse, h.quarantine⟩
  · intro h
    exact ⟨Bool.and_eq_true_iff.mpr ⟨h.threatLevel, h.ruleEngine⟩, h.chaosDetector,
      Bool.and_eq_true_iff.mpr ⟨h.sandbox, h.decoy⟩, h.activeResponse, h.quarantine⟩

section Serving

variable {α : Type} {platform : Platform α} {pointers : Pointers}

/-- Only what is missing is called so. -/
def Honest (pointers : Pointers) (events : List Event) : Prop :=
  ∀ missing text, .notAvailable missing text ∈ events → pointers.isSet missing = false

/-- No null pointer is used. -/
def Passes (pointers : Pointers) (result : Except Subsystem (Written α)) : Prop :=
  ∃ events bridge, result = .ok (events, bridge) ∧ Honest pointers events

/-- Besides, an event is written. -/
def Answers (pointers : Pointers) (result : Except Subsystem (Written α)) : Prop :=
  ∃ events bridge, result = .ok (events, bridge) ∧ Honest pointers events ∧ events ≠ []

theorem Answers.passes {result : Except Subsystem (Written α)} (h : Answers pointers result) :
    Passes pointers result := by
  obtain ⟨events, bridge, hresult, hhonest, -⟩ := h
  exact ⟨events, bridge, hresult, hhonest⟩

theorem honest_nil : Honest pointers [] := by
  intro missing text h
  exact absurd h (by simp)

theorem Honest.append {events events' : List Event} (h : Honest pointers events)
    (h' : Honest pointers events') : Honest pointers (events ++ events') := by
  intro missing text hmem
  rcases List.mem_append.mp hmem with hmem | hmem
  · exact h missing text hmem
  · exact h' missing text hmem

theorem honest_singleton {event : Event}
    (h : ∀ missing text, event = .notAvailable missing text → pointers.isSet missing = false) :
    Honest pointers [event] := by
  intro missing text hmem
  exact h missing text (List.mem_singleton.mp hmem).symm

theorem answers_singleton {event : Event} (bridge : Globals α)
    (h : ∀ missing text, event = .notAvailable missing text → pointers.isSet missing = false) :
    Answers pointers (.ok ([event], bridge)) :=
  ⟨[event], bridge, rfl, honest_singleton h, by simp⟩

theorem passes_nil (bridge : Globals α) : Passes pointers (.ok ([], bridge)) :=
  ⟨[], bridge, rfl, honest_nil⟩

theorem answers_core (outside : Outside) (command : Bridge.Command) (bridge : Globals α) :
    Answers pointers (core platform outside command bridge) :=
  answers_singleton _ (by simp)

theorem answers_peripheral (outside : Outside) (bridge : Globals α) :
    Answers pointers (peripheral platform outside bridge) :=
  answers_singleton _ (by simp)

theorem answers_guarded {subsystem : Subsystem} {text : ByteString}
    {serve : Globals α → Except Subsystem (Written α)} {bridge : Globals α}
    (hserve : pointers.isSet subsystem = true → Answers pointers (serve bridge)) :
    Answers pointers (guarded pointers subsystem text serve bridge) := by
  rw [guarded]
  split
  · rename_i hset
    exact hserve hset
  · rename_i hnull
    refine answers_singleton bridge ?_
    intro missing _ hevent
    obtain ⟨rfl, -⟩ := Event.notAvailable.inj hevent
    simpa using hnull

/-- What is written before the reply. -/
theorem Passes.answers_append {result : Except Subsystem (Written α)} {reply : Event}
    (h : Passes pointers result) (hreply : ∀ missing text, reply ≠ .notAvailable missing text) :
    Answers pointers (do
      let (events, bridge) ← result
      return (events ++ [reply], bridge)) := by
  obtain ⟨events, bridge, rfl, hhonest⟩ := h
  refine ⟨events ++ [reply], bridge, rfl, hhonest.append (honest_singleton ?_), by simp⟩
  intro missing text hevent
  exact absurd hevent (hreply missing text)

variable (platform) in
theorem pushChaos_passes (hsuffices : pointers.Suffices) (value : Double) (synthetic : Bool)
    (bridge : Globals α) :
    Passes pointers (pushChaos platform pointers value synthetic bridge) := by
  rw [pushChaos, deref_bind_of_isSet hsuffices.chaosDetector]
  split
  · exact passes_nil _
  · rw [deref_bind_of_isSet hsuffices.ruleEngine]
    refine ⟨_, _, rfl, Honest.append ?_ (honest_singleton (by simp))⟩
    split
    · exact honest_singleton (by simp)
    · exact honest_nil

variable (platform) in
theorem pushChaosBatch_passes (hsuffices : pointers.Suffices) (synthetic : Bool)
    (values : List Double) (bridge : Globals α) :
    Passes pointers (pushChaosBatch platform pointers synthetic values bridge) := by
  induction values generalizing bridge with
  | nil => exact passes_nil bridge
  | cons value values ih =>
      obtain ⟨events, next, hpush, hhonest⟩ :=
        pushChaos_passes platform hsuffices value synthetic bridge
      obtain ⟨later, after, hrest, hlater⟩ := ih next
      refine ⟨events ++ later, after, ?_, hhonest.append hlater⟩
      rw [pushChaosBatch, hpush]
      show (pushChaosBatch platform pointers synthetic values next >>= fun written =>
        pure (events ++ written.1, written.2)) = .ok (events ++ later, after)
      rw [hrest]
      rfl

theorem buildSnapshot_ok (hsuffices : pointers.Suffices) (reports : Reports)
    (bridge : Globals α) : ∃ snap, buildSnapshot pointers reports bridge = .ok snap := by
  rw [buildSnapshot, deref_bind_of_isSet hsuffices.threatLevel]
  exact ⟨_, rfl⟩

variable (platform) in
theorem onLockdown_ok (hsuffices : pointers.Suffices) (now : Int64) (reason : ByteString)
    (bridge : Globals α) :
    ∃ after, onLockdown platform pointers now reason bridge = .ok after := by
  rw [onLockdown, deref_bind_of_isSet hsuffices.sandbox]
  exact ⟨_, rfl⟩

theorem dispatchWormTrigger_answers (hsuffices : pointers.Suffices) (now : Int64)
    (reason : ByteString) (bridge : Globals α) :
    Answers pointers (dispatchWormTrigger platform pointers now reason bridge) := by
  simp only [dispatchWormTrigger]
  split
  · obtain ⟨after, hafter⟩ := onLockdown_ok platform hsuffices now reason
      (bridge.triggerLockdown platform reason).2
    rw [hafter]
    exact answers_singleton after (by simp)
  · exact answers_singleton _ (by simp)

theorem dispatch_answers (hsuffices : pointers.Suffices) (outside : Outside) (request : Request)
    (bridge : Globals α) :
    Answers pointers (dispatch platform pointers outside request bridge) := by
  cases request with
  | ping =>
      rw [dispatch]
      exact answers_core outside .ping bridge
  | getSnapshot =>
      obtain ⟨snap, hsnap⟩ := buildSnapshot_ok hsuffices outside.reports bridge
      rw [dispatch, hsnap]
      exact answers_singleton bridge (by simp)
  | observeSignal score source =>
      rw [dispatch, deref_bind_of_isSet hsuffices.threatLevel,
        deref_bind_of_isSet hsuffices.ruleEngine]
      exact answers_core outside _ bridge
  | pushChaos value synthetic =>
      exact (pushChaos_passes platform hsuffices value synthetic bridge).answers_append (by simp)
  | pushChaosBatch synthetic values =>
      exact (pushChaosBatch_passes platform hsuffices synthetic values bridge).answers_append
        (by simp)
  | wormTrigger reason => exact dispatchWormTrigger_answers hsuffices _ reason bridge
  | wormUnlock => exact answers_core outside .wormUnlock bridge
  | veeamIntegrityCheck => exact answers_guarded fun _ => answers_core outside _ bridge
  | veeamStatus => exact answers_guarded fun _ => answers_core outside _ bridge
  | sandboxGetTree =>
      rw [dispatch, deref_bind_of_isSet hsuffices.sandbox]
      exact answers_core outside _ bridge
  | decoyPlant =>
      rw [dispatch, deref_bind_of_isSet hsuffices.decoy]
      exact answers_core outside _ bridge
  | decoyTouch path action session detail =>
      rw [dispatch, deref_bind_of_isSet hsuffices.decoy]
      exact answers_core outside _ bridge
  | activeResponseServe session resource iocHint =>
      rw [dispatch, deref_bind_of_isSet hsuffices.activeResponse]
      exact answers_peripheral outside bridge
  | runDemo => exact answers_core outside (.runDemo outside.entries) bridge
  | getAttribution session =>
      rw [dispatch, deref_bind_of_isSet hsuffices.decoy,
        deref_bind_of_isSet hsuffices.activeResponse]
      exact answers_peripheral outside bridge
  | scanAndQuarantine path =>
      rw [dispatch]
      split
      · exact answers_singleton bridge (by simp)
      · refine answers_guarded fun hclamd => ?_
        split
        · rw [deref_bind_of_isSet (hsuffices.quarantine hclamd)]
          exact answers_peripheral outside bridge
        · exact answers_peripheral outside bridge
  | blockIp ip ttl =>
      rw [dispatch]
      split
      · exact answers_singleton bridge (by simp)
      · exact answers_guarded fun _ => answers_peripheral outside bridge
  | unblockIp ip =>
      rw [dispatch]
      split
      · exact answers_singleton bridge (by simp)
      · exact answers_guarded fun _ => answers_peripheral outside bridge
  | unlockVote approver =>
      rw [dispatch]
      split
      · exact answers_singleton bridge (by simp)
      · exact answers_guarded fun _ => answers_core outside _ bridge
  | getUnlockStatus =>
      obtain ⟨snap, hsnap⟩ := buildSnapshot_ok hsuffices outside.reports bridge
      rw [dispatch, hsnap]
      exact answers_singleton bridge (by simp)
  | triageEvent eventType source score rawDetail =>
      exact answers_guarded fun _ => answers_core outside _ bridge
  | agentSubmit agentName input priority =>
      rw [dispatch]
      refine answers_guarded fun _ => ?_
      split
      · exact answers_singleton bridge (by simp)
      · exact answers_peripheral outside bridge
  | agentStatus => exact answers_guarded fun _ => answers_peripheral outside bridge
  | networkGetSsids => exact answers_peripheral outside bridge
  | nacSimulateDevice => exact answers_peripheral outside bridge
  | zerotrustEvaluate => exact answers_peripheral outside bridge
  | unknown cmd => exact answers_singleton bridge (by simp)

theorem onPacketWindow_passes (hsuffices : pointers.Suffices) (flush : Bridge.PacketFlush)
    (bridge : Globals α) : Passes pointers (onPacketWindow platform pointers flush bridge) := by
  obtain ⟨events, after, hpush, hhonest⟩ :=
    pushChaos_passes platform hsuffices
      (flush.window.meanEntropyBits.map (· / 8)) flush.window.synthetic _
  simp only [onPacketWindow, if_pos hsuffices.chaosDetector]
  rw [hpush]
  exact ⟨events, _, rfl, hhonest⟩

theorem onFsEvent_passes (ev : Bridge.FsEvent) (bridge : Globals α) :
    Passes pointers (onFsEvent platform pointers ev bridge) := by
  simp only [onFsEvent]
  split
  · exact passes_nil _
  · exact passes_nil _

theorem runDemoOp_passes (hsuffices : pointers.Suffices) (now : Int64) (op : Bridge.DemoOp)
    (bridge : Globals α) : Passes pointers (runDemoOp platform pointers now op bridge) := by
  cases op with
  | signal score => exact passes_nil _
  | push value => exact pushChaos_passes platform hsuffices value true bridge
  | plant =>
      rw [runDemoOp, deref_bind_of_isSet hsuffices.decoy]
      exact passes_nil _
  | touch path action =>
      rw [runDemoOp, deref_bind_of_isSet hsuffices.decoy]
      exact passes_nil _
  | serve entries =>
      rw [runDemoOp, deref_bind_of_isSet hsuffices.activeResponse]
      exact passes_nil _
  | triggerLockdown => exact passes_nil _
  | lockAll =>
      rw [runDemoOp, deref_bind_of_isSet hsuffices.sandbox]
      exact passes_nil _
  | completed => exact (answers_singleton _ (by simp)).passes

variable (platform) in
theorem perform_passes (hsuffices : pointers.Suffices) (bridge : Globals α) (action : Action) :
    Passes pointers (perform platform pointers bridge action) := by
  cases action with
  | command outside request => exact (dispatch_answers hsuffices outside request bridge).passes
  | malformed => exact (answers_singleton bridge (by simp)).passes
  | tick reports =>
      obtain ⟨snap, hsnap⟩ := buildSnapshot_ok hsuffices reports bridge
      rw [perform, hsnap]
      exact (answers_singleton bridge (by simp)).passes
  | packetWindow flush => exact onPacketWindow_passes hsuffices flush bridge
  | eventLog signal => exact passes_nil _
  | fsEvent event => exact onFsEvent_passes event bridge
  | demoStep thread now =>
      rw [perform, runDemoStep]
      split
      · exact passes_nil bridge
      · exact runDemoOp_passes hsuffices now _ _
  | background entries => exact passes_nil _

variable (platform) in
theorem perform_answers (hsuffices : pointers.Suffices) (bridge : Globals α) {action : Action}
    (hcommand : action.isCommand = true) :
    Answers pointers (perform platform pointers bridge action) := by
  cases action with
  | command outside request => exact dispatch_answers hsuffices outside request bridge
  | malformed => exact answers_singleton bridge (by simp)
  | _ => exact absurd hcommand (by simp [Action.isCommand])

end Serving

section Runs

variable {α : Type} (platform : Platform α) {pointers : Pointers} {start : Globals α}

/-- A step goes well: no null pointer is used, a command yields an event, and no subsystem that
is there is called missing. -/
structure Served (pointers : Pointers) (t : Transition (Process α) Action) : Prop where
  faultless : t.after.fault = none
  answered : t.label.isCommand = true →
    ∃ events, events ≠ [] ∧ t.after.emitted = t.before.emitted ++ events
  honest : ∀ events, t.after.emitted = t.before.emitted ++ events → Honest pointers events

variable {platform}

theorem step_of_ok {process : Process α} {action : Action} {events : List Event}
    {bridge : Globals α}
    (hperform : perform platform pointers process.bridge action = .ok (events, bridge)) :
    step platform pointers process action =
      { process with bridge := bridge, emitted := process.emitted ++ events } := by
  simp only [step, hperform]

theorem step_served (hsuffices : pointers.Suffices) {process : Process α}
    (hfault : process.fault = none) (action : Action) :
    Served pointers ⟨process, action, step platform pointers process action⟩ := by
  obtain ⟨events, bridge, hperform, hhonest⟩ :=
    perform_passes platform hsuffices process.bridge action
  refine ⟨?_, ?_, ?_⟩
  · rw [step_of_ok hperform]
    exact hfault
  · intro hcommand
    obtain ⟨events', bridge', hperform', -, hne⟩ :=
      perform_answers platform hsuffices process.bridge hcommand
    exact ⟨events', hne, by rw [step_of_ok hperform']⟩
  · intro events' hevents
    rw [step_of_ok hperform] at hevents
    exact List.append_cancel_left hevents ▸ hhonest

theorem trace_served (hsuffices : pointers.Suffices)
    {steps : List (Transition (Process α) Action)} {process : Process α}
    (htrace : Trace (degradedSystem platform pointers start) steps process) :
    ∀ t ∈ steps, Served pointers t := by
  induction htrace with
  | start hinit => simp
  | extend htrace hstep ih =>
      obtain ⟨hfault, -, rfl⟩ := hstep
      intro t ht
      rcases List.mem_append.mp ht with ht | ht
      · exact ih t ht
      · obtain rfl := List.mem_singleton.mp ht
        exact step_served hsuffices hfault _

/-- What can happen first passes. -/
theorem perform_ok_of_served
    (hserved : ∀ steps process, Trace (degradedSystem platform pointers start) steps process →
      ∀ t ∈ steps, Served pointers t)
    (action : Action) (henabled : action.Enabled pointers) :
    ∃ written, perform platform pointers start action = .ok written := by
  have hstep : (degradedSystem platform pointers start).Step { bridge := start } action
      (step platform pointers { bridge := start } action) := ⟨rfl, henabled, rfl⟩
  have hmem : (⟨{ bridge := start }, action, step platform pointers { bridge := start } action⟩ :
      Transition (Process α) Action) ∈ [] ++ [⟨_, action, _⟩] := List.mem_singleton.mpr rfl
  have hfaultless := (hserved _ _ ((Trace.start rfl).extend hstep) _ hmem).faultless
  cases hperform : perform platform pointers start action with
  | ok written => exact ⟨written, rfl⟩
  | error subsystem => simp [step, hperform] at hfaultless

/-- A file is scanned and found infected. -/
def infectedScan : Outside where
  inputs := ⟨0, none, [], fun _ _ _ _ => []⟩
  entries := []
  infected := true
  threw := false
  reports := {}

theorem suffices_of_served
    (hserved : ∀ steps process, Trace (degradedSystem platform pointers start) steps process →
      ∀ t ∈ steps, Served pointers t) : pointers.Suffices := by
  have hcommand : ∀ request, ∃ written,
      dispatch platform pointers infectedScan request start = .ok written := fun request =>
    perform_ok_of_served hserved (.command infectedScan request) trivial
  refine ⟨?_, ?_, ?_, ?_, ?_⟩
  · obtain ⟨written, h⟩ := hcommand (.observeSignal 0 [])
    rw [dispatch, deref_bind_eq_ok_iff, deref_bind_eq_ok_iff] at h
    exact h.2.1
  · obtain ⟨written, h⟩ := hcommand (.pushChaos (.finite 0) true)
    rw [dispatch, pushChaos, bind_assoc, deref_bind_eq_ok_iff] at h
    exact h.1
  · obtain ⟨written, h⟩ := hcommand .decoyPlant
    rw [dispatch, deref_bind_eq_ok_iff] at h
    exact h.1
  · obtain ⟨written, h⟩ := hcommand (.activeResponseServe [] [] [])
    rw [dispatch, deref_bind_eq_ok_iff] at h
    exact h.1
  · intro hclamd
    obtain ⟨written, h⟩ := hcommand (.scanAndQuarantine "C")
    rw [dispatch, if_neg (by decide), guarded, if_pos hclamd] at h
    exact (deref_bind_eq_ok_iff.mp h).1

end Runs

/-- What start-up leaves when the threat state machine could not be constructed. -/
def threatLevelThrew : Subsystem → InitOutcome :=
  fun subsystem => if subsystem = .threatLevel then .threw else .completed

def sampleStart : Globals (List (ByteString × ByteString)) where
  core := { engine := { world := { audit := [] } } }
  sandbox := .construct "/tmp/astartis_demo"
  chaos := { windowSize := 16 }
  tokens := {}
  unlock := .construct Unlock.demoThreshold
  approverIdentities := {}

/-- What a request is to the bridge. -/
def toCommand (outside : Outside) (request : Request) : Bridge.Command :=
  if request.immediate?.isSome then .ping
  else
    match request with
    | .getSnapshot => .getSnapshot
    | .observeSignal score source => .observeSignal score.toInt source
    | .pushChaos value synthetic => .pushChaos value synthetic
    | .pushChaosBatch synthetic values => .pushChaosBatch values synthetic
    | .wormTrigger reason => .wormTrigger reason
    | .wormUnlock => .wormUnlock
    | .veeamIntegrityCheck => .veeamIntegrityCheck
    | .veeamStatus => .veeamStatus
    | .sandboxGetTree => .sandboxGetTree
    | .decoyPlant => .decoyPlant
    | .decoyTouch path action session detail => .decoyTouch path action session detail
    | .runDemo => .runDemo outside.entries
    | .unlockVote approver => .unlockVote approver
    | .getUnlockStatus => .getUnlockStatus
    | .triageEvent eventType source score rawDetail =>
        .triageEvent ⟨eventType, source, score.toInt, rawDetail⟩
    | _ => .peripheral outside.entries

def Action.toBridge : Action → Bridge.Action
  | .command outside request => .command outside.inputs (toCommand outside request)
  | .malformed | .tick _ => .background []
  | .packetWindow flush => .packetWindow flush
  | .eventLog signal => .eventLog signal
  | .fsEvent event => .fsEvent event
  | .demoStep thread now => .demoStep thread now
  | .background entries => .background entries

section Complete

variable {α : Type} {platform : Platform α} {pointers : Pointers}

variable (platform) in
theorem pushChaos_complete (hcomplete : ∀ subsystem, pointers.isSet subsystem = true)
    (value : Double) (synthetic : Bool) (bridge : Globals α) :
    ∃ events, pushChaos platform pointers value synthetic bridge =
      .ok (events, bridge.pushChaos platform value synthetic) := by
  rw [pushChaos, deref_bind_of_isSet (hcomplete _)]
  split
  · exact ⟨_, rfl⟩
  · rw [deref_bind_of_isSet (hcomplete _)]
    exact ⟨_, rfl⟩

variable (platform) in
theorem pushChaosBatch_complete (hcomplete : ∀ subsystem, pointers.isSet subsystem = true)
    (synthetic : Bool) (values : List Double) (bridge : Globals α) :
    ∃ events, pushChaosBatch platform pointers synthetic values bridge =
      .ok (events, values.foldl (fun bridge value => bridge.pushChaos platform value synthetic)
        bridge) := by
  induction values generalizing bridge with
  | nil => exact ⟨[], rfl⟩
  | cons value values ih =>
      obtain ⟨events, hpush⟩ :=
        pushChaos_complete platform hcomplete value synthetic bridge
      obtain ⟨later, hrest⟩ := ih (bridge.pushChaos platform value synthetic)
      refine ⟨events ++ later, ?_⟩
      rw [pushChaosBatch, hpush]
      show (pushChaosBatch platform pointers synthetic values _ >>= fun written =>
        pure (events ++ written.1, written.2)) = _
      rw [hrest]
      rfl

theorem dispatchWormTrigger_complete (hcomplete : ∀ subsystem, pointers.isSet subsystem = true)
    (inputs : Inputs) (reason : ByteString) (bridge : Globals α) :
    ∃ events, dispatchWormTrigger platform pointers inputs.now reason bridge =
      .ok (events, (Bridge.dispatchWormTrigger platform inputs reason bridge).2) := by
  simp only [dispatchWormTrigger, Bridge.dispatchWormTrigger]
  split
  · rw [onLockdown, deref_bind_of_isSet (hcomplete _)]
    simp only [hcomplete, if_true]
    exact ⟨_, rfl⟩
  · exact ⟨_, rfl⟩

theorem guarded_complete (hcomplete : ∀ subsystem, pointers.isSet subsystem = true)
    (subsystem : Subsystem) (text : ByteString)
    (serve : Globals α → Except Subsystem (Written α)) (bridge : Globals α) :
    guarded pointers subsystem text serve bridge = serve bridge :=
  if_pos (hcomplete subsystem)

/-- A command is served as `dispatch` of the bridge serves it. -/
theorem dispatch_complete (hcomplete : ∀ subsystem, pointers.isSet subsystem = true)
    (outside : Outside) (request : Request) (bridge : Globals α) :
    ∃ events, dispatch platform pointers outside request bridge =
      .ok (events,
        (Bridge.dispatch platform outside.inputs bridge (toCommand outside request)).2) := by
  have hsnapshot : ∃ snap, buildSnapshot pointers outside.reports bridge = .ok snap := by
    rw [buildSnapshot, deref_bind_of_isSet (hcomplete _)]
    exact ⟨_, rfl⟩
  cases request with
  | getSnapshot =>
      obtain ⟨snap, hsnap⟩ := hsnapshot
      rw [dispatch, hsnap]
      exact ⟨_, rfl⟩
  | getUnlockStatus =>
      obtain ⟨snap, hsnap⟩ := hsnapshot
      rw [dispatch, hsnap]
      exact ⟨_, rfl⟩
  | pushChaos value synthetic =>
      obtain ⟨events, hpush⟩ :=
        pushChaos_complete platform hcomplete value synthetic bridge
      rw [dispatch, hpush]
      exact ⟨_, rfl⟩
  | pushChaosBatch synthetic values =>
      obtain ⟨events, hpush⟩ :=
        pushChaosBatch_complete platform hcomplete synthetic values bridge
      rw [dispatch, hpush]
      exact ⟨_, rfl⟩
  | wormTrigger reason =>
      exact dispatchWormTrigger_complete hcomplete outside.inputs reason bridge
  | observeSignal score source =>
      rw [dispatch, deref_bind_of_isSet (hcomplete _), deref_bind_of_isSet (hcomplete _)]
      exact ⟨_, rfl⟩
  | getAttribution session =>
      rw [dispatch, deref_bind_of_isSet (hcomplete _), deref_bind_of_isSet (hcomplete _)]
      exact ⟨_, rfl⟩
  | sandboxGetTree | decoyPlant | decoyTouch | activeResponseServe =>
      rw [dispatch, deref_bind_of_isSet (hcomplete _)]
      exact ⟨_, rfl⟩
  | ping | wormUnlock | runDemo | networkGetSsids | nacSimulateDevice | zerotrustEvaluate
  | unknown =>
      rw [dispatch]
      exact ⟨_, rfl⟩
  | veeamIntegrityCheck | veeamStatus | triageEvent | agentStatus =>
      rw [dispatch, guarded_complete hcomplete]
      exact ⟨_, rfl⟩
  | scanAndQuarantine path =>
      cases path with
      | nil => exact ⟨_, rfl⟩
      | cons b path =>
          rw [dispatch, if_neg (by simp), guarded_complete hcomplete]
          split
          · rw [deref_bind_of_isSet (hcomplete _)]
            exact ⟨_, rfl⟩
          · exact ⟨_, rfl⟩
  | blockIp ip ttl =>
      cases ip with
      | nil => exact ⟨_, rfl⟩
      | cons b ip =>
          rw [dispatch, if_neg (by simp), guarded_complete hcomplete]
          exact ⟨_, rfl⟩
  | unblockIp ip =>
      cases ip with
      | nil => exact ⟨_, rfl⟩
      | cons b ip =>
          rw [dispatch, if_neg (by simp), guarded_complete hcomplete]
          exact ⟨_, rfl⟩
  | unlockVote approver =>
      cases approver with
      | nil => exact ⟨_, rfl⟩
      | cons b approver =>
          rw [dispatch, if_neg (by simp), guarded_complete hcomplete]
          exact ⟨_, rfl⟩
  | agentSubmit agentName input priority =>
      have himmediate : (Request.agentSubmit agentName input priority).immediate?.isSome = true ↔
          agentName = [] ∨ input = [] := by
        simp only [Request.immediate?]
        split <;> simp_all
      rw [dispatch, guarded_complete hcomplete]
      simp only [toCommand, himmediate]
      split
      · exact ⟨_, rfl⟩
      · exact ⟨_, rfl⟩

theorem onPacketWindow_complete (hcomplete : ∀ subsystem, pointers.isSet subsystem = true)
    (flush : Bridge.PacketFlush) (bridge : Globals α) :
    ∃ events, onPacketWindow platform pointers flush bridge =
      .ok (events, Bridge.onPacketWindow platform flush bridge) := by
  obtain ⟨events, hpush⟩ := pushChaos_complete platform hcomplete
    (flush.window.meanEntropyBits.map (· / 8)) flush.window.synthetic _
  simp only [onPacketWindow, Bridge.onPacketWindow, observeIfSet, hcomplete, if_true]
  rw [hpush]
  exact ⟨events, rfl⟩

theorem onFsEvent_complete (hcomplete : ∀ subsystem, pointers.isSet subsystem = true)
    (ev : Bridge.FsEvent) (bridge : Globals α) :
    onFsEvent platform pointers ev bridge = .ok ([], Bridge.onFsEvent platform ev bridge) := by
  simp only [onFsEvent, Bridge.onFsEvent, observeIfSet, hcomplete, if_true, true_and,
    List.contains_iff_mem]
  split
  · rfl
  · rfl

theorem runDemoOp_complete (hcomplete : ∀ subsystem, pointers.isSet subsystem = true)
    (now : Int64) (op : Bridge.DemoOp) (bridge : Globals α) :
    ∃ events, runDemoOp platform pointers now op bridge =
      .ok (events, op.run platform now bridge) := by
  cases op with
  | signal score =>
      simp only [runDemoOp, observeIfSet, evaluateIfSet, hcomplete, if_true]
      exact ⟨[], rfl⟩
  | push value => exact pushChaos_complete platform hcomplete value true bridge
  | plant | touch | serve | lockAll =>
      rw [runDemoOp, deref_bind_of_isSet (hcomplete _)]
      exact ⟨[], rfl⟩
  | triggerLockdown => exact ⟨[], rfl⟩
  | completed => exact ⟨_, rfl⟩

variable (platform) in
theorem perform_complete (hcomplete : ∀ subsystem, pointers.isSet subsystem = true)
    (bridge : Globals α) (action : Action) :
    ∃ events, perform platform pointers bridge action =
      .ok (events, Bridge.perform platform bridge action.toBridge) := by
  cases action with
  | command outside request => exact dispatch_complete hcomplete outside request bridge
  | malformed => exact ⟨_, rfl⟩
  | tick reports =>
      rw [perform, buildSnapshot, bind_assoc, deref_bind_of_isSet (hcomplete _)]
      exact ⟨_, rfl⟩
  | packetWindow flush => exact onPacketWindow_complete hcomplete flush bridge
  | eventLog signal =>
      simp only [perform, onEventSignal, observeIfSet, evaluateIfSet, hcomplete, if_true]
      exact ⟨[], rfl⟩
  | fsEvent event => exact ⟨[], onFsEvent_complete hcomplete event bridge⟩
  | demoStep thread now =>
      simp only [perform, Action.toBridge, Bridge.perform, runDemoStep, Bridge.runDemoStep]
      cases bridge.nextDemoOp? thread with
      | none => exact ⟨[], rfl⟩
      | some op => exact runDemoOp_complete hcomplete now op _
  | background entries => exact ⟨[], rfl⟩

/-- The process that misses nothing runs as the bridge does. -/
theorem trace_complete (hcomplete : ∀ subsystem, pointers.isSet subsystem = true)
    {audit : α} {setup : Setup} {start : Globals α}
    (hlaunch : launch platform setup true audit = .ok start)
    {steps : List (Transition (Process α) Action)} {process : Process α}
    (htrace : Trace (degradedSystem platform pointers start) steps process) :
    Trace (bridgeSystem platform true audit)
      (steps.map fun t => ⟨t.before.bridge, t.label.toBridge, t.after.bridge⟩) process.bridge := by
  refine htrace.simulate Process.bridge (fun _ action => action.toBridge) ?_ ?_
  · rintro process rfl
    exact ⟨setup, hlaunch⟩
  · rintro process action after ⟨-, -, rfl⟩
    refine ⟨fun _ => rfl, ?_⟩
    obtain ⟨events, hperform⟩ := perform_complete platform hcomplete
      process.bridge action
    rw [step_of_ok hperform]

end Complete

end Astartis.Degradation
