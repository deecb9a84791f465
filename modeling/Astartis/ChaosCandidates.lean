import Astartis.BridgeSafety
import Astartis.Degradation
import Astartis.RuleReports

/-!
What `on_chaos_window` writes for a window.  The candidate for the firewall is written on the
flag `worm_triggered` of the result, which RULE-05 never sets.
-/

namespace Astartis.Degradation

open Bridge (Core Globals Platform onChaosWindow)
open Chaos
open Rules
open TransitionSystem

variable {α : Type} (platform : Platform α)

/-- The events that `on_chaos_window` writes. -/
def windowEvents (w : ChaosWindow) (core : Core α) : List Event :=
  let (rr, _) := core.engine.evaluateChaosWindow platform.wiring w
  let candidate :=
    if rr.wormTriggered && !w.synthetic then [Event.rule05FirewallCandidate w.K w.anomalous]
    else []
  candidate ++ [.chaosWindow w]

/-- A completed window is delivered to `on_chaos_window`. -/
theorem pushChaos_windowEvents {pointers : Pointers} (hdetector : pointers.isSet .chaosDetector)
    (hrules : pointers.isSet .ruleEngine) {value : Double} {synthetic : Bool}
    {bridge : Globals α} {w : ChaosWindow}
    (hw : bridge.chaos.completedWindow? platform.analysis value synthetic = some w) :
    pushChaos platform pointers value synthetic bridge =
      .ok (windowEvents platform w
          (Core.addEntry platform "chaos_window" w.text bridge.core).2,
        bridge.pushChaos platform value synthetic) := by
  simp only [pushChaos, Pointers.deref, hdetector, hrules, if_true, hw]
  rfl

def Event.isCandidate : Event → Bool
  | .rule05FirewallCandidate _ _ => true
  | _ => false

/-- A window for `on_chaos_window`, or what everything else makes of its globals between two
windows. -/
inductive Delivery (α : Type)
  | window (w : ChaosWindow)
  | elsewhere (core : Core α)

/-- The runs of a new rule engine.  Only `evaluate_chaos_window` touches the count of
consecutive windows. -/
def deliverySystem : System (Core α) (Delivery α) where
  Init := fun core => core.engine.rules = {}
  Step := fun core delivery after =>
    match delivery with
    | .window w => after = onChaosWindow platform w core
    | .elsewhere core' => after = core' ∧
        core'.engine.rules.chaosHighCount = core.engine.rules.chaosHighCount

abbrev DeliveryStep (α : Type) := Transition (Core α) (Delivery α)

def delivered? (t : DeliveryStep α) : Option ChaosWindow :=
  match t.label with
  | .window w => some w
  | .elsewhere _ => none

def delivered (steps : List (DeliveryStep α)) : List ChaosWindow :=
  steps.filterMap delivered?

def FiresRule05 (w : ChaosWindow) (core : Core α) : Prop :=
  (core.engine.evaluateChaosWindow platform.wiring w).1.fired = true

/-- A candidate is written for the window exactly if RULE-05 fires on it and it is real. -/
def CandidateExact (w : ChaosWindow) (core : Core α) : Prop :=
  (∃ event ∈ windowEvents platform w core, event.isCandidate = true) ↔
    FiresRule05 platform w core ∧ w.synthetic = false

section Runs

variable {platform}

theorem windowEvents_eq (w : ChaosWindow) (core : Core α) :
    windowEvents platform w core = [.chaosWindow w] := by
  simp only [windowEvents, Engine.evaluateChaosWindow_wormTriggered, Bool.false_and]
  rfl

theorem candidateExact_iff (w : ChaosWindow) (core : Core α) :
    CandidateExact platform w core ↔ (FiresRule05 platform w core → w.synthetic = true) := by
  have hnever : ¬ ∃ event ∈ windowEvents platform w core, event.isCandidate = true := by
    rw [windowEvents_eq]
    simp [Event.isCandidate]
  rw [CandidateExact, iff_false_left hnever, not_and, Bool.not_eq_false]

theorem onChaosWindow_chaosHighCount (w : ChaosWindow) (core : Core α) :
    (onChaosWindow platform w core).engine.rules.chaosHighCount =
      if isHigh w then core.engine.rules.chaosHighCount + 1 else 0 := by
  rw [← @evaluateChaosWindow_chaosHighCount _ platform.wiring]
  simp only [onChaosWindow, Engine.evaluateChaosWindow_wormTriggered]
  rfl

theorem chaosHighCount_eq_delivered {steps : List (DeliveryStep α)} {core : Core α}
    (htrace : Trace (deliverySystem platform) steps core) :
    core.engine.rules.chaosHighCount = highRun (delivered steps) := by
  refine htrace.history_invariant (I := fun steps core =>
    core.engine.rules.chaosHighCount = highRun (delivered steps)) ?_ ?_
  · intro core hnew
    rw [show core.engine.rules = {} from hnew]
    rfl
  · intro steps core delivery after hcount hstep
    rw [delivered, filterMap_concat]
    cases delivery with
    | window w =>
        rw [show after = onChaosWindow platform w core from hstep,
          onChaosWindow_chaosHighCount, hcount]
        change _ = ((highRun (delivered steps ++ [w]) : Nat) : Int)
        rw [highRun_concat]
        split <;> simp
    | elsewhere core' =>
        obtain ⟨rfl, hkept⟩ := hstep
        rw [hkept, hcount]
        simp [delivered, delivered?]

theorem firesRule05_iff {steps : List (DeliveryStep α)} {core : Core α}
    (htrace : Trace (deliverySystem platform) steps core) (w : ChaosWindow) :
    FiresRule05 platform w core ↔
      EndsHigh rule05SustainedWindows.toNat (delivered steps ++ [w]) := by
  exact evaluateChaosWindow_fired_iff_endsHigh core.engine
    (chaosHighCount_eq_delivered htrace) w

theorem split_delivered {steps : List (DeliveryStep α)} {before after : List ChaosWindow}
    {w : ChaosWindow} (hsplit : delivered steps = before ++ w :: after) :
    ∃ first t last, steps = first ++ t :: last ∧ t.label = .window w ∧
      delivered first = before := by
  obtain ⟨first, rest, rfl, hfirst, hrest⟩ := List.filterMap_eq_append_iff.mp hsplit
  obtain ⟨skipped, t, last, rfl, hskipped, ht, -⟩ := List.filterMap_eq_cons_iff.mp hrest
  refine ⟨first ++ skipped, t, last, by simp, ?_, ?_⟩
  · rw [delivered?] at ht
    split at ht
    · rename_i hlabel
      rw [hlabel, Option.some.inj ht]
    · exact absurd ht (by simp)
  · rw [delivered, List.filterMap_append, hfirst,
      List.filterMap_eq_nil_iff.mpr hskipped, List.append_nil]

end Runs

/-- In every run the candidates are written for exactly the real windows on which RULE-05
fires if and only if there are none: every window that ends two or more windows in a row above
the threshold is synthetic. -/
theorem trace_candidateExact_iff (platform : Platform α) {steps : List (DeliveryStep α)}
    {core : Core α} (htrace : Trace (deliverySystem platform) steps core) :
    (∀ t ∈ steps, ∀ w, t.label = .window w → CandidateExact platform w t.before) ↔
      ∀ before w after, delivered steps = before ++ w :: after →
        EndsHigh rule05SustainedWindows.toNat (before ++ [w]) → w.synthetic = true := by
  constructor
  · intro hexact before w after hsplit hhigh
    obtain ⟨first, t, last, rfl, hlabel, rfl⟩ := split_delivered hsplit
    apply (candidateExact_iff w t.before).mp (hexact t (by simp) w hlabel)
    exact (firesRule05_iff htrace.split.1 w).mpr hhigh
  · intro hsynthetic t ht w hlabel
    obtain ⟨first, last, rfl⟩ := List.append_of_mem ht
    rw [candidateExact_iff, firesRule05_iff htrace.split.1]
    apply hsynthetic (delivered first) w (delivered last)
    rw [delivered, List.filterMap_append, List.filterMap_cons, delivered?, hlabel]
    rfl

def newCore : Core (List (ByteString × ByteString)) where
  engine := { world := { audit := [] } }

def deliver (core : Core α) : Delivery α → Core α
  | .window w => onChaosWindow platform w core
  | .elsewhere core' => core'

theorem trace_deliver (core : Core α) (hnew : core.engine.rules = {})
    (windows : List ChaosWindow) :
    Trace (deliverySystem platform)
      (execute (deliver platform) core (windows.map Delivery.window))
      ((windows.map Delivery.window).foldl (deliver platform) core) := by
  refine trace_execute_of core (deliver platform) hnew fun core delivery hdelivery => ?_
  obtain ⟨w, -, rfl⟩ := List.mem_map.mp hdelivery
  rfl

/-- The first window above the threshold alone makes no difference yet. -/
theorem one_window_candidateExact_iff :
    let steps := execute (deliver Bridge.samplePlatform) newCore
      ([chaosWindowAbove].map Delivery.window)
    (∀ t ∈ steps, ∀ w, t.label = .window w →
        CandidateExact Bridge.samplePlatform w t.before) ↔
      ∀ before w after, delivered steps = before ++ w :: after →
        EndsHigh rule05SustainedWindows.toNat (before ++ [w]) → w.synthetic = true :=
  trace_candidateExact_iff Bridge.samplePlatform
    (trace_deliver Bridge.samplePlatform newCore rfl [chaosWindowAbove])

/-- RULE-05 fires on the second real window, and no candidate is written for it. -/
theorem second_window_without_candidate :
    ∃ (steps : List (DeliveryStep (List (ByteString × ByteString)))) (core : Core _),
      Trace (deliverySystem Bridge.samplePlatform) steps core ∧
        ∃ t ∈ steps, t.label = .window chaosWindowAbove ∧
          FiresRule05 Bridge.samplePlatform chaosWindowAbove t.before ∧
          chaosWindowAbove.synthetic = false ∧
          ¬ CandidateExact Bridge.samplePlatform chaosWindowAbove t.before := by
  refine ⟨_, _, trace_deliver Bridge.samplePlatform newCore rfl
    [chaosWindowAbove, chaosWindowAbove], _, List.mem_cons_of_mem _ List.mem_cons_self, rfl,
    ?_⟩
  have hfires : FiresRule05 Bridge.samplePlatform chaosWindowAbove
      (onChaosWindow Bridge.samplePlatform chaosWindowAbove newCore) := by
    rw [FiresRule05]
    decide +kernel
  refine ⟨hfires, rfl, fun hexact => ?_⟩
  have hsynthetic := (candidateExact_iff _ _).mp hexact hfires
  exact absurd hsynthetic (by decide)

end Astartis.Degradation
