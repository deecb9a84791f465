import Astartis.GraniteSafety

/-!
The in-flight counters over concurrent `generate` calls.  A call counts itself on entry,
and no way out that a call can take undoes it.
-/

namespace Astartis.Granite

open Audit
open TransitionSystem

/-- The tier whose model binary runs a call. -/
def GraniteModel.physical : GraniteModel → GraniteModel
  | .orchestrator => .accuracy
  | model => model

namespace GraniteClient

variable {σ : Type} (json : Json.Library) (auditAdder : AuditAdder σ)

theorem incrementInflight_inflight (model other : GraniteModel) (self : GraniteClient) :
    (self.incrementInflight model).inflight other =
      self.inflight other + if model.physical = other.physical then 1 else 0 := by
  cases model <;> cases other <;>
    simp [incrementInflight, addInflight, inflight, GraniteModel.physical]

theorem finish_client (exchange : Exchange) (call : Call) (self : GraniteClient) (world : σ) :
    (finish json auditAdder exchange call self world).2.1 = self := by
  simp only [finish]
  split
  · rfl
  · exact (classify_spec json auditAdder call.model _ _ _).2

theorem generate_client (exchange : Exchange) (call : Call) (self : GraniteClient)
    (world : σ) :
    (generate json auditAdder exchange call self world).2.1 =
      self.incrementInflight call.model := by
  simp only [generate, isAllowedModel_tag, Bool.true_eq_false, if_false]
  exact finish_client json auditAdder exchange call _ _

end GraniteClient

/-- A client with the calls that are inside `generate`. -/
structure Inference (σ : Type) where
  client : GraniteClient := {}
  running : List (Exchange × Call) := []
  world : σ

/-- A call enters `generate`, or one of the running calls goes through to its end. -/
inductive Activity
  | enter (exchange : Exchange) (call : Call)
  | leave (index : Nat)

namespace Activity

def entered? : Activity → Option Call
  | .enter _ call => some call
  | .leave _ => none

end Activity

section Runs

variable {σ : Type} (json : Json.Library) (auditAdder : AuditAdder σ)

inductive Inference.Step : Inference σ → Activity → Inference σ → Prop
  | enter (state : Inference σ) (exchange : Exchange) (call : Call) :
      Step state (.enter exchange call)
        { state with
          client := state.client.incrementInflight call.model
          running := state.running ++ [(exchange, call)] }
  | leave {state : Inference σ} {index : Nat} {exchange : Exchange} {call : Call}
      (hrunning : state.running[index]? = some (exchange, call)) :
      Step state (.leave index)
        { client := (state.client.finish json auditAdder exchange call state.world).2.1
          running := state.running.eraseIdx index
          world := (state.client.finish json auditAdder exchange call state.world).2.2 }

def inference (world : σ) : System (Inference σ) Activity where
  Init := fun state => state = { world := world }
  Step := Inference.Step json auditAdder

/-- The calls on one model binary that a run has entered. -/
def entered (tier : GraniteModel)
    (steps : List (Transition (Inference σ) Activity)) : List Call :=
  (steps.filterMap fun t => t.label.entered?).filter fun call =>
    call.model.physical = tier.physical

variable {json : Json.Library} {auditAdder : AuditAdder σ}

/-- The counter of a tier is the number of calls it ever saw. -/
theorem trace_inflight {world : σ} {steps : List (Transition (Inference σ) Activity)}
    {state : Inference σ} (htrace : Trace (inference json auditAdder world) steps state)
    (tier : GraniteModel) :
    state.client.inflight tier = Int32.ofNat (entered tier steps).length := by
  induction htrace with
  | start hinit =>
      obtain rfl := hinit
      cases tier <;> rfl
  | extend _ hstep ih =>
      cases hstep with
      | enter exchange call =>
          rw [GraniteClient.incrementInflight_inflight, ih]
          by_cases hmodel : call.model.physical = tier.physical
          · simp [entered, Activity.entered?, hmodel]
          · simp [entered, Activity.entered?, hmodel]
      | leave hrunning =>
          rw [GraniteClient.finish_client, ih]
          simp [entered, Activity.entered?]

/-- A call gives its counter back on none of its ways out, so in every run that entered a
call on a tier the counter stays up when nothing runs, and keep-alive skips the tier. -/
theorem generate_never_returns_inflight :
    (∀ (json : Json.Library) (auditAdder : AuditAdder σ) (exchange : Exchange) (call : Call)
        (client : GraniteClient) (world : σ),
      (client.generate json auditAdder exchange call world).2.1.inflight call.model ≠
        client.inflight call.model) ∧
    ∀ (json : Json.Library) (auditAdder : AuditAdder σ) (world : σ)
        (steps : List (Transition (Inference σ) Activity)) (state : Inference σ)
        (tier : GraniteModel),
      Trace (inference json auditAdder world) steps state →
        entered tier steps ≠ [] → (entered tier steps).length < 2 ^ 31 →
          state.client.inflight tier ≠ 0 ∧ state.client.skipsKeepAlive tier = true := by
  constructor
  · intro json auditAdder exchange call client world
    rw [GraniteClient.generate_client, GraniteClient.incrementInflight_inflight, if_pos rfl]
    grind
  · intro json auditAdder world steps state tier htrace hentered hbound
    have hcount := trace_inflight htrace tier
    have hpos : 0 < (entered tier steps).length := List.length_pos_iff.mpr hentered
    have hcounter : 0 < state.client.inflight tier := by
      rw [hcount, Int32.lt_iff_toInt_lt, Int32.toInt_ofNat_of_lt hbound]
      simpa using hpos
    constructor
    · intro hzero
      simp [hzero] at hcounter
    · simpa [GraniteClient.skipsKeepAlive] using hcounter

end Runs

/-- Nobody listens on the port of the server. -/
def refusedExchange : Exchange where
  startedAt := 0
  socketError := 10061
  sends := []
  recvs := []
  closedAt := 0

/-- One call that was refused has returned. -/
def refusedRun : List (Transition (Inference (List (ByteString × ByteString))) Activity) :=
  let inside : Inference (List (ByteString × ByteString)) :=
    { client := { inflightFast := 1 }, running := [(refusedExchange, okCall)], world := [] }
  [⟨{ world := [] }, .enter refusedExchange okCall, inside⟩,
    ⟨inside, .leave 0, { inside with running := [] }⟩]

theorem refusedRun_trace :
    Trace (inference okLibrary noteEntry []) refusedRun
      { client := { inflightFast := 1 }, world := [] } := by
  have hstart : Trace (inference okLibrary noteEntry []) [] { world := [] } := .start rfl
  have hinside := hstart.extend (Inference.Step.enter { world := [] } refusedExchange okCall)
  exact hinside.extend (@Inference.Step.leave _ _ _ _ 0 refusedExchange okCall rfl)

theorem refused_call_blocks_keepAlive :
    (({} : GraniteClient).generate okLibrary noteEntry refusedExchange okCall
          []).2.1.inflight .fast ≠ 0 ∧
      ∃ state : Inference (List (ByteString × ByteString)),
        Trace (inference okLibrary noteEntry []) refusedRun state ∧ state.running = [] ∧
          state.client.inflight .fast ≠ 0 ∧ state.client.skipsKeepAlive .fast = true :=
  ⟨generate_never_returns_inflight.1 okLibrary noteEntry refusedExchange okCall {} [],
    _, refusedRun_trace, rfl,
    generate_never_returns_inflight.2 okLibrary noteEntry [] refusedRun _ .fast
      refusedRun_trace (by simp [entered, refusedRun, Activity.entered?, okCall,
        GraniteModel.physical]) (by decide +kernel)⟩

theorem refused_call_leaks :
    (GraniteClient.generate okLibrary noteEntry refusedExchange okCall {} []).1 =
        some { ok := false, modelUsed := "unavailable" } ∧
      ({} : GraniteClient).inflight .fast = 0 ∧
      (GraniteClient.generate okLibrary noteEntry refusedExchange okCall {} []).2.1.inflight
        .fast = 1 := by
  decide +kernel

end Astartis.Granite
