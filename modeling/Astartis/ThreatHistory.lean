import Astartis.ThreatLevel
import Astartis.TransitionSystem

/-!
Runs of the threat state machine.  Tier, counter, audit entries and trigger calls are four views
of one list of tier changes.
-/

namespace Astartis.Threat

open Audit
open TransitionSystem

structure TierChange where
  origin : ThreatTier
  target : ThreatTier
  reason : ByteString

namespace TierChange

/-- The audit entry that `do_transition` writes for the change. -/
def auditEntry (change : TierChange) : ByteString × ByteString :=
  ("threat_tier_transition", ("from=" : ByteString) ++ tierName change.origin ++
    (" to=" : ByteString) ++ tierName change.target ++ (" reason=\"" : ByteString) ++
    change.reason ++ ("\"" : ByteString) ++ (" response=\"" : ByteString) ++
    (makeResponse change.target).description ++ ("\"" : ByteString))

def triggerReason (change : TierChange) : ByteString :=
  ("threat tier reached CRITICAL — " : ByteString) ++ change.reason

def entersCritical (change : TierChange) : Bool :=
  change.target = .critical

end TierChange

/-- The changes lead from one tier to another, each of them to a different tier. -/
def Connected : ThreatTier → List TierChange → ThreatTier → Prop
  | start, [], final => start = final
  | start, change :: rest, final =>
      change.origin = start ∧ change.target ≠ change.origin ∧ Connected change.target rest final

theorem Connected.concat {start final : ThreatTier} {path : List TierChange}
    (hpath : Connected start path final) {change : TierChange} (horigin : change.origin = final)
    (hmoves : change.target ≠ change.origin) :
    Connected start (path ++ [change]) change.target := by
  induction path generalizing start with
  | nil => exact ⟨horigin.trans (Eq.symm hpath), hmoves, rfl⟩
  | cons first path ih => exact ⟨hpath.1, hpath.2.1, ih hpath.2.2⟩

structure Recorded (α : Type) where
  entries : List (ByteString × ByteString)
  triggers : List ByteString
  world : α

def Callbacks.recording {α : Type} (callbacks : Callbacks α) : Callbacks (Recorded α) where
  auditAdder := fun eventType payload w =>
    let (entryId, world) := callbacks.auditAdder eventType payload w.world
    (entryId, { w with entries := w.entries ++ [(eventType, payload)], world := world })
  wormTrigger := fun reason w =>
    { w with triggers := w.triggers ++ [reason], world := callbacks.wormTrigger reason w.world }

inductive TierCall
  | observeSignal (score : Int) (source : ByteString)
  | forceTier (tier : ThreatTier) (reason : ByteString)

structure TierRun (α : Type) where
  machine : ThreatStateMachine
  world : Recorded α

section

variable {α : Type} (callbacks : Callbacks α)

def TierRun.perform (run : TierRun α) : TierCall → TierRun α
  | .observeSignal score source =>
      let (_, machine, world) :=
        run.machine.observeSignal callbacks.recording score source run.world
      { machine := machine, world := world }
  | .forceTier tier reason =>
      let (_, machine, world) :=
        run.machine.forceTier callbacks.recording tier reason run.world
      { machine := machine, world := world }

def tierSystem (world : α) : System (TierRun α) TierCall :=
  ofFunction { machine := {}, world := ⟨[], [], world⟩ } (TierRun.perform callbacks)

/-- Counter, audit entries and trigger calls are those of the changes. -/
structure Follows (path : List TierChange) (run : TierRun α) : Prop where
  connected : Connected .low path run.machine.currentTier
  entries : run.world.entries = path.map TierChange.auditEntry
  counted : run.machine.transitionCount = UInt64.ofNat path.length
  triggers : run.world.triggers =
    (path.filter TierChange.entersCritical).map TierChange.triggerReason

/-- Which way a signal moves the tier, and that it does so once. -/
structure SignalObserved (score : Int) (before after : TierRun α) : Prop where
  up : before.machine.currentTier < after.machine.currentTier ↔
    before.machine.currentTier < targetTier (clampScore score)
  down : after.machine.currentTier < before.machine.currentTier ↔
    clampScore score < tierLowerThreshold before.machine.currentTier - 10
  repeated : ∀ source, after.perform callbacks (.observeSignal score source) = after

end

section Steps

variable {α : Type} {callbacks : Callbacks α}

/-- What a tier change leaves behind. -/
structure Changed (change : TierChange) (before after : TierRun α) : Prop where
  origin : change.origin = before.machine.currentTier
  target : change.target = after.machine.currentTier
  moves : change.target ≠ change.origin
  counted : after.machine.transitionCount = before.machine.transitionCount + 1
  entries : after.world.entries = before.world.entries ++ [change.auditEntry]
  triggers : after.world.triggers = before.world.triggers ++
    if change.entersCritical then [change.triggerReason] else []

theorem changed_doTransition {newTier : ThreatTier} (reason : ByteString) (run : TierRun α)
    (hmoves : newTier ≠ run.machine.currentTier) :
    Changed ⟨run.machine.currentTier, newTier, reason⟩ run
      ⟨(run.machine.doTransition callbacks.recording newTier reason run.world).2.1,
        (run.machine.doTransition callbacks.recording newTier reason run.world).2.2⟩ := by
  have htriggers : ∀ (world : Recorded α) (enters : Bool) (text : ByteString),
      (if enters then callbacks.recording.wormTrigger text world else world).triggers =
        world.triggers ++ if enters then [text] else [] := by
    intro world enters text
    cases enters <;> simp [Callbacks.recording]
  have hentries : ∀ (world : Recorded α) (enters : Bool) (text : ByteString),
      (if enters then callbacks.recording.wormTrigger text world else world).entries =
        world.entries := by
    intro world enters text
    cases enters <;> rfl
  exact ⟨rfl, rfl, hmoves, rfl, hentries _ _ _, htriggers _ _ _⟩

/-- A call changes the tier and reports it, or changes nothing at all. -/
theorem perform_cases (call : TierCall) (run : TierRun α) :
    run.perform callbacks call = run ∨
      ∃ change, Changed change run (run.perform callbacks call) := by
  cases call with
  | observeSignal score source =>
      simp only [TierRun.perform, ThreatStateMachine.observeSignal]
      split
      · rename_i hup
        refine .inr ⟨_, changed_doTransition _ run ?_⟩
        intro heq
        rw [heq] at hup
        exact absurd hup (lt_irrefl _)
      · split
        · rename_i hdown
          refine .inr ⟨_, changed_doTransition _ run ?_⟩
          intro heq
          rw [heq] at hdown
          exact absurd hdown.1 (lt_irrefl _)
        · exact .inl rfl
  | forceTier tier reason =>
      simp only [TierRun.perform, ThreatStateMachine.forceTier]
      split
      · exact .inl rfl
      · rename_i hne
        exact .inr ⟨_, changed_doTransition _ run hne⟩

theorem Follows.concat {path : List TierChange} {change : TierChange}
    {before after : TierRun α} (hpath : Follows path before)
    (hchanged : Changed change before after) : Follows (path ++ [change]) after := by
  constructor
  · rw [← hchanged.target]
    exact hpath.connected.concat hchanged.origin hchanged.moves
  · rw [hchanged.entries, hpath.entries]
    simp
  · rw [hchanged.counted, hpath.counted, List.length_append, List.length_singleton,
      UInt64.ofNat_add]
    rfl
  · rw [hchanged.triggers, hpath.triggers, List.filter_append, List.map_append]
    cases hcritical : change.entersCritical <;> simp [hcritical]

theorem exists_follows {world : α} {steps : List (Transition (TierRun α) TierCall)}
    {run : TierRun α} (htrace : Trace (tierSystem callbacks world) steps run) :
    ∃ path, Follows path run := by
  refine htrace.history_invariant (I := fun _ run => ∃ path, Follows path run) ?_ ?_
  · rintro _ rfl
    exact ⟨[], rfl, rfl, rfl, rfl⟩
  · rintro _ run call _ ⟨path, hpath⟩ rfl
    rcases perform_cases call run with hsame | ⟨change, hchanged⟩
    · rw [hsame]
      exact ⟨path, hpath⟩
    · exact ⟨path ++ [change], hpath.concat hchanged⟩

end Steps

theorem nextTier_eq_or (current : ThreatTier) (score : Int) :
    nextTier current score = targetTier (clampScore score) ∨ nextTier current score = current := by
  simp only [nextTier]
  split
  · exact .inl rfl
  · split
    · exact .inl rfl
    · exact .inr rfl

theorem nextTier_nextTier (current : ThreatTier) (score : Int) :
    nextTier (nextTier current score) score = nextTier current score := by
  rcases nextTier_eq_or current score with hband | hkept
  · rw [hband]
    rcases nextTier_eq_or (targetTier (clampScore score)) score with h | h
    · exact h
    · exact h
  · rw [hkept, hkept]

theorem lt_nextTier_iff (current : ThreatTier) (score : Int) :
    current < nextTier current score ↔ current < targetTier (clampScore score) := by
  constructor
  · intro hup
    rcases nextTier_eq_or current score with hband | hkept
    · rwa [← hband]
    · rw [hkept] at hup
      exact absurd hup (lt_irrefl _)
  · intro hup
    rw [nextTier, if_pos hup]
    exact hup

/-- Ten points below its lower threshold a score is in the band of a lower tier. -/
theorem targetTier_lt_of_margin {current : ThreatTier} {score : Int}
    (hmargin : clampScore score < tierLowerThreshold current - 10) :
    targetTier (clampScore score) < current := by
  rw [← not_le, le_targetTier_iff]
  rintro (rfl | hband)
  · rw [clampScore_eq] at hmargin
    simp only [tierLowerThreshold] at hmargin
    omega
  · omega

theorem nextTier_lt_iff (current : ThreatTier) (score : Int) :
    nextTier current score < current ↔
      clampScore score < tierLowerThreshold current - 10 := by
  constructor
  · intro hdown
    by_contra hmargin
    have hkept : current ≤ nextTier current score :=
      (le_nextTier_iff _ _ _).mpr (.inr ⟨le_rfl, not_lt.mp hmargin⟩)
    exact absurd hdown (not_lt.mpr hkept)
  · intro hmargin
    have hdown := targetTier_lt_of_margin hmargin
    rw [nextTier, if_neg (not_lt.mpr hdown.le), if_pos ⟨hdown, hmargin⟩]
    exact hdown

section Runs

variable {α : Type} {callbacks : Callbacks α}

theorem perform_observeSignal_currentTier (score : Int) (source : ByteString)
    (run : TierRun α) :
    (run.perform callbacks (.observeSignal score source)).machine.currentTier =
      nextTier run.machine.currentTier score :=
  ThreatStateMachine.observeSignal_currentTier score source run.machine run.world

theorem signalObserved_perform (score : Int) (source : ByteString) (run : TierRun α) :
    SignalObserved callbacks score run (run.perform callbacks (.observeSignal score source)) := by
  have htier := @perform_observeSignal_currentTier α callbacks score source run
  refine ⟨?_, ?_, fun other => ?_⟩
  · rw [htier]
    exact lt_nextTier_iff _ score
  · rw [htier]
    exact nextTier_lt_iff _ score
  · rcases perform_cases (.observeSignal score other)
      (run.perform callbacks (.observeSignal score source)) with hsame | ⟨change, hchanged⟩
    · exact hsame
    · refine absurd ?_ hchanged.moves
      rw [hchanged.target, hchanged.origin, perform_observeSignal_currentTier, htier,
        nextTier_nextTier]

/-- In every run the tier changes form one path from LOW to the current tier, which counter,
audit entries and trigger calls follow, and every signal moves the tier the way its band says. -/
theorem trace_tierHistory {world : α} {steps : List (Transition (TierRun α) TierCall)}
    {run : TierRun α} (htrace : Trace (tierSystem callbacks world) steps run) :
    (∃ path, Follows path run) ∧
      ∀ t ∈ steps, ∀ score source, t.label = .observeSignal score source →
        SignalObserved callbacks score t.before t.after := by
  refine ⟨exists_follows htrace, ?_⟩
  intro t ht score source hlabel
  have hafter : t.after = t.before.perform callbacks t.label := htrace.step_of_mem ht
  rw [hafter, hlabel]
  exact signalObserved_perform score source t.before

end Runs

/-- CRITICAL is reached, left for HIGH, forced to LOW and reached again. -/
def twiceCriticalCalls : List TierCall :=
  [.observeSignal 90 "sensor", .observeSignal 50 "sensor", .forceTier .low "operator",
    .observeSignal 75 "sensor"]

theorem twiceCritical_history :
    let callbacks : Callbacks (List (ByteString × ByteString)) := ⟨noteEntry, fun _ w => w⟩
    let run := twiceCriticalCalls.foldl (TierRun.perform callbacks)
      { machine := {}, world := ⟨[], [], []⟩ }
    run.world.triggers.length = 2 ∧ ∃ path, Follows path run := by
  intro callbacks run
  have htrace : Trace (tierSystem callbacks []) _ run :=
    trace_execute _ (TierRun.perform callbacks) twiceCriticalCalls
  exact ⟨by decide +kernel, (trace_tierHistory htrace).1⟩

end Astartis.Threat
