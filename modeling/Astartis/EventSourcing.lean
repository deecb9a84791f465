import Astartis.TransitionSystem
import Mathlib.Data.List.Count

/-!
A state next to a log of what was done to it.  Replaying the log entry by entry gives the state
again, and stops at an entry that could not have come next.
-/

namespace Astartis.EventSourcing

open TransitionSystem

universe u v

/-- What can be read off a state, and its log. -/
structure Ledger (View : Type u) (Entry : Type v) where
  view : View
  log : List Entry

variable {View : Type u} {Entry : Type v} (apply : View → Entry → Option View)

/-- What a log comes to, if every entry of it can follow the ones before. -/
def replay (start : View) (log : List Entry) : Option View :=
  log.foldlM apply start

/-- The log grew by entries that account for the change of the view. -/
def Extends (before after : Ledger View Entry) : Prop :=
  ∃ more, after.log = before.log ++ more ∧ replay apply before.view more = some after.view

variable {apply} {start : View} {before mid after : Ledger View Entry}

theorem replay_append (log more : List Entry) :
    replay apply start (log ++ more) =
      (replay apply start log).bind fun view => replay apply view more := by
  simp [replay]

theorem Extends.refl (ledger : Ledger View Entry) : Extends apply ledger ledger :=
  ⟨[], by simp, rfl⟩

theorem Extends.trans (hfirst : Extends apply before mid) (hsecond : Extends apply mid after) :
    Extends apply before after := by
  obtain ⟨more, hlog, hview⟩ := hfirst
  obtain ⟨rest, hlog', hview'⟩ := hsecond
  refine ⟨more ++ rest, ?_, ?_⟩
  · rw [hlog', hlog, List.append_assoc]
  · rw [replay_append, hview]
    exact hview'

/-- One entry, and the view that it leads to. -/
theorem Extends.entry {entry : Entry} (hlog : after.log = before.log ++ [entry])
    (hview : apply before.view entry = some after.view) : Extends apply before after :=
  ⟨[entry], hlog, by simp [replay, hview]⟩

theorem Extends.replays (hextends : Extends apply before after)
    (hbefore : replay apply start before.log = some before.view) :
    replay apply start after.log = some after.view := by
  obtain ⟨more, hlog, hview⟩ := hextends
  rw [hlog, replay_append, hbefore]
  exact hview

/-- The log of a run can be replayed, and from any state of the run on its rest can. -/
theorem Trace.replays {State : Type*} {Label : Type*} {S : System State Label}
    {ledger : State → Ledger View Entry} {I : State → Prop}
    (hinit : ∀ s, S.Init s → I s ∧ replay apply start (ledger s).log = some (ledger s).view)
    (hstep : ∀ s label s', I s → S.Step s label s' →
      I s' ∧ Extends apply (ledger s) (ledger s'))
    {steps : List (Transition State Label)} {s : State} (htrace : Trace S steps s) :
    replay apply start (ledger s).log = some (ledger s).view ∧
      ∀ t ∈ steps, Extends apply (ledger t.before) (ledger s) := by
  have hall : I s ∧ replay apply start (ledger s).log = some (ledger s).view ∧
      ∀ t ∈ steps, Extends apply (ledger t.before) (ledger s) := by
    refine htrace.history_invariant (I := fun steps s => I s ∧
      replay apply start (ledger s).log = some (ledger s).view ∧
        ∀ t ∈ steps, Extends apply (ledger t.before) (ledger s)) ?_ ?_
    · intro s hs
      exact ⟨(hinit s hs).1, (hinit s hs).2, by simp⟩
    · rintro steps s label s' ⟨hI, hreplay, hearlier⟩ hs
      obtain ⟨hI', hextends⟩ := hstep s label s' hI hs
      refine ⟨hI', hextends.replays hreplay, fun t ht => ?_⟩
      rcases List.mem_append.mp ht with ht | ht
      · exact (hearlier t ht).trans hextends
      · obtain rfl := List.mem_singleton.mp ht
        exact hextends
  exact hall.2

section Texts

variable {α : Type u} [DecidableEq α]

/-- What stands between a front and a back. -/
def between? (front back text : List α) : Option (List α) :=
  (text.dropPrefix? front).bind fun rest => rest.dropSuffix? back

theorem between?_append (front text back : List α) :
    between? front back (front ++ (text ++ back)) = some text := by
  rw [between?, List.dropPrefix?_append_of_beq _ (by simp), Option.bind_some,
    List.dropSuffix?_eq_some_iff]
  exact ⟨back, rfl, by simp⟩

end Texts

end Astartis.EventSourcing
