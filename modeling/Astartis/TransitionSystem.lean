import Mathlib.Algebra.Order.Group.Multiset
import Mathlib.Data.List.Induction
import Mathlib.Tactic.Abel

/-!
Labelled transition systems and the finite traces of their runs.  A trace
keeps every executed step with the states around it, so that a property of a
whole history can be stated about the list of steps and proved one step at a
time.
-/

namespace Astartis.TransitionSystem

universe u v

/-- Initial states together with a labelled step relation. -/
structure System (State : Type u) (Label : Type v) where
  Init : State → Prop
  Step : State → Label → State → Prop

structure Transition (State : Type u) (Label : Type v) where
  before : State
  label : Label
  after : State

variable {State : Type u} {Label : Type v}

/-- `Trace S steps s` holds when executing `steps` in order from an initial
state ends in `s`. -/
inductive Trace (S : System State Label) :
    List (Transition State Label) → State → Prop
  | start {s : State} (hinit : S.Init s) : Trace S [] s
  | extend {steps : List (Transition State Label)} {s s' : State} {label : Label}
      (htrace : Trace S steps s) (hstep : S.Step s label s') :
      Trace S (steps ++ [⟨s, label, s'⟩]) s'

def Reachable (S : System State Label) (s : State) : Prop :=
  ∃ steps, Trace S steps s

/-- Induction over runs for a property that may speak about the history. -/
theorem Trace.history_invariant {S : System State Label}
    {I : List (Transition State Label) → State → Prop}
    (hinit : ∀ s, S.Init s → I [] s)
    (hstep : ∀ steps s label s', I steps s → S.Step s label s' →
      I (steps ++ [⟨s, label, s'⟩]) s')
    {steps : List (Transition State Label)} {s : State}
    (htrace : Trace S steps s) : I steps s := by
  induction htrace with
  | start h => exact hinit _ h
  | extend _ h ih => exact hstep _ _ _ _ ih h

/-- Induction over the runs whose steps all satisfy a guard on the state
before the step and on its label. -/
theorem Trace.guarded_invariant {S : System State Label} {I : State → Prop}
    {G : State → Label → Prop}
    (hinit : ∀ s, S.Init s → I s)
    (hstep : ∀ s label s', I s → G s label → S.Step s label s' → I s')
    {steps : List (Transition State Label)} {s : State}
    (htrace : Trace S steps s) (hguard : ∀ t ∈ steps, G t.before t.label) : I s := by
  induction htrace with
  | start h => exact hinit _ h
  | @extend steps s s' label _ h ih =>
      have hlast : G s label := hguard ⟨s, label, s'⟩ (by simp)
      exact hstep s label s' (ih fun t ht => hguard t (by simp [ht])) hlast h

/-- No lost wake-up: while the condition `Ready` that waiters test for holds and no
notification is `Pending`, nobody is `Parked`.  Waiters park only while the condition fails,
it comes true only along with a pending notification, and a notification that is given
reaches everybody who is parked. -/
theorem Trace.not_parked {S : System State Label} {Ready Pending Parked : State → Prop}
    {G : State → Label → Prop}
    (hinit : ∀ s, S.Init s → ¬ Parked s)
    (hpark : ∀ s label s', S.Step s label s' → Ready s → Parked s' → Parked s)
    (hready : ∀ s label s', S.Step s label s' → Ready s' → Ready s ∨ Pending s')
    (hnotify : ∀ s label s', G s label → S.Step s label s' → Pending s → Ready s' →
      Pending s' ∨ ¬ Parked s')
    {steps : List (Transition State Label)} {s : State}
    (htrace : Trace S steps s) (hguard : ∀ t ∈ steps, G t.before t.label) :
    Ready s → Pending s ∨ ¬ Parked s := by
  refine htrace.guarded_invariant (I := fun s => Ready s → Pending s ∨ ¬ Parked s) ?_ ?_ hguard
  · intro s hs _
    exact .inr (hinit s hs)
  · intro s label s' ih hG hstep hready'
    rcases hready s label s' hstep hready' with hbefore | hpending
    · rcases ih hbefore with hpending | hparked
      · exact hnotify s label s' hG hstep hpending hready'
      · exact .inr fun hparked' => hparked (hpark s label s' hstep hbefore hparked')
    · exact .inl hpending

/-- What every step extends transitively relates all earlier states of a run to the last. -/
theorem Trace.before_related {S : System State Label} {R : State → State → Prop}
    (htrans : ∀ a b c, R a b → R b c → R a c)
    (hstep : ∀ s label s', S.Step s label s' → R s s')
    {steps : List (Transition State Label)} {s : State} (htrace : Trace S steps s) :
    ∀ t ∈ steps, R t.before s := by
  induction htrace with
  | start _ => simp
  | @extend steps s s' label _ h ih =>
      have hlast : R s s' := hstep s label s' h
      intro t ht
      rcases List.mem_append.mp ht with ht | ht
      · exact htrans _ _ _ (ih t ht) hlast
      · obtain rfl := List.mem_singleton.mp ht
        exact hlast

/-- When a step after a history with `P` leads to a history with `P` exactly under the guard,
`P` holds after all steps of a run exactly if all of them meet the guard. -/
theorem Trace.forall_prefix_iff {S : System State Label} {I : State → Prop}
    {P : List (Transition State Label) → State → Prop} {G : State → Label → Prop}
    (hinit : ∀ s, S.Init s → I s ∧ P [] s)
    (hinvariant : ∀ s label s', I s → S.Step s label s' → I s')
    (hstep : ∀ steps s label s', I s → P steps s → S.Step s label s' →
      (P (steps ++ [⟨s, label, s'⟩]) s' ↔ G s label))
    {steps : List (Transition State Label)} {s : State} (htrace : Trace S steps s) :
    (∀ before t after, steps = before ++ t :: after → P (before ++ [t]) t.after) ↔
      ∀ t ∈ steps, G t.before t.label := by
  suffices h : I s ∧
      ((∀ before t after, steps = before ++ t :: after → P (before ++ [t]) t.after) →
        P steps s) ∧
      ((∀ before t after, steps = before ++ t :: after → P (before ++ [t]) t.after) ↔
        ∀ t ∈ steps, G t.before t.label) from h.2.2
  induction htrace with
  | start h => exact ⟨(hinit _ h).1, fun _ => (hinit _ h).2, by simp⟩
  | @extend steps s s' label _ h ih =>
      obtain ⟨hI, hlast, hiff⟩ := ih
      have hprefixes : (∀ before t after, steps ++ [⟨s, label, s'⟩] = before ++ t :: after →
          P (before ++ [t]) t.after) ↔
          (∀ before t after, steps = before ++ t :: after → P (before ++ [t]) t.after) ∧
            P (steps ++ [⟨s, label, s'⟩]) s' := by
        constructor
        · intro hall
          exact ⟨fun before t after hsteps => hall before t (after ++ [⟨s, label, s'⟩])
            (by rw [hsteps, List.append_assoc, List.cons_append]),
            hall steps ⟨s, label, s'⟩ [] rfl⟩
        · rintro ⟨hearlier, hnow⟩ before t after hsteps
          rcases List.eq_nil_or_concat after with rfl | ⟨after, last, rfl⟩
          · obtain ⟨rfl, hlast⟩ := List.append_inj' hsteps rfl
            obtain rfl := (List.cons.inj hlast).1
            exact hnow
          · rw [List.concat_eq_append, ← List.cons_append, ← List.append_assoc] at hsteps
            exact hearlier before t after (List.append_inj' hsteps rfl).1
      refine ⟨hinvariant s label s' hI h, fun hall => (hprefixes.mp hall).2, ?_⟩
      rw [hprefixes]
      simp only [List.mem_append, List.mem_singleton, or_imp, forall_and, forall_eq]
      constructor
      · rintro ⟨hall, hafter⟩
        exact ⟨hiff.mp hall, (hstep steps s label s' hI (hlast hall) h).mp hafter⟩
      · rintro ⟨hall, hguard⟩
        have hbefore := hiff.mpr hall
        exact ⟨hbefore, (hstep steps s label s' hI (hlast hbefore) h).mpr hguard⟩

/-- When a step from a state with `P` leads to `P` exactly under the guard, `P` holds
after all steps of a run exactly if all of them meet the guard. -/
theorem Trace.forall_after_iff {S : System State Label} {I P : State → Prop}
    {G : State → Label → Prop}
    (hinit : ∀ s, S.Init s → I s ∧ P s)
    (hinvariant : ∀ s label s', I s → S.Step s label s' → I s')
    (hstep : ∀ s label s', I s → P s → S.Step s label s' → (P s' ↔ G s label))
    {steps : List (Transition State Label)} {s : State} (htrace : Trace S steps s) :
    (∀ t ∈ steps, P t.after) ↔ ∀ t ∈ steps, G t.before t.label := by
  rw [← htrace.forall_prefix_iff (P := fun _ s => P s) hinit hinvariant fun _ => hstep]
  constructor
  · intro hall before t after hsteps
    exact hall t (by simp [hsteps])
  · intro hall t ht
    obtain ⟨before, after, hsteps⟩ := List.append_of_mem ht
    exact hall before t after hsteps

theorem Trace.simulate {State' : Type*} {Label' : Type*} {S : System State Label}
    {T : System State' Label'} (f : State → State') (g : State → Label → Label')
    (hinit : ∀ s, S.Init s → T.Init (f s))
    (hstep : ∀ s label s', S.Step s label s' → T.Step (f s) (g s label) (f s'))
    {steps : List (Transition State Label)} {s : State} (htrace : Trace S steps s) :
    Trace T (steps.map fun t => ⟨f t.before, g t.before t.label, f t.after⟩) (f s) := by
  induction htrace with
  | start h => exact .start (hinit _ h)
  | extend _ h ih =>
      rw [List.map_append]
      exact ih.extend (hstep _ _ _ h)

/-- A trace can be cut in front of any of its steps. -/
theorem Trace.split {S : System State Label} {before after : List (Transition State Label)}
    {t : Transition State Label} {s : State}
    (htrace : Trace S (before ++ t :: after) s) :
    Trace S before t.before ∧ S.Step t.before t.label t.after := by
  induction after using List.reverseRecOn generalizing s with
  | nil =>
      generalize hsteps : before ++ [t] = steps at htrace
      cases htrace with
      | start h => simp at hsteps
      | extend h hstep =>
          obtain ⟨rfl, hlast⟩ := List.append_inj' hsteps rfl
          obtain rfl := List.cons.inj hlast |>.1
          exact ⟨h, hstep⟩
  | append_singleton after last ih =>
      generalize hsteps : before ++ t :: (after ++ [last]) = steps at htrace
      cases htrace with
      | start h => simp at hsteps
      | @extend steps prior _ label h hstep =>
          have hconcat : (before ++ t :: after) ++ [last] = steps ++ [⟨prior, label, s⟩] := by
            simpa using hsteps
          obtain ⟨hprior, -⟩ := List.append_inj' hconcat rfl
          exact ih (hprior ▸ h)

theorem Trace.step_of_mem {S : System State Label} {steps : List (Transition State Label)}
    {s : State} (htrace : Trace S steps s) {t : Transition State Label} (ht : t ∈ steps) :
    S.Step t.before t.label t.after := by
  obtain ⟨before, after, rfl⟩ := List.append_of_mem ht
  exact htrace.split.2

/-- What the guarded induction gives for the states in front of the steps. -/
theorem Trace.guarded_before {S : System State Label} {I : State → Prop}
    {G : State → Label → Prop}
    (hinit : ∀ s, S.Init s → I s)
    (hstep : ∀ s label s', I s → G s label → S.Step s label s' → I s')
    {steps : List (Transition State Label)} {s : State}
    (htrace : Trace S steps s) (hguard : ∀ t ∈ steps, G t.before t.label) :
    ∀ t ∈ steps, I t.before := by
  intro t ht
  obtain ⟨before, after, rfl⟩ := List.append_of_mem ht
  exact htrace.split.1.guarded_invariant hinit hstep fun u hu => hguard u (by simp [hu])

theorem Trace.eq_after {S : System State Label} {steps : List (Transition State Label)}
    {t : Transition State Label} {s : State} (htrace : Trace S (steps ++ [t]) s) :
    s = t.after := by
  generalize hsteps : steps ++ [t] = all at htrace
  cases htrace with
  | start h => simp at hsteps
  | extend h hstep =>
      obtain ⟨-, hlast⟩ := List.append_inj' hsteps rfl
      obtain rfl := (List.cons.inj hlast).1
      rfl

/-- What a step establishes and the steps behind it keep holds in all states since. -/
theorem Trace.since {S : System State Label} {J : State → Prop}
    {before during : List (Transition State Label)} {t : Transition State Label} {s : State}
    (htrace : Trace S (before ++ t :: during) s) (hstart : J t.after)
    (hstep : ∀ u ∈ during, J u.before → S.Step u.before u.label u.after → J u.after) :
    J s ∧ ∀ u ∈ during, J u.before ∧ J u.after := by
  induction during using List.reverseRecOn generalizing s with
  | nil =>
      rw [htrace.eq_after]
      exact ⟨hstart, by simp⟩
  | append_singleton during last ih =>
      have hsteps : before ++ t :: (during ++ [last]) = (before ++ t :: during) ++ [last] := by
        simp
      rw [hsteps] at htrace
      obtain ⟨hprior, hlast⟩ := htrace.split
      obtain ⟨hbefore, hall⟩ := ih hprior fun u hu => hstep u (by simp [hu])
      have hafter : J last.after := hstep last (by simp) hbefore hlast
      rw [htrace.eq_after]
      refine ⟨hafter, fun u hu => ?_⟩
      rcases List.mem_append.mp hu with hu | hu
      · exact hall u hu
      · obtain rfl := List.mem_singleton.mp hu
        exact ⟨hbefore, hafter⟩

section Functional

variable (init : State) (step : State → Label → State)

def ofFunction : System State Label where
  Init := fun s => s = init
  Step := fun s label s' => s' = step s label

def execute : State → List Label → List (Transition State Label)
  | _, [] => []
  | s, label :: labels => ⟨s, label, step s label⟩ :: execute (step s label) labels

theorem execute_append (s : State) (labels more : List Label) :
    execute step s (labels ++ more) =
      execute step s labels ++ execute step (labels.foldl step s) more := by
  induction labels generalizing s with
  | nil => rfl
  | cons label labels ih => rw [List.cons_append, execute, ih]; rfl

theorem execute_concat (s : State) (labels : List Label) (label : Label) :
    execute step s (labels ++ [label]) =
      execute step s labels ++
        [⟨labels.foldl step s, label, step (labels.foldl step s) label⟩] :=
  execute_append step s labels [label]

/-- Steps made by a function are a run of every system that has them. -/
theorem trace_execute_of {S : System State Label} (hinit : S.Init init) {labels : List Label}
    (hstep : ∀ s, ∀ label ∈ labels, S.Step s label (step s label)) :
    Trace S (execute step init labels) (labels.foldl step init) := by
  induction labels using List.reverseRecOn with
  | nil => exact .start hinit
  | append_singleton labels label ih =>
      rw [execute_concat, List.foldl_append]
      exact (ih fun s l hl => hstep s l (by simp [hl])).extend (hstep _ label (by simp))

theorem trace_execute (labels : List Label) :
    Trace (ofFunction init step) (execute step init labels)
      (labels.foldl step init) :=
  trace_execute_of init step rfl fun _ _ _ => rfl

theorem reachable_foldl (labels : List Label) :
    Reachable (ofFunction init step) (labels.foldl step init) :=
  ⟨_, trace_execute init step labels⟩

end Functional

section Attempts

/-- The run that the labels name, where `step?` allows every one of them. -/
def attempt (step? : State → Label → Option State) :
    State → List Label → Option (List (Transition State Label) × State)
  | s, [] => some ([], s)
  | s, label :: labels =>
      (step? s label).bind fun s' =>
        (attempt step? s' labels).map fun rest => (⟨s, label, s'⟩ :: rest.1, rest.2)

theorem Trace.attempt {S : System State Label} {step? : State → Label → Option State}
    (hstep : ∀ s label s', step? s label = some s' → S.Step s label s')
    {steps more : List (Transition State Label)} {s last : State} {labels : List Label}
    (htrace : Trace S steps s) (hattempt : attempt step? s labels = some (more, last)) :
    Trace S (steps ++ more) last := by
  induction labels generalizing s steps more with
  | nil =>
      obtain ⟨rfl, rfl⟩ := Prod.mk.inj (Option.some.inj hattempt)
      rwa [List.append_nil]
  | cons label labels ih =>
      obtain ⟨s', hs', hmap⟩ := Option.bind_eq_some_iff.mp hattempt
      obtain ⟨⟨rest, last'⟩, hrest, heq⟩ := Option.map_eq_some_iff.mp hmap
      obtain ⟨rfl, rfl⟩ := Prod.mk.inj heq
      rw [List.append_cons]
      exact ih (htrace.extend (hstep s label s' hs')) hrest

end Attempts

/-- What the steps of a run are read as, with one more step. -/
theorem filterMap_concat {α : Type u} {β : Type v} (f : α → Option β) (xs : List α) (x : α) :
    (xs ++ [x]).filterMap f = xs.filterMap f ++ (f x).toList := by
  rw [List.filterMap_append]
  cases hx : f x <;> simp [hx]

section AfterLast

variable {α : Type u} (mark : α → Prop) [DecidablePred mark]

/-- The part of a list behind its last marked element, the whole list when no
element is marked. -/
def afterLast (xs : List α) : List α :=
  xs.foldl (fun segment x => if mark x then [] else segment ++ [x]) []

theorem afterLast_concat (xs : List α) (x : α) :
    afterLast mark (xs ++ [x]) = if mark x then [] else afterLast mark xs ++ [x] := by
  simp [afterLast]

theorem afterLast_suffix (xs : List α) : afterLast mark xs <:+ xs := by
  induction xs using List.reverseRecOn with
  | nil => simp [afterLast]
  | append_singleton xs last ih =>
      rw [afterLast_concat]
      split
      · exact List.nil_suffix
      · obtain ⟨before, hbefore⟩ := ih
        exact ⟨before, by rw [← List.append_assoc, hbefore]⟩

theorem afterLast_append_cons {before after : List α} {x : α} (hx : mark x) :
    afterLast mark (before ++ x :: after) = afterLast mark after := by
  simp [afterLast, hx]

theorem not_mark_of_mem_afterLast {xs : List α} {x : α}
    (hx : x ∈ afterLast mark xs) : ¬ mark x := by
  induction xs using List.reverseRecOn with
  | nil => simp [afterLast] at hx
  | append_singleton xs last ih =>
      rw [afterLast_concat] at hx
      split at hx
      · simp at hx
      · rename_i hlast
        rcases List.mem_append.mp hx with hx | hx
        · exact ih hx
        · exact List.mem_singleton.mp hx ▸ hlast

theorem exists_eq_append_afterLast {xs : List α} (hmark : ∃ x ∈ xs, mark x) :
    ∃ before opening, mark opening ∧
      xs = before ++ opening :: afterLast mark xs := by
  induction xs using List.reverseRecOn with
  | nil => simp at hmark
  | append_singleton xs last ih =>
      rw [afterLast_concat]
      by_cases hlast : mark last
      · exact ⟨xs, last, hlast, by simp [hlast]⟩
      · have hrest : ∃ x ∈ xs, mark x := by
          obtain ⟨x, hx, hmarked⟩ := hmark
          rcases List.mem_append.mp hx with hx | hx
          · exact ⟨x, hx, hmarked⟩
          · exact absurd (List.mem_singleton.mp hx ▸ hmarked) hlast
        obtain ⟨before, opening, hopening, hsplit⟩ := ih hrest
        refine ⟨before, opening, hopening, ?_⟩
        rw [if_neg hlast]
        calc
          xs ++ [last] = (before ++ opening :: afterLast mark xs) ++ [last] := by
            rw [← hsplit]
          _ = before ++ opening :: (afterLast mark xs ++ [last]) := by simp

end AfterLast

/-- What the parties of a system hold together, when one of them moves. -/
theorem flatMap_set {α β : Type*} (f : α → List β) {xs : List α} {i : Nat} {x : α}
    (hx : xs[i]? = some x) (y : α) :
    ((xs.set i y).flatMap f : Multiset β) + f x = xs.flatMap f + f y := by
  induction xs generalizing i with
  | nil => simp at hx
  | cons head xs ih =>
      cases i with
      | zero =>
          obtain rfl : head = x := by simpa using hx
          simp only [List.set_cons_zero, List.flatMap_cons, ← Multiset.coe_add]
          abel
      | succ i =>
          have htail := ih (by simpa using hx)
          simp only [List.set_cons_succ, List.flatMap_cons, ← Multiset.coe_add]
          rw [add_assoc, htail]
          abel

end Astartis.TransitionSystem
