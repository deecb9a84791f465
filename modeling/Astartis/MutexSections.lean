import Mathlib.Logic.Function.Basic
import Astartis.TransitionSystem

/-!
Threads that share one value behind a mutex.  Every call of a thread is one
critical section: the thread takes the mutex, runs the body of the call on the
shared value and gives the mutex back.
-/

namespace Astartis.MutexSections

open TransitionSystem

universe u v w x

/-- Shared value, holder of the mutex with the call it is inside of, and the
calls every thread still has to make. -/
structure Config (Thread : Type u) (Shared : Type v) (Call : Type w) where
  shared : Shared
  holder : Option (Thread × Call)
  pending : Thread → List Call

/-- What happens next: a thread enters its section, or the holder runs its body
with what the environment supplies and leaves. -/
inductive Event (Thread : Type u) (Call : Type w) (Env : Type x)
  | acquire (thread : Thread) (call : Call)
  | complete (thread : Thread) (call : Call) (env : Env)

variable {Thread : Type u} {Shared : Type v} {Call : Type w} {Env : Type x}

def Event.completed? : Event Thread Call Env → Option (Thread × Call × Env)
  | .acquire _ _ => none
  | .complete thread call env => some (thread, call, env)

variable [DecidableEq Thread] (body : Shared → Call → Env → Shared)

inductive Step : Config Thread Shared Call → Event Thread Call Env →
    Config Thread Shared Call → Prop
  | acquire {shared : Shared} {pending : Thread → List Call} {thread : Thread}
      {call : Call} {rest : List Call} (hnext : pending thread = call :: rest) :
      Step ⟨shared, none, pending⟩ (.acquire thread call)
        ⟨shared, some (thread, call), Function.update pending thread rest⟩
  | complete {shared : Shared} {pending : Thread → List Call} {thread : Thread}
      {call : Call} (env : Env) :
      Step ⟨shared, some (thread, call), pending⟩ (.complete thread call env)
        ⟨body shared call env, none, pending⟩

def system (initial : Shared) (programs : Thread → List Call) :
    System (Config Thread Shared Call) (Event Thread Call Env) where
  Init := fun c => c = ⟨initial, none, programs⟩
  Step := Step body

def completed (steps : List (Transition (Config Thread Shared Call)
    (Event Thread Call Env))) : List (Thread × Call × Env) :=
  steps.filterMap fun t => t.label.completed?

omit [DecidableEq Thread] in
theorem completed_concat (steps : List (Transition (Config Thread Shared Call)
    (Event Thread Call Env))) (t : Transition (Config Thread Shared Call)
    (Event Thread Call Env)) :
    completed (steps ++ [t]) = completed steps ++ t.label.completed?.toList := by
  cases h : t.label.completed? <;> simp [completed, h]

/-- While the mutex is free, any thread can run its next call as a whole. -/
theorem exists_section {body : Shared → Call → Env → Shared} {initial : Shared}
    {programs : Thread → List Call}
    {steps : List (Transition (Config Thread Shared Call) (Event Thread Call Env))}
    {shared : Shared} {pending : Thread → List Call} {thread : Thread} {call : Call}
    {rest : List Call} (env : Env)
    (htrace : Trace (system body initial programs) steps ⟨shared, none, pending⟩)
    (hnext : pending thread = call :: rest) :
    ∃ steps', Trace (system body initial programs) steps'
        ⟨body shared call env, none, Function.update pending thread rest⟩ ∧
      completed steps' = completed steps ++ [(thread, call, env)] := by
  have hstep : Step body ⟨shared, none, pending⟩ (.acquire thread call)
      ⟨shared, some (thread, call), Function.update pending thread rest⟩ :=
    .acquire hnext
  have hinside := htrace.extend hstep
  refine ⟨_, hinside.extend (Step.complete env), ?_⟩
  rw [completed_concat, completed_concat]
  simp [Event.completed?]

/-- While the mutex is free, a thread can run its next calls one after the other. -/
theorem exists_sections {body : Shared → Call → Env → Shared} {initial : Shared}
    {programs : Thread → List Call} {thread : Thread} {rest : List Call}
    (calls : List (Call × Env))
    {steps : List (Transition (Config Thread Shared Call) (Event Thread Call Env))}
    {shared : Shared} {pending : Thread → List Call}
    (htrace : Trace (system body initial programs) steps ⟨shared, none, pending⟩)
    (hnext : pending thread = calls.map Prod.fst ++ rest) :
    ∃ steps', Trace (system body initial programs) steps'
        ⟨calls.foldl (fun s call => body s call.1 call.2) shared, none,
          Function.update pending thread rest⟩ ∧
      completed steps' = completed steps ++ calls.map fun call => (thread, call.1, call.2) := by
  induction calls generalizing steps shared pending with
  | nil =>
      refine ⟨steps, ?_, by simp⟩
      rwa [Function.update_eq_self_iff.mpr hnext.symm]
  | cons call calls ih =>
      obtain ⟨first, hfirst, hcompleted⟩ := exists_section call.2 htrace hnext
      obtain ⟨steps', htrace', hcompleted'⟩ := ih hfirst (Function.update_self ..)
      rw [Function.update_idem] at htrace'
      exact ⟨steps', htrace', by rw [hcompleted', hcompleted]; simp⟩

def callsOf (thread : Thread) (calls : List (Thread × Call × Env)) : List Call :=
  (calls.filter fun c => c.1 = thread).map fun c => c.2.1

/-- The call of one thread that is inside its section. -/
def openCall (thread : Thread) (holder : Option (Thread × Call)) : List Call :=
  (holder.toList.filter fun c => c.1 = thread).map Prod.snd

variable {body} {initial : Shared} {programs : Thread → List Call}
  {steps : List (Transition (Config Thread Shared Call) (Event Thread Call Env))}
  {c : Config Thread Shared Call}

/-- The shared value is the result of the finished calls, one after the other. -/
theorem shared_eq_foldl (htrace : Trace (system body initial programs) steps c) :
    c.shared = (completed steps).foldl (fun s call => body s call.2.1 call.2.2) initial := by
  induction htrace with
  | start hinit =>
      obtain rfl := hinit
      rfl
  | extend _ hstep ih =>
      rw [completed_concat, List.foldl_append, ← ih]
      cases hstep with
      | acquire _ => rfl
      | complete env => rfl

/-- Mutex order respects the program of every thread. -/
theorem program_order (htrace : Trace (system body initial programs) steps c)
    (thread : Thread) :
    callsOf thread (completed steps) ++ openCall thread c.holder ++ c.pending thread =
      programs thread := by
  induction htrace with
  | start hinit =>
      obtain rfl := hinit
      rfl
  | extend _ hstep ih =>
      rw [completed_concat, ← ih]
      cases hstep with
      | @acquire shared pending other call rest hnext =>
          by_cases hthread : other = thread
          · subst hthread
            simp [Event.completed?, callsOf, openCall, hnext]
          · have hne : thread ≠ other := fun h => hthread h.symm
            simp [Event.completed?, callsOf, openCall, hthread, hne]
      | @complete shared pending other call env =>
          by_cases hthread : other = thread <;>
            simp [Event.completed?, callsOf, openCall, hthread]

end Astartis.MutexSections
