import Mathlib.Algebra.BigOperators.Ring.Finset
import Mathlib.Data.Fintype.BigOperators
import Mathlib.Logic.Function.Basic
import Astartis.TransitionSystem

/-!
Threads that take several mutexes, one inside of the other.  Code is what is left of a
program when only its scoped locks are kept; where all code takes mutexes in the order of
their ranks, no run of any number of threads gets stuck.
-/

namespace Astartis.LockOrder

open TransitionSystem

universe u v

inductive Code (Mutex : Type u)
  | skip
  | locked (mutex : Mutex) (body : Code Mutex)
  | seq (first second : Code Mutex)
  | choice (left right : Code Mutex)
  | loop (body : Code Mutex)

inductive Op (Mutex : Type u)
  | acquire (mutex : Mutex)
  | release (mutex : Mutex)

namespace Code

variable {Mutex : Type u}

/-- Blocks one after the other. -/
def block (codes : List (Code Mutex)) : Code Mutex :=
  codes.foldr seq skip

/-- A branch that may be left out. -/
def optional (body : Code Mutex) : Code Mutex :=
  choice body skip

/-- What one execution of the code does to the mutexes. -/
inductive Path : Code Mutex → List (Op Mutex) → Prop
  | skip : Path .skip []
  | locked {mutex : Mutex} {body : Code Mutex} {ops : List (Op Mutex)} (hbody : Path body ops) :
      Path (.locked mutex body) (.acquire mutex :: ops ++ [.release mutex])
  | seq {first second : Code Mutex} {ops more : List (Op Mutex)} (hfirst : Path first ops)
      (hsecond : Path second more) : Path (.seq first second) (ops ++ more)
  | left {left right : Code Mutex} {ops : List (Op Mutex)} (hleft : Path left ops) :
      Path (.choice left right) ops
  | right {left right : Code Mutex} {ops : List (Op Mutex)} (hright : Path right ops) :
      Path (.choice left right) ops
  | done {body : Code Mutex} : Path (.loop body) []
  | again {body : Code Mutex} {ops more : List (Op Mutex)} (hbody : Path body ops)
      (hrest : Path (.loop body) more) : Path (.loop body) (ops ++ more)

/-- Every mutex has at least the rank `floor`, and inside of it only higher ones are taken. -/
def Ordered (rank : Mutex → Nat) (floor : Nat) : Code Mutex → Prop
  | .skip => True
  | .locked mutex body => floor ≤ rank mutex ∧ Ordered rank (rank mutex + 1) body
  | .seq first second => Ordered rank floor first ∧ Ordered rank floor second
  | .choice left right => Ordered rank floor left ∧ Ordered rank floor right
  | .loop body => Ordered rank floor body

instance decidableOrdered (rank : Mutex → Nat) :
    (floor : Nat) → (code : Code Mutex) → Decidable (Ordered rank floor code)
  | _, .skip => .isTrue trivial
  | floor, .locked mutex body =>
      have := decidableOrdered rank (rank mutex + 1) body
      inferInstanceAs (Decidable (floor ≤ rank mutex ∧ Ordered rank (rank mutex + 1) body))
  | floor, .seq first second =>
      have := decidableOrdered rank floor first
      have := decidableOrdered rank floor second
      inferInstanceAs (Decidable (Ordered rank floor first ∧ Ordered rank floor second))
  | floor, .choice left right =>
      have := decidableOrdered rank floor left
      have := decidableOrdered rank floor right
      inferInstanceAs (Decidable (Ordered rank floor left ∧ Ordered rank floor right))
  | floor, .loop body => decidableOrdered rank floor body

end Code

section Discipline

variable {Mutex : Type u} (rank : Mutex → Nat)

/-- From the mutexes held, the innermost first: only higher ones are taken, the innermost is
given back first, and nothing is held in the end. -/
def Disciplined : List Mutex → List (Op Mutex) → Prop
  | held, [] => held = []
  | held, .acquire mutex :: ops =>
      (∀ other ∈ held, rank other < rank mutex) ∧ Disciplined (mutex :: held) ops
  | [], .release _ :: _ => False
  | inner :: held, .release mutex :: ops => inner = mutex ∧ Disciplined held ops

variable {rank}

/-- An execution of ordered code fits in front of whatever fits the mutexes held so far. -/
theorem Code.Path.disciplined {code : Code Mutex} {ops : List (Op Mutex)} (hpath : code.Path ops)
    {floor : Nat} (hordered : code.Ordered rank floor) {held : List Mutex}
    (hheld : ∀ mutex ∈ held, rank mutex < floor) {rest : List (Op Mutex)}
    (hrest : Disciplined rank held rest) : Disciplined rank held (ops ++ rest) := by
  induction hpath generalizing floor held rest with
  | skip => exact hrest
  | @locked mutex body ops _ ih =>
      obtain ⟨hfloor, hbody⟩ := hordered
      have hbelow : ∀ other ∈ held, rank other < rank mutex := fun other hother =>
        Nat.lt_of_lt_of_le (hheld other hother) hfloor
      have hinner : ∀ other ∈ mutex :: held, rank other < rank mutex + 1 := by
        intro other hother
        rcases List.mem_cons.mp hother with rfl | hother
        · exact Nat.lt_succ_self _
        · exact Nat.lt_succ_of_lt (hbelow other hother)
      have hrelease : Disciplined rank (mutex :: held) (.release mutex :: rest) := ⟨rfl, hrest⟩
      simp only [List.cons_append, List.append_assoc, List.nil_append]
      exact ⟨hbelow, ih hbody hinner hrelease⟩
  | seq _ _ ihfirst ihsecond =>
      rw [List.append_assoc]
      exact ihfirst hordered.1 hheld (ihsecond hordered.2 hheld hrest)
  | left _ ih => exact ih hordered.1 hheld hrest
  | right _ ih => exact ih hordered.2 hheld hrest
  | done => exact hrest
  | again _ _ ihbody ihrest =>
      rw [List.append_assoc]
      exact ihbody hordered hheld (ihrest hordered hheld hrest)

/-- The executions of a number of ordered codes, one after the other. -/
theorem disciplined_flatten {paths : List (List (Op Mutex))} {floor : Nat}
    (hpaths : ∀ ops ∈ paths, ∃ code : Code Mutex, code.Ordered rank floor ∧ code.Path ops) :
    Disciplined rank [] paths.flatten := by
  induction paths with
  | nil => exact rfl
  | cons ops paths ih =>
      obtain ⟨code, hordered, hpath⟩ := hpaths ops (by simp)
      rw [List.flatten_cons]
      apply hpath.disciplined hordered (by simp)
      exact ih fun other hother => hpaths other (by simp [hother])

end Discipline

/-- Who holds which mutex, and what each thread has still to do. -/
structure Config (Thread : Type v) (Mutex : Type u) where
  owner : Mutex → Option Thread
  rest : Thread → List (Op Mutex)

variable {Thread : Type v} {Mutex : Type u} [DecidableEq Thread] [DecidableEq Mutex]

inductive Step : Config Thread Mutex → Thread → Config Thread Mutex → Prop
  | acquire {c : Config Thread Mutex} {thread : Thread} {mutex : Mutex} {ops : List (Op Mutex)}
      (hrest : c.rest thread = .acquire mutex :: ops) (hfree : c.owner mutex = none) :
      Step c thread
        ⟨Function.update c.owner mutex (some thread), Function.update c.rest thread ops⟩
  | release {c : Config Thread Mutex} {thread : Thread} {mutex : Mutex} {ops : List (Op Mutex)}
      (hrest : c.rest thread = .release mutex :: ops) :
      Step c thread ⟨Function.update c.owner mutex none, Function.update c.rest thread ops⟩

def system (programs : Thread → List (Op Mutex)) : System (Config Thread Mutex) Thread where
  Init := fun c => c = ⟨fun _ => none, programs⟩
  Step := Step

/-- What every thread holds: each of its mutexes ranks above those it took before. -/
structure Held (rank : Mutex → Nat) (held : Thread → List Mutex) (c : Config Thread Mutex) :
    Prop where
  owner (mutex : Mutex) (thread : Thread) : c.owner mutex = some thread ↔ mutex ∈ held thread
  sorted (thread : Thread) : (held thread).Pairwise fun inner outer => rank outer < rank inner
  disciplined (thread : Thread) : Disciplined rank (held thread) (c.rest thread)

section Invariant

variable {rank : Mutex → Nat} {held : Thread → List Mutex} {c : Config Thread Mutex}
  {thread : Thread} {mutex : Mutex} {ops : List (Op Mutex)}

theorem Held.acquire (hheld : Held rank held c) (hrest : c.rest thread = .acquire mutex :: ops)
    (hfree : c.owner mutex = none) :
    Held rank (Function.update held thread (mutex :: held thread))
      ⟨Function.update c.owner mutex (some thread), Function.update c.rest thread ops⟩ := by
  obtain ⟨hbelow, hops⟩ : Disciplined rank (held thread) (.acquire mutex :: ops) :=
    hrest ▸ hheld.disciplined thread
  refine ⟨fun other user => ?_, fun user => ?_, fun user => ?_⟩
  · have hold := hheld.owner other user
    by_cases hother : other = mutex
    · subst hother
      have hnot : other ∉ held user := fun h => by simp [hold.mpr h] at hfree
      by_cases huser : user = thread
      · subst huser
        simp
      · simp [huser, hnot, Ne.symm huser]
    · by_cases huser : user = thread
      · subst huser
        simp [hother, hold]
      · simp [hother, huser, hold]
  · by_cases huser : user = thread
    · subst huser
      simp only [Function.update_self]
      exact List.pairwise_cons.mpr ⟨hbelow, hheld.sorted user⟩
    · simp only [Function.update_of_ne huser]
      exact hheld.sorted user
  · by_cases huser : user = thread
    · subst huser
      simpa using hops
    · simp only [Function.update_of_ne huser]
      exact hheld.disciplined user

theorem Held.release (hheld : Held rank held c) (hrest : c.rest thread = .release mutex :: ops) :
    Held rank (Function.update held thread (held thread).tail)
      ⟨Function.update c.owner mutex none, Function.update c.rest thread ops⟩ := by
  have hdisciplined : Disciplined rank (held thread) (.release mutex :: ops) :=
    hrest ▸ hheld.disciplined thread
  have hsorted := hheld.sorted thread
  rcases htop : held thread with _ | ⟨inner, outer⟩
  · rw [htop] at hdisciplined
    exact hdisciplined.elim
  · rw [htop] at hdisciplined hsorted
    obtain ⟨rfl, hops⟩ := hdisciplined
    obtain ⟨hbelow, houter⟩ := List.pairwise_cons.mp hsorted
    have hinner : inner ∉ outer := fun h => Nat.lt_irrefl _ (hbelow inner h)
    refine ⟨fun other user => ?_, fun user => ?_, fun user => ?_⟩
    · have hold := hheld.owner other user
      by_cases hother : other = inner
      · subst hother
        by_cases huser : user = thread
        · subst huser
          simp [hinner]
        · have hmine : c.owner other = some thread :=
            (hheld.owner other thread).mpr (by simp [htop])
          have hnot : other ∉ held user := fun h => huser (by simpa [hmine] using (hold.mpr h).symm)
          simp [huser, hnot]
      · by_cases huser : user = thread
        · subst huser
          simp [hother, hold, htop]
        · simp [hother, huser, hold]
    · by_cases huser : user = thread
      · subst huser
        simpa using houter
      · simp only [Function.update_of_ne huser]
        exact hheld.sorted user
    · by_cases huser : user = thread
      · subst huser
        simpa using hops
      · simp only [Function.update_of_ne huser]
        exact hheld.disciplined user

theorem Held.step (hheld : Held rank held c) {c' : Config Thread Mutex}
    (hstep : Step c thread c') : ∃ held', Held rank held' c' := by
  cases hstep with
  | acquire hrest hfree => exact ⟨_, hheld.acquire hrest hfree⟩
  | release hrest => exact ⟨_, hheld.release hrest⟩

/-- Whoever has something left to do waits, in the end, for a thread that can move. -/
theorem Held.progress (hheld : Held rank held c) {bound : Nat} (hbound : ∀ m, rank m < bound)
    (hrest : c.rest thread ≠ []) : ∃ user c', Step c user c' := by
  -- The mutex that a thread waits for ranks higher each time, and ranks are bounded.
  suffices hwait : ∀ gap thread, (∃ mutex ops, c.rest thread = .acquire mutex :: ops ∧
      bound ≤ rank mutex + gap) ∨ (∃ mutex ops, c.rest thread = .release mutex :: ops) →
      ∃ user c', Step c user c' by
    rcases hfirst : c.rest thread with _ | ⟨op, ops⟩
    · exact absurd hfirst hrest
    · cases op with
      | acquire mutex =>
          exact hwait bound thread (.inl ⟨mutex, ops, hfirst, Nat.le_add_left _ _⟩)
      | release mutex => exact hwait bound thread (.inr ⟨mutex, ops, hfirst⟩)
  intro gap
  induction gap with
  | zero =>
      rintro thread (⟨mutex, ops, -, hgap⟩ | ⟨mutex, ops, hfirst⟩)
      · exact absurd (hbound mutex) (Nat.not_lt.mpr hgap)
      · exact ⟨thread, _, .release hfirst⟩
  | succ gap ih =>
      rintro thread (⟨mutex, ops, hfirst, hgap⟩ | ⟨mutex, ops, hfirst⟩)
      · cases howner : c.owner mutex with
        | none => exact ⟨thread, _, .acquire hfirst howner⟩
        | some user =>
            have hmem : mutex ∈ held user := (hheld.owner mutex user).mp howner
            have huser := hheld.disciplined user
            apply ih user
            rcases hnext : c.rest user with _ | ⟨op, more⟩
            · rw [hnext] at huser
              rw [huser] at hmem
              exact absurd hmem (by simp)
            · cases op with
              | acquire other =>
                  rw [hnext] at huser
                  have hrank : rank mutex < rank other := huser.1 mutex hmem
                  exact .inl ⟨other, more, rfl, by omega⟩
              | release other => exact .inr ⟨other, more, rfl⟩
      · exact ⟨thread, _, .release hfirst⟩

end Invariant

section Runs

variable {rank : Mutex → Nat} {programs : Thread → List (Op Mutex)}
  {steps : List (Transition (Config Thread Mutex) Thread)} {c : Config Thread Mutex}

theorem Trace.held (htrace : Trace (system programs) steps c)
    (hprograms : ∀ thread, Disciplined rank [] (programs thread)) :
    ∃ held, Held rank held c := by
  refine htrace.guarded_invariant (G := fun _ _ => True)
    (I := fun c => ∃ held, Held rank held c) ?_ ?_ (fun _ _ => trivial)
  · rintro c rfl
    exact ⟨fun _ => [], by simp, by simp, hprograms⟩
  · rintro c thread c' ⟨held, hheld⟩ - hstep
    exact hheld.step hstep

/-- No run gets stuck, and in the end all mutexes are free. -/
theorem Trace.progress (htrace : Trace (system programs) steps c)
    (hprograms : ∀ thread, Disciplined rank [] (programs thread)) {bound : Nat}
    (hbound : ∀ mutex, rank mutex < bound) :
    (∃ thread c', Step c thread c') ∨
      (∀ thread, c.rest thread = []) ∧ ∀ mutex, c.owner mutex = none := by
  obtain ⟨held, hheld⟩ := Trace.held htrace hprograms
  by_cases hdone : ∀ thread, c.rest thread = []
  · refine .inr ⟨hdone, fun mutex => ?_⟩
    cases howner : c.owner mutex with
    | none => rfl
    | some thread =>
        have hheld' := hheld.disciplined thread
        rw [hdone thread] at hheld'
        have hmem := (hheld.owner mutex thread).mp howner
        rw [hheld'] at hmem
        exact absurd hmem (by simp)
  · obtain ⟨thread, hrest⟩ := not_forall.mp hdone
    exact .inl (hheld.progress hbound hrest)

variable [Fintype Thread]

/-- What all threads together have still to do. -/
def Config.remaining (c : Config Thread Mutex) : Nat :=
  ∑ thread, (c.rest thread).length

omit [DecidableEq Mutex] in
theorem sum_update_length {rest : Thread → List (Op Mutex)} {thread : Thread} {op : Op Mutex}
    {ops : List (Op Mutex)} (hrest : rest thread = op :: ops) :
    (∑ user, (Function.update rest thread ops user).length) + 1 = ∑ user, (rest user).length := by
  rw [← Finset.sum_erase_add _ _ (Finset.mem_univ thread),
    ← Finset.sum_erase_add Finset.univ (fun user => (rest user).length) (Finset.mem_univ thread),
    Function.update_self, hrest, List.length_cons, ← Nat.add_assoc]
  congr 2
  refine Finset.sum_congr rfl fun user huser => ?_
  rw [Function.update_of_ne (Finset.ne_of_mem_erase huser)]

theorem Step.remaining {c' : Config Thread Mutex} {thread : Thread} (hstep : Step c thread c') :
    c'.remaining + 1 = c.remaining := by
  cases hstep with
  | acquire hrest hfree => exact sum_update_length hrest
  | release hrest => exact sum_update_length hrest

/-- From wherever a run has come to, all threads can finish; and they do after exactly as many
steps as there are left, in whatever order they are made. -/
theorem Trace.completes (htrace : Trace (system programs) steps c)
    (hprograms : ∀ thread, Disciplined rank [] (programs thread)) {bound : Nat}
    (hbound : ∀ mutex, rank mutex < bound) :
    ∃ more c', Trace (system programs) (steps ++ more) c' ∧
      more.length = c.remaining ∧ (∀ thread, c'.rest thread = []) ∧
      ∀ mutex, c'.owner mutex = none := by
  generalize hremaining : c.remaining = n
  induction n generalizing steps c with
  | zero =>
      have hdone : ∀ thread, c.rest thread = [] := by
        intro thread
        have hzero := Finset.sum_eq_zero_iff.mp hremaining thread (Finset.mem_univ thread)
        exact List.eq_nil_of_length_eq_zero hzero
      rcases Trace.progress htrace hprograms hbound with ⟨thread, c', hstep⟩ | hfree
      · have hlower := hstep.remaining
        omega
      · exact ⟨[], c, by simpa using htrace, rfl, hdone, hfree.2⟩
  | succ n ih =>
      rcases Trace.progress htrace hprograms hbound with ⟨thread, c', hstep⟩ | ⟨hdone, -⟩
      · have hlower := hstep.remaining
        obtain ⟨more, last, htrace', hlength, hend⟩ := ih (htrace.extend hstep) (by omega)
        refine ⟨⟨c, thread, c'⟩ :: more, last, ?_, by simp [hlength], hend⟩
        simpa using htrace'
      · simp [Config.remaining, hdone] at hremaining

end Runs

end Astartis.LockOrder
