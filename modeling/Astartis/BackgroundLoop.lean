import Astartis.TransitionSystem

/-!
A thread that goes through the parts of a turn, over and over until a flag is cleared, with
naps between the turns; and its owner, who sets the flag and starts the thread, and to stop it
clears the flag and joins.
-/

namespace Astartis.BackgroundLoop

open TransitionSystem

universe u v

/-- What the thread does next: test the flag, run a part, take a nap, or nothing more. -/
inductive Place
  | test
  | part (index : Nat)
  | nap (left : Nat)
  | finished
deriving DecidableEq

/-- The parts of a turn, which draw on the environment, and the naps behind it. -/
structure Loop (World : Type u) (Env : Type v) where
  parts : List (Env → World → World)
  naps : Nat

structure Service (World : Type u) where
  running : Bool := false
  joining : Bool := false
  thread : Option Place := none
  world : World

inductive Label (Env : Type v)
  | start
  | stop
  | join
  | thread (env : Env)
  | other

variable {World : Type u} {Env : Type v} (loop : Loop World Env)

/-- The flag is tested in front of every turn and of every nap. -/
def nextPlace (running : Bool) : Place → Option Place
  | .test => some (if running then .part 0 else .finished)
  | .part i => some (if i < loop.parts.length then .part (i + 1) else .nap loop.naps)
  | .nap 0 => some .test
  | .nap (left + 1) => some (if running then .nap left else .test)
  | .finished => none

def runPart (env : Env) (world : World) : Place → World
  | .part i => (loop.parts[i]?.map fun part => part env world).getD world
  | _ => world

/-- `Other` is what everybody else may do to the world. -/
inductive Step (Other : World → World → Prop) :
    Service World → Label Env → Service World → Prop
  | startAgain {s : Service World} (hidle : s.joining = false) (hrunning : s.running = true) :
      Step Other s .start s
  | start {s : Service World} (hidle : s.joining = false) (hstopped : s.running = false) :
      Step Other s .start { s with running := true, thread := some .test }
  | stopAgain {s : Service World} (hidle : s.joining = false) (hstopped : s.running = false) :
      Step Other s .stop s
  | stop {s : Service World} (hidle : s.joining = false) (hrunning : s.running = true) :
      Step Other s .stop { s with running := false, joining := true }
  | join {s : Service World} (hjoining : s.joining = true)
      (hfinished : s.thread = some .finished) :
      Step Other s .join { s with joining := false, thread := none }
  | thread {s : Service World} {place next : Place} (env : Env)
      (hthread : s.thread = some place) (hnext : nextPlace loop s.running place = some next) :
      Step Other s (.thread env)
        { s with thread := some next, world := runPart loop env s.world place }
  | other {s : Service World} {after : World} (hother : Other s.world after) :
      Step Other s .other { s with world := after }

def system (Init : World → Prop) (Other : World → World → Prop) :
    System (Service World) (Label Env) where
  Init := fun s => Init s.world ∧ s.running = false ∧ s.joining = false ∧ s.thread = none
  Step := Step loop Other

/-- What a label leads to, where the thread or its owner can make the step. -/
def advance? (s : Service World) : Label Env → Option (Service World)
  | .start =>
      if s.joining then none
      else if s.running then some s
      else some { s with running := true, thread := some .test }
  | .stop =>
      if s.joining then none
      else if s.running then some { s with running := false, joining := true }
      else some s
  | .join =>
      if s.joining = true ∧ s.thread = some .finished then
        some { s with joining := false, thread := none }
      else none
  | .thread env =>
      s.thread.bind fun place =>
        (nextPlace loop s.running place).map fun next =>
          { s with thread := some next, world := runPart loop env s.world place }
  | .other => none

/-- A thread is there exactly from its start to the end of the join. -/
structure Sound (s : Service World) : Prop where
  alive : s.joining = false → s.running = true → ∃ place, s.thread = some place ∧ place ≠ .finished
  gone : s.joining = false → s.running = false → s.thread = none
  joined : s.joining = true → s.running = false ∧ ∃ place, s.thread = some place

/-- The index of the part that a step runs. -/
def partOf (t : Transition (Service World) (Label Env)) : Option Nat :=
  match t.label, t.before.thread with
  | .thread _, some (.part i) => if i < loop.parts.length then some i else none
  | _, _ => none

/-- The parts of a run, in the order in which they were run. -/
def executed (steps : List (Transition (Service World) (Label Env))) : List Nat :=
  steps.filterMap (partOf loop)

/-- How far into the turn a thread is. -/
def offset : Option Place → Nat
  | some (.part i) => i
  | _ => 0

def isThread (t : Transition (Service World) (Label Env)) : Bool :=
  match t.label with
  | .thread _ => true
  | _ => false

def isJoin (t : Transition (Service World) (Label Env)) : Bool :=
  match t.label with
  | .join => true
  | _ => false

/-- The steps of the thread that are left once the flag is cleared. -/
def left : Option Place → Nat
  | some .test => 1
  | some (.nap _) => 2
  | some (.part i) => loop.parts.length - i + 3
  | some .finished => 0
  | none => 0

section Sound

variable {loop} {Init : World → Prop} {Other : World → World → Prop}
  {s s' : Service World} {label : Label Env}

theorem nextPlace_running {place next : Place} (hnext : nextPlace loop true place = some next) :
    next ≠ .finished := by
  cases place with
  | test =>
      obtain rfl := Option.some.inj hnext
      simp
  | part i =>
      obtain rfl := Option.some.inj hnext
      split <;> simp
  | nap n =>
      cases n with
      | zero =>
          obtain rfl := Option.some.inj hnext
          simp
      | succ n =>
          obtain rfl := Option.some.inj hnext
          simp
  | finished => simp [nextPlace] at hnext

theorem Sound.step (hsound : Sound s) (hstep : Step loop Other s label s') : Sound s' := by
  cases hstep with
  | startAgain hidle hrunning => exact hsound
  | start hidle hstopped =>
      refine ⟨fun _ _ => ⟨.test, rfl, by simp⟩, fun _ h => ?_, fun h => ?_⟩
      · exact absurd h (by simp)
      · exact absurd (hidle.symm.trans h) (by simp)
  | stopAgain hidle hstopped => exact hsound
  | stop hidle hrunning =>
      obtain ⟨place, hplace, -⟩ := hsound.alive hidle hrunning
      refine ⟨fun h => ?_, fun h => ?_, fun _ => ⟨rfl, place, hplace⟩⟩
      · exact absurd h (by simp)
      · exact absurd h (by simp)
  | join hjoining hfinished =>
      have hstopped := (hsound.joined hjoining).1
      refine ⟨fun _ h => ?_, fun _ _ => rfl, fun h => ?_⟩
      · exact absurd (hstopped.symm.trans h) (by simp)
      · exact absurd h (by simp)
  | @thread place next env hthread hnext =>
      refine ⟨fun hidle hrunning => ⟨next, rfl, ?_⟩, fun hidle hstopped => ?_, fun hjoining => ?_⟩
      · have hrun : s.running = true := hrunning
        rw [hrun] at hnext
        exact nextPlace_running hnext
      · have hgone := hsound.gone hidle hstopped
        exact absurd (hgone.symm.trans hthread) (by simp)
      · exact ⟨(hsound.joined hjoining).1, next, rfl⟩
  | other hother => exact ⟨hsound.alive, hsound.gone, hsound.joined⟩

theorem Trace.sound {steps : List (Transition (Service World) (Label Env))}
    (htrace : Trace (system loop Init Other) steps s) : Sound s := by
  refine htrace.guarded_invariant (G := fun _ _ => True) ?_ ?_ (fun _ _ => trivial)
  · rintro s ⟨-, hstopped, hidle, hthread⟩
    refine ⟨fun _ h => ?_, fun _ _ => hthread, fun h => ?_⟩
    · exact absurd (hstopped.symm.trans h) (by simp)
    · exact absurd (hidle.symm.trans h) (by simp)
  · exact fun s label s' hsound _ hstep => hsound.step hstep

theorem advance?_step (hadvance : advance? loop s label = some s') :
    Step loop Other s label s' := by
  cases label with
  | start =>
      simp only [advance?] at hadvance
      split at hadvance
      · exact absurd hadvance (by simp)
      · rename_i hidle
        split at hadvance
        · rename_i hrunning
          obtain rfl := Option.some.inj hadvance
          exact .startAgain (by simpa using hidle) hrunning
        · rename_i hstopped
          obtain rfl := Option.some.inj hadvance
          exact .start (by simpa using hidle) (by simpa using hstopped)
  | stop =>
      simp only [advance?] at hadvance
      split at hadvance
      · exact absurd hadvance (by simp)
      · rename_i hidle
        split at hadvance
        · rename_i hrunning
          obtain rfl := Option.some.inj hadvance
          exact .stop (by simpa using hidle) hrunning
        · rename_i hstopped
          obtain rfl := Option.some.inj hadvance
          exact .stopAgain (by simpa using hidle) (by simpa using hstopped)
  | join =>
      simp only [advance?] at hadvance
      split at hadvance
      · rename_i hboth
        obtain rfl := Option.some.inj hadvance
        exact .join hboth.1 hboth.2
      · exact absurd hadvance (by simp)
  | thread env =>
      obtain ⟨place, hplace, hmap⟩ := Option.bind_eq_some_iff.mp hadvance
      obtain ⟨next, hnext, rfl⟩ := Option.map_eq_some_iff.mp hmap
      exact .thread env hplace hnext
  | other => exact absurd hadvance (by simp [advance?])

/-- The runs without the others can be computed. -/
theorem trace_attempt {labels : List (Label Env)}
    {steps : List (Transition (Service World) (Label Env))} {world : World} (hinit : Init world)
    (hattempt : attempt (advance? loop) { world := world } labels = some (steps, s)) :
    Trace (system loop Init Other) steps s := by
  have hstart : Trace (system loop Init Other) [] { world := world } :=
    .start ⟨hinit, rfl, rfl, rfl⟩
  have htrace := Trace.attempt (fun _ _ _ hstep => advance?_step hstep) hstart hattempt
  rwa [List.nil_append] at htrace

/-- A thread that moves was started and not yet joined. -/
theorem Sound.started (hsound : Sound s) {env : Env}
    (hstep : Step loop Other s (.thread env) s') : s.running = true ∨ s.joining = true := by
  cases hstep with
  | thread env hthread hnext =>
      by_contra hnot
      obtain ⟨hstopped, hidle⟩ := not_or.mp hnot
      have hgone := hsound.gone (Bool.eq_false_of_not_eq_true hidle)
        (Bool.eq_false_of_not_eq_true hstopped)
      exact absurd (hgone.symm.trans hthread) (by simp)

theorem isThread_eq_true {t : Transition (Service World) (Label Env)} :
    isThread t = true ↔ ∃ env, t.label = .thread env := by
  rw [isThread]
  split
  · rename_i env hlabel
    exact iff_of_true rfl ⟨env, hlabel⟩
  · rename_i hlabel
    refine iff_of_false (by simp) ?_
    rintro ⟨env, henv⟩
    exact hlabel env henv

theorem Trace.moves_started {steps : List (Transition (Service World) (Label Env))}
    (htrace : Trace (system loop Init Other) steps s)
    {t : Transition (Service World) (Label Env)} (ht : t ∈ steps) (hthread : isThread t = true) :
    t.before.running = true ∨ t.before.joining = true := by
  obtain ⟨before, after, rfl⟩ := List.append_of_mem ht
  obtain ⟨env, henv⟩ := isThread_eq_true.mp hthread
  have hstep := htrace.split.2
  rw [henv] at hstep
  exact (Trace.sound htrace.split.1).started hstep

end Sound

section Turns

variable {loop} {Init : World → Prop} {Other : World → World → Prop}
  {s : Service World} {steps : List (Transition (Service World) (Label Env))}

theorem executed_concat (t : Transition (Service World) (Label Env)) :
    executed loop (steps ++ [t]) = executed loop steps ++ (partOf loop t).toList :=
  filterMap_concat (partOf loop) steps t

/-- What was executed goes round and round, and the thread is at the place behind it. -/
structure InTurn (parts : Nat) (done : List Nat) (thread : Option Place) : Prop where
  cyclic : done = (List.range done.length).map (· % parts)
  phase : done.length % parts = offset thread % parts
  bound : offset thread ≤ parts

theorem InTurn.rest {parts : Nat} {done : List Nat} {thread thread' : Option Place}
    (hturn : InTurn parts done thread) (hphase : offset thread' % parts = offset thread % parts)
    (hbound : offset thread' ≤ parts) : InTurn parts done thread' :=
  ⟨hturn.cyclic, hturn.phase.trans hphase.symm, hbound⟩

theorem InTurn.part {parts i : Nat} {done : List Nat} (hi : i < parts)
    (hturn : InTurn parts done (some (.part i))) :
    InTurn parts (done ++ [i]) (some (.part (i + 1))) := by
  have hphase : done.length % parts = i := hturn.phase.trans (Nat.mod_eq_of_lt hi)
  refine ⟨?_, ?_, hi⟩
  · rw [List.length_append, List.length_singleton, List.range_succ, List.map_append,
      ← hturn.cyclic, List.map_singleton, hphase]
  · rw [List.length_append, List.length_singleton, Nat.add_mod, hphase]
    show _ = (i + 1) % parts
    rw [Nat.add_mod i 1 parts, Nat.mod_eq_of_lt hi]

theorem InTurn.step {done : List Nat} {s' : Service World} {label : Label Env} (hsound : Sound s)
    (hturn : InTurn loop.parts.length done s.thread) (hstep : Step loop Other s label s') :
    InTurn loop.parts.length (done ++ (partOf loop ⟨s, label, s'⟩).toList) s'.thread := by
  cases hstep with
  | startAgain hidle hrunning => simpa [partOf] using hturn
  | start hidle hstopped =>
      rw [hsound.gone hidle hstopped] at hturn
      have hnew : InTurn loop.parts.length done (some .test) := hturn.rest rfl (Nat.zero_le _)
      simpa [partOf] using hnew
  | stopAgain hidle hstopped => simpa [partOf] using hturn
  | stop hidle hrunning => simpa [partOf] using hturn
  | join hjoining hfinished =>
      rw [hfinished] at hturn
      have hnew : InTurn loop.parts.length done none := hturn.rest rfl (Nat.zero_le _)
      simpa [partOf] using hnew
  | other hother => simpa [partOf] using hturn
  | @thread place next env hplace hnext =>
      rw [hplace] at hturn
      cases place with
      | test =>
          obtain rfl := Option.some.inj hnext
          simp only [partOf, hplace, Option.toList_none, List.append_nil]
          split
          · exact hturn.rest rfl (Nat.zero_le _)
          · exact hturn.rest rfl (Nat.zero_le _)
      | nap n =>
          simp only [partOf, hplace, Option.toList_none, List.append_nil]
          cases n with
          | zero =>
              obtain rfl := Option.some.inj hnext
              exact hturn.rest rfl (Nat.zero_le _)
          | succ n =>
              obtain rfl := Option.some.inj hnext
              split
              · exact hturn.rest rfl (Nat.zero_le _)
              · exact hturn.rest rfl (Nat.zero_le _)
      | finished => simp [nextPlace] at hnext
      | part i =>
          obtain rfl := Option.some.inj hnext
          have hle : i ≤ loop.parts.length := hturn.bound
          by_cases hi : i < loop.parts.length
          · simp only [partOf, hplace, if_pos hi, Option.toList_some]
            exact hturn.part hi
          · simp only [partOf, hplace, if_neg hi, Option.toList_none, List.append_nil]
            obtain rfl : i = loop.parts.length := Nat.le_antisymm hle (Nat.not_lt.mp hi)
            exact hturn.rest (Nat.mod_self _).symm (Nat.zero_le _)

/-- The parts are run round and round, through all stops and starts: a turn that was begun is
brought to its end. -/
theorem Trace.inTurn (htrace : Trace (system loop Init Other) steps s) :
    InTurn loop.parts.length (executed loop steps) s.thread := by
  induction htrace with
  | @start s hinit =>
      obtain ⟨-, -, -, hthread⟩ := hinit
      rw [hthread]
      exact ⟨rfl, rfl, Nat.zero_le _⟩
  | extend htrace hstep ih =>
      rw [executed_concat]
      exact ih.step (Trace.sound htrace) hstep

end Turns

section Stop

variable {loop} {Init : World → Prop} {Other : World → World → Prop}
  {s s' : Service World}

theorem left_le (thread : Option Place) : left loop thread ≤ loop.parts.length + 3 := by
  unfold left
  split <;> omega

theorem nextPlace_left {place next : Place} (hnext : nextPlace loop false place = some next) :
    left loop (some next) + 1 = left loop (some place) := by
  cases place with
  | test =>
      obtain rfl := Option.some.inj hnext
      rfl
  | part i =>
      obtain rfl := Option.some.inj hnext
      by_cases hi : i < loop.parts.length
      · rw [if_pos hi]
        simp only [left]
        omega
      · rw [if_neg hi]
        simp only [left]
        omega
  | nap n =>
      cases n with
      | zero =>
          obtain rfl := Option.some.inj hnext
          rfl
      | succ n =>
          obtain rfl := Option.some.inj hnext
          rfl
  | finished => simp [nextPlace] at hnext

/-- While the owner waits in the join, the thread comes nearer to its end with every step. -/
theorem Step.left_joining {label : Label Env} (hsound : Sound s) (hjoining : s.joining = true)
    (hstep : Step loop Other s label s') (hwaits : isJoin ⟨s, label, s'⟩ = false) :
    s'.joining = true ∧
      left loop s'.thread + [Transition.mk s label s'].countP isThread = left loop s.thread := by
  have hstopped := (hsound.joined hjoining).1
  cases hstep with
  | startAgain hidle | start hidle | stopAgain hidle | stop hidle =>
      exact absurd (hidle.symm.trans hjoining) (by simp)
  | join => simp [isJoin] at hwaits
  | other hother => exact ⟨hjoining, rfl⟩
  | thread env hplace hnext =>
      rw [hstopped] at hnext
      rw [hplace]
      exact ⟨hjoining, nextPlace_left hnext⟩

theorem Trace.left_since_stop {before during : List (Transition (Service World) (Label Env))}
    {t : Transition (Service World) (Label Env)}
    (htrace : Trace (system loop Init Other) (before ++ t :: during) s) (hstop : t.label = .stop)
    (hrunning : t.before.running = true) (hwaits : ∀ u ∈ during, isJoin u = false) :
    s.joining = true ∧
      left loop s.thread + during.countP isThread = left loop t.before.thread := by
  induction during using List.reverseRecOn generalizing s with
  | nil =>
      obtain ⟨-, hstep⟩ := htrace.split
      rw [hstop] at hstep
      rw [htrace.eq_after]
      generalize t.after = after at hstep
      cases hstep with
      | stopAgain hidle hstopped => exact absurd (hstopped.symm.trans hrunning) (by simp)
      | stop hidle => exact ⟨rfl, rfl⟩
  | append_singleton during u ih =>
      have hsteps : before ++ t :: (during ++ [u]) = (before ++ t :: during) ++ [u] := by simp
      rw [hsteps] at htrace
      obtain ⟨hprior, hstep⟩ := htrace.split
      obtain ⟨hjoining, hleft⟩ := ih hprior fun v hv => hwaits v (by simp [hv])
      obtain ⟨hjoining', hnearer⟩ :=
        Step.left_joining (Trace.sound hprior) hjoining hstep (hwaits u (by simp))
      rw [htrace.eq_after]
      refine ⟨hjoining', ?_⟩
      rw [← hleft, ← hnearer, List.countP_append]
      show _ = _ + [u].countP isThread + _
      omega

/-- `stop` returns: from where the flag is cleared the thread makes at most the steps that are
left of its turn, and until the owner is behind the join somebody can move. -/
theorem Trace.stop_returns {before during : List (Transition (Service World) (Label Env))}
    {t : Transition (Service World) (Label Env)}
    (htrace : Trace (system loop Init Other) (before ++ t :: during) s) (hstop : t.label = .stop)
    (hrunning : t.before.running = true) (hwaits : ∀ u ∈ during, isJoin u = false) (env : Env) :
    during.countP isThread ≤ loop.parts.length + 3 ∧
      ((∃ s', Step loop Other s .join s') ∨ ∃ s', Step loop Other s (.thread env) s') := by
  obtain ⟨hjoining, hleft⟩ := Trace.left_since_stop htrace hstop hrunning hwaits
  obtain ⟨hstopped, place, hplace⟩ := (Trace.sound htrace).joined hjoining
  refine ⟨?_, ?_⟩
  · have hle : left loop t.before.thread ≤ loop.parts.length + 3 := left_le _
    omega
  · by_cases hend : place = .finished
    · exact .inl ⟨_, .join hjoining (hend ▸ hplace)⟩
    · obtain ⟨next, hnext⟩ : ∃ next, nextPlace loop s.running place = some next := by
        cases place with
        | test => exact ⟨_, rfl⟩
        | part i => exact ⟨_, rfl⟩
        | nap n =>
            cases n with
            | zero => exact ⟨_, rfl⟩
            | succ n => exact ⟨_, rfl⟩
        | finished => exact absurd rfl hend
      exact .inr ⟨_, .thread env hplace hnext⟩

end Stop

end Astartis.BackgroundLoop
