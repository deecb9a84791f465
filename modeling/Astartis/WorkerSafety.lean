import Astartis.WorkerPool

/-!
Shutdown of the worker pool.  `stop` flips `running_` and notifies without the mutex, and
the workers test the flag in the loop head before they look at the queue: what is lost in
between, and when nothing is.
-/

namespace Astartis.Agents.Pool

open TransitionSystem

variable {s s' : Pool} {event : Event}

theorem Step.running_eq (hstep : Step s event s') :
    s'.controller.running =
      match event with
      | .start => true
      | .stopCalled => false
      | _ => s.controller.running := by
  cases hstep with
  | submit hmutex hknown hnotify => simp [AgentController.submitTask, hknown]
  | startRunning hrunning => exact hrunning
  | stopStopped hrunning => exact hrunning
  | markRunning hphase hmutex => exact AgentController.markRunning_running _ _
  | _ => rfl

section WakeUp

/-- A call of `stop` has flipped `running_` and is about to notify. -/
def Pending (s : Pool) : Prop :=
  ∃ call ∈ s.stops, call.phase = .notifying

/-- A worker has seen the predicate false and waits, or is about to. -/
def Parked (s : Pool) : Prop :=
  .blocking ∈ s.workers ∨ .blocked ∈ s.workers

/-- `stop` is in `join` while a worker is blocked that nobody is going to wake. -/
def Stuck (s : Pool) : Prop :=
  (∃ call ∈ s.stops, call.phase = .joining) ∧ .blocked ∈ s.workers ∧
    s.controller.running = false ∧ ¬ s.Pending

/-- `notify_all` is not called while a worker stands between its test of the predicate and
its wait, unless `start` was called in between or another `stop` will notify. -/
def NotifiesInTime (s : Pool) : Event → Prop
  | .notifyAll call =>
      s.controller.running = true ∨
        (∃ other owed, other ≠ call ∧ s.stops[other]? = some ⟨.notifying, owed⟩) ∨
        .blocking ∉ s.workers
  | _ => True

theorem parked_moveTo {worker : Nat} {phase : WorkerPhase} (hblocking : phase ≠ .blocking)
    (hblocked : phase ≠ .blocked) (hparked : (s.moveTo worker phase).Parked) : s.Parked := by
  rcases hparked with hmem | hmem
  · rcases List.mem_or_eq_of_mem_set hmem with hmem | heq
    · exact .inl hmem
    · exact absurd heq.symm hblocking
  · rcases List.mem_or_eq_of_mem_set hmem with hmem | heq
    · exact .inr hmem
    · exact absurd heq.symm hblocked

/-- Whoever is woken is not parked any more. -/
theorem blocking_of_wake {workers : List WorkerPhase}
    (hparked : .blocking ∈ workers.map WorkerPhase.wake ∨
      .blocked ∈ workers.map WorkerPhase.wake) : .blocking ∈ workers := by
  rcases hparked with hmem | hmem
  · obtain ⟨phase, hphase, hwake⟩ := List.mem_map.mp hmem
    cases phase <;> simp_all [WorkerPhase.wake]
  · obtain ⟨phase, hphase, hwake⟩ := List.mem_map.mp hmem
    cases phase <;> simp_all [WorkerPhase.wake]

theorem mem_of_mem_append_replicate {workers : List WorkerPhase} {n : Nat}
    {phase new : WorkerPhase} (hne : phase ≠ new)
    (hmem : phase ∈ workers ++ List.replicate n new) : phase ∈ workers := by
  rcases List.mem_append.mp hmem with hmem | hmem
  · exact hmem
  · exact absurd (List.eq_of_mem_replicate hmem) hne

/-- Workers park only while `running_` is set. -/
theorem Step.parked_of_ready (hstep : Step s event s') (hready : s.controller.running = false)
    (hparked : s'.Parked) : s.Parked := by
  cases hstep with
  | submit hmutex hknown hnotify =>
      cases hnotify with
      | nobody hnone => exact hparked
      | woken hblocked => exact .inr (List.mem_of_getElem? hblocked)
  | submitUnknown hmutex hunknown => exact hparked
  | startRunning hrunning => exact hparked
  | start hrunning =>
      exact hparked.imp (mem_of_mem_append_replicate (by simp))
        (mem_of_mem_append_replicate (by simp))
  | stopStopped hrunning => exact hparked
  | stop hrunning => exact hparked
  | notifyAll hcall => exact .inl (blocking_of_wake hparked)
  | join hcall hjoined => simp [Parked] at hparked
  | wait hphase hempty hrunning => simp [hready] at hrunning
  | block hphase => exact .inl (List.mem_of_getElem? hphase)
  | _ => exact parked_moveTo (by simp) (by simp) hparked

theorem Step.pending_of_ready (hstep : Step s event s')
    (hready : s'.controller.running = false) :
    s.controller.running = false ∨ s'.Pending := by
  have hrunning := hstep.running_eq
  cases hstep with
  | start _ => simp at hready
  | stop _ => exact .inr ⟨⟨.notifying, s.submitted⟩, by simp, rfl⟩
  | stopStopped hstopped => exact .inl hstopped
  | startRunning hstarted => simp [hstarted] at hready
  | _ => exact .inl (hrunning.symm.trans hready)

/-- A notification stays pending until it is given, and then reaches everybody. -/
theorem Step.notified (hintime : s.NotifiesInTime event) (hstep : Step s event s')
    (hpending : s.Pending) (hready : s'.controller.running = false) :
    s'.Pending ∨ ¬ s'.Parked := by
  obtain ⟨open_, hopen, hphase⟩ := hpending
  cases hstep with
  | stopStopped hrunning => exact .inl ⟨open_, by simp [hopen], hphase⟩
  | stop hrunning => exact .inl ⟨open_, by simp [hopen], hphase⟩
  | @notifyAll call owed hcall =>
      rcases hintime with hrunning | ⟨other, owed', hne, hother⟩ | hblocking
      · exact absurd (hrunning.symm.trans hready) (by simp)
      · refine .inl ⟨⟨.notifying, owed'⟩, ?_, rfl⟩
        apply List.mem_of_getElem? (i := other)
        rw [List.getElem?_set_ne hne.symm]
        exact hother
      · exact .inr fun hparked => hblocking (blocking_of_wake hparked)
  | @join call owed hcall hjoined =>
      -- the call that is joined is not the one that is about to notify
      obtain ⟨index, hindex⟩ := List.getElem?_of_mem hopen
      have hne : call ≠ index := by
        rintro rfl
        rw [hcall] at hindex
        obtain rfl := Option.some.inj hindex
        simp at hphase
      refine .inl ⟨open_, ?_, hphase⟩
      apply List.mem_of_getElem? (i := index)
      rw [List.getElem?_set_ne hne]
      exact hindex
  | _ => exact .inl ⟨open_, hopen, hphase⟩

/-- While every `notify_all` comes in time, `stop` never waits for a worker that nobody
wakes. -/
theorem trace_not_stuck {steps : List (Transition Pool Event)} {s : Pool}
    (htrace : Trace system steps s)
    (hintime : ∀ t ∈ steps, t.before.NotifiesInTime t.label) : ¬ s.Stuck := by
  rintro ⟨-, hblocked, hrunning, hpending⟩
  have hinit : ∀ s, system.Init s → ¬ Parked s := by
    rintro _ ⟨controller, -, -, -, rfl⟩
    simp [Parked]
  have hpark : ∀ s event s', system.Step s event s' → s.controller.running = false →
      Parked s' → Parked s := fun _ _ _ hstep => Step.parked_of_ready hstep
  have hready : ∀ s event s', system.Step s event s' → s'.controller.running = false →
      s.controller.running = false ∨ Pending s' := fun _ _ _ hstep =>
    Step.pending_of_ready hstep
  have hnotify : ∀ s event s', s.NotifiesInTime event → system.Step s event s' →
      s.Pending → s'.controller.running = false → s'.Pending ∨ ¬ s'.Parked :=
    fun _ _ _ hG hstep => Step.notified hG hstep
  rcases htrace.not_parked hinit hpark hready hnotify hintime hrunning with hpending' | hfree
  · exact hpending hpending'
  · exact hfree (.inr hblocked)

/-- A controller with a single worker and no personas. -/
def singleWorker : AgentController := { workerCount := 1 }

/-- The worker blocks before `stop` is called, is woken, and leaves. -/
theorem prompt_stop_not_stuck :
    ∃ (steps : List (Transition Pool Event)) (s : Pool), Trace system steps s ∧
      s.stops = [⟨.returned, []⟩] ∧ ¬ s.Stuck := by
  have h0 : Trace system [] { controller := singleWorker } :=
    .start ⟨singleWorker, rfl, rfl, rfl, rfl⟩
  have h1 := h0.extend (Step.start rfl)
  have h2 := h1.extend (@Step.enterLoop _ 0 rfl rfl)
  have h3 := h2.extend (@Step.lock _ 0 rfl rfl)
  have h4 := h3.extend (@Step.wait _ 0 rfl rfl rfl)
  have h5 := h4.extend (@Step.block _ 0 rfl)
  have h6 := h5.extend (Step.stop rfl)
  have h7 := h6.extend (@Step.notifyAll _ 0 [] rfl)
  have h8 := h7.extend (@Step.lock _ 0 rfl rfl)
  have h9 := h8.extend (@Step.breakLoop _ 0 rfl rfl rfl)
  have h10 := h9.extend (@Step.join _ 0 [] rfl
    (by simp [Alive, moveTo, singleWorker, WorkerPhase.wake]))
  refine ⟨_, _, h10, rfl, trace_not_stuck h10 ?_⟩
  simp [NotifiesInTime, moveTo, singleWorker, WorkerPhase.wake]

/-- The worker tests the predicate, `stop` flips the flag and notifies, and then the worker
blocks. -/
theorem late_block_stuck : ∃ s, Reachable system s ∧ s.Stuck := by
  have h0 : Trace system [] { controller := singleWorker } :=
    .start ⟨singleWorker, rfl, rfl, rfl, rfl⟩
  have h1 := h0.extend (Step.start rfl)
  have h2 := h1.extend (@Step.enterLoop _ 0 rfl rfl)
  have h3 := h2.extend (@Step.lock _ 0 rfl rfl)
  have h4 := h3.extend (@Step.wait _ 0 rfl rfl rfl)
  have h5 := h4.extend (Step.stop rfl)
  have h6 := h5.extend (@Step.notifyAll _ 0 [] rfl)
  have h7 := h6.extend (@Step.block _ 0 rfl)
  refine ⟨_, ⟨_, h7⟩, ⟨_, List.mem_singleton.mpr rfl, rfl⟩, ?_, rfl, ?_⟩
  · simp [moveTo, singleWorker, WorkerPhase.wake]
  · simp [Pending, moveTo]

end WakeUp

section Draining

/-- The tasks that workers have taken and not yet executed. -/
def held (s : Pool) : List TaskEntry :=
  s.workers.flatMap WorkerPhase.held

/-- Every submitted task is in one place. -/
def Conserved (s : Pool) : Prop :=
  (s.controller.queue : Multiset TaskEntry) + s.held + s.executed = s.submitted

/-- A worker that moves carries entries from one place to another. -/
theorem conserved_move {worker : Nat} {before after : WorkerPhase}
    {queue executed : List TaskEntry} (hphase : s.workers[worker]? = some before)
    (hplaces : (queue : Multiset TaskEntry) + after.held + executed =
      s.controller.queue + before.held + s.executed)
    (hconserved : s.Conserved) :
    (queue : Multiset TaskEntry) + (s.moveTo worker after).held + executed = s.submitted := by
  have hheld : ((s.moveTo worker after).held : Multiset TaskEntry) + before.held =
      s.held + after.held := flatMap_set WorkerPhase.held hphase after
  apply add_right_cancel (b := (before.held : Multiset TaskEntry))
  calc
    (queue : Multiset TaskEntry) + (s.moveTo worker after).held + executed + before.held =
        queue + ((s.moveTo worker after).held + before.held) + executed := by abel
    _ = (queue + after.held + executed) + s.held := by rw [hheld]; abel
    _ = (s.controller.queue + s.held + s.executed) + before.held := by rw [hplaces]; abel
    _ = s.submitted + before.held := by rw [hconserved]

theorem held_wake (workers : List WorkerPhase) :
    (workers.map WorkerPhase.wake).flatMap WorkerPhase.held =
      workers.flatMap WorkerPhase.held := by
  rw [List.flatMap_map]
  congr 1
  funext phase
  cases phase <;> rfl

theorem NotifyOne.held {workers workers' : List WorkerPhase} {notified : Option Nat}
    (hnotify : NotifyOne workers notified workers') :
    (workers'.flatMap WorkerPhase.held : Multiset TaskEntry) =
      workers.flatMap WorkerPhase.held := by
  cases hnotify with
  | nobody _ => rfl
  | woken hblocked => simpa [WorkerPhase.held] using flatMap_set WorkerPhase.held hblocked .locking

theorem held_of_not_alive (hdead : ¬ s.Alive) : s.held = [] := by
  apply List.flatMap_eq_nil_iff.mpr
  intro phase hphase
  obtain rfl : phase = .exited := by
    by_contra hne
    exact hdead ⟨phase, hphase, hne⟩
  rfl

theorem Step.conserved (hstep : Step s event s') (hconserved : s.Conserved) :
    s'.Conserved := by
  simp only [Conserved] at hconserved ⊢
  cases hstep with
  | @submit now agentName input priority notified workers hmutex hknown hnotify =>
      have hheld : ((workers.flatMap WorkerPhase.held : List TaskEntry) : Multiset TaskEntry) =
          s.held := hnotify.held
      simp only [AgentController.submitTask, hknown, if_true, held, hheld,
        ← Multiset.coe_add, ← hconserved]
      rw [← Multiset.cons_coe, ← Multiset.singleton_add, Multiset.coe_singleton]
      abel
  | submitUnknown hmutex hunknown => exact hconserved
  | startRunning hrunning => exact hconserved
  | start hrunning =>
      have hnew : ∀ n, (List.replicate n WorkerPhase.head).flatMap WorkerPhase.held = [] := by
        intro n
        simp [WorkerPhase.held]
      simpa [held, hnew] using hconserved
  | stopStopped hrunning => exact hconserved
  | stop hrunning => exact hconserved
  | notifyAll hcall => simpa [held, held_wake] using hconserved
  | join hcall hjoined =>
      rw [held_of_not_alive hjoined] at hconserved
      exact hconserved
  | take hphase htop =>
      refine conserved_move hphase ?_ hconserved
      have herase := Multiset.coe_eq_coe.mpr (List.perm_cons_erase htop.1)
      rw [herase, ← Multiset.cons_coe, ← Multiset.singleton_add]
      simp only [AgentController.dequeue, WorkerPhase.held, Multiset.coe_singleton,
        Multiset.coe_nil]
      abel
  | markRunning hphase hmutex =>
      refine conserved_move hphase ?_ hconserved
      rw [AgentController.markRunning_queue]
      rfl
  | execute hphase =>
      refine conserved_move hphase ?_ hconserved
      simp only [WorkerPhase.held, moveTo, ← Multiset.coe_add, Multiset.coe_nil]
      abel
  | enterLoop hphase _ => exact conserved_move hphase rfl hconserved
  | leaveLoop hphase _ => exact conserved_move hphase rfl hconserved
  | lock hphase _ => exact conserved_move hphase rfl hconserved
  | breakLoop hphase _ _ => exact conserved_move hphase rfl hconserved
  | wait hphase _ _ => exact conserved_move hphase rfl hconserved
  | block hphase => exact conserved_move hphase rfl hconserved
  | spuriousWake hphase => exact conserved_move hphase rfl hconserved
  | recordResult hphase _ => exact conserved_move hphase rfl hconserved
  | report hphase => exact conserved_move hphase rfl hconserved

/-- Task ids are handed out in order. -/
def Numbered (s : Pool) : Prop :=
  s.controller.nextTaskId = UInt64.ofNat (s.submitted.length + 1) ∧
    s.submitted.map TaskEntry.taskId =
      (List.range s.submitted.length).map fun n => taskIdText (UInt64.ofNat (n + 1))

theorem Step.numbered (hstep : Step s event s') (hnumbered : s.Numbered) : s'.Numbered := by
  obtain ⟨hnext, hids⟩ := hnumbered
  cases hstep with
  | @submit now agentName input priority notified workers hmutex hknown hnotify =>
      constructor
      · simp only [AgentController.submitTask, hknown, if_true, hnext, List.length_append,
          List.length_singleton]
        exact (UInt64.ofNat_add (s.submitted.length + 1) 1).symm
      · simp [hids, List.range_succ, AgentController.newEntry, hnext]
  | markRunning hphase hmutex =>
      exact ⟨(AgentController.markRunning_nextTaskId _ _).trans hnext, hids⟩
  | _ => exact ⟨hnext, hids⟩

theorem taskIdText_injective : Function.Injective taskIdText := by
  intro n m h
  have hdecimal := ByteString.decimal_injective (List.append_cancel_left h)
  exact UInt64.toNat_inj.mp (by exact_mod_cast hdecimal)

/-- The counter does not wrap before 2^64 submissions, so all ids differ. -/
theorem Numbered.nodup (hnumbered : s.Numbered) (hbound : s.submitted.length ≤ 2 ^ 64) :
    (s.submitted.map TaskEntry.taskId).Nodup := by
  rw [hnumbered.2]
  apply List.Nodup.map_on ?_ List.nodup_range
  intro n hn m hm h
  have hnat := congrArg UInt64.toNat (taskIdText_injective h)
  simp only [List.mem_range] at hn hm
  simp only [UInt64.toNat_ofNat'] at hnat
  omega

theorem alive_of_getElem? {worker : Nat} {phase : WorkerPhase}
    (hphase : s.workers[worker]? = some phase) (hne : phase ≠ .exited) : s.Alive :=
  ⟨phase, List.mem_of_getElem? hphase, hne⟩

theorem alive_moveTo {worker : Nat} {before after : WorkerPhase}
    (hphase : s.workers[worker]? = some before) (hafter : after ≠ .exited) :
    (s.moveTo worker after).Alive := by
  have hlength := (List.getElem?_eq_some_iff.mp hphase).1
  exact alive_of_getElem? (List.getElem?_set_self hlength) hafter

theorem alive_wake (halive : s.Alive) : ∃ phase ∈ s.workers.map WorkerPhase.wake,
    phase ≠ .exited := by
  obtain ⟨phase, hmem, hne⟩ := halive
  refine ⟨phase.wake, List.mem_map_of_mem hmem, ?_⟩
  cases phase <;> simp_all [WorkerPhase.wake]

/-- The last worker leaves on an empty queue, or at the loop head. -/
theorem Step.alive (hstep : Step s event s') (halive : s.Alive) :
    s'.Alive ∨ (s.controller.running = false ∧ (s'.controller.queue = [] ∨
      ∃ worker, event = .testHead worker ∧ s' = s.moveTo worker .exited)) := by
  cases hstep with
  | submit hmutex hknown hnotify =>
      left
      cases hnotify with
      | nobody hnone => exact halive
      | woken hblocked => exact alive_moveTo hblocked (by simp)
  | start hrunning =>
      obtain ⟨phase, hmem, hne⟩ := halive
      exact .inl ⟨phase, List.mem_append_left _ hmem, hne⟩
  | notifyAll hcall => exact .inl (alive_wake halive)
  | join hcall hjoined => exact absurd halive hjoined
  | leaveLoop hphase hrunning => exact .inr ⟨hrunning, .inr ⟨_, rfl, rfl⟩⟩
  | breakLoop hphase hempty hrunning => exact .inr ⟨hrunning, .inl hempty⟩
  | enterLoop hphase _ => exact .inl (alive_moveTo hphase (by simp))
  | lock hphase _ => exact .inl (alive_moveTo hphase (by simp))
  | take hphase _ => exact .inl (alive_moveTo hphase (by simp))
  | wait hphase _ _ => exact .inl (alive_moveTo hphase (by simp))
  | block hphase => exact .inl (alive_moveTo hphase (by simp))
  | spuriousWake hphase => exact .inl (alive_moveTo hphase (by simp))
  | markRunning hphase _ => exact .inl (alive_moveTo hphase (by simp))
  | execute hphase => exact .inl (alive_moveTo hphase (by simp))
  | recordResult hphase _ => exact .inl (alive_moveTo hphase (by simp))
  | report hphase => exact .inl (alive_moveTo hphase (by simp))
  | _ => exact .inl halive

/-- No task is left behind: fewer than 2^64 tasks are submitted, `stop` finds the workers
running or nothing left to do, and the last worker does not leave at the loop head with a
task in the queue that a `stop` waits for. -/
def Orderly (s : Pool) : Event → Prop
  | .submit .. => s.submitted.length < 2 ^ 64
  | .stopCalled =>
      s.controller.running = true ∨ (s.controller.queue = [] ∧ s.held = [])
  | .testHead worker =>
      s.controller.running = true ∨
        (∃ other phase, other ≠ worker ∧ s.workers[other]? = some phase ∧
          phase ≠ .exited) ∨
        ∀ call ∈ s.stops, call.phase ≠ .returned →
          ∀ entry ∈ call.owed, entry ∉ s.controller.queue
  | _ => True

def AtMostOnce (s : Pool) : Prop :=
  ∀ taskId, (s.executed.map TaskEntry.taskId).count taskId ≤ 1

/-- A `stop` that has returned has drained the queue. -/
def Drained (s : Pool) : Prop :=
  ∀ call ∈ s.stops, call.phase = .returned →
    ∀ entry ∈ call.owed, (s.executed.map TaskEntry.taskId).count entry.taskId = 1

structure Settled (s : Pool) : Prop where
  conserved : s.Conserved
  numbered : s.Numbered
  bounded : s.submitted.length ≤ 2 ^ 64
  alive : s.controller.running = true → s.Alive
  owed : ∀ call ∈ s.stops, call.owed ⊆ s.submitted
  unfinished : ∀ call ∈ s.stops, call.phase ≠ .returned →
    ∀ entry ∈ call.owed, entry ∈ s.controller.queue → s.Alive
  finished : ∀ call ∈ s.stops, call.phase = .returned → call.owed ⊆ s.executed

theorem Conserved.mem_or (hconserved : s.Conserved) {entry : TaskEntry}
    (hentry : entry ∈ s.submitted) :
    entry ∈ s.controller.queue ∨ entry ∈ s.held ∨ entry ∈ s.executed := by
  have hmem : entry ∈ (s.submitted : Multiset TaskEntry) := hentry
  rw [← hconserved] at hmem
  simpa [or_assoc] using hmem

theorem Settled.atMostOnce (hsettled : s.Settled) : s.AtMostOnce := by
  have hnodup := hsettled.numbered.nodup hsettled.bounded
  have hle : (s.executed.map TaskEntry.taskId : Multiset ByteString) ≤
      s.submitted.map TaskEntry.taskId := by
    rw [← Multiset.map_coe, ← Multiset.map_coe]
    apply Multiset.map_le_map
    rw [← hsettled.conserved]
    exact Multiset.le_add_left _ _
  have hexecuted : (s.executed.map TaskEntry.taskId).Nodup :=
    Multiset.nodup_of_le hle hnodup
  exact List.nodup_iff_count_le_one.mp hexecuted

theorem Settled.drained (hsettled : s.Settled) : s.Drained := by
  intro call hcall hreturned entry hentry
  apply le_antisymm (hsettled.atMostOnce entry.taskId)
  exact List.count_pos_iff.mpr
    (List.mem_map_of_mem (hsettled.finished call hcall hreturned hentry))

theorem Step.alive_of_running (hstep : Step s event s') (hsettled : s.Settled)
    (hrunning : s'.controller.running = true) : s'.Alive := by
  cases hbefore : s.controller.running with
  | true =>
      rcases hstep.alive (hsettled.alive hbefore) with halive | ⟨hstopped, -⟩
      · exact halive
      · simp [hbefore] at hstopped
  | false =>
      have heq := hrunning.symm.trans hstep.running_eq
      cases hstep with
      | start hstopped =>
          refine ⟨.head, List.mem_append_right _ ?_, by simp⟩
          exact List.mem_replicate.mpr ⟨s.controller.workerCount_pos.ne', rfl⟩
      | startRunning hstarted => simp [hbefore] at hstarted
      | stopStopped _ => simp at heq
      | stop _ => simp at heq
      | _ => simp [hbefore] at heq

/-- Where a call of `stop` comes from: it was there before, and returned only if all
workers were joined, or it is new. -/
theorem Step.call_cases (hstep : Step s event s') {call : StopCall} (hcall : call ∈ s'.stops) :
    (∃ before ∈ s.stops, before.owed = call.owed ∧
        (call.phase ≠ .returned → before.phase ≠ .returned) ∧
        (call.phase = .returned → before.phase = .returned ∨ ¬ s.Alive)) ∨
      (event = .stopCalled ∧ call.owed = s.submitted ∧
        (call.phase = .returned ↔ s.controller.running = false)) := by
  have hkeep : call ∈ s.stops → ∃ before ∈ s.stops, before.owed = call.owed ∧
      (call.phase ≠ .returned → before.phase ≠ .returned) ∧
      (call.phase = .returned → before.phase = .returned ∨ ¬ s.Alive) := fun hmem =>
    ⟨call, hmem, rfl, id, .inl⟩
  cases hstep with
  | stopStopped hrunning =>
      rcases List.mem_append.mp hcall with hcall | hnew
      · exact .inl (hkeep hcall)
      · obtain rfl := List.mem_singleton.mp hnew
        exact .inr ⟨rfl, rfl, by simp [hrunning]⟩
  | stop hrunning =>
      rcases List.mem_append.mp hcall with hcall | hnew
      · exact .inl (hkeep hcall)
      · obtain rfl := List.mem_singleton.mp hnew
        exact .inr ⟨rfl, rfl, by simp [hrunning]⟩
  | notifyAll hnotifying =>
      rcases List.mem_or_eq_of_mem_set hcall with hcall | rfl
      · exact .inl (hkeep hcall)
      · exact .inl ⟨_, List.mem_of_getElem? hnotifying, rfl, by simp, by simp⟩
  | join hjoining hjoined =>
      rcases List.mem_or_eq_of_mem_set hcall with hcall | rfl
      · exact .inl (hkeep hcall)
      · exact .inl ⟨_, List.mem_of_getElem? hjoining, rfl, by simp, fun _ => .inr hjoined⟩
  | _ => exact .inl (hkeep hcall)

theorem Step.submitted_subset (hstep : Step s event s') : s.submitted ⊆ s'.submitted := by
  cases hstep with
  | submit hmutex hknown hnotify => exact List.subset_append_left _ _
  | _ => exact List.Subset.refl _

theorem Step.executed_subset (hstep : Step s event s') : s.executed ⊆ s'.executed := by
  cases hstep with
  | execute hphase => exact List.subset_append_left _ _
  | _ => exact List.Subset.refl _

theorem Step.owed (hstep : Step s event s') (hsettled : s.Settled) :
    ∀ call ∈ s'.stops, call.owed ⊆ s'.submitted := by
  intro call hcall
  apply List.Subset.trans ?_ hstep.submitted_subset
  rcases hstep.call_cases hcall with ⟨before, hbefore, howed, -⟩ | ⟨-, howed, -⟩
  · rw [← howed]
    exact hsettled.owed before hbefore
  · rw [howed]
    exact List.Subset.refl _

/-- A new entry has an id that no submitted task has. -/
theorem Step.fresh (hstep : Step s event s') (hsettled : s.Settled)
    (hbound : s'.submitted.length ≤ 2 ^ 64) {entry : TaskEntry}
    (hentry : entry ∈ s'.controller.queue) (hold : entry ∈ s.submitted) :
    entry ∈ s.controller.queue := by
  have hnodup := (hstep.numbered hsettled.numbered).nodup hbound
  cases hstep with
  | submit hmutex hknown hnotify =>
      simp only [AgentController.submitTask, hknown, if_true, List.mem_cons] at hentry
      rcases hentry with rfl | hentry
      · rw [List.map_append, List.nodup_append] at hnodup
        have hne := hnodup.2.2 _ (List.mem_map_of_mem hold) _
          (List.mem_map_of_mem (List.mem_singleton.mpr rfl))
        exact absurd rfl hne
      · exact hentry
  | take hphase htop => exact List.mem_of_mem_erase hentry
  | markRunning hphase hmutex => simpa using hentry
  | _ => exact hentry

theorem alive_of_other {worker other : Nat} {phase : WorkerPhase} (hne : other ≠ worker)
    (hother : s.workers[other]? = some phase) (halive : phase ≠ .exited) :
    (s.moveTo worker .exited).Alive := by
  have hstands : (s.moveTo worker .exited).workers[other]? = some phase := by
    simp only [moveTo]
    rw [List.getElem?_set_ne hne.symm]
    exact hother
  exact alive_of_getElem? hstands halive

/-- As long as a call of `stop` waits for a task in the queue, a worker is alive. -/
theorem Step.unfinished (horderly : s.Orderly event) (hstep : Step s event s')
    (hsettled : s.Settled) (hbound : s'.submitted.length ≤ 2 ^ 64) :
    ∀ call ∈ s'.stops, call.phase ≠ .returned →
      ∀ entry ∈ call.owed, entry ∈ s'.controller.queue → s'.Alive := by
  intro call hcall hopen entry hentry hqueued
  rcases hstep.call_cases hcall with ⟨before, hbefore, howed, hphase, -⟩ | ⟨rfl, -, hreturned⟩
  · have hold : entry ∈ before.owed := by rw [howed]; exact hentry
    have hqueue := hstep.fresh hsettled hbound hqueued (hsettled.owed before hbefore hold)
    have halive := hsettled.unfinished before hbefore (hphase hopen) entry hold hqueue
    rcases hstep.alive halive with halive | ⟨hstopped, hempty | ⟨worker, rfl, rfl⟩⟩
    · exact halive
    · simp [hempty] at hqueued
    · -- the guard of the last worker that leaves at the loop head
      rcases horderly with hrunning | ⟨other, phase, hne, hother, halive⟩ | hnothing
      · simp [hstopped] at hrunning
      · exact alive_of_other hne hother halive
      · exact absurd hqueue (hnothing before hbefore (hphase hopen) entry hold)
  · have hrunning : s.controller.running = true := by
      simpa using mt hreturned.mpr hopen
    rcases hstep.alive (hsettled.alive hrunning) with halive | ⟨hstopped, -⟩
    · exact halive
    · simp [hrunning] at hstopped

/-- A call of `stop` that returns has seen its tasks executed. -/
theorem Step.finished (horderly : s.Orderly event) (hstep : Step s event s')
    (hsettled : s.Settled) :
    ∀ call ∈ s'.stops, call.phase = .returned → call.owed ⊆ s'.executed := by
  intro call hcall hreturned entry hentry
  apply hstep.executed_subset
  rcases hstep.call_cases hcall with ⟨before, hbefore, howed, -, hphase⟩ | ⟨rfl, howed, hstopped⟩
  · have hold : entry ∈ before.owed := by rw [howed]; exact hentry
    by_cases hbeforeReturned : before.phase = .returned
    · exact hsettled.finished before hbefore hbeforeReturned hold
    · have hjoined : ¬ s.Alive := (hphase hreturned).resolve_left hbeforeReturned
      rcases hsettled.conserved.mem_or (hsettled.owed before hbefore hold) with
        hqueue | hheld | hexecuted
      · exact absurd (hsettled.unfinished before hbefore hbeforeReturned entry hold hqueue)
          hjoined
      · simp [held_of_not_alive hjoined] at hheld
      · exact hexecuted
  · have hsubmitted : entry ∈ s.submitted := howed ▸ hentry
    rcases horderly with hrunning | ⟨hqueue, hheld⟩
    · simp [hstopped.mp hreturned] at hrunning
    · simpa [hqueue, hheld] using hsettled.conserved.mem_or hsubmitted

theorem Step.settled (horderly : s.Orderly event) (hstep : Step s event s')
    (hsettled : s.Settled) : s'.Settled := by
  have hbound : s'.submitted.length ≤ 2 ^ 64 := by
    cases hstep with
    | submit hmutex hknown hnotify =>
        have hless : s.submitted.length < 2 ^ 64 := horderly
        simpa using hless
    | _ => exact hsettled.bounded
  exact
    { conserved := hstep.conserved hsettled.conserved
      numbered := hstep.numbered hsettled.numbered
      bounded := hbound
      alive := hstep.alive_of_running hsettled
      owed := hstep.owed hsettled
      unfinished := hstep.unfinished horderly hsettled hbound
      finished := hstep.finished horderly hsettled }

theorem Fresh.settled (hfresh : s.Fresh) : s.Settled := by
  obtain ⟨controller, hqueue, hrunning, hnext, rfl⟩ := hfresh
  exact
    { conserved := by simp [Conserved, held, hqueue]
      numbered := ⟨hnext, rfl⟩
      bounded := Nat.zero_le _
      alive := fun h => by simp [hrunning] at h
      owed := by simp
      unfinished := by simp
      finished := by simp }

/-- In every orderly run each task is executed at most once, and a `stop` that has returned
has seen every task submitted before it executed exactly once. -/
theorem trace_drained {steps : List (Transition Pool Event)} {s : Pool}
    (htrace : Trace system steps s) (horderly : ∀ t ∈ steps, t.before.Orderly t.label) :
    s.AtMostOnce ∧ s.Drained := by
  have hstep : ∀ s event s', s.Settled → s.Orderly event → system.Step s event s' →
      s'.Settled := fun _ _ _ hsettled horderly hstep =>
    Step.settled horderly hstep hsettled
  have hsettled : s.Settled :=
    htrace.guarded_invariant (fun _ hfresh => Fresh.settled hfresh) hstep horderly
  exact ⟨hsettled.atMostOnce, hsettled.drained⟩

def triagePersona : AgentPersona where
  name := "triage"
  category := "soc"
  preferredModel := .fast
  systemPrompt := "triage"

def triageController : AgentController where
  personas := Std.TreeMap.empty.insert "triage" triagePersona
  workerCount := 1

def triageTask : TaskEntry :=
  triageController.newEntry 0 "triage" "ping" .normal

def triageResult : TaskResult where
  taskId := triageTask.taskId
  agentName := "triage"
  ok := true
  completedAtMs := 1

/-- The worker executes the task before `stop` is called. -/
theorem served_task_drained :
    ∃ (steps : List (Transition Pool Event)) (s : Pool), Trace system steps s ∧
      s.stops = [⟨.returned, [triageTask]⟩] ∧ s.AtMostOnce ∧ s.Drained := by
  have h0 : Trace system [] { controller := triageController } :=
    .start ⟨triageController, rfl, rfl, rfl, rfl⟩
  have h1 := h0.extend (Step.start rfl)
  have h2 := h1.extend (@Step.submit _ 0 "triage" "ping" .normal none [.head] rfl (by decide)
    (.nobody (by decide)))
  have h3 := h2.extend (@Step.enterLoop _ 0 rfl rfl)
  have h4 := h3.extend (@Step.lock _ 0 rfl rfl)
  have h5 := h4.extend (@Step.take _ 0 triageTask rfl (by decide))
  have h6 := h5.extend (@Step.markRunning _ 0 triageTask rfl rfl)
  have h7 := h6.extend (@Step.execute _ 0 triageTask triageResult rfl)
  have h8 := h7.extend (@Step.recordResult _ 0 triageTask triageResult ⟨1, ""⟩ rfl rfl)
  have h9 := h8.extend (@Step.report _ 0 rfl)
  have h10 := h9.extend (Step.stop (by decide))
  have h11 := h10.extend (@Step.notifyAll _ 0 [triageTask] rfl)
  have h12 := h11.extend (@Step.leaveLoop _ 0 rfl (by decide))
  have h13 := h12.extend (@Step.join _ 0 [triageTask] rfl
    (by simp [Alive, moveTo, triageController, WorkerPhase.wake]))
  refine ⟨_, _, h13, rfl, trace_drained h13 ?_⟩
  simp only [Orderly, moveTo, triageController, List.nil_append,
    List.cons_append, List.forall_mem_cons, List.not_mem_nil, IsEmpty.forall_iff,
    implies_true, true_and, and_true]
  exact ⟨by decide, .inl (by decide), .inl (by decide), .inr (.inr (by decide))⟩

/-- `stop` is called before the worker reaches its loop, which it then leaves at once. -/
theorem idle_worker_leaves_task :
    ∃ s, Reachable system s ∧ s.stops = [⟨.returned, [triageTask]⟩] ∧ s.executed = [] ∧
      ¬ s.Drained := by
  have h0 : Trace system [] { controller := triageController } :=
    .start ⟨triageController, rfl, rfl, rfl, rfl⟩
  have h1 := h0.extend (Step.start rfl)
  have h2 := h1.extend (@Step.submit _ 0 "triage" "ping" .normal none [.head] rfl (by decide)
    (.nobody (by decide)))
  have h3 := h2.extend (Step.stop (by decide))
  have h4 := h3.extend (@Step.notifyAll _ 0 [triageTask] rfl)
  have h5 := h4.extend (@Step.leaveLoop _ 0 rfl (by decide))
  have h6 := h5.extend (@Step.join _ 0 [triageTask] rfl (by simp [Alive, moveTo, WorkerPhase.wake]))
  refine ⟨_, ⟨_, h6⟩, rfl, rfl, fun hdrained => ?_⟩
  have hcount := hdrained _ (List.mem_singleton.mpr rfl) rfl triageTask (by simp)
  simp [moveTo] at hcount

end Draining

end Astartis.Agents.Pool
