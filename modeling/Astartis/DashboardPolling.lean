import Astartis.ByteString
import Astartis.TransitionSystem
import Mathlib.Algebra.Order.Field.Rat
import Mathlib.Tactic.Linarith
import Mathlib.Tactic.NormNum

/-!
How the script of the dashboard keeps asking for its data: the timer of `doPoll`, the polls that
wait for an answer, the check of `/health` beside them, and the banner over stale data.
-/

namespace Astartis.Script

open ByteString
open TransitionSystem

def pollNormalMs : ℚ := 3000

def pollMaxMs : ℚ := 30000

/-- Failures in a row before the banner is shown. -/
def pollErrorShow : Nat := 5

/-- A timer that the browser holds for `doPoll`. -/
structure PollTimer where
  id : Nat
  delayMs : ℚ

/-- The page between two tasks of its event loop. -/
structure Page (Data : Type*) where
  timers : List PollTimer := []
  nextId : Nat := 1
  pollTimer : Option Nat := none
  /-- The calls of `doPoll` that wait for their answer. -/
  polls : Nat := 1
  pollErrors : Nat := 0
  lastData : Option Data := none
  lastSuccessfulPollTime : Option Nat := none
  staleBanner : Bool := false
  staleTs : Option Nat := none
  pillBackend : ByteString := "BACKEND –"
  healthTimers : Nat := 0
  healthChecks : Nat := 1

/-- A task of the event loop: a timer goes off, or an answer arrives. -/
inductive Task (Data : Type*)
  | doPoll (id : Nat)
  /-- The document has been read, and `updateAll` may throw. -/
  | pollLoaded (d : Data) (now : Nat) (throws : Bool)
  | pollFailed
  | doHealthCheck
  | healthAnswered (ok : Bool)
  | healthFailed

namespace Page

variable {Data : Type*}

def schedulePoll (self : Page Data) (delayMs : ℚ) : Page Data :=
  { self with
    timers := self.timers.filter (fun timer => some timer.id ≠ self.pollTimer) ++
      [⟨self.nextId, delayMs⟩]
    nextId := self.nextId + 1
    pollTimer := some self.nextId }

def downText (fails : Nat) : ByteString :=
  ("BACKEND DOWN (" : ByteString) ++ (natText 10 fails ++ ("×)" : ByteString))

def updateDegradedBanner (self : Page Data) (shown : Bool) : Page Data :=
  { self with
    staleBanner := shown
    staleTs :=
      if shown && self.lastSuccessfulPollTime.isSome then self.lastSuccessfulPollTime
      else self.staleTs
    pillBackend :=
      if !shown then "BACKEND OK"
      else if 3 ≤ self.pollErrors then downText self.pollErrors
      else ("BACKEND ⚠ (" : ByteString) ++ (natText 10 self.pollErrors ++ ("×)" : ByteString)) }

/-- The delay after so many failures in a row. -/
def backoff (pollErrors : Nat) : ℚ :=
  min (pollNormalMs * (3 / 2) ^ (pollErrors - 1)) pollMaxMs

def countError (self : Page Data) : Page Data :=
  let self := { self with pollErrors := self.pollErrors + 1 }
  if pollErrorShow ≤ self.pollErrors then self.updateDegradedBanner true else self

/-- The `catch` of `doPoll`. -/
def pollError (self : Page Data) : Page Data :=
  self.countError.schedulePoll (backoff self.countError.pollErrors)

/-- `pollErrors = 0`, with the banner taken down before. -/
def recover (self : Page Data) : Page Data :=
  { (if pollErrorShow ≤ self.pollErrors then self.updateDegradedBanner false else self) with
    pollErrors := 0 }

def pollLoaded (self : Page Data) (d : Data) (now : Nat) (throws : Bool) : Page Data :=
  let self := { self with lastSuccessfulPollTime := some now }
  let self := { self.recover with lastData := some d }
  if throws then self.pollError
  else { self with pillBackend := "BACKEND OK" }.schedulePoll pollNormalMs

def healthAnswered (self : Page Data) (ok : Bool) : Page Data :=
  if ok then
    let self :=
      if pollErrorShow ≤ self.pollErrors then self.recover.schedulePoll 200 else self
    if ("BACKEND DOWN" : ByteString).isPrefixOf self.pillBackend ||
        ("BACKEND -" : ByteString).isPrefixOf self.pillBackend then
      { self with pillBackend := "BACKEND OK" }
    else self
  else self

/-- The end of `doHealthCheck`. -/
def scheduleHealth (self : Page Data) : Page Data :=
  { self with healthTimers := self.healthTimers + 1 }

def run? (self : Page Data) : Task Data → Option (Page Data)
  | .doPoll id =>
      if self.timers.any (fun timer => timer.id == id) then
        some { self with
          timers := self.timers.filter (fun timer => timer.id ≠ id)
          polls := self.polls + 1 }
      else none
  | .pollLoaded d now throws =>
      if 0 < self.polls then some ({ self with polls := self.polls - 1 }.pollLoaded d now throws)
      else none
  | .pollFailed =>
      if 0 < self.polls then some { self with polls := self.polls - 1 }.pollError else none
  | .doHealthCheck =>
      if 0 < self.healthTimers then
        some { self with
          healthTimers := self.healthTimers - 1, healthChecks := self.healthChecks + 1 }
      else none
  | .healthAnswered ok =>
      if 0 < self.healthChecks then
        some ({ self with healthChecks := self.healthChecks - 1 }.healthAnswered ok).scheduleHealth
      else none
  | .healthFailed =>
      if 0 < self.healthChecks then
        some { self with healthChecks := self.healthChecks - 1 }.scheduleHealth
      else none

end Page

/-- The page after `init`, and what the event loop does from there. -/
def pageSystem (Data : Type*) : System (Page Data) (Task Data) where
  Init := fun page => page = {}
  Step := fun page task after => page.run? task = some after

/-- What the tasks of a run came to, for the count of the failures. -/
inductive PollOutcome
  | loaded
  | failed
  | recovered
deriving DecidableEq

/-- A poll whose `updateAll` throws has loaded its data and then fails. -/
def pollOutcomes {Data : Type*} (t : Transition (Page Data) (Task Data)) : List PollOutcome :=
  match t.label with
  | .pollLoaded _ _ throws => if throws then [.loaded, .failed] else [.loaded]
  | .pollFailed => [.failed]
  | .healthAnswered ok =>
      if ok && decide (pollErrorShow ≤ t.before.pollErrors) then [.recovered] else []
  | _ => []

def outcomesOf {Data : Type*} (steps : List (Transition (Page Data) (Task Data))) :
    List PollOutcome :=
  steps.flatMap pollOutcomes

/-- The failures since the last poll that loaded its data, or the last recovery. -/
def failuresInRow (outcomes : List PollOutcome) : Nat :=
  (afterLast (· ≠ .failed) outcomes).length

section Backoff

theorem backoff_le (pollErrors : Nat) : Page.backoff pollErrors ≤ 30000 :=
  min_le_right _ _

theorem le_backoff (pollErrors : Nat) : 3000 ≤ Page.backoff pollErrors := by
  have hpow : (1 : ℚ) ≤ (3 / 2) ^ (pollErrors - 1) := one_le_pow₀ (by norm_num)
  apply le_min
  · unfold pollNormalMs
    linarith
  · unfold pollMaxMs
    norm_num

end Backoff

section Timers

variable {Data : Type*} {page : Page Data}

/-- The browser holds no other timer than the one that the script knows. -/
def Page.Known (page : Page Data) : Prop :=
  ∀ timer ∈ page.timers, page.pollTimer = some timer.id

/-- A timer is set, with the delays that the script uses. -/
def Page.Scheduled (page : Page Data) : Prop :=
  ∃ timer, page.timers = [timer] ∧ page.pollTimer = some timer.id ∧
    200 ≤ timer.delayMs ∧ timer.delayMs ≤ 30000

theorem Page.Scheduled.known (hscheduled : page.Scheduled) : page.Known := by
  obtain ⟨timer, htimers, hknown, -⟩ := hscheduled
  intro other hother
  rw [htimers, List.mem_singleton] at hother
  rw [hother, hknown]

theorem Page.Known.scheduled (hknown : page.Known) {delayMs : ℚ} (hlow : 200 ≤ delayMs)
    (hhigh : delayMs ≤ 30000) : (page.schedulePoll delayMs).Scheduled := by
  refine ⟨⟨page.nextId, delayMs⟩, ?_, rfl, hlow, hhigh⟩
  have hcleared : page.timers.filter (fun timer => some timer.id ≠ page.pollTimer) = [] := by
    apply List.filter_eq_nil_iff.mpr
    intro timer htimer
    simp [hknown timer htimer]
  rw [Page.schedulePoll, hcleared]
  rfl

end Timers

section Errors

variable {Data : Type*} {page : Page Data}

/-- The banner and the pill that go with a count of failures. -/
structure Reports (staleBanner : Bool) (pillBackend : ByteString) (pollErrors : Nat) : Prop where
  banner : staleBanner = decide (5 ≤ pollErrors)
  down : 5 ≤ pollErrors → pillBackend = Page.downText pollErrors
  up : pollErrors < 5 → pillBackend = "BACKEND OK" ∨ pillBackend = "BACKEND –"

def Page.Reports (page : Page Data) : Prop :=
  Script.Reports page.staleBanner page.pillBackend page.pollErrors

theorem Page.updateDegradedBanner_down (hthree : 3 ≤ page.pollErrors) :
    (page.updateDegradedBanner true).pillBackend = Page.downText page.pollErrors := by
  simp [Page.updateDegradedBanner, hthree]

theorem Page.countError_pollErrors : page.countError.pollErrors = page.pollErrors + 1 := by
  rw [Page.countError]
  split <;> rfl

theorem Page.Reports.countError (hreports : page.Reports) : page.countError.Reports := by
  rw [Page.countError]
  by_cases hmany : pollErrorShow ≤ page.pollErrors + 1
  · rw [if_pos hmany]
    have hfive : 5 ≤ page.pollErrors + 1 := hmany
    refine ⟨(decide_eq_true hfive).symm, fun _ => ?_, fun hfew => ?_⟩
    · exact Page.updateDegradedBanner_down (show 3 ≤ page.pollErrors + 1 by omega)
    · exact absurd hfive (Nat.not_le.mpr hfew)
  · rw [if_neg hmany]
    have hfew : page.pollErrors + 1 < 5 := Nat.not_le.mp hmany
    refine ⟨?_, fun hfive => absurd hfew (Nat.not_lt.mpr hfive), fun _ => ?_⟩
    · rw [hreports.banner, decide_eq_false (by omega), decide_eq_false (Nat.not_le.mpr hfew)]
    · exact hreports.up (by omega)

/-- Whether or not the banner was up, it is down once the count is set back. -/
theorem Page.Reports.recover (hreports : page.Reports) : page.recover.Reports := by
  rw [Page.recover]
  by_cases hmany : pollErrorShow ≤ page.pollErrors
  · rw [if_pos hmany]
    refine ⟨rfl, fun hfive => absurd hfive (by simp), fun _ => .inl rfl⟩
  · rw [if_neg hmany]
    have hfew : page.pollErrors < 5 := Nat.not_le.mp hmany
    refine ⟨?_, fun hfive => absurd hfive (by simp), fun _ => hreports.up hfew⟩
    show page.staleBanner = _
    rw [hreports.banner, decide_eq_false (Nat.not_le.mpr hfew)]
    rfl

end Errors

section Outcomes

theorem failuresInRow_concat (outcomes : List PollOutcome) (outcome : PollOutcome) :
    failuresInRow (outcomes ++ [outcome]) =
      if outcome = .failed then failuresInRow outcomes + 1 else 0 := by
  rw [failuresInRow, afterLast_concat]
  by_cases hfailed : outcome = .failed
  · rw [if_neg (by simpa using hfailed), if_pos hfailed, List.length_append, failuresInRow]
    rfl
  · rw [if_pos hfailed, if_neg hfailed]
    rfl

end Outcomes

section Runs

variable {Data : Type*} {page : Page Data} {outcomes : List PollOutcome}

/-- The page while a task runs that will set the timer. -/
structure Page.Running (page : Page Data) (outcomes : List PollOutcome) : Prop where
  known : page.Known
  errors : page.pollErrors = failuresInRow outcomes
  reports : page.Reports
  polls : page.polls ≤ outcomes.count .recovered
  recoveries : 5 * outcomes.count .recovered + page.pollErrors ≤ outcomes.count .failed

/-- The page behind a run with these outcomes. -/
structure Page.Follows (page : Page Data) (outcomes : List PollOutcome) : Prop where
  scheduled : page.Scheduled ∨ page.timers = [] ∧ 0 < page.polls
  errors : page.pollErrors = failuresInRow outcomes
  reports : page.Reports
  polls : page.polls + page.timers.length ≤ 1 + outcomes.count .recovered
  recoveries : 5 * outcomes.count .recovered + page.pollErrors ≤ outcomes.count .failed

theorem Page.Follows.known (hfollows : page.Follows outcomes) : page.Known := by
  rcases hfollows.scheduled with hscheduled | ⟨hnone, -⟩
  · exact hscheduled.known
  · intro timer htimer
    exact absurd (hnone ▸ htimer) List.not_mem_nil

theorem Page.Running.schedulePoll (hrunning : page.Running outcomes) {delayMs : ℚ}
    (hlow : 200 ≤ delayMs) (hhigh : delayMs ≤ 30000) :
    (page.schedulePoll delayMs).Follows outcomes := by
  have hscheduled := hrunning.known.scheduled hlow hhigh
  refine ⟨.inl hscheduled, hrunning.errors, hrunning.reports, ?_,
    hrunning.recoveries⟩
  obtain ⟨timer, htimers, -⟩ := hscheduled
  rw [htimers, List.length_singleton]
  have hpolls := hrunning.polls
  show page.polls + 1 ≤ _
  omega

theorem Page.countError_timers : page.countError.timers = page.timers ∧
    page.countError.pollTimer = page.pollTimer ∧ page.countError.polls = page.polls := by
  rw [Page.countError]
  split <;> exact ⟨rfl, rfl, rfl⟩

theorem Page.Running.pollError (hrunning : page.Running outcomes) :
    page.pollError.Follows (outcomes ++ [.failed]) := by
  obtain ⟨htimers, hpollTimer, hpolls⟩ := @Page.countError_timers _ page
  have hcounted : page.countError.Running (outcomes ++ [.failed]) := by
    refine ⟨?_, ?_, hrunning.reports.countError, ?_, ?_⟩
    · unfold Page.Known
      rw [htimers, hpollTimer]
      exact hrunning.known
    · rw [Page.countError_pollErrors, hrunning.errors, failuresInRow_concat]
      rfl
    · rw [hpolls, List.count_append]
      exact Nat.le_add_right_of_le hrunning.polls
    · have hrecoveries := hrunning.recoveries
      rw [Page.countError_pollErrors, List.count_append, List.count_append]
      show 5 * (_ + 0) + _ ≤ _ + 1
      omega
  refine hcounted.schedulePoll ?_ (backoff_le _)
  have hlow := le_backoff page.countError.pollErrors
  linarith

theorem Page.recover_timers : page.recover.timers = page.timers ∧
    page.recover.pollTimer = page.pollTimer ∧ page.recover.polls = page.polls := by
  rw [Page.recover]
  split <;> exact ⟨rfl, rfl, rfl⟩

theorem Page.Running.recover (hrunning : page.Running outcomes) :
    page.recover.Running (outcomes ++ [.loaded]) := by
  obtain ⟨htimers, hpollTimer, hpolls⟩ := @Page.recover_timers _ page
  refine ⟨?_, ?_, hrunning.reports.recover, ?_, ?_⟩
  · unfold Page.Known
    rw [htimers, hpollTimer]
    exact hrunning.known
  · rw [failuresInRow_concat]
    rfl
  · rw [hpolls, List.count_append]
    exact Nat.le_add_right_of_le hrunning.polls
  · have hrecoveries := hrunning.recoveries
    rw [List.count_append, List.count_append]
    show 5 * (_ + 0) + 0 ≤ _ + 0
    omega

theorem Page.Follows.settle (hfollows : page.Follows outcomes) (hpolls : 0 < page.polls) :
    { page with polls := page.polls - 1 }.Running outcomes := by
  refine ⟨hfollows.known, hfollows.errors, hfollows.reports, ?_, hfollows.recoveries⟩
  have hcount := hfollows.polls
  show page.polls - 1 ≤ _
  omega

theorem Page.Running.pollLoaded (hrunning : page.Running outcomes) (d : Data) (now : Nat)
    (throws : Bool) :
    (page.pollLoaded d now throws).Follows
      (outcomes ++ if throws then [.loaded, .failed] else [.loaded]) := by
  have hloaded : Page.Running { { page with lastSuccessfulPollTime := some now }.recover with
      lastData := some d } (outcomes ++ [.loaded]) := by
    have hnow : Page.Running { page with lastSuccessfulPollTime := some now } outcomes :=
      ⟨hrunning.known, hrunning.errors, hrunning.reports, hrunning.polls, hrunning.recoveries⟩
    have hrecovered := hnow.recover
    exact ⟨hrecovered.known, hrecovered.errors, hrecovered.reports, hrecovered.polls,
      hrecovered.recoveries⟩
  cases throws with
  | true =>
      rw [Page.pollLoaded, if_pos rfl, if_pos rfl, List.append_cons]
      exact hloaded.pollError
  | false =>
      rw [Page.pollLoaded, if_neg (by simp), if_neg (by simp)]
      refine Page.Running.schedulePoll ?_ (by norm_num [pollNormalMs]) (by norm_num [pollNormalMs])
      have hdown : ¬ 5 ≤ (0 : Nat) := by simp
      exact ⟨hloaded.known, hloaded.errors, ⟨hloaded.reports.banner, fun h => absurd h hdown,
        fun _ => .inl rfl⟩, hloaded.polls, hloaded.recoveries⟩

theorem Page.Follows.recovered (hfollows : page.Follows outcomes)
    (hmany : pollErrorShow ≤ page.pollErrors) :
    (page.recover.schedulePoll 200).Follows (outcomes ++ [.recovered]) := by
  obtain ⟨htimers, hpollTimer, hpolls⟩ := @Page.recover_timers _ page
  have hrecovered : page.recover.Running (outcomes ++ [.recovered]) := by
    refine ⟨?_, ?_, hfollows.reports.recover, ?_, ?_⟩
    · unfold Page.Known
      rw [htimers, hpollTimer]
      exact hfollows.known
    · rw [failuresInRow_concat]
      rfl
    · have hcount := hfollows.polls
      rw [hpolls, List.count_append]
      show page.polls ≤ _ + 1
      omega
    · have hrecoveries := hfollows.recoveries
      have hfive : 5 ≤ page.pollErrors := hmany
      rw [List.count_append, List.count_append]
      show 5 * (_ + 1) + 0 ≤ _ + 0
      omega
  exact hrecovered.schedulePoll le_rfl (by norm_num)

/-- The second test of `doHealthCheck` never succeeds: the pill that it waits for is gone by
then, or was never there. -/
theorem Page.Reports.unmatched (hreports : page.Reports) (hfew : page.pollErrors < 5) :
    (("BACKEND DOWN" : ByteString).isPrefixOf page.pillBackend ||
      ("BACKEND -" : ByteString).isPrefixOf page.pillBackend) = false := by
  rcases hreports.up hfew with hpill | hpill
  · rw [hpill]
    rfl
  · rw [hpill]
    rfl

theorem Page.Follows.healthAnswered (hfollows : page.Follows outcomes) (ok : Bool) :
    (page.healthAnswered ok).Follows (outcomes ++
      if ok && decide (pollErrorShow ≤ page.pollErrors) then [.recovered] else []) := by
  cases ok with
  | false =>
      rw [Page.healthAnswered, if_neg (by simp), if_neg (by simp), List.append_nil]
      exact hfollows
  | true =>
      rw [Page.healthAnswered, if_pos rfl, Bool.true_and]
      by_cases hmany : pollErrorShow ≤ page.pollErrors
      · have hrecovered := hfollows.recovered hmany
        have hunmatched := hrecovered.reports.unmatched (show 0 < 5 by simp)
        rw [if_pos hmany, if_pos (decide_eq_true hmany)]
        simp only [hunmatched]
        exact hrecovered
      · have hunmatched := hfollows.reports.unmatched (Nat.not_le.mp hmany)
        simp only [if_neg hmany, decide_eq_false hmany, hunmatched, Bool.false_eq_true, if_false,
          List.append_nil]
        exact hfollows

theorem Page.Follows.run {task : Task Data} {after : Page Data} (hfollows : page.Follows outcomes)
    (hrun : page.run? task = some after) :
    after.Follows (outcomes ++ pollOutcomes ⟨page, task, after⟩) := by
  cases task with
  | doPoll id =>
      rw [Page.run?] at hrun
      split at hrun
      · rename_i hany
        obtain rfl := Option.some.inj hrun
        rcases hfollows.scheduled with ⟨only, hone, -⟩ | ⟨hnone, -⟩
        · have hsame : only.id = id := by simpa [hone] using hany
          have htimers : page.timers.filter (fun timer => timer.id ≠ id) = [] := by
            simp [hone, hsame]
          rw [pollOutcomes, List.append_nil]
          refine ⟨.inr ⟨htimers, Nat.succ_pos _⟩, hfollows.errors, hfollows.reports, ?_,
            hfollows.recoveries⟩
          have hcount := hfollows.polls
          rw [hone, List.length_singleton] at hcount
          show page.polls + 1 + (page.timers.filter _).length ≤ _
          rw [htimers]
          exact hcount
        · exact absurd hany (by simp [hnone])
      · exact absurd hrun (by simp)
  | pollLoaded d now throws =>
      rw [Page.run?] at hrun
      split at hrun
      · rename_i hpolls
        obtain rfl := Option.some.inj hrun
        exact (hfollows.settle hpolls).pollLoaded d now throws
      · exact absurd hrun (by simp)
  | pollFailed =>
      rw [Page.run?] at hrun
      split at hrun
      · rename_i hpolls
        obtain rfl := Option.some.inj hrun
        exact (hfollows.settle hpolls).pollError
      · exact absurd hrun (by simp)
  | doHealthCheck =>
      rw [Page.run?] at hrun
      split at hrun
      · obtain rfl := Option.some.inj hrun
        rw [pollOutcomes, List.append_nil]
        exact ⟨hfollows.scheduled, hfollows.errors, hfollows.reports, hfollows.polls,
          hfollows.recoveries⟩
      · exact absurd hrun (by simp)
  | healthAnswered ok =>
      rw [Page.run?] at hrun
      split at hrun
      · obtain rfl := Option.some.inj hrun
        have htaken : Page.Follows { page with healthChecks := page.healthChecks - 1 } outcomes :=
          ⟨hfollows.scheduled, hfollows.errors, hfollows.reports, hfollows.polls,
            hfollows.recoveries⟩
        have hanswered := htaken.healthAnswered ok
        exact ⟨hanswered.scheduled, hanswered.errors, hanswered.reports, hanswered.polls,
          hanswered.recoveries⟩
      · exact absurd hrun (by simp)
  | healthFailed =>
      rw [Page.run?] at hrun
      split at hrun
      · obtain rfl := Option.some.inj hrun
        rw [pollOutcomes, List.append_nil]
        exact ⟨hfollows.scheduled, hfollows.errors, hfollows.reports, hfollows.polls,
          hfollows.recoveries⟩
      · exact absurd hrun (by simp)

/-- The checks of `/health` that are under way or will be. -/
def Page.health (page : Page Data) : Nat :=
  page.healthTimers + page.healthChecks

theorem Page.pollError_health : page.pollError.health = page.health := by
  rw [Page.pollError, Page.countError]
  split <;> rfl

theorem Page.recover_health : page.recover.health = page.health := by
  rw [Page.recover]
  split <;> rfl

theorem Page.pollLoaded_health (d : Data) (now : Nat) (throws : Bool) :
    (page.pollLoaded d now throws).health = page.health := by
  have hrecovered : (Page.recover { page with lastSuccessfulPollTime := some now }).health =
      page.health := Page.recover_health
  rw [Page.pollLoaded]
  split
  · exact Page.pollError_health.trans hrecovered
  · exact hrecovered

theorem Page.healthAnswered_health (ok : Bool) :
    (page.healthAnswered ok).health = page.health := by
  have hrecovered : (page.recover.schedulePoll 200).health = page.health := Page.recover_health
  rw [Page.healthAnswered]
  split
  · by_cases hmany : pollErrorShow ≤ page.pollErrors
    · simp only [if_pos hmany]
      split
      · exact hrecovered
      · exact hrecovered
    · simp only [if_neg hmany]
      split <;> rfl
  · rfl

theorem Page.scheduleHealth_health : page.scheduleHealth.health = page.health + 1 := by
  show page.healthTimers + 1 + page.healthChecks = page.healthTimers + page.healthChecks + 1
  omega

/-- A check that ends has set the timer of the next. -/
theorem Page.run?_health {task : Task Data} {after : Page Data}
    (hrun : page.run? task = some after) : after.health = page.health := by
  cases task with
  | doPoll id =>
      rw [Page.run?] at hrun
      split at hrun
      · obtain rfl := Option.some.inj hrun
        rfl
      · exact absurd hrun (by simp)
  | pollLoaded d now throws =>
      rw [Page.run?] at hrun
      split at hrun
      · obtain rfl := Option.some.inj hrun
        exact Page.pollLoaded_health d now throws
      · exact absurd hrun (by simp)
  | pollFailed =>
      rw [Page.run?] at hrun
      split at hrun
      · obtain rfl := Option.some.inj hrun
        exact Page.pollError_health
      · exact absurd hrun (by simp)
  | doHealthCheck =>
      rw [Page.run?] at hrun
      split at hrun
      · obtain rfl := Option.some.inj hrun
        show page.healthTimers - 1 + (page.healthChecks + 1) = page.healthTimers + page.healthChecks
        omega
      · exact absurd hrun (by simp)
  | healthAnswered ok =>
      rw [Page.run?] at hrun
      split at hrun
      · obtain rfl := Option.some.inj hrun
        have hanswered : (Page.healthAnswered { page with healthChecks := page.healthChecks - 1 }
            ok).health = page.healthTimers + (page.healthChecks - 1) :=
          Page.healthAnswered_health ok
        rw [Page.scheduleHealth_health, hanswered, Page.health]
        omega
      · exact absurd hrun (by simp)
  | healthFailed =>
      rw [Page.run?] at hrun
      split at hrun
      · obtain rfl := Option.some.inj hrun
        rw [Page.scheduleHealth_health]
        show page.healthTimers + (page.healthChecks - 1) + 1 = page.healthTimers + page.healthChecks
        omega
      · exact absurd hrun (by simp)

end Runs

/-- In every run of the page: the dashboard never stops asking, for its data and for `/health`; the
banner is up exactly from the fifth failure in a row on, and the pill counts the failures; and
polls wait beside each other only after recoveries, each of which took five failures. -/
theorem page_keeps_polling {Data : Type*} {steps : List (Transition (Page Data) (Task Data))}
    {page : Page Data} (htrace : Trace (pageSystem Data) steps page) :
    (page.Scheduled ∨ page.timers = [] ∧ 0 < page.polls) ∧ page.health = 1 ∧
      page.pollErrors = failuresInRow (outcomesOf steps) ∧
      (page.staleBanner = true ↔ 5 ≤ failuresInRow (outcomesOf steps)) ∧
      (page.staleBanner = true →
        page.pillBackend = Page.downText (failuresInRow (outcomesOf steps))) ∧
      page.polls + page.timers.length ≤ 1 + (outcomesOf steps).count .recovered ∧
      5 * (outcomesOf steps).count .recovered ≤ (outcomesOf steps).count .failed := by
  have hall : page.Follows (outcomesOf steps) ∧ page.health = 1 := by
    refine htrace.history_invariant
      (I := fun steps page => page.Follows (outcomesOf steps) ∧ page.health = 1) ?_ ?_
    · rintro page rfl
      refine ⟨⟨.inr ⟨rfl, Nat.one_pos⟩, rfl, ⟨rfl, ?_, fun _ => .inr rfl⟩, le_rfl, le_rfl⟩, rfl⟩
      exact fun hfive => absurd hfive (by simp)
    · rintro steps page task after ⟨hfollows, hhealth⟩ hstep
      rw [outcomesOf, List.flatMap_append, List.flatMap_singleton]
      exact ⟨hfollows.run hstep, (Page.run?_health hstep).trans hhealth⟩
  obtain ⟨hfollows, hhealth⟩ := hall
  have hbanner : page.staleBanner = true ↔ 5 ≤ page.pollErrors := by
    rw [hfollows.reports.banner, decide_eq_true_eq]
  have hrecoveries := hfollows.recoveries
  rw [← hfollows.errors]
  refine ⟨hfollows.scheduled, hhealth, rfl, hbanner, ?_, hfollows.polls, by omega⟩
  exact fun hshown => hfollows.reports.down (hbanner.mp hshown)

/-- Five polls fail, the sixth waits, and a check of `/health` has success. -/
def recoveryTasks : List (Task Nat) :=
  [.pollFailed, .doPoll 1, .pollFailed, .doPoll 2, .pollFailed, .doPoll 3, .pollFailed, .doPoll 4,
    .pollFailed, .doPoll 5, .healthAnswered true, .doPoll 6]

/-- Two polls wait beside each other. -/
theorem two_polls_after_recovery :
    ∃ steps page, Trace (pageSystem Nat) steps page ∧ page.polls = 2 ∧ page.health = 1 ∧
      5 ≤ (outcomesOf steps).count .failed := by
  have hstart : Trace (pageSystem Nat) [] {} := .start rfl
  obtain ⟨steps, page, hrun, htwo⟩ : ∃ steps page,
      attempt Page.run? {} recoveryTasks = some (steps, page) ∧ page.polls = 2 :=
    ⟨_, _, rfl, rfl⟩
  have htrace := Trace.attempt (fun _ _ _ hstep => hstep) hstart hrun
  rw [List.nil_append] at htrace
  obtain ⟨-, hhealth, -, -, -, hpolls, hfailed⟩ := page_keeps_polling htrace
  exact ⟨steps, page, htrace, htwo, hhealth, by omega⟩

end Astartis.Script
