import Astartis.TransitionSystem
import Astartis.UnlockProtocol

/-!
The lockdown as an operator sees it: the lock, the voting session that can lift
it, and the mirror that is to follow it.
-/

namespace Astartis

open TransitionSystem
open Unlock

structure Posture where
  locked : Bool
  session : ProtocolState
  mirrored : Bool
deriving DecidableEq

namespace Posture

/-- What a step can do to the posture: nothing, engage the lock alone, engage it
together with a session and the mirror, or lift it by vote. -/
inductive Move
  | stay
  | engage
  | trigger
  | grant
deriving DecidableEq

/-- The posture after a move, none when the move is not possible. -/
def move (p : Posture) : Move → Option Posture
  | .stay => some p
  | .engage => if p.locked then none else some { p with locked := true }
  | .trigger => if p.locked then none else some ⟨true, .collecting, true⟩
  | .grant =>
      if p.session = .collecting then some { p with locked := false, session := .granted }
      else none

def system : System Posture Move where
  Init := fun p => p = ⟨false, .idle, false⟩
  Step := fun p m p' => p.move m = some p'

def Liftable (p : Posture) : Prop :=
  p.locked = true → p.session = .collecting

def Agrees (p : Posture) : Prop :=
  p.mirrored = true ↔ p.locked = true

/-- A session is only open while the lock is engaged. -/
def SessionLocked (p : Posture) : Prop :=
  p.session = .collecting → p.locked = true

theorem move_cases {p p' : Posture} {m : Move} (hmove : p.move m = some p') :
    (m = .stay ∧ p' = p) ∨
      (m = .engage ∧ p.locked = false ∧ p' = { p with locked := true }) ∨
      (m = .trigger ∧ p.locked = false ∧ p' = ⟨true, .collecting, true⟩) ∨
      (m = .grant ∧ p.session = .collecting ∧
        p' = { p with locked := false, session := .granted }) := by
  cases m with
  | stay =>
      left
      exact ⟨rfl, (Option.some.inj hmove).symm⟩
  | engage =>
      right; left
      simp only [move] at hmove
      split at hmove
      · exact absurd hmove (by simp)
      · rename_i hopen
        exact ⟨rfl, by simpa using hopen, (Option.some.inj hmove).symm⟩
  | trigger =>
      right; right; left
      simp only [move] at hmove
      split at hmove
      · exact absurd hmove (by simp)
      · rename_i hopen
        exact ⟨rfl, by simpa using hopen, (Option.some.inj hmove).symm⟩
  | grant =>
      right; right; right
      simp only [move] at hmove
      split at hmove
      · rename_i hcollecting
        exact ⟨rfl, hcollecting, (Option.some.inj hmove).symm⟩
      · exact absurd hmove (by simp)

theorem sessionLocked_step {p p' : Posture} {m : Move} (hp : p.SessionLocked)
    (hmove : p.move m = some p') : p'.SessionLocked := by
  rcases move_cases hmove with ⟨-, rfl⟩ | ⟨-, -, rfl⟩ | ⟨-, -, rfl⟩ | ⟨-, -, rfl⟩
  · exact hp
  · intro _
    rfl
  · intro _
    rfl
  · intro hcollecting
    exact absurd hcollecting (by simp)

theorem liftable_step_iff {p p' : Posture} {m : Move} (hp : p.SessionLocked)
    (hlift : p.Liftable) (hmove : p.move m = some p') : p'.Liftable ↔ m ≠ .engage := by
  rcases move_cases hmove with ⟨rfl, rfl⟩ | ⟨rfl, hopen, rfl⟩ | ⟨rfl, -, rfl⟩ | ⟨rfl, -, rfl⟩
  · simpa using hlift
  · have hclosed : p.session ≠ .collecting := by
      intro h
      exact absurd (hp h) (by simp [hopen])
    simpa [Liftable] using hclosed
  · simp [Liftable]
  · simp [Liftable]

theorem agrees_step_iff {p p' : Posture} {m : Move} (hp : p.SessionLocked)
    (hagrees : p.Agrees) (hmove : p.move m = some p') :
    p'.Agrees ↔ m ≠ .engage ∧ m ≠ .grant := by
  rcases move_cases hmove with ⟨rfl, rfl⟩ | ⟨rfl, hopen, rfl⟩ | ⟨rfl, -, rfl⟩ |
    ⟨rfl, hcollecting, rfl⟩
  · simpa using hagrees
  · have hmirror : p.mirrored = false := by
      simpa [Agrees, hopen] using hagrees
    simp [Agrees, hmirror]
  · simp [Agrees]
  · have hmirror : p.mirrored = true := hagrees.mpr (hp hcollecting)
    simp [Agrees, hmirror]

section Runs

variable {steps : List (Transition Posture Move)} {p : Posture}

/-- The lock can be lifted throughout a run exactly if it is never engaged alone. -/
theorem liftable_along_iff (htrace : Trace system steps p) :
    (∀ t ∈ steps, t.after.Liftable) ↔ ∀ t ∈ steps, t.label ≠ .engage := by
  refine htrace.forall_after_iff (I := SessionLocked)
    (G := fun _ m => m ≠ .engage) ?_ ?_ ?_
  · rintro _ rfl
    exact ⟨fun h => absurd h (by simp), fun h => absurd h (by simp)⟩
  · intro p m p' hp hmove
    exact sessionLocked_step hp hmove
  · intro p m p' hp hlift hmove
    exact liftable_step_iff hp hlift hmove

/-- The mirror agrees with the lock throughout a run exactly if the lock is neither
engaged alone nor lifted. -/
theorem agrees_along_iff (htrace : Trace system steps p) :
    (∀ t ∈ steps, t.after.Agrees) ↔
      ∀ t ∈ steps, t.label ≠ .engage ∧ t.label ≠ .grant := by
  refine htrace.forall_after_iff (I := SessionLocked)
    (G := fun _ m => m ≠ .engage ∧ m ≠ .grant) ?_ ?_ ?_
  · rintro _ rfl
    exact ⟨fun h => absurd h (by simp), by simp [Agrees]⟩
  · intro p m p' hp hmove
    exact sessionLocked_step hp hmove
  · intro p m p' hp hagrees hmove
    exact agrees_step_iff hp hagrees hmove

end Runs

end Posture

end Astartis
