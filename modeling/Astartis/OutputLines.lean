import Astartis.DashboardSnapshots
import Astartis.Delimited
import Astartis.JsonRoundTrip
import Astartis.MutexSections
import Astartis.StdinLoop

/-!
What the program that has started the bridge reads on its standard output, where the loop over
the commands, the ticker, the monitors and the demos all write.
-/

namespace Astartis.Output

open Dashboard
open Delimited
open Json
open MutexSections
open Stdin
open TransitionSystem

universe u

/-- `emit` on the bytes of the stream, which is in text mode.  Nothing is written where `dump`
throws. -/
def emit (lib : Stdin.Library) (written : ByteString) (obj : List (ByteString × Json)) (_ : Unit) :
    ByteString :=
  match lib.dump (.object obj) with
  | .error _ => written
  | .ok text => written ++ textMode (text ++ [10])

/-- The threads with the objects they emit, each of them under `g_write_mutex`. -/
def outputSystem {Thread : Type u} [DecidableEq Thread] (lib : Stdin.Library)
    (programs : Thread → List (List (ByteString × Json))) :
    System (Config Thread ByteString (List (ByteString × Json)))
      (Event Thread (List (ByteString × Json)) Unit) :=
  MutexSections.system (emit lib) [] programs

/-- `dump()` writes objects on one line, and throws where there is a text that is not UTF-8. -/
def WritesCompact (lib : Stdin.Library) (float : Double → ByteString) : Prop :=
  ∀ obj, (lib.dump (.object obj)).toOption =
    if membersUtf8 obj = true then some (write (compact float) 0 (.object obj)) else none

/-- What is on a line, `none` for the objects that are not written. -/
def lineOf? (float : Double → ByteString) (obj : List (ByteString × Json)) : Option ByteString :=
  if membersUtf8 obj = true then some (write (compact float) 0 (.object obj) ++ [13]) else none

section Lines

variable {lib : Stdin.Library} {float : Double → ByteString} {back : Double → Json}
  (hnewline : ∀ d, 10 ∉ float d)

include hnewline

theorem newline_not_mem_compact (j : Json) : 10 ∉ write (compact float) 0 j :=
  newline_not_mem_write (compact float) (fun _ => List.not_mem_nil) (fun _ => List.not_mem_nil)
    List.not_mem_nil hnewline 0 j

theorem emit_eq (hwrites : WritesCompact lib float) (written : ByteString)
    (obj : List (ByteString × Json)) :
    emit lib written obj () = written ++ (lineOf? float obj).toList.flatMap (· ++ [10]) := by
  have hdump := hwrites obj
  rw [emit, lineOf?]
  split
  · rename_i hthrows
    rw [hthrows] at hdump
    split at hdump
    · exact absurd hdump (by simp [Except.toOption])
    · rename_i hbad
      simp [hbad]
  · rename_i text htext
    rw [htext] at hdump
    split at hdump
    · rename_i hutf8
      obtain rfl := Option.some.inj hdump
      have htext : textMode (write (compact float) 0 (.object obj)) =
          write (compact float) 0 (.object obj) :=
        flatMap_of_not_mem (fun b hb => if_neg hb) (newline_not_mem_compact hnewline _)
      rw [textMode, List.flatMap_append, ← textMode, htext]
      simp [hutf8]
    · exact absurd hdump (by simp [Except.toOption])

theorem foldl_emit (hwrites : WritesCompact lib float) {Thread : Type u}
    (calls : List (Thread × List (ByteString × Json) × Unit)) (written : ByteString) :
    calls.foldl (fun s call => emit lib s call.2.1 call.2.2) written =
      written ++ (calls.filterMap fun call => lineOf? float call.2.1).flatMap (· ++ [10]) := by
  induction calls generalizing written with
  | nil => simp
  | cons call calls ih =>
      rw [List.foldl_cons, ih, emit_eq hnewline hwrites, List.append_assoc, List.filterMap_cons]
      cases lineOf? float call.2.1 <;> simp

end Lines

/-- The lines on standard output are the objects that have been emitted, in the order in which
their threads got the mutex, each of them whole and read as what it was; and the objects of one
thread come in its own order. -/
theorem emitted_lines_read {Thread : Type u} [DecidableEq Thread] {lib : Stdin.Library}
    {float : Double → ByteString} {back : Double → Json} (hwrites : WritesCompact lib float)
    (hfloat : Readable float back) (hnewline : ∀ d, 10 ∉ float d)
    {programs : Thread → List (List (ByteString × Json))}
    {steps : List (Transition (Config Thread ByteString (List (ByteString × Json)))
      (Event Thread (List (ByteString × Json)) Unit))}
    {c : Config Thread ByteString (List (ByteString × Json))}
    (htrace : Trace (outputSystem lib programs) steps c) :
    List.Forall₂ Reads (pieces 10 c.shared)
        ((completed steps).filterMap fun call =>
          if membersUtf8 call.2.1 = true then some (returned back (.object call.2.1)) else none) ∧
      ∀ thread, callsOf thread (completed steps) <+: programs thread := by
  constructor
  · have hshared := shared_eq_foldl htrace
    rw [foldl_emit hnewline hwrites, List.nil_append] at hshared
    have hfree : ∀ line ∈ (completed steps).filterMap (fun call => lineOf? float call.2.1),
        10 ∉ line := by
      intro line hline
      obtain ⟨call, -, hcall⟩ := List.mem_filterMap.mp hline
      rw [lineOf?] at hcall
      split at hcall
      · obtain rfl := Option.some.inj hcall
        exact List.not_mem_append (newline_not_mem_compact hnewline _) (by decide)
      · exact absurd hcall (by simp)
    have hpieces := pieces_flatMap_append hfree []
    rw [List.append_nil, ← hshared] at hpieces
    rw [hpieces, pieces, List.append_nil]
    generalize completed steps = calls
    induction calls with
    | nil => exact .nil
    | cons call calls ih =>
        by_cases hutf8 : membersUtf8 call.2.1 = true
        · simp only [List.filterMap_cons, lineOf?, if_pos hutf8]
          exact .cons (reads_write (compact_legible hfloat) hutf8 (List.all_eq_true.mp rfl)) ih
        · simp only [List.filterMap_cons, lineOf?, if_neg hutf8]
          exact ih
  · intro thread
    exact ⟨_, by rw [← List.append_assoc]; exact program_order htrace thread⟩

def compactLibrary : Stdin.Library where
  parse := fun _ => .error []
  dump := fun j => if j.isUtf8 then .ok (write (compact zeroText) 0 j) else .error []
  lastRead := id

theorem compactLibrary_writes : WritesCompact compactLibrary zeroText := by
  intro obj
  show (if membersUtf8 obj = true then _ else _ : Except ByteString ByteString).toOption = _
  split <;> rfl

def pong : List (ByteString × Json) :=
  [("event", .string "pong")]

/-- A snippet that is no text, and the object around it. -/
def brokenTick : List (ByteString × Json) :=
  [("event", .string "tick"), ("data", .string [255])]

/-- The ticker gets the mutex between two answers, and its object cannot be written. -/
theorem answers_around_tick :
    ∃ steps c, Trace (outputSystem compactLibrary fun ticks : Bool =>
        if ticks then [brokenTick] else [pong, pong]) steps c ∧
      (pieces 10 c.shared).length = 2 := by
  let programs : Bool → List (List (ByteString × Json)) :=
    fun ticks => if ticks then [brokenTick] else [pong, pong]
  have hstart : Trace (outputSystem compactLibrary programs) [] ⟨[], none, programs⟩ :=
    .start rfl
  obtain ⟨first, hfirst, hone⟩ := exists_section () hstart (rfl : programs false = [pong, pong])
  obtain ⟨second, hsecond, htwo⟩ := exists_section () hfirst
    (rfl : Function.update programs false [pong] true = [brokenTick])
  obtain ⟨third, hthird, hthree⟩ := exists_section () hsecond
    (rfl : Function.update (Function.update programs false [pong]) true [] false = [pong])
  have hlines := (emitted_lines_read compactLibrary_writes zeroText_readable
    newline_not_mem_zeroText hthird).1.length_eq
  refine ⟨third, _, hthird, hlines.trans ?_⟩
  rw [hthree, htwo, hone]
  rfl

end Astartis.Output
