import Mathlib.Data.List.TakeWhile
import Astartis.ByteString

/-!
How the C runtime cuts a command line into arguments.  Blanks separate them outside of quotes.  A
quote is an ordinary byte behind an odd number of backslashes, and where it directly follows the
quote that ends the quoting, which then goes on.
-/

namespace Astartis.CommandLine

structure State where
  args : List ByteString := []
  word : Option ByteString := none
  /-- Backslashes that wait for the byte behind them. -/
  slashes : Nat := 0
  quoted : Bool := false
  /-- The last byte ended the quoting. -/
  closed : Bool := false
deriving DecidableEq

namespace State

/-- The word with the backslashes at its end. -/
def text (s : State) : ByteString :=
  s.word.getD [] ++ List.replicate s.slashes 92

/-- The word with half of the backslashes at its end. -/
def halved (s : State) : ByteString :=
  s.word.getD [] ++ List.replicate (s.slashes / 2) 92

def finish (s : State) : List ByteString :=
  if s.word.isSome then s.args ++ [s.text] else s.args

def step (s : State) (b : UInt8) : State :=
  if b = 92 then
    { s with word := some (s.word.getD []), slashes := s.slashes + 1, closed := false }
  else if b = 34 then
    if s.closed then
      { s with word := some (s.text ++ [34]), slashes := 0, quoted := true, closed := false }
    else if s.slashes % 2 = 1 then
      { s with word := some (s.halved ++ [34]), slashes := 0 }
    else
      { s with word := some s.halved, slashes := 0, quoted := !s.quoted, closed := s.quoted }
  else if (b = 32 ∨ b = 9) ∧ s.quoted = false then { args := s.finish }
  else { s with word := some (s.text ++ [b]), slashes := 0, closed := false }

def run (s : State) (line : ByteString) : State :=
  line.foldl step s

@[simp] theorem run_nil (s : State) : s.run [] = s := rfl

@[simp] theorem run_cons (s : State) (b : UInt8) (line : ByteString) :
    s.run (b :: line) = (s.step b).run line := rfl

theorem run_append (s : State) (first second : ByteString) :
    s.run (first ++ second) = (s.run first).run second :=
  List.foldl_append

end State

/-- The arguments of a command line, which ends at the first zero byte. -/
def arguments (line : ByteString) : List ByteString :=
  (State.run {} (line.takeWhile (· ≠ 0))).finish

namespace State

section Frame

/-- The same state behind further arguments. -/
def behind (args : List ByteString) (s : State) : State :=
  { s with args := args ++ s.args }

theorem finish_behind (args : List ByteString) (s : State) :
    (s.behind args).finish = args ++ s.finish := by
  by_cases hword : s.word.isSome = true
  · simp [finish, behind, text, hword]
  · simp [finish, behind, hword]

theorem step_behind (args : List ByteString) (s : State) (b : UInt8) :
    (s.behind args).step b = (s.step b).behind args := by
  by_cases hslash : b = 92
  · simp [step, hslash, behind]
  by_cases hquote : b = 34
  · by_cases hclosed : s.closed = true
    · simp [step, hquote, hclosed, behind, text]
    by_cases hodd : s.slashes % 2 = 1
    · simp [step, hquote, hclosed, hodd, behind, halved]
    · simp [step, hquote, hclosed, hodd, behind, halved]
  by_cases hblank : (b = 32 ∨ b = 9) ∧ s.quoted = false
  · have hblank' : (b = 32 ∨ b = 9) ∧ (s.behind args).quoted = false := hblank
    simp only [step, if_neg hslash, if_neg hquote, if_pos hblank, if_pos hblank', finish_behind]
    simp only [behind]
  · have hblank' : ¬ ((b = 32 ∨ b = 9) ∧ (s.behind args).quoted = false) := hblank
    simp only [step, if_neg hslash, if_neg hquote, if_neg hblank, if_neg hblank']
    simp only [behind, text]

theorem run_behind (args : List ByteString) (s : State) (line : ByteString) :
    (s.behind args).run line = (s.run line).behind args := by
  induction line generalizing s with
  | nil => rfl
  | cons b line ih => rw [run_cons, run_cons, step_behind, ih]

/-- The arguments that are finished stay in front. -/
theorem finish_run_args (args : List ByteString) (line : ByteString) :
    (run { args := args } line).finish = args ++ (run {} line).finish := by
  have hbehind : ({ args := args } : State) = behind args {} := by
    simp only [behind, List.append_nil]
  rw [hbehind, run_behind, finish_behind]

end Frame

section Ordinary

variable {s : State}

/-- A byte that is kept as it is. -/
def Keeps (s : State) (b : UInt8) : Prop :=
  b ≠ 34 ∧ (s.quoted = true ∨ b ≠ 32 ∧ b ≠ 9)

theorem step_of_keeps {b : UInt8} (hkeeps : s.Keeps b) :
    (s.step b).args = s.args ∧ (s.step b).quoted = s.quoted ∧ (s.step b).closed = false ∧
      (s.step b).word.isSome = true ∧ (s.step b).text = s.text ++ [b] := by
  obtain ⟨hquote, hblank⟩ := hkeeps
  have hinside : ¬ ((b = 32 ∨ b = 9) ∧ s.quoted = false) := by
    rintro ⟨rfl | rfl, hquoted⟩
    · rcases hblank with h | h
      · exact absurd (hquoted.symm.trans h) (by decide)
      · exact h.1 rfl
    · rcases hblank with h | h
      · exact absurd (hquoted.symm.trans h) (by decide)
      · exact h.2 rfl
  by_cases hslash : b = 92
  · subst hslash
    simp [step, text, List.replicate_succ']
  · simp [step, if_neg hslash, if_neg hquote, if_neg hinside, text]

/-- Behind a byte other than a backslash the state is known. -/
theorem step_of_ne {b : UInt8} (hkeeps : s.Keeps b) (hslash : b ≠ 92) :
    s.step b = { args := s.args, word := some (s.text ++ [b]), quoted := s.quoted } := by
  have hinside : ¬ ((b = 32 ∨ b = 9) ∧ s.quoted = false) := by
    rintro ⟨hb, hquoted⟩
    rcases hkeeps.2 with h | h
    · exact absurd (hquoted.symm.trans h) (by decide)
    · exact hb.elim h.1 h.2
  rw [step, if_neg hslash, if_neg hkeeps.1, if_neg hinside]

theorem run_of_keeps {line : ByteString} (hkeeps : ∀ b ∈ line, s.Keeps b) :
    (s.run line).args = s.args ∧ (s.run line).quoted = s.quoted ∧
      (s.run line).text = s.text ++ line ∧
      (s.word.isSome = true → (s.run line).word.isSome = true) := by
  induction line generalizing s with
  | nil => exact ⟨rfl, rfl, (List.append_nil _).symm, id⟩
  | cons b line ih =>
      obtain ⟨hargs, hquoted, -, hword, htext⟩ := step_of_keeps (hkeeps b (by simp))
      have hrest : ∀ c ∈ line, (s.step b).Keeps c := by
        intro c hc
        have hkept := hkeeps c (by simp [hc])
        exact ⟨hkept.1, hquoted ▸ hkept.2⟩
      obtain ⟨hargs', hquoted', htext', hword'⟩ := ih hrest
      refine ⟨hargs'.trans hargs, hquoted'.trans hquoted, ?_, fun _ => hword' hword⟩
      rw [run_cons, htext', htext, List.append_assoc, List.singleton_append]

theorem run_concat_of_keeps {line : ByteString} {b : UInt8} (hkeeps : ∀ c ∈ line, s.Keeps c)
    (hlast : s.Keeps b) (hslash : b ≠ 92) :
    s.run (line ++ [b]) =
      { args := s.args, word := some (s.text ++ line ++ [b]), quoted := s.quoted } := by
  obtain ⟨hargs, hquoted, htext, -⟩ := run_of_keeps hkeeps
  have hlast' : (s.run line).Keeps b := ⟨hlast.1, hquoted ▸ hlast.2⟩
  rw [run_append, run_cons, run_nil, step_of_ne hlast' hslash, hargs, hquoted, htext]

end Ordinary

end State

section Length

/-- The bytes of the arguments, with one more for each of them. -/
def cost (args : List ByteString) : Nat :=
  (args.map fun arg => arg.length + 1).sum

theorem cost_append (first second : List ByteString) :
    cost (first ++ second) = cost first + cost second := by
  rw [cost, List.map_append, List.sum_append]
  rfl

theorem cost_singleton (arg : ByteString) : cost [arg] = arg.length + 1 := rfl

namespace State

/-- The cost of the arguments if the line ended with the word. -/
def reach (s : State) : Nat :=
  cost s.args + s.text.length + 1

theorem cost_finish_le (s : State) : cost s.finish ≤ s.reach := by
  rw [finish, reach]
  split
  · rw [cost_append, cost_singleton, Nat.add_assoc]
  · omega

/-- A quote counts for half a byte. -/
theorem reach_step (s : State) (b : UInt8) :
    2 * (s.step b).reach + (s.step b).closed.toNat + (if b = 34 then 1 else 0) ≤
      2 * s.reach + s.closed.toNat + 2 := by
  rw [step]
  split
  · rename_i hslash
    subst hslash
    simp only [reach, text, Option.getD_some, List.length_append, List.length_replicate,
      Bool.toNat_false]
    rw [if_neg (by decide)]
    omega
  · split
    · split
      · rename_i hclosed
        simp only [reach, text, Option.getD_some, List.length_append, List.length_replicate,
          List.length_singleton, Bool.toNat_false, hclosed, Bool.toNat_true]
        omega
      · rename_i hclosed
        have hclosed' : s.closed = false := by simpa using hclosed
        split
        · rename_i hodd
          simp only [reach, text, halved, Option.getD_some, List.length_append,
            List.length_replicate, List.length_singleton, hclosed', Bool.toNat_false]
          omega
        · have hle : s.quoted.toNat ≤ 1 := Bool.toNat_le s.quoted
          simp only [reach, text, halved, Option.getD_some, List.length_append,
            List.length_replicate, hclosed', Bool.toNat_false]
          omega
    · split
      · have hfinish := s.cost_finish_le
        simp only [reach, text, Option.getD_none, List.length_append, List.length_replicate,
          List.length_nil, Bool.toNat_false] at hfinish ⊢
        omega
      · simp only [reach, text, Option.getD_some, List.length_append, List.length_replicate,
          List.length_singleton, Bool.toNat_false]
        omega

theorem reach_run (s : State) (line : ByteString) :
    2 * (s.run line).reach + (s.run line).closed.toNat + line.count 34 ≤
      2 * s.reach + s.closed.toNat + 2 * line.length := by
  induction line generalizing s with
  | nil => simp
  | cons b line ih =>
      have hstep := s.reach_step b
      have hrest := ih (s.step b)
      rw [run_cons, List.count_cons, List.length_cons]
      simp only [beq_iff_eq]
      omega

/-- How long the arguments can get, by the quotes of the line. -/
theorem cost_finish_run (s : State) (line : ByteString) :
    2 * cost (s.run line).finish + line.count 34 ≤
      2 * s.reach + s.closed.toNat + 2 * line.length := by
  have hfinish := (s.run line).cost_finish_le
  have hrun := s.reach_run line
  omega

end State

end Length

section Value

/-- No blank and no quote. -/
def Unbroken (value : ByteString) : Prop :=
  ∀ b ∈ value, b ≠ 9 ∧ b ≠ 32 ∧ b ≠ 34

instance (value : ByteString) : Decidable (Unbroken value) :=
  inferInstanceAs (Decidable (∀ b ∈ value, _))

namespace State

variable {s : State}

/-- A value at the end of a line, behind its key, is taken as it is exactly if it is unbroken. -/
theorem finish_value_iff {value : ByteString} (hword : s.word.isSome = true)
    (hquoted : s.quoted = false) (hclosed : s.closed = false) :
    (s.run value).finish = s.args ++ [s.text ++ value] ↔ Unbroken value := by
  constructor
  · intro htaken
    have hnone : value.count 34 = 0 := by
      have hcost := s.cost_finish_run value
      rw [htaken, cost_append, cost_singleton, List.length_append, reach, hclosed] at hcost
      simp only [Bool.toNat_false] at hcost
      omega
    clear hclosed
    induction value generalizing s with
    | nil => exact List.forall_mem_nil _
    | cons b value ih =>
        rw [List.count_eq_zero, List.mem_cons, not_or] at hnone
        have hquote : b ≠ 34 := Ne.symm hnone.1
        by_cases hblank : b = 32 ∨ b = 9
        · -- what stands in front of a blank is cut off
          have hslash : b ≠ 92 := by
            rcases hblank with rfl | rfl <;> decide
          rw [run_cons, step, if_neg hslash, if_neg hquote, if_pos ⟨hblank, hquoted⟩,
            finish_run_args, finish, if_pos hword, List.append_assoc,
            List.append_right_inj, List.singleton_append, List.cons.injEq] at htaken
          have hlength := congrArg List.length htaken.1
          simp at hlength
        · rw [not_or] at hblank
          have hkeeps : s.Keeps b := ⟨hquote, .inr hblank⟩
          obtain ⟨hargs, hquoted', -, hword', htext⟩ := step_of_keeps hkeeps
          have hrest : Unbroken value := by
            apply ih hword' (hquoted'.trans hquoted) _ (List.count_eq_zero.mpr hnone.2)
            rw [hargs, htext, List.append_assoc]
            exact htaken
          intro c hc
          rcases List.mem_cons.mp hc with rfl | hc
          · exact ⟨hblank.2, hblank.1, hquote⟩
          · exact hrest c hc
  · intro hunbroken
    have hkeeps : ∀ b ∈ value, s.Keeps b := by
      intro b hb
      obtain ⟨htab, hspace, hquote⟩ := hunbroken b hb
      exact ⟨hquote, .inr ⟨hspace, htab⟩⟩
    obtain ⟨hargs, -, htext, hword'⟩ := run_of_keeps hkeeps
    rw [finish, if_pos (hword' hword), hargs, htext]

section Named

variable {front value options key : ByteString} {last : UInt8} {args : List ByteString}

/-- A name that ends with its quoting, and the options up to the key of the last one. -/
theorem run_named (hquoted : s.quoted = true) (hlast : last ≠ 34 ∧ last ≠ 92)
    (hoptions : run {} options = { args := args, word := some key }) (hfront : 34 ∉ front) :
    s.run (front ++ [last] ++ 34 :: 32 :: options) =
      { args := s.args ++ [s.text ++ front ++ [last]] ++ args, word := some key } := by
  have hkeeps : ∀ b ∈ front, s.Keeps b := by
    intro b hb
    exact ⟨fun h => hfront (h ▸ hb), .inl hquoted⟩
  have hname := run_concat_of_keeps hkeeps ⟨hlast.1, .inl hquoted⟩ hlast.2
  have hblank : ∀ word : ByteString,
      (({ args := s.args, word := some word, quoted := true } : State).step 34).step 32 =
        behind (s.args ++ [word]) {} := by
    intro word
    simp [step, halved, finish, text, behind]
  rw [run_append, hname, hquoted, run_cons, run_cons, hblank, run_behind, hoptions]
  simp only [behind]

/-- A name between quotes, further options, and a value that has a quote exactly if the name has
one: every argument is taken as it is exactly if the value is unbroken. -/
theorem finish_named_value_iff (hquoted : s.quoted = true) (hclosed : s.closed = false)
    (hlast : last ≠ 34 ∧ last ≠ 92)
    (hoptions : run {} options = { args := args, word := some key })
    (hlength : cost args + key.length = options.length) (hquotes : 34 ∈ front ↔ 34 ∈ value) :
    (s.run (front ++ [last] ++ 34 :: 32 :: options ++ value)).finish =
        s.args ++ [s.text ++ front ++ [last]] ++ args ++ [key ++ value] ↔ Unbroken value := by
  by_cases hfront : 34 ∈ front
  · -- with quotes in both places the arguments are too short
    constructor
    · intro htaken
      have hcost := s.cost_finish_run (front ++ [last] ++ 34 :: 32 :: options ++ value)
      have hname : 0 < front.count 34 := List.count_pos_iff.mpr hfront
      have hvalue : 0 < value.count 34 := List.count_pos_iff.mpr (hquotes.mp hfront)
      rw [htaken] at hcost
      simp only [cost_append, cost_singleton, List.length_append, List.length_cons,
        List.length_nil, List.count_append, List.count_cons_self, reach, hclosed,
        Bool.toNat_false] at hcost
      omega
    · intro hunbroken
      exact absurd rfl (hunbroken 34 (hquotes.mp hfront)).2.2
  · have hvalue := @finish_value_iff
      { args := s.args ++ [s.text ++ front ++ [last]] ++ args, word := some key } value rfl rfl rfl
    rw [run_append, run_named hquoted hlast hoptions hfront, ← hvalue]
    simp only [text, Option.getD_some, List.replicate_zero, List.append_nil]

end Named

end State

/-- A command line with a name between quotes and a value at its end. -/
structure Layout where
  /-- Up to the quote that opens the name. -/
  start : ByteString
  /-- Behind the name, up to the key of the value. -/
  options : ByteString
  before : List ByteString
  nameKey : ByteString
  later : List ByteString
  key : ByteString
  run_start : State.run {} start = { args := before, word := some nameKey, quoted := true }
  run_options : State.run {} options = { args := later, word := some key }
  length_start : cost before + nameKey.length + 1 = start.length
  length_options : cost later + key.length = options.length
  start_zero : 0 ∉ start
  options_zero : 0 ∉ options

namespace Layout

def line (layout : Layout) (name value : ByteString) : ByteString :=
  layout.start ++ (name ++ 34 :: 32 :: layout.options ++ value)

/-- The arguments with the name and the value as they are. -/
def written (layout : Layout) (name value : ByteString) : List ByteString :=
  layout.before ++ [layout.nameKey ++ name] ++ layout.later ++ [layout.key ++ value]

variable {layout : Layout} {front value : ByteString} {last : UInt8}

/-- A zero byte in the name ends the line too early. -/
theorem cost_arguments_of_zero (hzero : 0 ∈ front) :
    cost (arguments (layout.line (front ++ [last]) value)) ≤
      layout.start.length + front.length + 1 := by
  have hline : layout.line (front ++ [last]) value =
      (layout.start ++ front) ++ (last :: 34 :: 32 :: layout.options ++ value) := by
    simp [line]
  have hcut : ((layout.line (front ++ [last]) value).takeWhile (· ≠ 0)).length ≤
      (layout.start ++ front).length := by
    rw [hline, List.takeWhile_append]
    split
    · rename_i hall
      have hwhole := List.takeWhile_eq_self_iff.mp
        ((List.takeWhile_prefix (fun b : UInt8 => decide (b ≠ 0))).eq_of_length hall)
      have hstays := hwhole 0 (List.mem_append_right _ hzero)
      simp at hstays
    · exact (List.takeWhile_prefix _).length_le
  have hcost := State.cost_finish_run {} ((layout.line (front ++ [last]) value).takeWhile (· ≠ 0))
  have hreach : State.reach {} = 1 := rfl
  have hclosed : (({} : State).closed).toNat = 0 := rfl
  rw [hreach, hclosed] at hcost
  rw [List.length_append] at hcut
  rw [arguments]
  omega

/-- Where the name has a quote or a zero byte exactly if the value has one, the arguments are
the written ones exactly if the value has none of them and no blank. -/
theorem arguments_line_iff (hlast : last ≠ 0 ∧ last ≠ 34 ∧ last ≠ 92)
    (hquotes : 34 ∈ front ↔ 34 ∈ value) (hzeros : 0 ∈ front ↔ 0 ∈ value) :
    arguments (layout.line (front ++ [last]) value) = layout.written (front ++ [last]) value ↔
      Unbroken value ∧ 0 ∉ value := by
  by_cases hzero : 0 ∈ front
  · constructor
    · intro htaken
      have hcost := @cost_arguments_of_zero layout front value last hzero
      have hstart := layout.length_start
      rw [htaken, written] at hcost
      simp only [cost_append, cost_singleton, List.length_append, List.length_cons,
        List.length_nil] at hcost
      have hkey := layout.length_options
      omega
    · rintro ⟨-, hnone⟩
      exact absurd (hzeros.mp hzero) hnone
  · have hvalue : 0 ∉ value := fun hmem => hzero (hzeros.mpr hmem)
    have hwhole : (layout.line (front ++ [last]) value).takeWhile (· ≠ 0) =
        layout.line (front ++ [last]) value := by
      apply List.takeWhile_eq_self_iff.mpr
      intro b hb
      have hne : b ≠ 0 := by
        rintro rfl
        simp only [line, List.mem_append, List.mem_cons, List.not_mem_nil, layout.start_zero,
          hzero, hlast.1.symm, layout.options_zero, hvalue, or_false, false_or] at hb
        simp at hb
      exact decide_eq_true hne
    have hnamed := @State.finish_named_value_iff
      { args := layout.before, word := some layout.nameKey, quoted := true } front value
      layout.options layout.key last layout.later rfl rfl hlast.2 layout.run_options
      layout.length_options hquotes
    rw [arguments, hwhole, line, State.run_append, layout.run_start, written, and_iff_left hvalue,
      ← hnamed]
    simp only [State.text, Option.getD_some, List.replicate_zero, List.append_nil,
      List.append_assoc]

end Layout

end Value

end Astartis.CommandLine
