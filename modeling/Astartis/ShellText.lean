import Astartis.ByteString

/-!
Texts of one command.  An interpreter takes single bytes as separators and redirections, and
replaces what stands between certain marks; a text that is put between quotes must not end
them.
-/

namespace Astartis.ShellText

open ByteString

structure Interpreter where
  /-- Separators of statements and of the commands of a pipeline. -/
  separators : ByteString := []
  redirections : ByteString := []
  /-- The text contains something that is replaced before the command runs. -/
  Substitutes : ByteString → Prop := fun _ => False

/-- Up to the first blank. -/
def programOf (text : ByteString) : ByteString :=
  text.takeWhile (· ≠ 32)

structure SingleCommand (interpreter : Interpreter) (program text : ByteString) : Prop where
  program : programOf text = program
  separators : ∀ b ∈ text, b ∉ interpreter.separators
  redirections : ∀ b ∈ text, b ∉ interpreter.redirections
  substitution : ¬ interpreter.Substitutes text

/-- What passes a filter is free of a set of bytes if it is free of those the filter misses. -/
theorem free_iff_of_filter {refused : UInt8 → Bool} {text : ByteString} (bytes : ByteString)
    (hpassed : ∀ b ∈ text, refused b = false) :
    (∀ b ∈ text, b ∉ bytes) ↔ ∀ b ∈ text, b ∉ bytes.filter fun b => !refused b := by
  constructor
  · intro h b hb hmem
    exact h b hb (List.mem_filter.mp hmem).1
  · intro h b hb hmem
    refine h b hb (List.mem_filter.mpr ⟨hmem, ?_⟩)
    rw [hpassed b hb, Bool.not_false]

/-- A name between two marks, such as `%name%`. -/
def Marked (mark : UInt8) (text : ByteString) : Prop :=
  ∃ before name after, text = before ++ mark :: name ++ mark :: after ∧
    name ≠ [] ∧ mark ∉ name

theorem Marked.mem {mark : UInt8} {text : ByteString} (h : Marked mark text) : mark ∈ text := by
  obtain ⟨before, name, after, rfl, -⟩ := h
  simp

/-- A word that begins with a mark in front of a name, such as `@name`. -/
def Prefixed (mark : UInt8) (text : ByteString) : Prop :=
  ∃ blank first, [blank, mark, first] <:+: text ∧ (blank = 32 ∨ blank = 9) ∧
    ((48 ≤ first ∧ first ≤ 57) ∨ (65 ≤ first ∧ first ≤ 90) ∨ first = 95 ∨
      (97 ≤ first ∧ first ≤ 122))

section Quoting

/-- Whether a text between quotes ends them.  A quote behind an odd number of backslashes is
an ordinary character; `escaped` says whether there is such a number in front of the text. -/
def endsQuoting : Bool → ByteString → Bool
  | _, [] => false
  | escaped, b :: rest =>
      if b = 92 then endsQuoting (!escaped) rest
      else if b = 34 && !escaped then true
      else endsQuoting false rest

def trailingBackslashes (text : ByteString) : Nat :=
  (text.reverse.takeWhile (· = 92)).length

theorem trailingBackslashes_concat (text : ByteString) (b : UInt8) :
    trailingBackslashes (text ++ [b]) = if b = 92 then trailingBackslashes text + 1 else 0 := by
  simp only [trailingBackslashes, List.reverse_append, List.reverse_cons, List.reverse_nil,
    List.nil_append, List.cons_append, List.takeWhile_cons]
  split <;> simp_all

/-- Every quote stands behind an odd number of backslashes. -/
def QuotesEscaped (text : ByteString) : Prop :=
  ∀ before after, text = before ++ 34 :: after → trailingBackslashes before % 2 = 1

/-- The scan with what is in front of the text. -/
theorem endsQuoting_eq_false_iff_behind (seen text : ByteString) :
    endsQuoting (trailingBackslashes seen % 2 = 1) text = false ↔
      ∀ before after, text = before ++ 34 :: after →
        trailingBackslashes (seen ++ before) % 2 = 1 := by
  induction text generalizing seen with
  | nil => simp [endsQuoting]
  | cons b rest ih =>
      -- the rest is scanned with one more byte in front
      have hrest : (∀ before after, b :: rest = before ++ 34 :: after →
          trailingBackslashes (seen ++ before) % 2 = 1) ↔
          (b = 34 → trailingBackslashes seen % 2 = 1) ∧
            ∀ before after, rest = before ++ 34 :: after →
              trailingBackslashes ((seen ++ [b]) ++ before) % 2 = 1 := by
        constructor
        · intro h
          refine ⟨?_, fun before after hsplit => ?_⟩
          · rintro rfl
            simpa using h [] rest rfl
          · rw [List.append_assoc]
            exact h (b :: before) after (by rw [hsplit]; rfl)
        · rintro ⟨hfirst, hbehind⟩ before after hsplit
          rcases before with _ | ⟨b', before⟩
          · rw [List.append_nil]
            exact hfirst (List.cons.inj hsplit).1
          · obtain ⟨rfl, hbehind'⟩ := List.cons.inj hsplit
            have h := hbehind before after hbehind'
            rwa [List.append_assoc] at h
      rw [hrest, ← ih, trailingBackslashes_concat]
      by_cases hbackslash : b = 92
      · subst hbackslash
        have hparity : decide ((trailingBackslashes seen + 1) % 2 = 1) =
            !decide (trailingBackslashes seen % 2 = 1) := by
          rw [← decide_not, decide_eq_decide]
          omega
        simp [endsQuoting, hparity]
      · simp only [endsQuoting, if_neg hbackslash]
        by_cases hquote : b = 34
        · by_cases hodd : trailingBackslashes seen % 2 = 1
          · simp [hquote, hodd]
          · simp [hquote, hodd]
        · simp [hquote]

theorem endsQuoting_eq_false_iff {text : ByteString} :
    endsQuoting false text = false ↔ QuotesEscaped text :=
  endsQuoting_eq_false_iff_behind [] text

end Quoting

end Astartis.ShellText
