import Mathlib.Data.List.Infix

/-!
Searching a text for a mark that begins with a character of its own, such as a tag.
-/

namespace Astartis.Subtext

variable {α : Type*} [DecidableEq α]

/-- Where a pattern begins for the first time. -/
def position? (pattern : List α) : List α → Option Nat
  | [] => if pattern = [] then some 0 else none
  | a :: s =>
      if pattern.isPrefixOf (a :: s) then some 0 else (position? pattern s).map (· + 1)

theorem position?_append_left (pattern rest : List α) :
    position? pattern (pattern ++ rest) = some 0 := by
  cases pattern with
  | nil => cases rest <;> simp [position?]
  | cons a pattern =>
      rw [List.cons_append, position?, if_pos]
      rw [List.isPrefixOf_iff_prefix, ← List.cons_append]
      exact List.prefix_append _ _

variable {c : α} {name : List α}

theorem position?_cons_later {a : α} {s : List α} (hstart : ¬ c :: name <+: a :: s) :
    position? (c :: name) (a :: s) = (position? (c :: name) s).map (· + 1) := by
  rw [position?, if_neg (by simpa [List.isPrefixOf_iff_prefix] using hstart)]

/-- A segment without the character that begins the mark is passed. -/
theorem position?_append_of_not_mem {segment : List α} (hsegment : c ∉ segment) (rest : List α) :
    position? (c :: name) (segment ++ rest) =
      (position? (c :: name) rest).map (· + segment.length) := by
  induction segment with
  | nil => simp
  | cons a segment ih =>
      obtain ⟨ha, hsegment⟩ := List.ne_and_not_mem_of_not_mem_cons hsegment
      have hprefix : ¬ c :: name <+: a :: (segment ++ rest) :=
        fun h => ha (List.cons_prefix_cons.mp h).1
      rw [List.cons_append, position?_cons_later hprefix, ih hsegment, Option.map_map]
      simp only [Function.comp_def, List.length_cons, Nat.add_assoc]

omit [DecidableEq α] in
/-- A mark does not begin in a text without it, when another mark follows. -/
theorem not_prefix_append {before rest : List α} (hname : c ∉ name) (hne : before ≠ [])
    (hbefore : ¬ c :: name <:+: before) (hrest : ∀ a ∈ rest.head?, a = c) :
    ¬ c :: name <+: before ++ rest := by
  intro hprefix
  have hfront : before <+: before ++ rest := List.prefix_append before rest
  rcases Nat.le_total (c :: name).length before.length with hle | hle
  · exact hbefore (List.prefix_of_prefix_length_le hprefix hfront hle).isInfix
  · obtain ⟨behind, hbehind⟩ := List.prefix_of_prefix_length_le hfront hprefix hle
    have htail : behind <+: rest := by
      rw [← hbehind, List.prefix_append_right_inj] at hprefix
      exact hprefix
    cases behind with
    | nil =>
        rw [List.append_nil] at hbehind
        exact hbefore (hbehind ▸ List.infix_rfl)
    | cons a behind =>
        cases rest with
        | nil => simp at htail
        | cons b rest =>
            obtain rfl : a = c := (List.cons_prefix_cons.mp htail).1.trans (hrest b rfl)
            cases before with
            | nil => exact hne rfl
            | cons d before =>
                have hmem := (List.cons.inj hbehind).2
                exact hname (hmem ▸ List.mem_append_right before List.mem_cons_self)

theorem position?_append {before rest : List α} (hname : c ∉ name)
    (hbefore : ¬ c :: name <:+: before) (hrest : ∀ a ∈ rest.head?, a = c) :
    position? (c :: name) (before ++ rest) =
      (position? (c :: name) rest).map (· + before.length) := by
  induction before with
  | nil => simp
  | cons a before ih =>
      have hprefix := not_prefix_append hname (by simp) hbefore hrest
      rw [List.cons_append] at hprefix
      rw [List.cons_append, position?_cons_later hprefix,
        ih fun h => hbefore (h.trans (List.suffix_cons a before).isInfix), Option.map_map]
      simp only [Function.comp_def, List.length_cons, Nat.add_assoc]

/-- The first occurrence has none in front of it. -/
theorem position?_eq_some_iff (hname : c ∉ name) {s : List α} {i : Nat} :
    position? (c :: name) s = some i ↔
      ∃ before rest, s = before ++ (c :: name ++ rest) ∧ ¬ c :: name <:+: before ∧
        before.length = i := by
  constructor
  · intro hi
    induction s generalizing i with
    | nil => simp [position?] at hi
    | cons a s ih =>
        by_cases hprefix : c :: name <+: a :: s
        · obtain ⟨rest, hrest⟩ := hprefix
          rw [← hrest, position?_append_left] at hi
          exact ⟨[], rest, hrest.symm, by simp, by simpa using hi⟩
        · rw [position?_cons_later hprefix, Option.map_eq_some_iff] at hi
          obtain ⟨j, hj, rfl⟩ := hi
          obtain ⟨before, rest, rfl, hfirst, rfl⟩ := ih hj
          refine ⟨a :: before, rest, rfl, fun hinfix => ?_, rfl⟩
          rcases List.infix_cons_iff.mp hinfix with hfront | hlater
          · rw [← List.cons_append] at hprefix
            exact hprefix (hfront.trans (List.prefix_append _ _))
          · exact hfirst hlater
  · rintro ⟨before, rest, rfl, hfirst, rfl⟩
    rw [position?_append hname hfirst (by simp), position?_append_left]
    simp

end Astartis.Subtext
