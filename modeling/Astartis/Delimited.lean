import Mathlib.Data.List.DropRight

/-!
Reading a text piece by piece up to a delimiter, as a loop of `getline` does: a delimiter at the
end of the text ends its last piece and begins no other.
-/

namespace Astartis.Delimited

variable {α : Type*} [DecidableEq α] {delim : α}

def pieces (delim : α) : List α → List (List α)
  | [] => []
  | a :: s =>
      if a = delim then [] :: pieces delim s
      else
        match pieces delim s with
        | [] => [[a]]
        | piece :: rest => (a :: piece) :: rest

theorem pieces_append_cons {piece : List α} (hpiece : delim ∉ piece) (rest : List α) :
    pieces delim (piece ++ delim :: rest) = piece :: pieces delim rest := by
  induction piece with
  | nil => rw [List.nil_append, pieces, if_pos rfl]
  | cons a piece ih =>
      obtain ⟨hne, hrest⟩ := List.ne_and_not_mem_of_not_mem_cons hpiece
      rw [List.cons_append, pieces, if_neg hne.symm, ih hrest]

theorem pieces_of_not_mem {s : List α} (hs : delim ∉ s) (hne : s ≠ []) :
    pieces delim s = [s] := by
  induction s with
  | nil => exact absurd rfl hne
  | cons a s ih =>
      obtain ⟨ha, hs⟩ := List.ne_and_not_mem_of_not_mem_cons hs
      rw [pieces, if_neg ha.symm]
      cases s with
      | nil => rfl
      | cons b s => rw [ih hs (by simp)]

theorem not_mem_of_mem_pieces {s piece : List α} (hpiece : piece ∈ pieces delim s) :
    delim ∉ piece := by
  induction s generalizing piece with
  | nil => simp [pieces] at hpiece
  | cons a s ih =>
      rw [pieces] at hpiece
      split at hpiece
      · rcases List.mem_cons.mp hpiece with rfl | hpiece
        · exact List.not_mem_nil
        · exact ih hpiece
      · rename_i ha
        cases hrest : pieces delim s with
        | nil =>
            rw [hrest, List.mem_singleton] at hpiece
            subst hpiece
            simpa using Ne.symm ha
        | cons first rest =>
            rw [hrest] at hpiece ih
            rcases List.mem_cons.mp hpiece with rfl | hpiece
            · simp [Ne.symm ha, ih List.mem_cons_self]
            · exact ih (List.mem_cons_of_mem first hpiece)

/-- With their delimiters the pieces are the text, whose last piece may have had none. -/
theorem flatMap_pieces (s : List α) :
    (pieces delim s).flatMap (· ++ [delim]) = s ∨
      (pieces delim s).flatMap (· ++ [delim]) = s ++ [delim] := by
  induction s with
  | nil => exact .inl rfl
  | cons a s ih =>
      rw [pieces]
      split
      · rename_i ha
        subst ha
        exact ih.imp (congrArg (a :: ·)) (congrArg (a :: ·))
      · cases hrest : pieces delim s with
        | nil =>
            rw [hrest] at ih
            rcases ih with hs | hs
            · exact .inr (by rw [← hs]; rfl)
            · simp at hs
        | cons first rest =>
            rw [hrest] at ih
            exact ih.imp (congrArg (a :: ·)) (congrArg (a :: ·))

theorem pieces_flatMap_append {lines : List (List α)} (hlines : ∀ line ∈ lines, delim ∉ line)
    (rest : List α) :
    pieces delim (lines.flatMap (· ++ [delim]) ++ rest) = lines ++ pieces delim rest := by
  induction lines with
  | nil => rfl
  | cons line lines ih =>
      obtain ⟨hline, hlines⟩ := List.forall_mem_cons.mp hlines
      rw [List.flatMap_cons, List.append_assoc, List.append_assoc, List.singleton_append,
        pieces_append_cons hline, ih hlines, List.cons_append]

omit [DecidableEq α] in
theorem not_mem_intercalate {a : α} {separator : List α} {items : List (List α)}
    (hseparator : a ∉ separator) (hitems : ∀ item ∈ items, a ∉ item) :
    a ∉ separator.intercalate items := by
  induction items with
  | nil => simp
  | cons first rest ih =>
      obtain ⟨hfirst, hrest⟩ := List.forall_mem_cons.mp hitems
      cases rest with
      | nil => simpa using hfirst
      | cons second rest =>
          rw [List.intercalate_cons_cons, List.mem_append, List.mem_append]
          rintro ((hmem | hmem) | hmem)
          · exact hfirst hmem
          · exact hseparator hmem
          · exact ih hrest hmem

/-- Items without delimiter, written with a delimiter and a blank between them. -/
theorem pieces_intercalate {blank : α} (hblank : blank ≠ delim) {first : List α}
    {rest : List (List α)} (hfirst : first ≠ [])
    (hitems : ∀ item ∈ first :: rest, delim ∉ item) :
    pieces delim ([delim, blank].intercalate (first :: rest)) =
      first :: rest.map (blank :: ·) := by
  induction rest generalizing first with
  | nil =>
      rw [List.intercalate_singleton, List.map_nil]
      exact pieces_of_not_mem (hitems first List.mem_cons_self) hfirst
  | cons second rest ih =>
      obtain ⟨hfree, hsecond, hrest⟩ := List.forall_mem_cons.mp hitems |>.imp_right
        List.forall_mem_cons.mp
      have htext : [delim, blank].intercalate (first :: second :: rest) =
          first ++ delim :: [delim, blank].intercalate ((blank :: second) :: rest) := by
        rw [List.intercalate_cons_cons]
        cases rest <;> simp [List.intercalate_cons_cons]
      have hshifted : ∀ item ∈ (blank :: second) :: rest, delim ∉ item := by
        refine List.forall_mem_cons.mpr ⟨?_, hrest⟩
        simp [hblank.symm, hsecond]
      rw [htext, pieces_append_cons hfree, ih (by simp) hshifted, List.map_cons]

end Astartis.Delimited
