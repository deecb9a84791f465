import Astartis.Regex

/-!
What the texts look like that a matcher finds.  The language of an expression forgets where in a
text a word may start and end.
-/

namespace Astartis.Regex

open ByteString

/-- The texts of an expression, wherever they stand. -/
def Spells : Regex → ByteString → Prop
  | .byte accepts, s => ∃ b, accepts b = true ∧ s = [b]
  | .wordBoundary, s => s = []
  | .sequence first second, s => ∃ u v, Spells first u ∧ Spells second v ∧ s = u ++ v
  | .optional r, s => s = [] ∨ Spells r s
  | .repeated r least most, s => ∃ pieces : List ByteString,
      least ≤ pieces.length ∧ pieces.length ≤ most ∧ (∀ piece ∈ pieces, Spells r piece) ∧
        s = pieces.flatten

section Slices

variable {text : ByteString}

theorem substr_self (i : Nat) : substr text i (i - i) = [] := by
  simp [substr]

theorem substr_append {i j k : Nat} (hij : i ≤ j) (hjk : j ≤ k) :
    substr text i (k - i) = substr text i (j - i) ++ substr text j (k - j) := by
  have hdrop : text.drop j = (text.drop i).drop (j - i) := by
    rw [List.drop_drop]
    congr 1
    omega
  rw [substr, substr, substr, hdrop, ← List.take_add]
  congr 1
  omega

/-- From a step whose slices have a property to the slices of a repetition. -/
theorem repeatEnds_slices {step : Nat → List Nat} {P : ByteString → Prop}
    (hstep : ∀ i j, j ∈ step i → i ≤ j ∧ P (substr text i (j - i))) {least most i stop : Nat}
    (hstop : stop ∈ repeatEnds step least most i) :
    i ≤ stop ∧ ∃ pieces : List ByteString, least ≤ pieces.length ∧ pieces.length ≤ most ∧
      (∀ piece ∈ pieces, P piece) ∧ substr text i (stop - i) = pieces.flatten := by
  have hnone : ∀ {least i stop : Nat}, stop ∈ (if least = 0 then [i] else []) →
      least = 0 ∧ stop = i := by
    intro least i stop hmem
    split at hmem
    · exact ⟨‹_›, List.mem_singleton.mp hmem⟩
    · simp at hmem
  induction most generalizing least i with
  | zero =>
      obtain ⟨hleast, rfl⟩ := hnone hstop
      exact ⟨le_rfl, [], by simp [hleast], by simp, by simp, substr_self stop⟩
  | succ most ih =>
      rw [repeatEnds, List.mem_append, List.mem_flatMap] at hstop
      rcases hstop with ⟨j, hj, hrest⟩ | hstop
      · obtain ⟨hij, hpiece⟩ := hstep i j hj
        obtain ⟨hjk, pieces, hleast, hmost, hall, hslice⟩ := ih hrest
        refine ⟨hij.trans hjk, substr text i (j - i) :: pieces, ?_, ?_, ?_, ?_⟩
        · rw [List.length_cons]
          omega
        · rw [List.length_cons]
          omega
        · exact List.forall_mem_cons.mpr ⟨hpiece, hall⟩
        · rw [substr_append hij hjk, hslice, List.flatten_cons]
      · obtain ⟨hleast, rfl⟩ := hnone hstop
        exact ⟨le_rfl, [], by simp [hleast], by simp, by simp, substr_self stop⟩

theorem ends_spells {r : Regex} {i stop : Nat} (hstop : stop ∈ r.ends text i) :
    i ≤ stop ∧ r.Spells (substr text i (stop - i)) := by
  induction r generalizing i stop with
  | byte accepts =>
      rw [ends] at hstop
      split at hstop
      · rename_i haccepts
        obtain rfl := List.mem_singleton.mp hstop
        obtain ⟨b, hb, haccepts⟩ := (Option.any_eq_true _ _).mp haccepts
        refine ⟨Nat.le_succ i, b, haccepts, ?_⟩
        obtain ⟨hlt, rfl⟩ := List.getElem?_eq_some_iff.mp hb
        rw [substr, Nat.add_sub_cancel_left, List.drop_eq_getElem_cons hlt]
        rfl
      · simp at hstop
  | wordBoundary =>
      simp only [ends] at hstop
      split at hstop
      · simp at hstop
      · obtain rfl := List.mem_singleton.mp hstop
        exact ⟨le_rfl, substr_self stop⟩
  | sequence first second ihFirst ihSecond =>
      rw [ends, List.mem_flatMap] at hstop
      obtain ⟨j, hj, hstop⟩ := hstop
      obtain ⟨hij, hfirst⟩ := ihFirst hj
      obtain ⟨hjk, hsecond⟩ := ihSecond hstop
      exact ⟨hij.trans hjk, _, _, hfirst, hsecond, substr_append hij hjk⟩
  | optional r ih =>
      rw [ends, List.mem_append] at hstop
      rcases hstop with hstop | hstop
      · obtain ⟨hle, hspells⟩ := ih hstop
        exact ⟨hle, .inr hspells⟩
      · obtain rfl := List.mem_singleton.mp hstop
        exact ⟨le_rfl, .inl (substr_self stop)⟩
  | repeated r least most ih =>
      rw [ends] at hstop
      exact repeatEnds_slices (fun i j hj => ih hj) hstop

theorem mem_ends_of_searchFrom {r : Regex} {start i stop : Nat}
    (hsearch : r.searchFrom text start = some (i, stop)) : stop ∈ r.ends text i := by
  have hmem := List.mem_of_mem_head? (Option.mem_def.mpr hsearch)
  obtain ⟨position, -, hposition⟩ := List.mem_filterMap.mp hmem
  obtain ⟨end', hhead, hpair⟩ := Option.map_eq_some_iff.mp hposition
  obtain ⟨rfl, rfl⟩ := Prod.mk.inj hpair
  exact List.mem_of_mem_head? (Option.mem_def.mpr hhead)

theorem allMatches_spells {r : Regex} {fuel start : Nat} {m : ByteString}
    (hm : m ∈ r.allMatches text fuel start) : r.Spells m := by
  induction fuel generalizing start with
  | zero => simp [allMatches] at hm
  | succ fuel ih =>
      rw [allMatches] at hm
      split at hm
      · simp at hm
      · rename_i i stop hsearch
        rcases List.mem_cons.mp hm with rfl | hm
        · exact (ends_spells (mem_ends_of_searchFrom hsearch)).2
        · exact ih hm

/-- Every match is a text of the expression. -/
theorem matchTexts_spells {r : Regex} {m : ByteString} (hm : m ∈ r.matchTexts text) :
    r.Spells m :=
  allMatches_spells hm

end Slices

end Astartis.Regex
