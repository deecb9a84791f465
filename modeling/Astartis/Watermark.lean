import Mathlib.Data.List.DropRight
import Mathlib.Data.Finset.Card
import Mathlib.Tactic.Linarith

/-!
A reader of numbered items that takes only those above the highest number it has seen, and a list
that keeps its latest entries.
-/

namespace Astartis.Watermark

universe u v

variable {α : Type u}

/-- The items that a reader takes. -/
def news (last : Int) : List (Nat × α) → List (Nat × α)
  | [] => []
  | item :: items => if last < item.1 then item :: news item.1 items else news last items

/-- The highest number behind the items. -/
def watermark (last : Int) (items : List (Nat × α)) : Int :=
  items.foldl (fun last item => max last item.1) last

theorem watermark_cons (last : Int) (item : Nat × α) (items : List (Nat × α)) :
    watermark last (item :: items) = watermark (max last item.1) items := rfl

theorem le_watermark (last : Int) (items : List (Nat × α)) : last ≤ watermark last items := by
  induction items generalizing last with
  | nil => exact le_rfl
  | cons item items ih => exact (le_max_left _ _).trans (ih _)

theorem le_watermark_of_mem {last : Int} {items : List (Nat × α)} {item : Nat × α}
    (hitem : item ∈ items) : (item.1 : Int) ≤ watermark last items := by
  induction items generalizing last with
  | nil => exact absurd hitem List.not_mem_nil
  | cons first items ih =>
      rcases List.mem_cons.mp hitem with rfl | hitem
      · exact (le_max_right _ _).trans (le_watermark _ _)
      · exact ih hitem

theorem watermark_le {last bound : Int} {items : List (Nat × α)} (hlast : last ≤ bound)
    (hitems : ∀ item ∈ items, (item.1 : Int) ≤ bound) : watermark last items ≤ bound := by
  induction items generalizing last with
  | nil => exact hlast
  | cons first items ih =>
      obtain ⟨hfirst, hitems⟩ := List.forall_mem_cons.mp hitems
      exact ih (max_le hlast hfirst) hitems

theorem news_eq_nil {last : Int} {items : List (Nat × α)}
    (hitems : ∀ item ∈ items, (item.1 : Int) ≤ last) : news last items = [] := by
  induction items with
  | nil => rfl
  | cons first items ih =>
      obtain ⟨hfirst, hitems⟩ := List.forall_mem_cons.mp hitems
      rw [news, if_neg (not_lt.mpr hfirst), ih hitems]

theorem news_sublist (last : Int) (items : List (Nat × α)) : (news last items).Sublist items := by
  induction items generalizing last with
  | nil => exact .slnil
  | cons first items ih =>
      rw [news]
      split
      · exact (ih _).cons_cons _
      · exact (ih _).cons _

theorem lt_of_mem_news {last : Int} {items : List (Nat × α)} {item : Nat × α}
    (hitem : item ∈ news last items) : last < item.1 := by
  induction items generalizing last with
  | nil => exact absurd hitem List.not_mem_nil
  | cons first items ih =>
      rw [news] at hitem
      split at hitem
      · rename_i hfirst
        rcases List.mem_cons.mp hitem with rfl | hitem
        · exact hfirst
        · exact hfirst.trans (ih hitem)
      · exact ih hitem

/-- What is taken comes in the order of the numbers. -/
theorem news_increasing (last : Int) (items : List (Nat × α)) :
    (news last items).Pairwise (fun a b => a.1 < b.1) := by
  induction items generalizing last with
  | nil => exact .nil
  | cons first items ih =>
      rw [news]
      split
      · refine List.pairwise_cons.mpr ⟨fun item hitem => ?_, ih _⟩
        exact_mod_cast lt_of_mem_news hitem
      · exact ih _

/-- What a reader has taken so far, below its mark. -/
structure Taken (last : Int) (taken : List (Nat × α)) : Prop where
  increasing : taken.Pairwise (fun a b => a.1 < b.1)
  below : ∀ item ∈ taken, (item.1 : Int) ≤ last

theorem Taken.append {last : Int} {taken : List (Nat × α)} (htaken : Taken last taken)
    (items : List (Nat × α)) : Taken (watermark last items) (taken ++ news last items) := by
  refine ⟨?_, fun item hitem => ?_⟩
  · refine List.pairwise_append.mpr ⟨htaken.increasing, news_increasing _ _, ?_⟩
    intro a ha b hb
    have hbelow := htaken.below a ha
    have habove := lt_of_mem_news hb
    omega
  · rcases List.mem_append.mp hitem with hitem | hitem
    · exact (htaken.below item hitem).trans (le_watermark _ _)
    · exact le_watermark_of_mem ((news_sublist _ _).subset hitem)

/-- No number is taken twice. -/
theorem Taken.length_le {last : Int} {taken : List (Nat × α)} (htaken : Taken last taken)
    {numbers : Finset Nat} (hnumbers : ∀ item ∈ taken, item.1 ∈ numbers) :
    taken.length ≤ numbers.card := by
  have hnodup : (taken.map Prod.fst).Nodup := by
    refine List.Pairwise.imp (R := (· < ·)) (fun h => h.ne) ?_
    exact List.pairwise_map.mpr htaken.increasing
  calc
    taken.length = (taken.map Prod.fst).length := (List.length_map _).symm
    _ = (taken.map Prod.fst).toFinset.card := (List.toFinset_card_of_nodup hnodup).symm
    _ ≤ numbers.card := by
      refine Finset.card_le_card fun number hnumber => ?_
      obtain ⟨item, hitem, rfl⟩ := List.mem_map.mp (List.mem_toFinset.mp hnumber)
      exact hnumbers item hitem

/-- An entry is put behind the others, and the first falls out beyond the limit. -/
def roll (limit : Nat) (entries : List α) (entry : α) : List α :=
  if (entries ++ [entry]).length > limit then (entries ++ [entry]).drop 1 else entries ++ [entry]

theorem roll_rtake {limit : Nat} (hlimit : 0 < limit) (pushed : List α) (entry : α) :
    roll limit (pushed.rtake limit) entry = (pushed ++ [entry]).rtake limit := by
  simp only [roll, List.rtake, List.length_append, List.length_drop, List.length_singleton]
  split
  · rename_i hfull
    rw [← List.drop_append_of_le_length (by omega), List.drop_drop]
    congr 1
    omega
  · rename_i hroom
    rw [Nat.sub_eq_zero_of_le (by omega), Nat.sub_eq_zero_of_le (by omega), List.drop_zero,
      List.drop_zero]

/-- The latest entries are what is left of all of them. -/
theorem foldl_roll {limit : Nat} (hlimit : 0 < limit) (pushed entries : List α) :
    entries.foldl (roll limit) (pushed.rtake limit) = (pushed ++ entries).rtake limit := by
  induction entries generalizing pushed with
  | nil => rw [List.append_nil]; rfl
  | cons entry entries ih => rw [List.foldl_cons, roll_rtake hlimit, ih, ← List.append_cons]

end Astartis.Watermark
