import Mathlib.Algebra.BigOperators.Group.List.Basic
import Std.Data.TreeMap

/-!
The total of a quantity over the values of a map, and what an insertion does to it.
-/

namespace Astartis.MapTotals

variable {α β M : Type} [Ord α] [AddCommMonoid M] (size : β → M)

def total (entries : Std.TreeMap α β) : M :=
  (entries.toList.map fun entry => size entry.2).sum

/-- The quantity of what stands under the key, nothing where there is nothing. -/
def sizeAt (entries : Std.TreeMap α β) (key : α) : M :=
  (entries[key]?.map size).getD 0

theorem total_empty : total size (∅ : Std.TreeMap α β) = 0 :=
  rfl

variable [BEq α]

/-- The total over the other keys. -/
def totalBeside (entries : Std.TreeMap α β) (key : α) : M :=
  ((entries.toList.filter fun entry => ¬ key == entry.1).map fun entry => size entry.2).sum

variable [Std.TransOrd α] [Std.LawfulEqOrd α] [LawfulBEq α]

theorem total_insert_eq (entries : Std.TreeMap α β) (key : α) (value : β) :
    total size (entries.insert key value) = size value + totalBeside size entries key := by
  have hperm := Std.TreeMap.toList_insert_perm (t := entries) (k := key) (v := value)
  rw [total, (hperm.map fun entry => size entry.2).sum_eq, List.map_cons, List.sum_cons,
    totalBeside]

theorem total_eq (entries : Std.TreeMap α β) (key : α) :
    total size entries = sizeAt size entries key + totalBeside size entries key := by
  cases hold : entries[key]? with
  | none =>
      have hothers : (entries.toList.filter fun entry => ¬ key == entry.1) = entries.toList := by
        rw [List.filter_eq_self]
        rintro ⟨other, value⟩ hmem
        rw [Std.TreeMap.mem_toList_iff_getElem?_eq_some] at hmem
        have hne : key ≠ other := by
          rintro rfl
          simp [hold] at hmem
        simpa using hne
      rw [sizeAt, hold, totalBeside, hothers]
      exact (zero_add _).symm
  | some value =>
      -- Writing an entry over itself changes nothing.
      have hsame : (entries.insert key value).toList = entries.toList := by
        apply Std.TreeMap.Equiv.toList_eq
        apply Std.TreeMap.Equiv.of_forall_constGet?_eq
        intro other
        rw [Std.TreeMap.getElem?_insert]
        split
        · rename_i hother
          rw [← Std.LawfulEqCmp.eq_of_compare hother, hold]
        · rfl
      rw [sizeAt, hold, total, ← hsame]
      exact total_insert_eq size entries key value

/-- An insertion exchanges what stood under the key for the new value. -/
theorem total_insert (entries : Std.TreeMap α β) (key : α) (value : β) :
    total size (entries.insert key value) + sizeAt size entries key =
      total size entries + size value := by
  rw [total_insert_eq, total_eq size entries key, add_comm (size value), add_comm (sizeAt _ _ _),
    add_right_comm]

end Astartis.MapTotals
