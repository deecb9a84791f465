import Mathlib.Data.List.Induction
import Mathlib.Data.List.Forall2

/-!
Chains of records in which every record stores the digest of its own contents
and the digest its predecessor stores.
-/

namespace Astartis.HashChain

universe u v

variable {Record : Type u} {Digest : Type v}

theorem eq_of_map_eq {α : Type u} {β : Type v} {f : α → β} {xs ys : List α}
    (hagree : List.Forall₂ (fun x y => f x = f y → x = y) xs ys)
    (hmap : xs.map f = ys.map f) : xs = ys := by
  induction hagree with
  | nil => rfl
  | cons hfirst _ ih =>
      obtain ⟨hhead, htail⟩ := List.cons.inj hmap
      rw [hfirst hhead, ih htail]

/-- How a record carries its two digests, and how its own one is recomputed
from its contents. -/
structure Scheme (Record : Type u) (Digest : Type v) where
  previous : Record → Digest
  stored : Record → Digest
  recompute : Record → Digest

namespace Scheme

variable (C : Scheme Record Digest)

def Linked (genesis : Digest) : List Record → Prop
  | [] => True
  | r :: rs => C.previous r = genesis ∧ C.stored r = C.recompute r ∧
      Linked (C.stored r) rs

def head (genesis : Digest) (rs : List Record) : Digest :=
  (rs.getLast?.map C.stored).getD genesis

@[simp] theorem head_nil (genesis : Digest) : C.head genesis [] = genesis := rfl

@[simp] theorem head_concat (genesis : Digest) (rs : List Record) (r : Record) :
    C.head genesis (rs ++ [r]) = C.stored r := by
  simp [head]

theorem head_cons (genesis : Digest) (r : Record) (rs : List Record) :
    C.head genesis (r :: rs) = C.head (C.stored r) rs := by
  rcases List.eq_nil_or_concat' rs with rfl | ⟨rs, last, rfl⟩
  · rfl
  · rw [← List.cons_append, head_concat, head_concat]

theorem linked_concat (genesis : Digest) (rs : List Record) (r : Record) :
    C.Linked genesis (rs ++ [r]) ↔
      C.Linked genesis rs ∧ C.previous r = C.head genesis rs ∧
        C.stored r = C.recompute r := by
  induction rs generalizing genesis with
  | nil => simp [Linked]
  | cons first rs ih =>
      simp only [List.cons_append, Linked, ih, head_cons]
      constructor
      · rintro ⟨hprevious, hstored, hlinked, hlast⟩
        exact ⟨⟨hprevious, hstored, hlinked⟩, hlast⟩
      · rintro ⟨⟨hprevious, hstored, hlinked⟩, hlast⟩
        exact ⟨hprevious, hstored, hlinked, hlast⟩

theorem Linked.of_append {C : Scheme Record Digest} {genesis : Digest} {rs ss : List Record}
    (hlinked : C.Linked genesis (rs ++ ss)) : C.Linked genesis rs := by
  induction rs generalizing genesis with
  | nil => trivial
  | cons r rs ih =>
      obtain ⟨hprevious, hstored, hrest⟩ := hlinked
      exact ⟨hprevious, hstored, ih hrest⟩

theorem Linked.previous_first {C : Scheme Record Digest} {genesis : Digest}
    {rs : List Record} (hlinked : C.Linked genesis rs) {first : Record}
    (hfirst : rs[0]? = some first) : C.previous first = genesis := by
  rcases rs with _ | ⟨r, rs⟩
  · simp at hfirst
  · obtain rfl : r = first := by simpa using hfirst
    exact hlinked.1

theorem Linked.previous_succ {C : Scheme Record Digest} {genesis : Digest}
    {rs : List Record} (hlinked : C.Linked genesis rs) {i : Nat} {r next : Record}
    (hr : rs[i]? = some r) (hnext : rs[i + 1]? = some next) :
    C.previous next = C.stored r := by
  induction rs generalizing genesis i with
  | nil => simp at hr
  | cons first rs ih =>
      obtain ⟨-, -, hrest⟩ := hlinked
      rcases i with _ | i
      · obtain rfl : first = r := by simpa using hr
        exact hrest.previous_first hnext
      · exact ih hrest hr hnext

theorem Linked.stored_eq {C : Scheme Record Digest} {genesis : Digest}
    {rs : List Record} (hlinked : C.Linked genesis rs) {r : Record} (hr : r ∈ rs) :
    C.stored r = C.recompute r := by
  induction rs generalizing genesis with
  | nil => simp at hr
  | cons first rs ih =>
      rcases List.mem_cons.mp hr with rfl | hr
      · exact hlinked.2.1
      · exact ih hlinked.2.2 hr

/-- Every digest a chain refers to is the starting one or a recomputed one. -/
theorem Linked.previous_mem {C : Scheme Record Digest} {genesis : Digest}
    {rs : List Record} (hlinked : C.Linked genesis rs) {r : Record} (hr : r ∈ rs) :
    C.previous r = genesis ∨ ∃ s ∈ rs, C.previous r = C.recompute s := by
  induction rs generalizing genesis with
  | nil => simp at hr
  | cons first rs ih =>
      obtain ⟨hprevious, hstored, hrest⟩ := hlinked
      rcases List.mem_cons.mp hr with rfl | hr
      · exact Or.inl hprevious
      · rcases ih hrest hr with h | ⟨s, hs, h⟩
        · exact Or.inr ⟨first, by simp, h.trans hstored⟩
        · exact Or.inr ⟨s, by simp [hs], h⟩

/-- The head digest commits to the whole chain: records with equal recomputed
digests that agree on what they hash agree all along two chains with the same
length and the same head. -/
theorem Linked.agree {C : Scheme Record Digest} {Same : Record → Record → Prop}
    {genesis genesis' : Digest} {rs ss : List Record}
    (hrs : C.Linked genesis rs) (hss : C.Linked genesis' ss)
    (hlength : rs.length = ss.length)
    (hhead : rs.getLast?.map C.stored = ss.getLast?.map C.stored)
    (hsame : ∀ r ∈ rs, ∀ s ∈ ss, C.recompute r = C.recompute s →
      C.previous r = C.previous s ∧ Same r s) :
    List.Forall₂ Same rs ss := by
  induction rs using List.reverseRecOn generalizing ss with
  | nil =>
      obtain rfl : ss = [] := List.eq_nil_of_length_eq_zero hlength.symm
      exact .nil
  | append_singleton rs r ih =>
      obtain rfl | ⟨ss, s, rfl⟩ := List.eq_nil_or_concat' ss
      · simp at hlength
      · rw [linked_concat] at hrs hss
        obtain ⟨hrs, hpreviousR, hstoredR⟩ := hrs
        obtain ⟨hss, hpreviousS, hstoredS⟩ := hss
        have hstored : C.stored r = C.stored s := by simpa using hhead
        obtain ⟨hprevious, hlast⟩ :=
          hsame r (by simp) s (by simp) (by rw [← hstoredR, ← hstoredS, hstored])
        have hshort : rs.length = ss.length := by simpa using hlength
        have hhead' : rs.getLast?.map C.stored = ss.getLast?.map C.stored := by
          obtain rfl | ⟨rs, x, rfl⟩ := List.eq_nil_or_concat' rs
          · obtain rfl : ss = [] := List.eq_nil_of_length_eq_zero hshort.symm
            rfl
          · obtain rfl | ⟨ss, y, rfl⟩ := List.eq_nil_or_concat' ss
            · simp at hshort
            · rw [hpreviousR, hpreviousS, head_concat, head_concat] at hprevious
              simp [hprevious]
        have hrest := ih hrs hss hshort hhead' fun r hr s hs =>
          hsame r (by simp [hr]) s (by simp [hs])
        exact List.rel_append hrest (.cons hlast .nil)

end Scheme

end Astartis.HashChain
