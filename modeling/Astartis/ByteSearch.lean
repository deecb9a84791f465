import Astartis.ByteString

/-!
Searching a byte string of which only a beginning is there yet.
-/

namespace Astartis.ByteString

theorem findText_eq_some_iff {pattern s : ByteString} {i : Nat} :
    findText pattern s = some i ↔
      i ≤ s.length ∧ pattern <+: s.drop i ∧ ∀ j, j < i → ¬ pattern <+: s.drop j := by
  simp only [findText, List.find?_range_eq_some, List.isPrefixOf_iff_prefix, List.mem_range,
    Bool.not_eq_true', ← Bool.not_eq_true]
  constructor
  · rintro ⟨hstarts, hlt, hfirst⟩
    exact ⟨by omega, hstarts, hfirst⟩
  · rintro ⟨hle, hstarts, hfirst⟩
    exact ⟨hstarts, by omega, hfirst⟩

theorem findText_nil {pattern : ByteString} (hpattern : pattern ≠ []) :
    findText pattern [] = none := by
  cases pattern with
  | nil => exact absurd rfl hpattern
  | cons a pattern => rfl

theorem findText_cons (pattern : ByteString) (b : UInt8) (s : ByteString) :
    findText pattern (b :: s) =
      if pattern.isPrefixOf (b :: s) then some 0 else (findText pattern s).map (· + 1) := by
  have hbehind : ((List.range (s.length + 1)).map Nat.succ).find?
      (fun i => pattern.isPrefixOf ((b :: s).drop i)) = (findText pattern s).map (· + 1) := by
    rw [List.find?_map]
    rfl
  rw [findText, List.length_cons, List.range_succ_eq_map, List.find?_cons, List.drop_zero,
    hbehind]
  cases pattern.isPrefixOf (b :: s) <;> rfl

theorem prefix_drop_take_iff {pattern s : ByteString} {n i : Nat} (hi : i ≤ n) :
    pattern <+: (s.take n).drop i ↔ pattern <+: s.drop i ∧ i + pattern.length ≤ n := by
  rw [List.drop_take, List.prefix_take_iff]
  constructor
  · rintro ⟨hstarts, hle⟩
    exact ⟨hstarts, by omega⟩
  · rintro ⟨hstarts, hle⟩
    exact ⟨hstarts, by omega⟩

/-- A beginning of a text contains the first occurrence, or none. -/
theorem findText_take_iff {pattern s : ByteString} {n i : Nat} :
    findText pattern (s.take n) = some i ↔
      findText pattern s = some i ∧ i + pattern.length ≤ n := by
  simp only [findText_eq_some_iff, List.length_take]
  constructor
  · rintro ⟨hle, hstarts, hfirst⟩
    rw [prefix_drop_take_iff (by omega)] at hstarts
    refine ⟨⟨by omega, hstarts.1, fun j hj h => ?_⟩, hstarts.2⟩
    exact hfirst j hj ((prefix_drop_take_iff (by omega)).mpr ⟨h, by omega⟩)
  · rintro ⟨⟨hle, hstarts, hfirst⟩, hn⟩
    refine ⟨by omega, (prefix_drop_take_iff (by omega)).mpr ⟨hstarts, hn⟩, fun j hj h => ?_⟩
    exact hfirst j hj ((prefix_drop_take_iff (by omega)).mp h).1

theorem findText_take_mono {pattern s : ByteString} {n m i : Nat} (hle : n ≤ m)
    (hfind : findText pattern (s.take n) = some i) : findText pattern (s.take m) = some i := by
  obtain ⟨hall, hbound⟩ := findText_take_iff.mp hfind
  exact findText_take_iff.mpr ⟨hall, by omega⟩

/-- What a search finds is a part of the text. -/
theorem findText_isSome_iff {pattern s : ByteString} :
    (findText pattern s).isSome ↔ pattern <:+: s := by
  constructor
  · intro h
    obtain ⟨i, hi⟩ := Option.isSome_iff_exists.mp h
    exact (findText_eq_some_iff.mp hi).2.1.isInfix.trans (List.drop_suffix i s).isInfix
  · rintro ⟨before, after, rfl⟩
    rw [findText, List.find?_isSome]
    refine ⟨before.length, List.mem_range.mpr (by simp), ?_⟩
    rw [List.isPrefixOf_iff_prefix, List.append_assoc, List.drop_left]
    exact List.prefix_append pattern after

theorem rfindText_succ (pattern s : ByteString) (pos : Nat) :
    rfindText pattern (pos + 1) s =
      if pattern.isPrefixOf (s.drop (pos + 1)) then some (pos + 1)
      else rfindText pattern pos s := by
  rw [rfindText, List.range_succ, List.reverse_append, List.reverse_singleton,
    List.singleton_append, List.find?_cons]
  split <;> simp_all [rfindText]

theorem rfindText_eq_some {pattern s : ByteString} {pos i : Nat} (hpos : i ≤ pos)
    (hstarts : pattern <+: s.drop i) (hlast : ∀ j, i < j → ¬ pattern <+: s.drop j) :
    rfindText pattern pos s = some i := by
  have hfound : pattern.isPrefixOf (s.drop i) = true := List.isPrefixOf_iff_prefix.mpr hstarts
  induction pos with
  | zero =>
      obtain rfl : i = 0 := by omega
      rw [rfindText]
      simpa using hfound
  | succ pos ih =>
      rw [rfindText_succ]
      rcases Nat.lt_or_ge pos i with hlt | hle
      · obtain rfl : i = pos + 1 := by omega
        rw [if_pos hfound]
      · have hbehind := hlast (pos + 1) (by omega)
        rw [if_neg fun h => hbehind (List.isPrefixOf_iff_prefix.mp h), ih hle]

/-- Searched from its end, a text that ends in a pattern contains it there. -/
theorem rfindText_append {pattern s : ByteString} (hpattern : pattern ≠ []) :
    rfindText pattern (s ++ pattern).length (s ++ pattern) = some s.length := by
  have hlength : 0 < pattern.length := List.length_pos_of_ne_nil hpattern
  apply rfindText_eq_some (by simp)
  · rw [List.drop_left]
  · intro j hj h
    have hle := h.length_le
    rw [List.length_drop, List.length_append] at hle
    omega

end Astartis.ByteString
