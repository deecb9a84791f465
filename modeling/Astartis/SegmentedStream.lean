import Mathlib.Data.Nat.Find
import Mathlib.Data.List.Basic

/-!
Reading a stream in segments.  A read returns some of what is left, at most as much as fits
into its buffer; how much is not up to the reader.
-/

namespace Astartis.SegmentedStream

universe u

variable {α : Type u}

/-- What is left of a stream, and how many elements more than one each read finds.  Behind
the list, a read finds everything. -/
structure Source (α : Type u) where
  stream : List α
  offers : List Nat := []

namespace Source

def recv (limit : Nat) (self : Source α) : List α × Source α :=
  match self.offers with
  | [] => (self.stream.take limit, ⟨self.stream.drop limit, []⟩)
  | n :: offers =>
      let count := min limit (n + 1)
      (self.stream.take count, ⟨self.stream.drop count, offers⟩)

/-- Read until enough has been read or the stream ends. -/
def readUntil [DecidableEq α] (limit : Nat) (enough : List α → Bool) :
    Nat → List α → Source α → List α × Source α
  | 0, read, self => (read, self)
  | fuel + 1, read, self =>
      let (segment, rest) := self.recv limit
      if segment = [] then (read, rest)
      else if enough (read ++ segment) then (read ++ segment, rest)
      else readUntil limit enough fuel (read ++ segment) rest

/-- Read until there are `count` elements or the stream ends, never more than are missing. -/
def readTo [DecidableEq α] (limit count : Nat) : Nat → List α → Source α → List α
  | 0, read, _ => read
  | fuel + 1, read, self =>
      if read.length < count then
        let (segment, rest) := self.recv (min limit (count - read.length))
        if segment = [] then read else readTo limit count fuel (read ++ segment) rest
      else read

/-- A read takes at least one element, if there is one, and at most what fits. -/
theorem recv_eq (limit : Nat) (self : Source α) :
    ∃ count offers, (self.recv limit) =
        (self.stream.take count, ⟨self.stream.drop count, offers⟩) ∧
      count ≤ limit ∧ (0 < limit → 0 < count) := by
  obtain ⟨stream, offers⟩ := self
  cases offers with
  | nil => exact ⟨limit, [], rfl, le_refl _, id⟩
  | cons n offers =>
      refine ⟨min limit (n + 1), offers, rfl, min_le_left _ _, ?_⟩
      intro hlimit
      omega

section

variable [DecidableEq α]

/-- However the stream is cut, reading to a count reads the same. -/
theorem readTo_eq {limit count : Nat} (hlimit : 0 < limit) (fuel : Nat) (read : List α)
    (self : Source α) (hfuel : self.stream.length ≤ fuel) :
    readTo limit count fuel read self = read ++ self.stream.take (count - read.length) := by
  induction fuel generalizing read self with
  | zero =>
      have hnil : self.stream = [] := List.length_eq_zero_iff.mp (Nat.le_zero.mp hfuel)
      simp [readTo, hnil]
  | succ fuel ih =>
      rw [readTo]
      split
      · rename_i hmissing
        obtain ⟨n, offers, hrecv, hle, hpos⟩ := self.recv_eq (min limit (count - read.length))
        have hn : 0 < n := hpos (by omega)
        rw [hrecv]
        dsimp only
        split
        · rename_i hsegment
          have hnil : self.stream = [] := by
            rcases List.take_eq_nil_iff.mp hsegment with h | h
            · omega
            · exact h
          simp [hnil]
        · rename_i hsegment
          have hlength : self.stream.length ≠ 0 := by
            intro h
            exact hsegment (by simp [List.length_eq_zero_iff.mp h])
          have hn' : n ≤ count - read.length := by omega
          rw [ih _ _ (by simp only [List.length_drop]; omega), List.append_assoc]
          congr 1
          by_cases hshort : n ≤ self.stream.length
          · have hmore : count - (read ++ self.stream.take n).length =
                count - read.length - n := by
              rw [List.length_append, List.length_take, min_eq_left hshort]
              omega
            rw [hmore, ← List.take_add]
            congr 1
            omega
          · have hrest : self.stream.drop n = [] := List.drop_eq_nil_of_le (by omega)
            rw [List.take_of_length_le (by omega), hrest, List.take_nil, List.append_nil,
              List.take_of_length_le (by omega)]
      · rename_i hcount
        rw [show count - read.length = 0 by omega]
        simp

/-- Where reading can stop: at the end of the stream or where enough has been read, one
buffer at most behind a position where it was not enough yet. -/
def Boundary (limit : Nat) (enough : List α → Bool) (full : List α) (k : Nat) : Prop :=
  k ≤ full.length ∧ (k = full.length ∨ enough (full.take k) = true) ∧
    (full = [] ∨ ∃ p < k, k ≤ p + limit ∧ enough (full.take p) = false)

theorem readUntil_boundary_of {limit : Nat} {enough : List α → Bool} (hlimit : 0 < limit)
    {full : List α} (fuel p : Nat) (offers : List Nat) (hp : p ≤ full.length)
    (hfuel : full.length ≤ fuel + p) (hshort : enough (full.take p) = false)
    (hreached : p = 0 ∨ ∃ p' < p, p ≤ p' + limit ∧ enough (full.take p') = false) :
    ∃ k offers', Boundary limit enough full k ∧
      readUntil limit enough fuel (full.take p) ⟨full.drop p, offers⟩ =
        (full.take k, ⟨full.drop k, offers'⟩) := by
  have hend : p = full.length → Boundary limit enough full p := by
    intro hlength
    refine ⟨hp, .inl hlength, ?_⟩
    rcases hreached with hzero | hreached
    · exact .inl (List.length_eq_zero_iff.mp (by omega))
    · exact .inr hreached
  induction fuel generalizing p offers with
  | zero => exact ⟨p, offers, hend (by omega), rfl⟩
  | succ fuel ih =>
      obtain ⟨n, offers', hrecv, hle, hpos⟩ := recv_eq limit ⟨full.drop p, offers⟩
      have hn : 0 < n := hpos hlimit
      rw [readUntil, hrecv]
      dsimp only
      split
      · rename_i hsegment
        have hnil : full.drop p = [] := by
          rcases List.take_eq_nil_iff.mp hsegment with h | h
          · omega
          · exact h
        have hlength : p = full.length := by
          have := List.drop_eq_nil_iff.mp hnil
          omega
        refine ⟨p, offers', hend hlength, ?_⟩
        rw [hnil, List.drop_nil]
      · rename_i hsegment
        have hmore : p < full.length := by
          by_contra h
          exact hsegment (by rw [List.drop_eq_nil_of_le (by omega), List.take_nil])
        -- the position behind this segment
        obtain ⟨q, hq⟩ : ∃ q, q = min (p + n) full.length := ⟨_, rfl⟩
        have hread : full.take p ++ (full.drop p).take n = full.take q := by
          rw [← List.take_add, hq]
          by_cases hshort : p + n ≤ full.length
          · rw [min_eq_left hshort]
          · rw [min_eq_right (by omega), List.take_of_length_le (by omega), List.take_length]
        have hrest : (full.drop p).drop n = full.drop q := by
          rw [List.drop_drop, hq]
          by_cases hshort : p + n ≤ full.length
          · rw [min_eq_left hshort]
          · rw [min_eq_right (by omega), List.drop_eq_nil_of_le (by omega), List.drop_length]
        have hstep : q = 0 ∨ ∃ p' < q, q ≤ p' + limit ∧ enough (full.take p') = false :=
          .inr ⟨p, by omega, by omega, hshort⟩
        rw [hread, hrest]
        split
        · rename_i henough
          refine ⟨q, offers', ⟨by omega, .inr henough, ?_⟩, rfl⟩
          exact .inr ⟨p, by omega, by omega, hshort⟩
        · rename_i henough
          refine ih q offers' (by omega) (by omega) (by simpa using henough) hstep ?_
          intro hlength
          exact ⟨by omega, .inl hlength, .inr ⟨p, by omega, by omega, hshort⟩⟩

/-- Reading stops at a boundary. -/
theorem readUntil_boundary {limit : Nat} {enough : List α → Bool} (hlimit : 0 < limit)
    (hempty : enough [] = false) (full : List α) (offers : List Nat) :
    ∃ k offers', Boundary limit enough full k ∧
      readUntil limit enough full.length [] ⟨full, offers⟩ =
        (full.take k, ⟨full.drop k, offers'⟩) :=
  readUntil_boundary_of hlimit full.length 0 offers (Nat.zero_le _) (by omega) hempty (.inl rfl)

theorem readUntil_cons {limit : Nat} {enough : List α → Bool} {fuel p n : Nat}
    {full : List α} {offers : List Nat} (hn : n < limit) (hp : p + n < full.length) :
    readUntil limit enough (fuel + 1) (full.take p) ⟨full.drop p, n :: offers⟩ =
      if enough (full.take (p + (n + 1))) then
        (full.take (p + (n + 1)), ⟨full.drop (p + (n + 1)), offers⟩)
      else
        readUntil limit enough fuel (full.take (p + (n + 1)))
          ⟨full.drop (p + (n + 1)), offers⟩ := by
  have hrecv : recv limit ⟨full.drop p, n :: offers⟩ =
      ((full.drop p).take (n + 1), ⟨(full.drop p).drop (n + 1), offers⟩) := by
    simp only [recv]
    rw [min_eq_right (by omega)]
  have hsegment : (full.drop p).take (n + 1) ≠ [] := by
    intro h
    have := congrArg List.length h
    simp only [List.length_take, List.length_drop, List.length_nil] at this
    omega
  rw [readUntil, hrecv]
  dsimp only
  rw [if_neg hsegment, ← List.take_add, List.drop_drop]

/-- Every boundary is one at which some reads stop. -/
theorem exists_offers_of_boundary {limit : Nat} {enough : List α → Bool} (hlimit : 0 < limit)
    {full : List α}
    (hmono : ∀ p q, p ≤ q → enough (full.take p) = true → enough (full.take q) = true)
    {k : Nat} (hk : Boundary limit enough full k) :
    ∃ offers offers', readUntil limit enough full.length [] ⟨full, offers⟩ =
      (full.take k, ⟨full.drop k, offers'⟩) := by
  obtain ⟨hle, hstop, hreached⟩ := hk
  rcases hreached with rfl | ⟨p, hpk, hlimit', hshort⟩
  · exact ⟨[], [], by simp [readUntil]⟩
  · -- single elements up to `p`, then all at once
    have hsingle : ∀ q, q ≤ p → ∀ fuel, full.length ≤ fuel + (p - q) → ∃ offers offers',
        readUntil limit enough fuel (full.take (p - q)) ⟨full.drop (p - q), offers⟩ =
          (full.take k, ⟨full.drop k, offers'⟩) := by
      intro q
      induction q with
      | zero =>
          intro _ fuel hfuel
          obtain ⟨fuel, rfl⟩ : ∃ f, fuel = f + 1 := ⟨fuel - 1, by omega⟩
          refine ⟨[k - p - 1], [], ?_⟩
          rw [readUntil_cons (by omega) (by omega), show p - 0 + (k - p - 1 + 1) = k by omega]
          split
          · rfl
          · rename_i henough
            have hend : k = full.length := by
              rcases hstop with h | h
              · exact h
              · exact absurd h henough
            cases fuel with
            | zero => rfl
            | succ fuel =>
                rw [readUntil, hend, List.drop_length]
                simp [recv]
      | succ q ih =>
          intro hq fuel hfuel
          obtain ⟨fuel, rfl⟩ : ∃ f, fuel = f + 1 := ⟨fuel - 1, by omega⟩
          obtain ⟨offers, offers', hrest⟩ := ih (by omega) fuel (by omega)
          refine ⟨0 :: offers, offers', ?_⟩
          have hnext : enough (full.take (p - q)) = false := by
            by_contra h
            rw [Bool.not_eq_false] at h
            rw [hmono _ p (by omega) h] at hshort
            exact absurd hshort (by simp)
          rw [readUntil_cons (by omega) (by omega), show p - (q + 1) + (0 + 1) = p - q by omega,
            hnext]
          simpa using hrest
    simpa using hsingle p (le_refl p) full.length (by omega)

end

end Source

end Astartis.SegmentedStream
