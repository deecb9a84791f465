import Astartis.JsonText

/-!
Where UTF-8 texts come from and where they get lost: concatenation, numerals and the strings of
a parsed document keep them, and a prefix of a text is UTF-8 exactly if the byte behind it does
not continue a character.
-/

namespace Astartis.ByteString

/-- The byte at the cut, if there is one, starts a character. -/
def cutsClean (n : Nat) (s : ByteString) : Bool :=
  !s[n]?.any isContinuation

@[simp] theorem cutsClean_nil (n : Nat) : cutsClean n [] = true := rfl

@[simp] theorem cutsClean_zero (b : UInt8) (s : ByteString) :
    cutsClean 0 (b :: s) = !isContinuation b := rfl

@[simp] theorem cutsClean_succ (n : Nat) (b : UInt8) (s : ByteString) :
    cutsClean (n + 1) (b :: s) = cutsClean n s := rfl

theorem cutsClean_of_length_le {n : Nat} {s : ByteString} (hlength : s.length ≤ n) :
    cutsClean n s = true := by
  rw [cutsClean, List.getElem?_eq_none hlength]
  rfl

theorem isContinuation_lead {a : UInt8} (hlead : 0xC2 ≤ a) : isContinuation a = false := by
  rw [UInt8.le_iff_toNat_le] at hlead
  simp only [isContinuation, Bool.and_eq_false_iff, decide_eq_false_iff_not,
    UInt8.le_iff_toNat_le]
  right
  simp at hlead ⊢
  omega

/-- The bounds on the second byte of a longer sequence leave continuation bytes only. -/
theorem isContinuation_between {low high b : UInt8} (hlow : 0x80 ≤ low) (hhigh : high ≤ 0xBF)
    (hb : low ≤ b) (hb' : b ≤ high) : isContinuation b = true := by
  simp only [isContinuation, Bool.and_eq_true, decide_eq_true_eq]
  exact ⟨UInt8.le_trans hlow hb, UInt8.le_trans hb' hhigh⟩

section Sequences

variable {a b c d : UInt8} {s : ByteString}

theorem validUtf8_ascii_cons (ha : a ≤ 0x7F) : validUtf8 (a :: s) = validUtf8 s := by
  rw [validUtf8.eq_def]
  simp only [if_pos ha]

theorem validUtf8_two (ha : ¬ a ≤ 0x7F) (htwo : 0xC2 ≤ a ∧ a ≤ 0xDF) :
    validUtf8 (a :: b :: s) = (isContinuation b && validUtf8 s) := by
  rw [validUtf8.eq_def]
  simp only [if_neg ha, if_pos htwo]

theorem validUtf8_three (ha : ¬ a ≤ 0x7F) (htwo : ¬ (0xC2 ≤ a ∧ a ≤ 0xDF))
    (hthree : 0xE0 ≤ a ∧ a ≤ 0xEF) :
    validUtf8 (a :: b :: c :: s) =
      ((if a = 0xE0 then 0xA0 else 0x80) ≤ b && b ≤ (if a = 0xED then 0x9F else 0xBF) &&
        isContinuation c && validUtf8 s) := by
  rw [validUtf8.eq_def]
  simp only [if_neg ha, if_neg htwo, if_pos hthree]

theorem validUtf8_four (ha : ¬ a ≤ 0x7F) (htwo : ¬ (0xC2 ≤ a ∧ a ≤ 0xDF))
    (hthree : ¬ (0xE0 ≤ a ∧ a ≤ 0xEF)) :
    validUtf8 (a :: b :: c :: d :: s) =
      (0xF0 ≤ a && a ≤ 0xF4 && (if a = 0xF0 then 0x90 else 0x80) ≤ b &&
        b ≤ (if a = 0xF4 then 0x8F else 0xBF) && isContinuation c && isContinuation d &&
        validUtf8 s) := by
  rw [validUtf8.eq_def]
  simp only [if_neg ha, if_neg htwo, if_neg hthree]

theorem validUtf8_lead_alone (ha : ¬ a ≤ 0x7F) : validUtf8 [a] = false := by
  simp [validUtf8, ha]

theorem validUtf8_two_of_three (ha : ¬ a ≤ 0x7F) (htwo : ¬ (0xC2 ≤ a ∧ a ≤ 0xDF)) :
    validUtf8 [a, b] = false := by
  simp [validUtf8, ha, htwo]

theorem validUtf8_three_of_four (ha : ¬ a ≤ 0x7F) (htwo : ¬ (0xC2 ≤ a ∧ a ≤ 0xDF))
    (hthree : ¬ (0xE0 ≤ a ∧ a ≤ 0xEF)) : validUtf8 [a, b, c] = false := by
  simp [validUtf8, ha, htwo, hthree]

end Sequences

theorem validUtf8_append {s : ByteString} (hs : validUtf8 s = true) (t : ByteString) :
    validUtf8 (s ++ t) = validUtf8 t := by
  induction s using validUtf8.induct with
  | case1 => rfl
  | case2 a s ha ih =>
      rw [validUtf8_ascii_cons ha] at hs
      rw [List.cons_append, validUtf8_ascii_cons ha, ih hs]
  | case3 a ha => simp [validUtf8_lead_alone ha] at hs
  | case4 a ha b s htwo ih =>
      rw [validUtf8_two ha htwo, Bool.and_eq_true] at hs
      rw [List.cons_append, List.cons_append, validUtf8_two ha htwo, ih hs.2, hs.1,
        Bool.true_and]
  | case5 a ha b htwo => simp [validUtf8_two_of_three ha htwo] at hs
  | case6 a ha b htwo c s hthree ih =>
      rw [validUtf8_three ha htwo hthree, Bool.and_eq_true] at hs
      rw [List.cons_append, List.cons_append, List.cons_append,
        validUtf8_three ha htwo hthree, ih hs.2, hs.1, Bool.true_and]
  | case7 a ha b htwo c hthree => simp [validUtf8_three_of_four ha htwo hthree] at hs
  | case8 a ha b htwo c hthree d s ih =>
      rw [validUtf8_four ha htwo hthree, Bool.and_eq_true] at hs
      rw [List.cons_append, List.cons_append, List.cons_append, List.cons_append,
        validUtf8_four ha htwo hthree, ih hs.2, hs.1, Bool.true_and]

/-- A prefix of a UTF-8 text is UTF-8 exactly if no character is cut. -/
theorem validUtf8_take {s : ByteString} (hs : validUtf8 s = true) (n : Nat) :
    validUtf8 (s.take n) = cutsClean n s := by
  induction s using validUtf8.induct generalizing n with
  | case1 => simp [validUtf8]
  | case2 a s ha ih =>
      rw [validUtf8_ascii_cons ha] at hs
      cases n with
      | zero => simp [validUtf8, isContinuation_ascii ha]
      | succ n => rw [List.take_succ_cons, validUtf8_ascii_cons ha, cutsClean_succ, ih hs]
  | case3 a ha => simp [validUtf8_lead_alone ha] at hs
  | case4 a ha b s htwo ih =>
      rw [validUtf8_two ha htwo, Bool.and_eq_true] at hs
      rcases n with _ | _ | n
      · simp [validUtf8, isContinuation_lead htwo.1]
      · simp [validUtf8_lead_alone ha, hs.1]
      · rw [List.take_succ_cons, List.take_succ_cons, validUtf8_two ha htwo, cutsClean_succ,
          cutsClean_succ, ih hs.2, hs.1, Bool.true_and]
  | case5 a ha b htwo => simp [validUtf8_two_of_three ha htwo] at hs
  | case6 a ha b htwo c s hthree ih =>
      rw [validUtf8_three ha htwo hthree, Bool.and_eq_true] at hs
      have hsecond : isContinuation b = true := by
        have hbounds := hs.1
        simp only [Bool.and_eq_true, decide_eq_true_eq] at hbounds
        refine isContinuation_between ?_ ?_ hbounds.1.1 hbounds.1.2
        · split <;> decide
        · split <;> decide
      have hthird : isContinuation c = true := (Bool.and_eq_true_iff.mp hs.1).2
      have hlead : isContinuation a = false :=
        isContinuation_lead (UInt8.le_trans (by decide) hthree.1)
      rcases n with _ | _ | _ | n
      · simp [validUtf8, hlead]
      · simp [validUtf8_lead_alone ha, hsecond]
      · simp [validUtf8_two_of_three ha htwo, hthird]
      · rw [List.take_succ_cons, List.take_succ_cons, List.take_succ_cons,
          validUtf8_three ha htwo hthree, cutsClean_succ, cutsClean_succ, cutsClean_succ,
          ih hs.2, hs.1, Bool.true_and]
  | case7 a ha b htwo c hthree => simp [validUtf8_three_of_four ha htwo hthree] at hs
  | case8 a ha b htwo c hthree d s ih =>
      rw [validUtf8_four ha htwo hthree, Bool.and_eq_true] at hs
      have hbounds := hs.1
      simp only [Bool.and_eq_true, decide_eq_true_eq] at hbounds
      obtain ⟨⟨⟨⟨⟨hleast, -⟩, hlow⟩, hhigh⟩, hthird⟩, hfourth⟩ := hbounds
      have hsecond : isContinuation b = true := by
        refine isContinuation_between ?_ ?_ hlow hhigh
        · split <;> decide
        · split <;> decide
      have hlead : isContinuation a = false :=
        isContinuation_lead (UInt8.le_trans (by decide) hleast)
      rcases n with _ | _ | _ | _ | n
      · simp [validUtf8, hlead]
      · simp [validUtf8_lead_alone ha, hsecond]
      · simp [validUtf8_two_of_three ha htwo, hthird]
      · simp [validUtf8_three_of_four ha htwo hthree, hfourth]
      · rw [List.take_succ_cons, List.take_succ_cons, List.take_succ_cons, List.take_succ_cons,
          validUtf8_four ha htwo hthree, cutsClean_succ, cutsClean_succ, cutsClean_succ,
          cutsClean_succ, ih hs.2, hs.1, Bool.true_and]

theorem validUtf8_append_eq_true {s t : ByteString} (hs : validUtf8 s = true)
    (ht : validUtf8 t = true) : validUtf8 (s ++ t) = true :=
  (validUtf8_append hs t).trans ht

section Numerals

theorem natText_ascii (n : Nat) : ∀ b ∈ natText 10 n, b ≤ 0x7F := by
  intro b hb
  obtain ⟨d, hd, rfl⟩ := mem_natText (by omega) hb
  rw [UInt8.le_iff_toNat_le, digitByte_toNat (by omega), if_pos hd]
  simp
  omega

theorem decimal_ascii (n : Int) : ∀ b ∈ decimal n, b ≤ 0x7F := by
  intro b hb
  rw [decimal] at hb
  split at hb
  · rcases List.mem_cons.mp hb with rfl | hb
    · decide
    · exact natText_ascii _ b hb
  · exact natText_ascii _ b hb

theorem padded_ascii (digits n : Nat) : ∀ b ∈ Double.padded digits n, b ≤ 0x7F := by
  intro b hb
  rcases List.mem_append.mp hb with hb | hb
  · obtain ⟨-, rfl⟩ := List.mem_replicate.mp hb
    decide
  · exact natText_ascii n b hb

theorem fixedText_ascii (digits : Nat) (q : ℚ) :
    ∀ b ∈ Double.fixedText digits q, b ≤ 0x7F := by
  intro b hb
  simp only [Double.fixedText] at hb
  split at hb
  · exact natText_ascii _ b hb
  · simp only [List.mem_append] at hb
    rcases hb with (hb | hb) | hb
    · exact natText_ascii _ b hb
    · obtain rfl : b = 46 := List.mem_singleton.mp hb
      decide
    · exact padded_ascii _ _ b hb

theorem mem_of_mem_stripZeros {b : UInt8} {s : ByteString} (hb : b ∈ Double.stripZeros s) :
    b ∈ s := by
  rw [Double.stripZeros] at hb
  split at hb
  · have hrest := (List.dropWhile_sublist _).subset (List.mem_reverse.mp hb)
    exact List.mem_reverse.mp ((List.dropWhile_sublist _).subset hrest)
  · exact hb

theorem generalText_ascii (q : ℚ) : ∀ b ∈ Double.generalText q, b ≤ 0x7F := by
  intro b hb
  unfold Double.generalText at hb
  extract_lets guess digits exponent sign at hb
  split at hb
  · exact fixedText_ascii _ _ b (mem_of_mem_stripZeros hb)
  · simp only [List.mem_append] at hb
    rcases hb with ((hb | hb) | hb) | hb
    · exact fixedText_ascii _ _ b (mem_of_mem_stripZeros hb)
    · obtain rfl : b = 101 := List.mem_singleton.mp hb
      decide
    · simp only [sign] at hb
      split at hb
      · obtain rfl : b = 45 := List.mem_singleton.mp hb
        decide
      · obtain rfl : b = 43 := List.mem_singleton.mp hb
        decide
    · exact padded_ascii _ _ b hb

theorem print_ascii {format : ℚ → ByteString} (hformat : ∀ q, ∀ b ∈ format q, b ≤ 0x7F)
    (d : Double) : ∀ b ∈ Double.print format d, b ≤ 0x7F := by
  have hminus : ∀ q, ∀ b ∈ ("-" : ByteString) ++ format q, b ≤ 0x7F := by
    intro q b hb
    rcases List.mem_append.mp hb with hb | hb
    · obtain rfl : b = 45 := List.mem_singleton.mp hb
      decide
    · exact hformat q b hb
  cases d with
  | nan => exact forall_mem_of_all (by simp only [Double.print]; decide +kernel)
  | negInf => exact forall_mem_of_all (by simp only [Double.print]; decide +kernel)
  | posInf => exact forall_mem_of_all (by simp only [Double.print]; decide +kernel)
  | negZero => exact hminus 0
  | finite q =>
      simp only [Double.print]
      split
      · exact hminus (-q)
      · exact hformat q

theorem toStream_ascii (d : Double) : ∀ b ∈ d.toStream, b ≤ 0x7F := by
  apply print_ascii
  intro q b hb
  split at hb
  · obtain rfl : b = 48 := List.mem_singleton.mp hb
    decide
  · exact generalText_ascii q b hb

end Numerals

end Astartis.ByteString

namespace Astartis.Json

open ByteString

/-- `parse()` refuses text that is not UTF-8. -/
def Library.ParsesUtf8 (library : Library) : Prop :=
  ∀ text j, library.parse text = some j → j.isUtf8 = true

theorem isUtf8_of_lookup {members : List (ByteString × Json)}
    (hmembers : membersUtf8 members = true) {key : ByteString} {j : Json}
    (hlookup : members.lookup key = some j) : j.isUtf8 = true := by
  induction members with
  | nil => simp at hlookup
  | cons member members ih =>
      obtain ⟨name, value⟩ := member
      simp only [membersUtf8, Bool.and_eq_true] at hmembers
      rw [List.lookup_cons] at hlookup
      split at hlookup
      · obtain rfl := Option.some.inj hlookup
        exact hmembers.1.2
      · exact ih hmembers.2 hlookup

theorem validUtf8_of_getString? {j : Json} (hj : j.isUtf8 = true) {s : ByteString}
    (hs : j.getString? = some s) : validUtf8 s = true := by
  cases j with
  | string t =>
      obtain rfl : t = s := Option.some.inj hs
      exact hj
  | _ => simp [getString?] at hs

theorem validUtf8_of_value? {j : Json} (hj : j.isUtf8 = true) {key default s : ByteString}
    (hdefault : validUtf8 default = true) (hs : j.value? getString? key default = some s) :
    validUtf8 s = true := by
  cases j with
  | object members =>
      simp only [value?] at hs
      split at hs
      · obtain rfl := Option.some.inj hs
        exact hdefault
      · rename_i member hlookup
        exact validUtf8_of_getString? (isUtf8_of_lookup hj hlookup) hs
  | _ => simp [value?] at hs

end Astartis.Json
