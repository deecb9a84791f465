import Mathlib.Data.Nat.Digits.Lemmas
import Mathlib.Data.List.Infix

/-!
Byte strings as C++ programs handle them: literals are the UTF-8 bytes of the
source text, and numbers are printed as the standard streams print them.
-/

namespace Astartis

abbrev ByteString := List UInt8

namespace ByteString

/-- The bytes of a string literal. -/
def ofString (s : String) : ByteString :=
  s.toUTF8.data.toList

instance : Coe String ByteString := ⟨ofString⟩

def ofLiterals (literals : List String) : ByteString :=
  literals.flatMap ofString

def digitByte (d : Nat) : UInt8 :=
  if d < 10 then UInt8.ofNat (48 + d) else UInt8.ofNat (87 + d)

theorem digitByte_toNat {d : Nat} (hd : d < 16) :
    (digitByte d).toNat = if d < 10 then 48 + d else 87 + d := by
  simp only [digitByte]
  split <;> rw [UInt8.toNat_ofNat'] <;> omega

theorem digitByte_inj {d e : Nat} (hd : d < 16) (he : e < 16)
    (h : digitByte d = digitByte e) : d = e := by
  have hnat := congrArg UInt8.toNat h
  rw [digitByte_toNat hd, digitByte_toNat he] at hnat
  split at hnat <;> split at hnat <;> omega

/-- A property of a literal, decided along its bytes and not over all values of a byte. -/
theorem forall_mem_of_all {s : ByteString} {p : UInt8 → Prop} [DecidablePred p]
    (hall : (s.all fun b => decide (p b)) = true) : ∀ b ∈ s, p b := by
  simpa only [List.all_eq_true, decide_eq_true_iff] using hall

/-- A natural number in the given base, without padding. -/
def natText (base n : Nat) : ByteString :=
  if n = 0 then [digitByte 0] else ((Nat.digits base n).map digitByte).reverse

theorem mem_natText {base n : Nat} (hbase : 1 < base) {b : UInt8}
    (hb : b ∈ natText base n) : ∃ d < base, b = digitByte d := by
  unfold natText at hb
  split at hb
  · exact ⟨0, by omega, List.mem_singleton.mp hb⟩
  · obtain ⟨d, hd, rfl⟩ := List.mem_map.mp (List.mem_reverse.mp hb)
    exact ⟨d, Nat.digits_lt_base hbase hd, rfl⟩

private theorem map_digitByte_inj {ds es : List Nat} (hds : ∀ d ∈ ds, d < 16)
    (hes : ∀ e ∈ es, e < 16) (h : ds.map digitByte = es.map digitByte) : ds = es := by
  induction ds generalizing es with
  | nil => simpa using h.symm
  | cons d ds ih =>
      rcases es with _ | ⟨e, es⟩
      · simp at h
      · simp only [List.map_cons, List.cons.injEq] at h
        have hhead : d = e := digitByte_inj (hds d (by simp)) (hes e (by simp)) h.1
        have htail : ds = es :=
          ih (fun x hx => hds x (by simp [hx])) (fun x hx => hes x (by simp [hx])) h.2
        rw [hhead, htail]

theorem natText_injective {base : Nat} (hbase : 1 < base) (hbound : base ≤ 16) :
    Function.Injective (natText base) := by
  have hdigit : ∀ n, ∀ d ∈ Nat.digits base n, d < 16 := fun n d hd =>
    lt_of_lt_of_le (Nat.digits_lt_base hbase hd) hbound
  have hzero : ∀ n, n ≠ 0 → natText base n ≠ [digitByte 0] := by
    intro n hn h
    rw [natText, if_neg hn, List.reverse_eq_iff] at h
    have hdigits : Nat.digits base n = [0] :=
      map_digitByte_inj (hdigit n) (by simp) (by simpa using h)
    have := Nat.getLast_digit_ne_zero base hn
    simp [hdigits] at this
  intro n m h
  rcases Nat.eq_zero_or_pos n with rfl | hn
  · by_contra hm
    exact hzero m (Ne.symm hm) (by rw [← h]; rfl)
  · rcases Nat.eq_zero_or_pos m with rfl | hm
    · exact absurd (by rw [h]; rfl) (hzero n hn.ne')
    · rw [natText, natText, if_neg hn.ne', if_neg hm.ne'] at h
      exact Nat.digits_inj_iff.mp
        (map_digitByte_inj (hdigit n) (hdigit m) (List.reverse_injective h))

/-- `std::to_string` and `<<` on an integer. -/
def decimal (n : Int) : ByteString :=
  if n < 0 then 45 :: natText 10 n.natAbs else natText 10 n.natAbs

theorem decimal_injective : Function.Injective decimal := by
  have hinj : Function.Injective (natText 10) := natText_injective (by omega) (by omega)
  have hminus : ∀ n k, natText 10 n ≠ 45 :: natText 10 k := by
    intro n k h
    have hmem : 45 ∈ natText 10 n := by rw [h]; simp
    obtain ⟨d, hd, hbyte⟩ := mem_natText (by omega) hmem
    have hnat := congrArg UInt8.toNat hbyte
    rw [digitByte_toNat (by omega), if_pos hd] at hnat
    simp at hnat
    omega
  intro n m h
  unfold decimal at h
  split at h <;> split at h
  · have := hinj (List.cons.inj h).2
    omega
  · exact absurd h.symm (hminus _ _)
  · exact absurd h (hminus _ _)
  · have := hinj h
    omega

/-- Two lower-case hexadecimal digits, `std::setw(2)` with fill `0`. -/
def hexByte (b : UInt8) : ByteString :=
  [digitByte (b.toNat / 16), digitByte (b.toNat % 16)]

def hexEncode (bs : ByteString) : ByteString :=
  bs.flatMap hexByte

@[simp] theorem hexEncode_cons (b : UInt8) (bs : ByteString) :
    hexEncode (b :: bs) =
      digitByte (b.toNat / 16) :: digitByte (b.toNat % 16) :: hexEncode bs := rfl

@[simp] theorem hexEncode_length (bs : ByteString) :
    (hexEncode bs).length = 2 * bs.length := by
  induction bs with
  | nil => rfl
  | cons b bs ih => simp [ih]; omega

theorem hexEncode_injective : Function.Injective hexEncode := by
  intro bs cs h
  induction bs generalizing cs with
  | nil =>
      rcases cs with _ | ⟨c, cs⟩
      · rfl
      · simp [hexEncode, hexByte] at h
  | cons b bs ih =>
      rcases cs with _ | ⟨c, cs⟩
      · simp [hexEncode, hexByte] at h
      · simp only [hexEncode_cons, List.cons.injEq] at h
        obtain ⟨hhigh, hlow, htail⟩ := h
        have hb := b.toNat_lt
        have hc := c.toNat_lt
        have hdiv := digitByte_inj (by omega) (by omega) hhigh
        have hmod := digitByte_inj (by omega) (by omega) hlow
        have hbyte : b = c := UInt8.toNat_inj.mp (by omega)
        rw [hbyte, ih htail]

/-- `s.substr(pos, count)` for a position inside the string. -/
def substr (s : ByteString) (pos count : Nat) : ByteString :=
  (s.drop pos).take count

def find (b : UInt8) (s : ByteString) : Option Nat :=
  s.findIdx? (· == b)

def rfind (b : UInt8) (s : ByteString) : Option Nat :=
  (s.reverse.findIdx? (· == b)).map (s.length - 1 - ·)

def findText (pattern : ByteString) (s : ByteString) : Option Nat :=
  (List.range (s.length + 1)).find? fun i => pattern.isPrefixOf (s.drop i)

/-- `s.rfind(pattern, pos)`. -/
def rfindText (pattern : ByteString) (pos : Nat) (s : ByteString) : Option Nat :=
  (List.range (pos + 1)).reverse.find? fun i => pattern.isPrefixOf (s.drop i)

/-- What stands behind the first occurrence of a pattern, `s.find(pattern)` and
`s.substr`. -/
def behind? (pattern : ByteString) : ByteString → Option ByteString
  | [] => if pattern = [] then some [] else none
  | b :: rest =>
      if pattern.isPrefixOf (b :: rest) then some ((b :: rest).drop pattern.length)
      else behind? pattern rest

end ByteString

end Astartis
