import Mathlib.Data.Int.Log
import Mathlib.Data.Rat.Floor
import Mathlib.Tactic.FieldSimp
import Mathlib.Tactic.Linarith
import Astartis.ByteString

/-!
IEEE doubles as values.  A finite double is an exact rational, so comparisons
and printing are exact; the rounding of arithmetic is left to the places that
compute with doubles.
-/

namespace Astartis

inductive Double
  | nan
  | negInf
  | posInf
  | negZero
  | finite (q : ℚ)
deriving DecidableEq

namespace Double

def toRat : Double → ℚ
  | .finite q => q
  | _ => 0

/-- `a < b`, false as soon as an operand is not a number. -/
def lt : Double → Double → Bool
  | .nan, _ => false
  | _, .nan => false
  | _, .negInf => false
  | .negInf, _ => true
  | .posInf, _ => false
  | _, .posInf => true
  | a, b => a.toRat < b.toRat

def le (a b : Double) : Bool :=
  a ≠ .nan && b ≠ .nan && !lt b a

def min (a b : Double) : Double :=
  if lt b a then b else a

def max (a b : Double) : Double :=
  if lt a b then b else a

@[simp] theorem lt_finite (a b : ℚ) : lt (.finite a) (.finite b) = decide (a < b) := rfl

@[simp] theorem le_finite (a b : ℚ) : le (.finite a) (.finite b) = decide (a ≤ b) := by
  by_cases h : a ≤ b
  · simp [le, h, not_lt.mpr h]
  · simp [le, h, not_le.mp h]

/-- Nearest integer, ties to even. -/
def roundHalfEven (q : ℚ) : Int :=
  let below := ⌊q⌋
  if q - below < 1 / 2 then below
  else if 1 / 2 < q - below then below + 1
  else if below % 2 = 0 then below else below + 1

/-- Nearest integer, ties away from zero: `std::round`. -/
def roundHalfAway (q : ℚ) : Int :=
  if q < 0 then ⌈q - 1 / 2⌉ else ⌊q + 1 / 2⌋

def ulp (q : ℚ) : ℚ :=
  2 ^ Max.max (Int.log 2 |q| - 52) (-1074)

def ofRat (q : ℚ) : Double :=
  let rounded := roundHalfEven (q / ulp q) * ulp q
  if rounded = 0 then if q < 0 then .negZero else .finite 0
  else if 2 ^ 1024 ≤ |rounded| then if q < 0 then .negInf else .posInf
  else .finite rounded

/-- An operation on a finite double, rounded once. -/
def map (f : ℚ → ℚ) : Double → Double
  | .finite q => ofRat (f q)
  | d => d

/-- `static_cast<int>`: truncation, with the value x64 gives where it is undefined. -/
def toInt32 (d : Double) : Int32 :=
  let truncated := if d.toRat < 0 then ⌈d.toRat⌉ else ⌊d.toRat⌋
  match d with
  | .negZero => 0
  | .finite _ =>
      if -2 ^ 31 ≤ truncated ∧ truncated < 2 ^ 31 then Int32.ofInt truncated
      else Int32.minValue
  | _ => Int32.minValue

theorem abs_roundHalfEven_sub_le (q : ℚ) : |(roundHalfEven q : ℚ) - q| ≤ 1 / 2 := by
  have hle := Int.floor_le q
  have hlt := Int.lt_floor_add_one q
  simp only [roundHalfEven]
  split
  · rw [abs_le]
    constructor <;> linarith
  · split
    · rw [abs_le]
      push_cast
      constructor <;> linarith
    · split
      · rw [abs_le]
        constructor <;> linarith
      · rw [abs_le]
        push_cast
        constructor <;> linarith

theorem ulp_pos (q : ℚ) : 0 < ulp q :=
  zpow_pos (by norm_num) _

/-- Rounding to a multiple of the unit in the last place. -/
theorem abs_rounded_sub_le (q : ℚ) :
    |(roundHalfEven (q / ulp q) : ℚ) * ulp q - q| ≤ ulp q / 2 := by
  have hulp := ulp_pos q
  calc
    |(roundHalfEven (q / ulp q) : ℚ) * ulp q - q| =
        |((roundHalfEven (q / ulp q) : ℚ) - q / ulp q) * ulp q| := by
      congr 1
      field_simp
    _ = |(roundHalfEven (q / ulp q) : ℚ) - q / ulp q| * ulp q := by
      rw [abs_mul, abs_of_pos hulp]
    _ ≤ 1 / 2 * ulp q :=
      mul_le_mul_of_nonneg_right (abs_roundHalfEven_sub_le (q / ulp q)) hulp.le
    _ = ulp q / 2 := by ring

theorem ulp_le {q : ℚ} (hpos : 0 < q) (hbound : q < 128) : ulp q ≤ 2 ^ (-46 : Int) := by
  have hlog : Int.log 2 |q| < 7 := by
    rw [abs_of_pos hpos, ← Int.lt_zpow_iff_log_lt (by omega) hpos]
    norm_num
    exact hbound
  simp only [ulp]
  apply zpow_le_zpow_right₀ (by norm_num)
  omega

theorem ulp_le_half {q : ℚ} (hlow : 1 ≤ |q|) : ulp q ≤ |q| / 2 := by
  have hpos : 0 < |q| := by linarith
  have hlog : 0 ≤ Int.log 2 |q| := by
    rw [← Int.zpow_le_iff_le_log (by omega) hpos]
    simpa using hlow
  have hmax : Max.max (Int.log 2 |q| - 52) (-1074) ≤ Int.log 2 |q| - 1 := by omega
  have hself : (2 : ℚ) ^ Int.log 2 |q| ≤ |q| :=
    Int.zpow_log_le_self (R := ℚ) (b := 2) (by omega) hpos
  calc
    ulp q ≤ 2 ^ (Int.log 2 |q| - 1) := zpow_le_zpow_right₀ (by norm_num) hmax
    _ = 2 ^ Int.log 2 |q| / 2 := zpow_sub_one₀ (by norm_num) _
    _ ≤ |q| / 2 := by linarith

theorem ofRat_near {q : ℚ} (hlow : 1 / 2 ≤ q) (hbound : q < 128) :
    ∃ r, ofRat q = .finite r ∧ |r - q| ≤ 1 / 1000 := by
  have hsmall : ulp q ≤ 1 / 1000 := (ulp_le (by linarith) hbound).trans (by norm_num)
  have hnear : |(roundHalfEven (q / ulp q) : ℚ) * ulp q - q| ≤ 1 / 1000 := by
    have hround := abs_rounded_sub_le q
    linarith
  refine ⟨_, ?_, hnear⟩
  obtain ⟨hbelow, habove⟩ := abs_le.mp hnear
  have hne : (roundHalfEven (q / ulp q) : ℚ) * ulp q ≠ 0 := by linarith
  have hfinite : ¬ (2 : ℚ) ^ 1024 ≤ |(roundHalfEven (q / ulp q) : ℚ) * ulp q| := by
    rw [abs_of_pos (by linarith), not_le]
    calc
      (roundHalfEven (q / ulp q) : ℚ) * ulp q < 2 ^ 8 := by linarith
      _ ≤ 2 ^ 1024 := pow_le_pow_right₀ (by norm_num) (by norm_num)
  simp only [ofRat, if_neg hne, if_neg hfinite]

theorem one_lt_ofRat {q : ℚ} (hlow : 2 ≤ q) : lt (.finite 1) (ofRat q) = true := by
  have habs : |q| = q := abs_of_pos (by linarith)
  have hulp := ulp_le_half (q := q) (by linarith)
  obtain ⟨hbelow, -⟩ := abs_le.mp (abs_rounded_sub_le q)
  have hone : 1 < (roundHalfEven (q / ulp q) : ℚ) * ulp q := by linarith
  have hne : (roundHalfEven (q / ulp q) : ℚ) * ulp q ≠ 0 := by linarith
  have hpos : ¬ q < 0 := by linarith
  simp only [ofRat, if_neg hne, if_neg hpos]
  split
  · rfl
  · exact decide_eq_true hone

theorem ofRat_lt_zero {q : ℚ} (hhigh : q ≤ -1) : lt (ofRat q) (.finite 0) = true := by
  have habs : |q| = -q := abs_of_neg (by linarith)
  have hulp := ulp_le_half (q := q) (by linarith)
  obtain ⟨-, habove⟩ := abs_le.mp (abs_rounded_sub_le q)
  have hneg : (roundHalfEven (q / ulp q) : ℚ) * ulp q < 0 := by linarith
  have hlow : q < 0 := by linarith
  simp only [ofRat, if_neg hneg.ne, if_pos hlow]
  split
  · rfl
  · exact decide_eq_true hneg

/-- `digits` decimal digits of `n`, filled with zeros on the left. -/
def padded (digits n : Nat) : ByteString :=
  let text := ByteString.natText 10 n
  List.replicate (digits - text.length) 48 ++ text

/-- `printf("%.*f")` of a nonnegative rational. -/
def fixedText (digits : Nat) (q : ℚ) : ByteString :=
  let scaled := (roundHalfEven (q * 10 ^ digits)).toNat
  let whole := ByteString.natText 10 (scaled / 10 ^ digits)
  if digits = 0 then whole
  else whole ++ ("." : ByteString) ++ padded digits (scaled % 10 ^ digits)

/-- Drop the zeros at the end of a fraction, and the point with them. -/
def stripZeros (text : ByteString) : ByteString :=
  if 46 ∈ text then
    ((text.reverse.dropWhile (· == 48)).dropWhile (· == 46)).reverse
  else text

/-- `printf("%g")` of a positive rational: six significant digits, in
scientific notation when the exponent is below -4 or above 5. -/
def generalText (q : ℚ) : ByteString :=
  let guess := Int.log 10 q
  let digits := roundHalfEven (q / (10 : ℚ) ^ (guess - 5))
  let exponent := if digits = 10 ^ 6 then guess + 1 else guess
  if -4 ≤ exponent ∧ exponent < 6 then
    stripZeros (fixedText (5 - exponent).toNat q)
  else
    let sign : ByteString := if exponent < 0 then "-" else "+"
    stripZeros (fixedText 5 (q / (10 : ℚ) ^ exponent)) ++ ("e" : ByteString) ++ sign ++
      padded 2 exponent.natAbs

def print (format : ℚ → ByteString) : Double → ByteString
  | .nan => "nan"
  | .negInf => "-inf"
  | .posInf => "inf"
  | .negZero => ("-" : ByteString) ++ format 0
  | .finite q => if q < 0 then ("-" : ByteString) ++ format (-q) else format q

/-- `std::fixed << std::setprecision(digits)`. -/
def toFixed (digits : Nat) : Double → ByteString :=
  print (fixedText digits)

/-- `std::to_string`. -/
def toText : Double → ByteString :=
  toFixed 6

/-- `<<` on a stream in its default format. -/
def toStream : Double → ByteString :=
  print fun q => if q = 0 then "0" else generalText q

example : toText (.finite (15 / 2)) = ByteString.ofString "7.500000" := by decide +kernel

end Double

end Astartis
