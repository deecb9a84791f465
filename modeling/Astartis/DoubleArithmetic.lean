import Astartis.Double

/-!
The arithmetic of doubles: the exact result of an operation, rounded once, and what the
operations make of infinities and zeros.
-/

namespace Astartis.Double

def isZero : Double → Bool
  | .negZero => true
  | .finite q => q = 0
  | _ => false

def isInfinite : Double → Bool
  | .negInf => true
  | .posInf => true
  | _ => false

/-- The sign bit. -/
def isNegative : Double → Bool
  | .negInf => true
  | .negZero => true
  | .finite q => q < 0
  | _ => false

def infinity (negative : Bool) : Double :=
  if negative then .negInf else .posInf

def zero (negative : Bool) : Double :=
  if negative then .negZero else .finite 0

/-- The conversion of an integer. -/
def ofInt (n : Int) : Double :=
  .ofRat n

def neg : Double → Double
  | .nan => .nan
  | .negInf => .posInf
  | .posInf => .negInf
  | .negZero => .finite 0
  | .finite q => if q = 0 then .negZero else .finite (-q)

def add : Double → Double → Double
  | .nan, _ => .nan
  | _, .nan => .nan
  | .posInf, .negInf => .nan
  | .negInf, .posInf => .nan
  | .posInf, _ => .posInf
  | _, .posInf => .posInf
  | .negInf, _ => .negInf
  | _, .negInf => .negInf
  | .negZero, .negZero => .negZero
  | a, b => .ofRat (a.toRat + b.toRat)

def sub (a b : Double) : Double :=
  add a (neg b)

def mul (a b : Double) : Double :=
  let negative := a.isNegative != b.isNegative
  if a = .nan ∨ b = .nan then .nan
  else if a.isInfinite || b.isInfinite then
    if a.isZero || b.isZero then .nan else infinity negative
  else if a.isZero || b.isZero then zero negative
  else .ofRat (a.toRat * b.toRat)

def div (a b : Double) : Double :=
  let negative := a.isNegative != b.isNegative
  if a = .nan ∨ b = .nan then .nan
  else if a.isInfinite then if b.isInfinite then .nan else infinity negative
  else if b.isInfinite then zero negative
  else if b.isZero then if a.isZero then .nan else infinity negative
  else if a.isZero then zero negative
  else .ofRat (a.toRat / b.toRat)

/-- What is not below a positive bound is no zero. -/
theorem isZero_of_not_lt {x : Double} {bound : ℚ} (hbound : 0 < bound)
    (hlt : lt x (.finite bound) = false) : x.isZero = false := by
  cases x with
  | negZero => exact absurd hlt (by simp [lt, toRat, hbound])
  | finite q =>
      rw [lt_finite, decide_eq_false_iff_not, not_lt] at hlt
      have hq : q ≠ 0 := (hbound.trans_le hlt).ne'
      simp [isZero, hq]
  | _ => rfl

theorem isZero_ofInt {n : Int} (hn : 1 ≤ n) : (ofInt n).isZero = false := by
  have hcast : (1 : ℚ) ≤ n := by exact_mod_cast hn
  rcases lt_or_ge (n : ℚ) 2 with hsmall | hlarge
  · obtain ⟨r, hr, hnear⟩ := ofRat_near (q := (n : ℚ)) (by linarith) (by linarith)
    have hbelow := (abs_le.mp hnear).1
    have hne : r ≠ 0 := by linarith
    rw [ofInt, hr]
    simp [isZero, hne]
  · have hone := one_lt_ofRat hlarge
    rw [ofInt]
    cases hofRat : ofRat (n : ℚ) with
    | negZero =>
        rw [hofRat] at hone
        exact absurd hone (by decide)
    | finite q =>
        rw [hofRat, lt_finite, decide_eq_true_eq] at hone
        have hne : q ≠ 0 := by linarith
        simp [isZero, hne]
    | _ => rfl

example : add (ofInt 1) (div (ofInt 1) (ofInt 4)) = .finite (5 / 4) := by decide +kernel

end Astartis.Double
