import Astartis.ChaosDetector
import Astartis.CheckedLoops
import Astartis.DoubleArithmetic

/-!
The statistics of a window of samples, the 0-1 test for chaos and the largest Lyapunov exponent.
Each access of a vector, each division and each operation on `int` is checked.
-/

namespace Astartis.Chaos

open CheckedLoops
open Double (ofInt)

/-- What the statistics use of the mathematical library, and `std::nth_element`, of which they
use that it rearranges its range. -/
structure Numerics where
  cos : Double → Double
  sin : Double → Double
  log : Double → Double
  sqrt : Double → Double
  nthElement : List Double → Nat → List Double
  nthElement_perm : ∀ v nth, (nthElement v nth).Perm v

/-- `static_cast<int>(series.size())` -/
def intSize (series : List Double) : Int :=
  (Int32.ofNat series.length).toInt

def divide (x y : Double) : Except Fault Double :=
  if y.isZero then .error .zeroDivisor else .ok (x.div y)

/-- `1e-12` as a double. -/
def tiny : Double :=
  .finite (4951760157141521 / 4951760157141521099596496896)

/-- `M_PI` -/
def pi : Double :=
  .finite (884279719003555 / 281474976710656)

/-- `std::numeric_limits<double>::max()` -/
def maxDouble : Double :=
  .finite ((2 ^ 53 - 1) * 2 ^ 971)

def accumulate (v : List Double) : Double :=
  v.foldl Double.add (.finite 0)

section

variable (numerics : Numerics)

/-! The 0-1 test. -/

/-- The running sums of `compute_msd`. -/
structure Orbit where
  p : List Double
  q : List Double

def orbit (series : List Double) (c : Double) (N : Int) : Except Fault Orbit := do
  let size ← int (N + 1)
  let p ← vector size (.finite 0)
  let q ← vector size (.finite 0)
  forBelow 0 N (fun j orbit => do
    let next ← int (j + 1)
    let x ← read series j
    let angle := (ofInt next).mul c
    let p ← write orbit.p next ((← read orbit.p j).add (x.mul (numerics.cos angle)))
    let q ← write orbit.q next ((← read orbit.q j).add (x.mul (numerics.sin angle)))
    pure ⟨p, q⟩) ⟨p, q⟩

/-- The sum over the pairs that are `n` samples apart. -/
def displacement (orbit : Orbit) (n count : Int) : Except Fault Double := do
  let limit ← int (count + 1)
  forBelow 1 limit (fun j sum => do
    let k ← int (j + n)
    let dp := (← read orbit.p k).sub (← read orbit.p j)
    let dq := (← read orbit.q k).sub (← read orbit.q j)
    pure (sum.add ((dp.mul dp).add (dq.mul dq)))) (.finite 0)

def computeMsd (series : List Double) (c : Double) (nMax : Int) :
    Except Fault (List Double) := do
  let N := intSize series
  let orbit ← orbit numerics series c N
  let M ← vector nMax (.finite 0)
  let limit ← int (nMax + 1)
  forBelow 1 limit (fun n M => do
    let count ← int (N - n)
    let k ← int (n - 1)
    if count ≤ 0 then write M k (.finite 0)
    else do
      let sum ← displacement orbit n count
      write M k (← divide sum (ofInt count))) M

structure Sums where
  num : Double := .finite 0
  dx2 : Double := .finite 0
  dy2 : Double := .finite 0

def pearson (x y : List Double) : Except Fault Double :=
  if x.length < 2 ∨ x.length ≠ y.length then pure (.finite 0)
  else do
    let n := ofInt x.length
    let mx ← divide (accumulate x) n
    let my ← divide (accumulate y) n
    let sums ← forBelow 0 x.length (fun i sums => do
      let xi := (← read x i).sub mx
      let yi := (← read y i).sub my
      pure {
        num := sums.num.add (xi.mul yi)
        dx2 := sums.dx2.add (xi.mul xi)
        dy2 := sums.dy2.add (yi.mul yi) }) ({} : Sums)
    let denom := numerics.sqrt (sums.dx2.mul sums.dy2)
    if Double.lt denom tiny then pure (.finite 0) else divide sums.num denom

def median (v : List Double) : Except Fault Double :=
  if v = [] then pure (.finite 0)
  else do
    let mid := v.length / 2
    let v := numerics.nthElement v mid
    if v.length % 2 = 1 then read v mid
    else do
      let hi ← read v mid
      let v := numerics.nthElement v (mid - 1)
      divide ((← read v (mid - 1 : Nat)).add hi) (ofInt 2)

/-- `N_PHASES` -/
def nPhases : Int := 20

def defaultPhases : Except Fault (List Double) :=
  forBelow 0 nPhases (fun i phases => do
    let c ← divide (pi.mul ((ofInt i).add (ofInt 1))) ((ofInt nPhases).add (ofInt 1))
    pure (phases ++ [c])) []

/-- The phases that are given, or the default ones. -/
def testPhases (phasesIn : List Double) : Except Fault (List Double) :=
  if phasesIn = [] then defaultPhases else pure phasesIn

def computeK (series phasesIn : List Double) : Except Fault Double := do
  let N := intSize series
  if N < 10 then pure (.finite 0)
  else do
    let phases ← testPhases phasesIn
    let nMax := max 5 (N / 10)
    let nVec ← vector nMax (.finite 0)
    let nVec ← forBelow 0 nMax (fun i nVec => do write nVec i (ofInt (← int (i + 1)))) nVec
    let kVals ← phases.foldlM (fun kVals c => do
      let M ← computeMsd numerics series c nMax
      let Kc ← pearson numerics nVec M
      pure (kVals ++ [Kc])) []
    let K ← median numerics kVals
    let K := if Double.lt K (.finite 0) then .finite 0 else K
    pure (if Double.lt (.finite 1) K then .finite 1 else K)

/-! The Lyapunov exponent. -/

/-- The embedded vectors. -/
def embed (series : List Double) (M embedDim tau : Int) : Except Fault (List (List Double)) := do
  let row ← vector embedDim (.finite 0)
  let V ← vector M row
  forBelow 0 M (fun i V =>
    forBelow 0 embedDim (fun d V => do
      let k ← int (i + (← int (d * tau)))
      let x ← read series k
      write V i (← write (← read V i) d x)) V) V

/-- The distance between two embedded vectors. -/
def dist (V : List (List Double)) (embedDim a b : Int) : Except Fault Double := do
  let s ← forBelow 0 embedDim (fun d s => do
    let diff := (← read (← read V a) d).sub (← read (← read V b) d)
    pure (s.add (diff.mul diff))) (.finite 0)
  pure (numerics.sqrt s)

structure Nearest where
  best : Double
  nn : List Int

/-- The nearest neighbour of each vector among those that are not close in time, or -1. -/
def neighbours (V : List (List Double)) (M embedDim : Int) : Except Fault (List Int) := do
  let minSep := embedDim
  let nn ← vector M (-1)
  forBelow 0 M (fun i nn => do
    let nearest ← forBelow 0 M (fun j (nearest : Nearest) => do
      let gap ← int (i - j)
      if gap.natAbs ≤ minSep then pure nearest
      else do
        let d ← dist numerics V embedDim i j
        if Double.lt d nearest.best then pure ⟨d, ← write nearest.nn i j⟩
        else pure nearest) ⟨maxDouble, nn⟩
    pure nearest.nn) nn

/-- The sums of the logarithms for each number of steps, and how many there are of them. -/
structure Divergence where
  avgLog : List Double
  count : List Int

def divergence (V : List (List Double)) (nn : List Int) (M embedDim maxSteps : Int) :
    Except Fault Divergence := do
  let avgLog ← vector maxSteps (.finite 0)
  let count ← vector maxSteps 0
  let limit ← int (maxSteps + 1)
  forBelow 0 M (fun i div => do
    if (← read nn i) < 0 then pure div
    else
      forBreak 1 limit (fun s div => do
        let a ← int (i + s)
        let b ← int ((← read nn i) + s)
        if M ≤ a ∨ M ≤ b then pure (.done div)
        else do
          let d ← dist numerics V embedDim a b
          if Double.lt tiny d then do
            let k ← int (s - 1)
            let avgLog ← write div.avgLog k ((← read div.avgLog k).add (numerics.log d))
            let count ← write div.count k (← int ((← read div.count k) + 1))
            pure (.yield ⟨avgLog, count⟩)
          else pure (.yield div)) div) ⟨avgLog, count⟩

structure Points where
  x : List Double := []
  y : List Double := []

/-- The averages against the numbers of steps. -/
def points (div : Divergence) (maxSteps : Int) : Except Fault Points :=
  forBelow 0 maxSteps (fun s points => do
    let count ← read div.count s
    if 0 < count then do
      let x := ofInt (← int (s + 1))
      let y ← divide (← read div.avgLog s) (ofInt count)
      pure ⟨points.x ++ [x], points.y ++ [y]⟩
    else pure points) {}

structure Moments where
  cov : Double := .finite 0
  var : Double := .finite 0

/-- The slope of the linear regression. -/
def slope (points : Points) : Except Fault Double :=
  if points.x.length < 2 then pure .nan
  else do
    let n := ofInt points.x.length
    let mx ← divide (accumulate points.x) n
    let my ← divide (accumulate points.y) n
    let moments ← forBelow 0 points.x.length (fun i moments => do
      let dx := (← read points.x i).sub mx
      let dy := (← read points.y i).sub my
      pure {
        cov := moments.cov.add (dx.mul dy)
        var := moments.var.add (dx.mul dx) }) ({} : Moments)
    if Double.lt moments.var tiny then pure .nan else divide moments.cov moments.var

def computeLyapunov (series : List Double) (embedDim tau : Int) : Except Fault Double := do
  let N := intSize series
  let M ← int (N - (← int ((← int (embedDim - 1)) * tau)))
  if M < (← int (2 * embedDim)) then pure .nan
  else do
    let V ← embed series M embedDim tau
    let nn ← neighbours numerics V M embedDim
    let maxSteps := min 20 (M / 4)
    if maxSteps < 2 then pure .nan
    else do
      let div ← divergence numerics V nn M embedDim maxSteps
      slope (← points div maxSteps)

/-- The statistics as `flush_window` calls them. -/
def analysis : Analysis where
  computeK samples := (computeK numerics samples []).toOption.getD .nan
  computeLyapunov samples := (computeLyapunov numerics samples 3 1).toOption.getD .nan

end

end Astartis.Chaos
