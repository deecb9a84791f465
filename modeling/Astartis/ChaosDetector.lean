import Astartis.AuditChain
import Astartis.Double

namespace Astartis.Chaos

open Audit

structure ChaosWindow where
  windowIndex : UInt64
  sampleCount : Nat
  K : Double
  lambda1 : Double
  anomalous : Bool
  synthetic : Bool
deriving DecidableEq

structure Analysis where
  computeK : List Double → Double
  computeLyapunov : List Double → Double

structure Callbacks (σ : Type) where
  windowCb : ChaosWindow → σ → σ
  auditAdder : AuditAdder σ

structure ChaosDetector where
  windowSize : Nat
  windowIndex : UInt64 := 0
  samples : List Double := []
  anySynthetic : Bool := false

/-- `0.7` as a double. -/
def chaosThreshold : Double :=
  .finite (6305039478318694 / 9007199254740992)

def boolText (b : Bool) : ByteString :=
  if b then "true" else "false"

def ChaosWindow.text (w : ChaosWindow) : ByteString :=
  ("window=" : ByteString) ++ ByteString.decimal w.windowIndex.toNat ++
    (" samples=" : ByteString) ++ ByteString.decimal w.sampleCount ++
    (" K=" : ByteString) ++ w.K.toFixed 4 ++ (" lambda1=" : ByteString) ++
    (if w.lambda1 = .nan then ("nan" : ByteString) else w.lambda1.toFixed 4) ++
    (" anomalous=" : ByteString) ++ boolText w.anomalous ++
    (" synthetic=" : ByteString) ++ boolText w.synthetic

namespace ChaosDetector

variable {σ : Type} (analysis : Analysis)

def window (self : ChaosDetector) : ChaosWindow :=
  let K := analysis.computeK self.samples
  { windowIndex := self.windowIndex
    sampleCount := self.samples.length
    K := K
    lambda1 := analysis.computeLyapunov self.samples
    anomalous := Double.lt chaosThreshold K
    synthetic := self.anySynthetic }

def flushWindow (callbacks : Callbacks σ) (force : Bool) (self : ChaosDetector) (world : σ) :
    ChaosDetector × σ :=
  if self.samples.length < 10 ∧ force = false then (self, world)
  else if self.samples = [] then (self, world)
  else
    let w := self.window analysis
    let world := (callbacks.auditAdder "chaos_window" w.text world).2
    let world := callbacks.windowCb w world
    ({ self with windowIndex := self.windowIndex + 1, samples := [], anySynthetic := false },
      world)

def push (callbacks : Callbacks σ) (value : Double) (synthetic : Bool)
    (self : ChaosDetector) (world : σ) : ChaosDetector × σ :=
  let self := { self with
    samples := self.samples ++ [value]
    anySynthetic := self.anySynthetic || synthetic }
  if self.samples.length ≥ self.windowSize then
    self.flushWindow analysis callbacks false world
  else (self, world)

def completedWindow? (value : Double) (synthetic : Bool) (self : ChaosDetector) :
    Option ChaosWindow :=
  if self.windowSize ≤ self.samples.length + 1 ∧ 10 ≤ self.samples.length + 1 then
    some (window analysis { self with
      samples := self.samples ++ [value]
      anySynthetic := self.anySynthetic || synthetic })
  else none

/-- A `push` runs the callbacks for the window it completes, and nothing else. -/
theorem push_world (callbacks : Callbacks σ) (value : Double) (synthetic : Bool)
    (self : ChaosDetector) (world : σ) :
    (self.push analysis callbacks value synthetic world).2 =
      match self.completedWindow? analysis value synthetic with
      | none => world
      | some w =>
          callbacks.windowCb w (callbacks.auditAdder "chaos_window" w.text world).2 := by
  unfold push completedWindow?
  by_cases hfull : self.windowSize ≤ self.samples.length + 1
  · by_cases hmany : 10 ≤ self.samples.length + 1
    · have hfew : ¬ self.samples.length + 1 < 10 := by omega
      simp [hfull, hmany, hfew, flushWindow]
    · have hfew : self.samples.length + 1 < 10 := by omega
      simp [hfull, hmany, hfew, flushWindow]
  · simp [hfull]

end ChaosDetector

end Astartis.Chaos
