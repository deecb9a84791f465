import Mathlib.Algebra.Order.Ring.Int
import Mathlib.Data.List.Basic

/-!
Runs that stop at a fault: accesses of vectors, arithmetic on 32-bit integers and counting loops,
with a rule for what each of them needs to go through.
-/

namespace Astartis.CheckedLoops

inductive Fault
  | outOfBounds
  | zeroDivisor
  | overflow
  /-- A vector of negative length. -/
  | badLength
deriving DecidableEq

variable {ε α β σ : Type}

/-- The run ends without a fault, and with such a value. -/
def Safe (run : Except ε α) (post : α → Prop) : Prop :=
  ∃ a, run = .ok a ∧ post a

theorem Safe.pure {a : α} {post : α → Prop} (ha : post a) : Safe (pure a : Except ε α) post :=
  ⟨a, rfl, ha⟩

theorem Safe.bind {run : Except ε α} {next : α → Except ε β} {mid : α → Prop} {post : β → Prop}
    (hrun : Safe run mid) (hnext : ∀ a, mid a → Safe (next a) post) : Safe (run >>= next) post := by
  obtain ⟨a, rfl, ha⟩ := hrun
  exact hnext a ha

theorem Safe.bind_eq {run : Except ε α} {next : α → Except ε β} {a : α} {post : β → Prop}
    (hrun : Safe run (· = a)) (hnext : Safe (next a) post) : Safe (run >>= next) post := by
  refine hrun.bind ?_
  rintro _ rfl
  exact hnext

theorem Safe.map {run : Except ε α} {f : α → β} {post : β → Prop}
    (hrun : Safe run fun a => post (f a)) : Safe (f <$> run) post := by
  obtain ⟨a, rfl, ha⟩ := hrun
  exact ⟨f a, rfl, ha⟩

theorem Safe.imp {run : Except ε α} {mid post : α → Prop} (hrun : Safe run mid)
    (himp : ∀ a, mid a → post a) : Safe run post := by
  obtain ⟨a, hok, ha⟩ := hrun
  exact ⟨a, hok, himp a ha⟩

/-! Integers and vectors. -/

/-- The result of an operation on `int`. -/
def int (x : Int) : Except Fault Int :=
  if -2 ^ 31 ≤ x ∧ x < 2 ^ 31 then .ok x else .error .overflow

/-- `v[i]` -/
def read (v : List α) (i : Int) : Except Fault α :=
  if 0 ≤ i then
    match v[i.toNat]? with
    | some x => .ok x
    | none => .error .outOfBounds
  else .error .outOfBounds

/-- `v[i] = x` -/
def write (v : List α) (i : Int) (x : α) : Except Fault (List α) :=
  if 0 ≤ i ∧ i.toNat < v.length then .ok (v.set i.toNat x) else .error .outOfBounds

/-- A vector of `n` elements. -/
def vector (n : Int) (x : α) : Except Fault (List α) :=
  if 0 ≤ n then .ok (List.replicate n.toNat x) else .error .badLength

theorem int_safe {x : Int} (hlow : -2 ^ 31 ≤ x) (hhigh : x < 2 ^ 31) : Safe (int x) (· = x) :=
  ⟨x, if_pos ⟨hlow, hhigh⟩, rfl⟩

theorem read_safe {v : List α} {i : Int} (hlow : 0 ≤ i) (hhigh : i < v.length) :
    Safe (read v i) fun x => v[i.toNat]? = some x := by
  have hi : i.toNat < v.length := by omega
  refine ⟨v[i.toNat], ?_, List.getElem?_eq_getElem hi⟩
  rw [read, if_pos hlow, List.getElem?_eq_getElem hi]

theorem write_safe {v : List α} {i : Int} (hlow : 0 ≤ i) (hhigh : i < v.length) (x : α) :
    Safe (write v i x) (· = v.set i.toNat x) :=
  ⟨_, if_pos ⟨hlow, by omega⟩, rfl⟩

theorem vector_safe {n : Int} (hn : 0 ≤ n) (x : α) :
    Safe (vector n x) (· = List.replicate n.toNat x) :=
  ⟨_, if_pos hn, rfl⟩

/-- A vector of `n` elements, each of which is such. -/
def Filled (v : List α) (n : Int) (each : α → Prop) : Prop :=
  v.length = n ∧ ∀ x ∈ v, each x

theorem Filled.vector_safe (each : α → Prop) {n : Int} {x : α} (hn : 0 ≤ n) (hx : each x) :
    Safe (vector n x) (Filled · n each) := by
  refine (CheckedLoops.vector_safe hn x).imp ?_
  rintro _ rfl
  refine ⟨by simp [hn], fun y hy => ?_⟩
  rw [List.eq_of_mem_replicate hy]
  exact hx

theorem Filled.read_safe {v : List α} {n i : Int} {each : α → Prop} (hv : Filled v n each)
    (hlow : 0 ≤ i) (hhigh : i < n) : Safe (read v i) fun x => v[i.toNat]? = some x ∧ each x := by
  refine (CheckedLoops.read_safe hlow (by rw [hv.1]; exact hhigh)).imp fun x hx => ?_
  exact ⟨hx, hv.2 x (List.mem_of_getElem? hx)⟩

theorem Filled.write_safe {v : List α} {n i : Int} {x : α} {each : α → Prop}
    (hv : Filled v n each) (hlow : 0 ≤ i) (hhigh : i < n) (hx : each x) :
    Safe (write v i x) (Filled · n each) := by
  refine (CheckedLoops.write_safe hlow (by rw [hv.1]; exact hhigh) x).imp ?_
  rintro _ rfl
  refine ⟨by rw [List.length_set, hv.1], fun y hy => ?_⟩
  rcases List.mem_or_eq_of_mem_set hy with hy | rfl
  · exact hv.2 y hy
  · exact hx

/-! Loops. -/

def iterate (body : Int → σ → Except ε (ForInStep σ)) : Nat → Int → σ → Except ε σ
  | 0, _, s => pure s
  | turns + 1, i, s => do
      match ← body i s with
      | .done s => pure s
      | .yield s => iterate body turns (i + 1) s

/-- `for (int i = first; i < limit; ++i)` with a body that may `break`. -/
def forBreak (first limit : Int) (body : Int → σ → Except ε (ForInStep σ)) (s : σ) :
    Except ε σ :=
  iterate body (limit - first).toNat first s

/-- `for (int i = first; i < limit; ++i)` -/
def forBelow (first limit : Int) (body : Int → σ → Except ε σ) (s : σ) : Except ε σ :=
  forBreak first limit (fun i s => .yield <$> body i s) s

/-- What a body promises that may leave its loop. -/
def LoopPost (inv post : σ → Prop) : ForInStep σ → Prop
  | .done s => post s
  | .yield s => inv s

theorem Safe.iterate {body : Int → σ → Except ε (ForInStep σ)} {inv : Int → σ → Prop}
    {post : σ → Prop} {turns : Nat} {i : Int} {s : σ} (hinit : inv i s)
    (hbody : ∀ j s, i ≤ j → j < i + turns → inv j s →
      Safe (body j s) (LoopPost (inv (j + 1)) post))
    (hexit : ∀ s, inv (i + turns) s → post s) : Safe (iterate body turns i s) post := by
  induction turns generalizing i s with
  | zero => exact .pure (hexit s (by simpa using hinit))
  | succ turns ih =>
      refine (hbody i s (Int.le_refl i) (by omega) hinit).bind fun step hstep => ?_
      cases step with
      | done s => exact .pure hstep
      | yield s =>
          have hshift : i + 1 + turns = i + (turns + 1 : Nat) := by omega
          refine ih hstep (fun j s hlow hhigh hinv => ?_) fun s hinv => ?_
          · exact hbody j s (by omega) (by omega) hinv
          · exact hexit s (hshift ▸ hinv)

/-- A loop keeps its invariant in every turn, or is left with what it is for. -/
theorem Safe.forBreak (inv : Int → σ → Prop) {first limit : Int}
    {body : Int → σ → Except ε (ForInStep σ)} {post : σ → Prop} {s : σ} (hle : first ≤ limit)
    (hinit : inv first s)
    (hbody : ∀ i s, first ≤ i → i < limit → inv i s →
      Safe (body i s) (LoopPost (inv (i + 1)) post))
    (hexit : ∀ s, inv limit s → post s) : Safe (forBreak first limit body s) post := by
  have hlimit : first + ((limit - first).toNat : Int) = limit := by omega
  refine Safe.iterate hinit (fun i s hlow hhigh hinv => ?_) fun s hinv => ?_
  · exact hbody i s hlow (by omega) hinv
  · exact hexit s (hlimit ▸ hinv)

theorem Safe.forBelow (inv : Int → σ → Prop) {first limit : Int}
    {body : Int → σ → Except ε σ} {s : σ} (hle : first ≤ limit) (hinit : inv first s)
    (hbody : ∀ i s, first ≤ i → i < limit → inv i s → Safe (body i s) (inv (i + 1))) :
    Safe (forBelow first limit body s) (inv limit) := by
  refine Safe.forBreak inv hle hinit (fun i s hlow hhigh hinv => ?_) fun _ hinv => hinv
  have hyield : Safe (body i s) fun s => LoopPost (inv (i + 1)) (inv limit) (.yield s) :=
    hbody i s hlow hhigh hinv
  exact hyield.map

/-- The same for the elements of a vector. -/
theorem Safe.foldlM (inv : σ → Prop) {xs : List α} {body : σ → α → Except ε σ} {s : σ}
    (hinit : inv s) (hbody : ∀ s, ∀ x ∈ xs, inv s → Safe (body s x) inv) :
    Safe (xs.foldlM body s) inv := by
  induction xs generalizing s with
  | nil => exact .pure hinit
  | cons x xs ih =>
      rw [List.foldlM_cons]
      refine (hbody s x List.mem_cons_self hinit).bind fun s hinv => ?_
      exact ih hinv fun s y hy => hbody s y (List.mem_cons_of_mem x hy)

end Astartis.CheckedLoops
