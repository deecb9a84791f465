import Mathlib.Data.List.Pairwise
import Astartis.TransitionSystem

/-!
The event bus with its subscriptions, and the handles that own them.
-/

namespace Astartis.Events

open TransitionSystem

variable {H : Type}

abbrev SubId := UInt64

/-- A handler under its number.  The function of a handle holds the number, and the handler is
kept along to speak about. -/
structure Subscription (H : Type) where
  id : SubId
  handler : H
deriving DecidableEq

/-- `handlers_[id] = handler`, in the order of the numbers. -/
def assign (sub : Subscription H) : List (Subscription H) → List (Subscription H)
  | [] => [sub]
  | other :: rest =>
      if other.id < sub.id then other :: assign sub rest
      else if other.id = sub.id then sub :: rest
      else sub :: other :: rest

/-- `handlers_.erase(id)` -/
def erase (id : SubId) (handlers : List (Subscription H)) : List (Subscription H) :=
  handlers.filter fun sub => sub.id ≠ id

def Sorted (handlers : List (Subscription H)) : Prop :=
  handlers.Pairwise fun a b => a.id < b.id

theorem mem_assign {sub other : Subscription H} {handlers : List (Subscription H)}
    (hother : other ∈ assign sub handlers) : other = sub ∨ other ∈ handlers := by
  induction handlers with
  | nil => exact .inl (List.mem_singleton.mp hother)
  | cons first rest ih =>
      rw [assign] at hother
      split at hother
      · rcases List.mem_cons.mp hother with rfl | hrest
        · exact .inr List.mem_cons_self
        · exact (ih hrest).imp_right (List.mem_cons_of_mem first)
      split at hother
      · exact (List.mem_cons.mp hother).imp_right (List.mem_cons_of_mem first)
      · exact List.mem_cons.mp hother

theorem Sorted.assign {handlers : List (Subscription H)} (hsorted : Sorted handlers)
    (sub : Subscription H) : Sorted (assign sub handlers) := by
  induction handlers with
  | nil => exact List.pairwise_singleton _ _
  | cons first rest ih =>
      obtain ⟨hfirst, hrest⟩ := List.pairwise_cons.mp hsorted
      rw [Events.assign]
      split
      · rename_i hbefore
        refine List.pairwise_cons.mpr ⟨fun other hother => ?_, ih hrest⟩
        rcases mem_assign hother with rfl | hmem
        · exact hbefore
        · exact hfirst other hmem
      split
      · rename_i hsame
        exact List.pairwise_cons.mpr ⟨fun other hother => hsame ▸ hfirst other hother, hrest⟩
      · rename_i hbefore hsame
        have hbehind : sub.id < first.id :=
          UInt64.lt_of_le_of_ne (UInt64.not_lt.mp hbefore) (Ne.symm hsame)
        refine List.pairwise_cons.mpr ⟨fun other hother => ?_, hsorted⟩
        rcases List.mem_cons.mp hother with rfl | hmem
        · exact hbehind
        · exact UInt64.lt_trans hbehind (hfirst other hmem)

theorem Sorted.erase {handlers : List (Subscription H)} (hsorted : Sorted handlers)
    (id : SubId) : Sorted (erase id handlers) :=
  hsorted.filter _

structure EventBus (H : Type) where
  handlers : List (Subscription H) := []
  nextId : SubId := 1
  sorted : Sorted handlers := by exact List.Pairwise.nil

namespace EventBus

def subscribe (bus : EventBus H) (handler : H) : Subscription H × EventBus H :=
  let sub := ⟨bus.nextId, handler⟩
  (sub,
    { handlers := assign sub bus.handlers
      nextId := bus.nextId + 1
      sorted := bus.sorted.assign sub })

def unsubscribe (bus : EventBus H) (id : SubId) : EventBus H :=
  { bus with
    handlers := erase id bus.handlers
    sorted := bus.sorted.erase id }

/-- The handlers that `dispatch` calls, one after the other. -/
def dispatch (bus : EventBus H) : List H :=
  bus.handlers.map (·.handler)

end EventBus

/-- A `SubscriptionHandle`, with the subscription that its function would end. -/
inductive SubscriptionHandle (H : Type)
  | destroyed
  | live (unsubscribeFn : Option (Subscription H))
deriving DecidableEq

def SubscriptionHandle.owned : SubscriptionHandle H → List (Subscription H)
  | .live (some sub) => [sub]
  | _ => []

/-- A bus with the handles of a program, each under its place in the list, and the calls of
`subscribe` and `unsubscribe` so far. -/
structure Program (H : Type) where
  bus : EventBus H := {}
  handles : List (SubscriptionHandle H) := []
  subscribed : List (Subscription H) := []
  unsubscribed : List (Subscription H) := []

inductive Operation (H : Type)
  | subscribe (handler : H)
  | construct
  | moveConstruct (source : Nat)
  | moveAssign (target source : Nat)
  | cancel (handle : Nat)
  | destroy (handle : Nat)

namespace Program

/-- The subscriptions that the handles own. -/
def owned (s : Program H) : List (Subscription H) :=
  s.handles.flatMap SubscriptionHandle.owned

/-- The function of a handle that is alive. -/
def unsubscribeFn? (s : Program H) (handle : Nat) : Option (Option (Subscription H)) :=
  match s.handles[handle]? with
  | some (.live fn) => some fn
  | _ => none

def put (s : Program H) (handle : Nat) (content : SubscriptionHandle H) : Program H :=
  { s with handles := s.handles.set handle content }

def push (s : Program H) (content : SubscriptionHandle H) : Program H :=
  { s with handles := s.handles ++ [content] }

/-- `if (unsubscribe_fn_) unsubscribe_fn_()` -/
def runFn (s : Program H) : Option (Subscription H) → Program H
  | none => s
  | some sub =>
      { s with
        bus := s.bus.unsubscribe sub.id
        unsubscribed := s.unsubscribed ++ [sub] }

/-- The handle of a new subscription is built in place. -/
def subscribe (s : Program H) (handler : H) : Program H :=
  let (sub, bus) := s.bus.subscribe handler
  { s with bus := bus, subscribed := s.subscribed ++ [sub] }.push (.live (some sub))

/-- One operation, nothing where it names a handle that is not alive.  The generated assignment
moves the function and calls neither the one it overwrites nor any other; onto the same handle
it changes nothing. -/
def perform (s : Program H) : Operation H → Option (Program H)
  | .subscribe handler => some (s.subscribe handler)
  | .construct => some (s.push (.live none))
  | .moveConstruct source => do
      let fn ← s.unsubscribeFn? source
      some ((s.put source (.live none)).push (.live fn))
  | .moveAssign target source => do
      let fn ← s.unsubscribeFn? source
      let _ ← s.unsubscribeFn? target
      if target = source then some s
      else some ((s.put target (.live fn)).put source (.live none))
  | .cancel handle => do
      let fn ← s.unsubscribeFn? handle
      some ((s.runFn fn).put handle (.live none))
  | .destroy handle => do
      let fn ← s.unsubscribeFn? handle
      some ((s.runFn fn).put handle .destroyed)

end Program

/-- The programs on a bus that outlives its handles. -/
def system (H : Type) : System (Program H) (Operation H) where
  Init s := s = {}
  Step s operation s' := s.perform operation = some s'

end Astartis.Events
