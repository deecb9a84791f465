import Astartis.EventBus

/-!
The handlers that a bus dispatches to, against the handles that own them.
-/

namespace Astartis.Events

open TransitionSystem

variable {H : Type}

/-! The map of the handlers. -/

section Handlers

variable {handlers : List (Subscription H)} {sub : Subscription H}

theorem erase_eq_self {id : SubId} (hfresh : ∀ other ∈ handlers, other.id ≠ id) :
    erase id handlers = handlers :=
  List.filter_eq_self.mpr fun other hother => by simpa using hfresh other hother

theorem coe_erase (hsorted : Sorted handlers) (hsub : sub ∈ handlers) :
    (erase sub.id handlers : Multiset (Subscription H)) + {sub} = handlers := by
  induction handlers with
  | nil => simp at hsub
  | cons first rest ih =>
      obtain ⟨hfirst, hrest⟩ := List.pairwise_cons.mp hsorted
      rcases List.mem_cons.mp hsub with rfl | hmem
      · have hothers : erase sub.id rest = rest :=
          erase_eq_self fun other hother => (UInt64.ne_of_lt (hfirst other hother)).symm
        have herase : erase sub.id (sub :: rest) = erase sub.id rest := by simp [erase]
        rw [herase, hothers, ← Multiset.cons_coe, ← Multiset.singleton_add, add_comm]
      · have hne : first.id ≠ sub.id := UInt64.ne_of_lt (hfirst sub hmem)
        have herase : erase sub.id (first :: rest) = first :: erase sub.id rest := by
          simp [erase, hne]
        rw [herase, ← Multiset.cons_coe, ← Multiset.cons_coe, Multiset.cons_add, ih hrest hmem]

/-- The new handler takes the place of one with its number. -/
theorem coe_assign (hsorted : Sorted handlers) (sub : Subscription H) :
    (assign sub handlers : Multiset (Subscription H)) =
      erase sub.id handlers + {sub} := by
  induction handlers with
  | nil => rfl
  | cons first rest ih =>
      obtain ⟨hfirst, hrest⟩ := List.pairwise_cons.mp hsorted
      rw [assign]
      split
      · rename_i hbefore
        have herase : erase sub.id (first :: rest) = first :: erase sub.id rest := by
          simp [erase, UInt64.ne_of_lt hbefore]
        rw [herase, ← Multiset.cons_coe, ← Multiset.cons_coe, Multiset.cons_add, ih hrest]
      split
      · rename_i hsame
        have hothers : erase sub.id rest = rest :=
          erase_eq_self fun other hother => hsame ▸ (UInt64.ne_of_lt (hfirst other hother)).symm
        have herase : erase sub.id (first :: rest) = erase sub.id rest := by
          simp [erase, hsame]
        rw [herase, hothers, ← Multiset.cons_coe, ← Multiset.singleton_add, add_comm]
      · rename_i hbefore hsame
        have hbehind : sub.id < first.id :=
          UInt64.lt_of_le_of_ne (UInt64.not_lt.mp hbefore) (Ne.symm hsame)
        have hothers : erase sub.id (first :: rest) = first :: rest := by
          refine erase_eq_self fun other hother => ?_
          rcases List.mem_cons.mp hother with rfl | hmem
          · exact hsame
          · exact (UInt64.ne_of_lt (UInt64.lt_trans hbehind (hfirst other hmem))).symm
        rw [hothers, ← Multiset.cons_coe, ← Multiset.singleton_add, add_comm]

theorem coe_erase_eq_iff {id : SubId} :
    (erase id handlers : Multiset (Subscription H)) = handlers ↔
      ∀ other ∈ handlers, other.id ≠ id := by
  constructor
  · intro hsame other hother hid
    have hmem : other ∈ (erase id handlers : Multiset (Subscription H)) := hsame ▸ hother
    have hkept := (List.mem_filter.mp (Multiset.mem_coe.mp hmem)).2
    simp [hid] at hkept
  · intro hfresh
    rw [erase_eq_self hfresh]

end Handlers

namespace Program

variable {s s' : Program H}

/-- The bus dispatches to what the handles own, and what they do not own any more has been
unsubscribed, once for each subscription. -/
structure Balanced (s : Program H) : Prop where
  dispatched : (s.bus.handlers : Multiset (Subscription H)) = s.owned
  ended : (s.owned : Multiset (Subscription H)) + s.unsubscribed = s.subscribed

/-- A new subscription has a number that is not in use, and a handle that is assigned another
one owns nothing. -/
def Orderly (s : Program H) : Operation H → Prop
  | .subscribe _ => ∀ other ∈ s.bus.handlers, other.id ≠ s.bus.nextId
  | .moveAssign target source => target = source ∨ s.unsubscribeFn? target = some none
  | _ => True

@[simp] theorem owned_live_none :
    (SubscriptionHandle.live none : SubscriptionHandle H).owned = [] := rfl

theorem owned_push (s : Program H) (content : SubscriptionHandle H) :
    ((s.push content).owned : Multiset (Subscription H)) = s.owned + content.owned := by
  rw [owned, push, List.flatMap_append, ← Multiset.coe_add, List.flatMap_singleton]
  rfl

theorem getElem?_of_unsubscribeFn? {handle : Nat} {fn : Option (Subscription H)}
    (hfn : s.unsubscribeFn? handle = some fn) : s.handles[handle]? = some (.live fn) := by
  rw [unsubscribeFn?] at hfn
  split at hfn
  · rename_i fn' hhandle
    rw [hhandle, Option.some.inj hfn]
  · exact absurd hfn (by simp)

theorem owned_put {handle : Nat} {fn : Option (Subscription H)}
    (hfn : s.unsubscribeFn? handle = some fn) (content : SubscriptionHandle H) :
    ((s.put handle content).owned : Multiset (Subscription H)) +
      (SubscriptionHandle.live fn).owned = s.owned + content.owned :=
  flatMap_set SubscriptionHandle.owned (getElem?_of_unsubscribeFn? hfn) content

/-- A function that is moved out leaves nothing behind. -/
theorem owned_put_empty {handle : Nat} {fn : Option (Subscription H)}
    (hfn : s.unsubscribeFn? handle = some fn) {content : SubscriptionHandle H}
    (hcontent : content.owned = []) :
    ((s.put handle content).owned : Multiset (Subscription H)) +
      (SubscriptionHandle.live fn).owned = s.owned := by
  rw [owned_put hfn, hcontent, Multiset.coe_nil, add_zero]

theorem unsubscribeFn?_put_of_ne {handle other : Nat} (hne : handle ≠ other)
    (content : SubscriptionHandle H) :
    (s.put handle content).unsubscribeFn? other = s.unsubscribeFn? other := by
  rw [unsubscribeFn?, put, List.getElem?_set_ne hne]
  rfl

/-! The operations. -/

theorem Balanced.of_owned (hbalanced : s.Balanced) (hbus : s'.bus = s.bus)
    (hsubscribed : s'.subscribed = s.subscribed) (hunsubscribed : s'.unsubscribed = s.unsubscribed)
    (howned : (s'.owned : Multiset (Subscription H)) = s.owned) : s'.Balanced := by
  refine ⟨?_, ?_⟩
  · rw [hbus, howned]
    exact hbalanced.dispatched
  · rw [howned, hsubscribed, hunsubscribed]
    exact hbalanced.ended

theorem balanced_subscribe_iff (hbalanced : s.Balanced) (handler : H) :
    (s.subscribe handler).Balanced ↔ s.Orderly (.subscribe handler) := by
  have howned : ((s.subscribe handler).owned : Multiset (Subscription H)) =
      s.owned + {(s.bus.subscribe handler).1} := owned_push _ _
  have hhandlers : ((s.subscribe handler).bus.handlers : Multiset (Subscription H)) =
      erase s.bus.nextId s.bus.handlers + {(s.bus.subscribe handler).1} :=
    coe_assign s.bus.sorted (s.bus.subscribe handler).1
  have hsubscribed : ((s.subscribe handler).subscribed : Multiset (Subscription H)) =
      s.subscribed + {(s.bus.subscribe handler).1} := (Multiset.coe_add _ _).symm
  have hunsubscribed : (s.subscribe handler).unsubscribed = s.unsubscribed := rfl
  rw [Orderly, ← coe_erase_eq_iff, hbalanced.dispatched]
  constructor
  · intro hafter
    have hdispatched := hafter.dispatched
    rw [howned, hhandlers] at hdispatched
    exact add_right_cancel hdispatched
  · intro hfresh
    refine ⟨?_, ?_⟩
    · rw [howned, hhandlers, hfresh]
    · rw [howned, hsubscribed, hunsubscribed, add_right_comm, hbalanced.ended]

/-- A handle that runs its function owns nothing afterwards. -/
theorem Balanced.run_and_put (hbalanced : s.Balanced) {handle : Nat}
    {fn : Option (Subscription H)} (hfn : s.unsubscribeFn? handle = some fn)
    {content : SubscriptionHandle H} (hcontent : content.owned = []) :
    ((s.runFn fn).put handle content).Balanced := by
  have howned := owned_put_empty hfn hcontent
  cases fn with
  | none =>
      rw [owned_live_none, Multiset.coe_nil, add_zero] at howned
      exact hbalanced.of_owned rfl rfl rfl howned
  | some sub =>
      have hhandlers := hbalanced.dispatched
      have hsub : sub ∈ s.bus.handlers := by
        rw [← Multiset.mem_coe, hhandlers, ← howned]
        exact Multiset.mem_add.mpr (.inr (List.mem_singleton_self sub))
      have herase := coe_erase s.bus.sorted hsub
      have hunsubscribed : (((s.runFn (some sub)).put handle content).unsubscribed :
          Multiset (Subscription H)) = s.unsubscribed + {sub} := (Multiset.coe_add _ _).symm
      refine ⟨?_, ?_⟩
      · exact add_right_cancel (herase.trans (hhandlers.trans howned.symm))
      · rw [hunsubscribed, add_comm (s.unsubscribed : Multiset (Subscription H)), ← add_assoc]
        exact (congrArg (· + _) howned).trans hbalanced.ended

/-- Only what the target owned is gone. -/
theorem owned_move_onto {target source : Nat} {fn old : Option (Subscription H)}
    (hfn : s.unsubscribeFn? source = some fn) (hold : s.unsubscribeFn? target = some old)
    (hother : target ≠ source) :
    (((s.put target (.live fn)).put source (.live none)).owned : Multiset (Subscription H)) +
      (SubscriptionHandle.live old).owned = s.owned := by
  have hput := owned_put hold (.live fn)
  have hsource : (s.put target (.live fn)).unsubscribeFn? source = some fn := by
    rw [unsubscribeFn?_put_of_ne hother, hfn]
  have hempty := owned_put_empty hsource owned_live_none
  apply add_right_cancel (b := ((SubscriptionHandle.live fn).owned : Multiset (Subscription H)))
  rw [add_right_comm, hempty, hput]

theorem balanced_moveAssign_iff (hbalanced : s.Balanced) {target source : Nat}
    (hstep : s.perform (.moveAssign target source) = some s') :
    s'.Balanced ↔ s.Orderly (.moveAssign target source) := by
  simp only [perform, Option.bind_eq_bind, Option.bind_eq_some_iff] at hstep
  obtain ⟨fn, hfn, old, hold, hmoved⟩ := hstep
  split at hmoved
  · rename_i hself
    obtain rfl := Option.some.inj hmoved
    exact iff_of_true hbalanced (.inl hself)
  · rename_i hother
    obtain rfl := Option.some.inj hmoved
    have howned := owned_move_onto hfn hold hother
    rw [Orderly, hold]
    simp only [hother, false_or, Option.some.injEq]
    constructor
    · intro hafter
      have hsame := hafter.dispatched.symm.trans hbalanced.dispatched
      rw [← howned] at hsame
      cases old with
      | none => rfl
      | some sub => simp [SubscriptionHandle.owned] at hsame
    · rintro rfl
      rw [owned_live_none, Multiset.coe_nil, add_zero] at howned
      exact hbalanced.of_owned rfl rfl rfl howned

theorem balanced_iff (hbalanced : s.Balanced) {operation : Operation H}
    (hstep : s.perform operation = some s') : s'.Balanced ↔ s.Orderly operation := by
  cases operation with
  | subscribe handler =>
      obtain rfl := Option.some.inj hstep
      exact balanced_subscribe_iff hbalanced handler
  | construct =>
      obtain rfl := Option.some.inj hstep
      have howned := owned_push s (.live none)
      rw [owned_live_none, Multiset.coe_nil, add_zero] at howned
      exact iff_of_true (hbalanced.of_owned rfl rfl rfl howned) trivial
  | moveConstruct source =>
      simp only [perform, Option.bind_eq_bind, Option.bind_eq_some_iff] at hstep
      obtain ⟨fn, hfn, hmoved⟩ := hstep
      obtain rfl := Option.some.inj hmoved
      have howned := owned_push (s.put source (.live none)) (.live fn)
      rw [owned_put_empty hfn owned_live_none] at howned
      exact iff_of_true (hbalanced.of_owned rfl rfl rfl howned) trivial
  | moveAssign target source => exact balanced_moveAssign_iff hbalanced hstep
  | cancel handle =>
      simp only [perform, Option.bind_eq_bind, Option.bind_eq_some_iff] at hstep
      obtain ⟨fn, hfn, hended⟩ := hstep
      obtain rfl := Option.some.inj hended
      exact iff_of_true (hbalanced.run_and_put hfn rfl) trivial
  | destroy handle =>
      simp only [perform, Option.bind_eq_bind, Option.bind_eq_some_iff] at hstep
      obtain ⟨fn, hfn, hended⟩ := hstep
      obtain rfl := Option.some.inj hended
      exact iff_of_true (hbalanced.run_and_put hfn rfl) trivial

/-- In a program the handles own the handlers after every operation exactly if no operation
assigns to a handle that owns another subscription or draws a number in use. -/
theorem handlers_owned_iff {steps : List (Transition (Program H) (Operation H))}
    (htrace : Trace (system H) steps s) :
    (∀ t ∈ steps, t.after.Balanced) ↔ ∀ t ∈ steps, t.before.Orderly t.label := by
  refine htrace.forall_after_iff (I := fun _ => True) ?_ (fun _ _ _ _ _ => trivial)
    fun s operation s' _ hbalanced hstep => balanced_iff hbalanced hstep
  rintro s rfl
  exact ⟨trivial, rfl, rfl⟩

/-- A handle is moved and destroyed. -/
theorem moved_handle_ends_subscription :
    ∃ (steps : List (Transition (Program Nat) (Operation Nat))) (s : Program Nat),
      Trace (system Nat) steps s ∧ s.bus.dispatch = [] ∧ s.unsubscribed = [⟨1, 7⟩] ∧
        ∀ t ∈ steps, t.after.Balanced := by
  have h0 : Trace (system Nat) [] {} := .start rfl
  have h1 := h0.extend (show (system Nat).Step _ (.subscribe 7) _ from rfl)
  have h2 := h1.extend (show (system Nat).Step _ (.moveConstruct 0) _ from rfl)
  have h3 := h2.extend (show (system Nat).Step _ (.destroy 1) _ from rfl)
  refine ⟨_, _, h3, rfl, rfl, (handlers_owned_iff h3).mpr ?_⟩
  simp only [List.nil_append, List.cons_append, List.forall_mem_cons, Orderly]
  exact ⟨by decide, trivial, trivial, by simp⟩

/-- A subscription is assigned to a handle that has one, and both handles are destroyed: the
first handler stays with the bus. -/
theorem assigned_over_handler_stays :
    ∃ s : Program Nat, Reachable (system Nat) s ∧ s.owned = [] ∧ s.bus.dispatch = [7] ∧
      ⟨1, 7⟩ ∉ s.unsubscribed ∧ ¬ s.Balanced := by
  have h0 : Trace (system Nat) [] {} := .start rfl
  have h1 := h0.extend (show (system Nat).Step _ (.subscribe 7) _ from rfl)
  have h2 := h1.extend (show (system Nat).Step _ (.subscribe 8) _ from rfl)
  have h3 := h2.extend (show (system Nat).Step _ (.moveAssign 0 1) _ from rfl)
  have h4 := h3.extend (show (system Nat).Step _ (.destroy 1) _ from rfl)
  have h5 := h4.extend (show (system Nat).Step _ (.destroy 0) _ from rfl)
  refine ⟨_, ⟨_, h5⟩, rfl, rfl, by decide, fun hbalanced => ?_⟩
  have hcard := congrArg Multiset.card hbalanced.dispatched
  exact absurd hcard (by decide)

/-! The numbers. -/

/-- The numbers are drawn one after the other, from one on. -/
structure Numbered (s : Program H) : Prop where
  nextId : s.bus.nextId = UInt64.ofNat (s.subscribed.length + 1)
  drawn : s.subscribed.length < 2 ^ 64 → ∀ sub ∈ s.bus.handlers,
    1 ≤ sub.id.toNat ∧ sub.id.toNat ≤ s.subscribed.length

theorem Numbered.of_subset (hnumbered : s.Numbered) (hnextId : s'.bus.nextId = s.bus.nextId)
    (hhandlers : s'.bus.handlers ⊆ s.bus.handlers) (hsubscribed : s'.subscribed = s.subscribed) :
    s'.Numbered := by
  refine ⟨?_, ?_⟩
  · rw [hnextId, hsubscribed, hnumbered.nextId]
  · rw [hsubscribed]
    exact fun hfew sub hsub => hnumbered.drawn hfew sub (hhandlers hsub)

theorem Numbered.runFn (hnumbered : s.Numbered) (fn : Option (Subscription H)) :
    (s.runFn fn).Numbered := by
  cases fn with
  | none => exact hnumbered
  | some sub => exact hnumbered.of_subset rfl (List.filter_subset_self _) rfl

theorem Numbered.subscribe (hnumbered : s.Numbered) (handler : H) :
    (s.subscribe handler).Numbered := by
  have hlength : (s.subscribe handler).subscribed.length = s.subscribed.length + 1 :=
    List.length_append
  refine ⟨?_, ?_⟩
  · rw [hlength]
    change s.bus.nextId + 1 = _
    rw [hnumbered.nextId]
    exact (UInt64.ofNat_add (s.subscribed.length + 1) 1).symm
  · rw [hlength]
    intro hfew sub hsub
    rcases mem_assign hsub with rfl | hmem
    · have hid : s.bus.nextId.toNat = s.subscribed.length + 1 := by
        rw [hnumbered.nextId, UInt64.toNat_ofNat', Nat.mod_eq_of_lt hfew]
      exact ⟨by rw [hid]; omega, hid.le⟩
    · have hdrawn := hnumbered.drawn (by omega) sub hmem
      omega

theorem Numbered.perform (hnumbered : s.Numbered) {operation : Operation H}
    (hstep : s.perform operation = some s') : s'.Numbered := by
  cases operation with
  | subscribe handler =>
      obtain rfl := Option.some.inj hstep
      exact hnumbered.subscribe handler
  | construct =>
      obtain rfl := Option.some.inj hstep
      exact hnumbered.of_subset rfl (List.Subset.refl _) rfl
  | moveConstruct source =>
      simp only [Program.perform, Option.bind_eq_bind, Option.bind_eq_some_iff] at hstep
      obtain ⟨fn, -, hmoved⟩ := hstep
      obtain rfl := Option.some.inj hmoved
      exact hnumbered.of_subset rfl (List.Subset.refl _) rfl
  | moveAssign target source =>
      simp only [Program.perform, Option.bind_eq_bind, Option.bind_eq_some_iff] at hstep
      obtain ⟨fn, -, old, -, hmoved⟩ := hstep
      split at hmoved
      · obtain rfl := Option.some.inj hmoved
        exact hnumbered
      · obtain rfl := Option.some.inj hmoved
        exact hnumbered.of_subset rfl (List.Subset.refl _) rfl
  | cancel handle =>
      simp only [Program.perform, Option.bind_eq_bind, Option.bind_eq_some_iff] at hstep
      obtain ⟨fn, -, hended⟩ := hstep
      obtain rfl := Option.some.inj hended
      exact (hnumbered.runFn fn).of_subset rfl (List.Subset.refl _) rfl
  | destroy handle =>
      simp only [Program.perform, Option.bind_eq_bind, Option.bind_eq_some_iff] at hstep
      obtain ⟨fn, -, hended⟩ := hstep
      obtain rfl := Option.some.inj hended
      exact (hnumbered.runFn fn).of_subset rfl (List.Subset.refl _) rfl

/-- Before the numbers come round, the next one is not in use. -/
theorem nextId_unused (hreachable : Reachable (system H) s)
    (hfew : s.subscribed.length < 2 ^ 64) : ∀ other ∈ s.bus.handlers, other.id ≠ s.bus.nextId := by
  obtain ⟨steps, htrace⟩ := hreachable
  have hnumbered : s.Numbered := by
    refine htrace.history_invariant (I := fun _ s => s.Numbered) ?_
      fun _ s operation s' hnumbered hstep => hnumbered.perform hstep
    rintro s rfl
    exact ⟨rfl, fun _ => by simp⟩
  intro other hother hid
  obtain ⟨hone, hle⟩ := hnumbered.drawn hfew other hother
  have hnext : other.id.toNat = (s.subscribed.length + 1) % 2 ^ 64 := by
    rw [hid, hnumbered.nextId, UInt64.toNat_ofNat']
  omega

end Program

end Astartis.Events
