import Astartis.FirewallMirror

/-!
The names of the rules of a `FirewallBlocker`: an address that is rewritten, and a clock
reading.
-/

namespace Astartis.Firewall

open Audit
open TransitionSystem

/-- The address as a rule name spells it. -/
def safeIp (ip : ByteString) : ByteString :=
  ip.map fun b => if b = 46 ∨ b = 58 then 45 else b

/-- Addresses and clock readings that are spelled alike.  The minus sign of a reading from
before the epoch can also be the end of the other address. -/
def SameSpelling (ms : Int64) (ip : ByteString) (ms' : Int64) (ip' : ByteString) : Prop :=
  (ms.toInt = ms'.toInt ∧ safeIp ip = safeIp ip') ∨
    (ms.toInt < 0 ∧ ms'.toInt = -ms.toInt ∧ safeIp ip' = safeIp ip ++ [45]) ∨
    (ms'.toInt < 0 ∧ ms.toInt = -ms'.toInt ∧ safeIp ip = safeIp ip' ++ [45])

section Spelling

/-- A text is cut at the first separator in one way. -/
theorem cut_at_first {b : UInt8} {front front' back back' : ByteString} (hfront : b ∉ front)
    (hfront' : b ∉ front') (htext : front ++ b :: back = front' ++ b :: back') :
    front = front' ∧ back = back' := by
  induction front generalizing front' with
  | nil =>
      rcases front' with _ | ⟨c, front'⟩
      · exact ⟨rfl, (List.cons.inj htext).2⟩
      · exact absurd (by simp [(List.cons.inj htext).1]) hfront'
  | cons c front ih =>
      rcases front' with _ | ⟨c', front'⟩
      · exact absurd (by simp [(List.cons.inj htext).1]) hfront
      · simp only [List.cons_append, List.cons.injEq] at htext
        obtain ⟨rfl, htext⟩ := htext
        obtain ⟨rfl, hback⟩ := ih (fun h => hfront (List.mem_cons_of_mem _ h))
          (fun h => hfront' (List.mem_cons_of_mem _ h)) htext
        exact ⟨rfl, hback⟩

/-- A text is cut at the last separator in one way. -/
theorem cut_at_last {b : UInt8} {front front' back back' : ByteString} (hback : b ∉ back)
    (hback' : b ∉ back') :
    front ++ b :: back = front' ++ b :: back' ↔ front = front' ∧ back = back' := by
  constructor
  · intro htext
    have hreverse := congrArg List.reverse htext
    simp only [List.reverse_append, List.reverse_cons, List.append_assoc, List.singleton_append]
      at hreverse
    obtain ⟨hbacks, hfronts⟩ :=
      cut_at_first (by simpa using hback) (by simpa using hback') hreverse
    exact ⟨List.reverse_injective hfronts, List.reverse_injective hbacks⟩
  · rintro ⟨rfl, rfl⟩
    rfl

theorem natText_no_minus (n : Nat) : 45 ∉ ByteString.natText 10 n := by
  intro hmem
  obtain ⟨d, hd, hbyte⟩ := ByteString.mem_natText (by omega) hmem
  have hnat := congrArg UInt8.toNat hbyte
  rw [ByteString.digitByte_toNat (by omega), if_pos hd] at hnat
  simp at hnat
  omega

/-- The end of a stem, with the minus sign of the reading taken to the address. -/
theorem stem_end (safe : ByteString) (n : Int) :
    safe ++ ("-" : ByteString) ++ ByteString.decimal n =
      (safe ++ if n < 0 then [45] else []) ++ 45 :: ByteString.natText 10 n.natAbs := by
  have hminus : ("-" : ByteString) = [45] := by decide
  rw [hminus, ByteString.decimal]
  split <;> simp

/-- Which addresses and clock readings give the same stem. -/
theorem makeRuleStem_eq_iff {ms ms' : Int64} {ip ip' : ByteString} :
    makeRuleStem ms ip = makeRuleStem ms' ip' ↔ SameSpelling ms ip ms' ip' := by
  have hstem : ∀ (ms : Int64) (ip : ByteString), makeRuleStem ms ip =
      ("Astartis-Block-" : ByteString) ++
        (safeIp ip ++ ("-" : ByteString) ++ ByteString.decimal ms.toInt) := by
    intro ms ip
    simp only [makeRuleStem, safeIp, List.append_assoc]
  have hnumber : Function.Injective (ByteString.natText 10) :=
    ByteString.natText_injective (by omega) (by omega)
  rw [hstem, hstem, List.append_right_inj, stem_end, stem_end,
    cut_at_last (natText_no_minus _) (natText_no_minus _), hnumber.eq_iff, SameSpelling]
  by_cases hms : ms.toInt < 0
  · by_cases hms' : ms'.toInt < 0
    · simp only [hms, hms', if_true, List.append_left_inj]
      constructor
      · rintro ⟨hsafe, habs⟩
        exact .inl ⟨by omega, hsafe⟩
      · rintro (⟨heq, hsafe⟩ | ⟨-, hneg, -⟩ | ⟨-, hneg, -⟩)
        · exact ⟨hsafe, by omega⟩
        · omega
        · omega
    · simp only [hms, hms', if_true, if_false, List.append_nil, true_and, false_and, or_false]
      constructor
      · rintro ⟨hsafe, habs⟩
        exact .inr ⟨by omega, hsafe.symm⟩
      · rintro (⟨heq, -⟩ | ⟨hneg, hsafe⟩)
        · omega
        · exact ⟨hsafe.symm, by omega⟩
  · by_cases hms' : ms'.toInt < 0
    · simp only [hms, hms', if_true, if_false, List.append_nil, true_and, false_and, false_or]
      constructor
      · rintro ⟨hsafe, habs⟩
        exact .inr ⟨by omega, hsafe⟩
      · rintro (⟨heq, -⟩ | ⟨hneg, hsafe⟩)
        · omega
        · exact ⟨hsafe, by omega⟩
    · simp only [hms, hms', if_false, List.append_nil, false_and, or_false]
      constructor
      · rintro ⟨hsafe, habs⟩
        exact ⟨by omega, hsafe⟩
      · rintro ⟨heq, hsafe⟩
        exact ⟨hsafe, by omega⟩

end Spelling

/-- The names of an entry are those that a block of the address makes at this reading. -/
def ActiveBlock.NamedAt (ab : ActiveBlock) (ms : Int64) (ip : ByteString) : Prop :=
  ab.ruleNameIn = makeRuleStem ms ip ++ ("-in" : ByteString) ∧
    ab.ruleNameOut = makeRuleStem ms ip ++ ("-out" : ByteString)

theorem in_ne_out (stem stem' : ByteString) :
    stem ++ ("-in" : ByteString) ≠ stem' ++ ("-out" : ByteString) := by
  have hin : ("-in" : ByteString) = [45, 105] ++ [110] := by decide
  have hout : ("-out" : ByteString) = [45, 111, 117] ++ [116] := by decide
  intro h
  rw [hin, hout, ← List.append_assoc, ← List.append_assoc] at h
  have hlast := List.append_inj_right' h rfl
  simp at hlast

/-- Entries share a name exactly when their addresses and clock readings are spelled
alike. -/
theorem ActiveBlock.NamedAt.shares_iff {ab ab' : ActiveBlock} {ms ms' : Int64}
    {ip ip' : ByteString} (hnamed : ab.NamedAt ms ip) (hnamed' : ab'.NamedAt ms' ip') :
    (∃ name, ab.Names name ∧ ab'.Names name) ↔ SameSpelling ms ip ms' ip' := by
  obtain ⟨hin, hout⟩ := hnamed
  obtain ⟨hin', hout'⟩ := hnamed'
  rw [← makeRuleStem_eq_iff]
  constructor
  · rintro ⟨name, rfl | rfl, hname | hname⟩
    · rw [hin, hin', List.append_left_inj] at hname
      exact hname
    · rw [hin, hout'] at hname
      exact absurd hname (in_ne_out _ _)
    · rw [hout, hin'] at hname
      exact absurd hname.symm (in_ne_out _ _)
    · rw [hout, hout', List.append_left_inj] at hname
      exact hname
  · intro hstem
    exact ⟨ab.ruleNameIn, .inl rfl, .inl (by rw [hin, hin', hstem])⟩

namespace Host

variable {σ : Type} (auditAdder : AuditAdder σ)

/-- The rule names of the active blocks are pairwise distinct. -/
structure NamesDistinct (s : Host σ) : Prop where
  pair : ∀ ip ab, s.Entry ip ab → ab.ruleNameIn ≠ ab.ruleNameOut
  others : ∀ ip ab ip' ab', s.Entry ip ab → s.Entry ip' ab' → ip ≠ ip' →
    ¬ ∃ name, ab.Names name ∧ ab'.Names name

/-- The names of every entry come from its address and some clock reading. -/
def NamesMade (s : Host σ) : Prop :=
  ∀ ip ab, s.Entry ip ab → ∃ ms, ab.NamedAt ms ip

/-- No active block has a name from an address and a clock reading that are spelled like
those of a block that the operation adds. -/
def SpelledApart (s : Host σ) : Operation → Prop
  | .block attempt ip _ =>
      ip ∉ s.blocker.allowlist → s.blocker.blocks.contains ip = false →
        ¬ (attempt.addIn = false ∧ attempt.addOut = false) →
        ∀ ip' ab ms, s.Entry ip' ab → ab.NamedAt ms ip' →
          ¬ SameSpelling ms ip' attempt.stemMs ip
  | _ => True

/-- Fewer entries are distinct and made as they were. -/
theorem RemovalSpec.names {operation : Operation} {s s' : Host σ}
    (hspec : s.RemovalSpec operation s') :
    (s.NamesDistinct → s'.NamesDistinct) ∧ (s.NamesMade → s'.NamesMade) := by
  have hbefore : ∀ ip ab, s'.Entry ip ab → s.Entry ip ab :=
    fun ip ab hentry => ((hspec.entries ip ab).mp hentry).1
  constructor
  · intro hdistinct
    exact ⟨fun ip ab hentry => hdistinct.pair ip ab (hbefore ip ab hentry),
      fun ip ab ip' ab' hentry hentry' =>
        hdistinct.others ip ab ip' ab' (hbefore ip ab hentry) (hbefore ip' ab' hentry')⟩
  · intro hmade ip ab hentry
    exact hmade ip ab (hbefore ip ab hentry)

section Addition

variable {s s' : Host σ} {attempt : Attempt} {ip : ByteString} {new : ActiveBlock}

theorem AdditionSpec.namesMade (hspec : s.AdditionSpec attempt ip new s')
    (hnew : new.NamedAt attempt.stemMs ip) (hmade : s.NamesMade) : s'.NamesMade := by
  intro ip' ab hentry
  rcases (hspec.entries ip' ab).mp hentry with ⟨rfl, rfl⟩ | hold
  · exact ⟨attempt.stemMs, hnew⟩
  · exact hmade ip' ab hold

/-- A new entry keeps the names distinct exactly when it is spelled apart from the others. -/
theorem AdditionSpec.namesDistinct_iff (hspec : s.AdditionSpec attempt ip new s')
    (hfree : ∀ ab, ¬ s.Entry ip ab) (hnew : new.NamedAt attempt.stemMs ip)
    (hmade : s.NamesMade) (hdistinct : s.NamesDistinct) :
    s'.NamesDistinct ↔ ∀ ip' ab ms, s.Entry ip' ab → ab.NamedAt ms ip' →
      ¬ SameSpelling ms ip' attempt.stemMs ip := by
  have hentry : s'.Entry ip new := (hspec.entries ip new).mpr (.inl ⟨rfl, rfl⟩)
  have hne : ∀ ip' ab, s.Entry ip' ab → ip' ≠ ip := by
    rintro _ ab hold rfl
    exact hfree ab hold
  constructor
  · intro hafter ip' ab ms hold hnamed hspelled
    have hold' : s'.Entry ip' ab := (hspec.entries ip' ab).mpr (.inr hold)
    exact hafter.others ip' ab ip new hold' hentry (hne ip' ab hold)
      ((hnamed.shares_iff hnew).mpr hspelled)
  · intro hapart
    have hshares : ∀ ip' ab, s.Entry ip' ab → ¬ ∃ name, ab.Names name ∧ new.Names name := by
      intro ip' ab hold hshared
      obtain ⟨ms, hnamed⟩ := hmade ip' ab hold
      exact hapart ip' ab ms hold hnamed ((hnamed.shares_iff hnew).mp hshared)
    constructor
    · intro ip' ab hentry'
      rcases (hspec.entries ip' ab).mp hentry' with ⟨rfl, rfl⟩ | hold
      · rw [hnew.1, hnew.2]
        exact in_ne_out _ _
      · exact hdistinct.pair ip' ab hold
    · intro ip₁ ab₁ ip₂ ab₂ hentry₁ hentry₂ hips
      rcases (hspec.entries ip₁ ab₁).mp hentry₁ with ⟨rfl, rfl⟩ | hold₁
      · rcases (hspec.entries ip₂ ab₂).mp hentry₂ with ⟨rfl, rfl⟩ | hold₂
        · exact absurd rfl hips
        · rintro ⟨name, hname₁, hname₂⟩
          exact hshares ip₂ ab₂ hold₂ ⟨name, hname₂, hname₁⟩
      · rcases (hspec.entries ip₂ ab₂).mp hentry₂ with ⟨rfl, rfl⟩ | hold₂
        · exact hshares ip₁ ab₁ hold₁
        · exact hdistinct.others ip₁ ab₁ ip₂ ab₂ hold₁ hold₂ hips

end Addition

/-- One operation: the names are still made as they were, and still distinct exactly when
the operation is spelled apart. -/
theorem perform_names {s : Host σ} (hmade : s.NamesMade) (operation : Operation) :
    (s.perform auditAdder operation).NamesMade ∧
      (s.NamesDistinct →
        ((s.perform auditAdder operation).NamesDistinct ↔ s.SpelledApart operation)) := by
  cases operation with
  | block attempt ip ttlS =>
      by_cases hrefused : ip ∈ s.blocker.allowlist ∨ s.blocker.blocks.contains ip = true ∨
          (attempt.addIn = false ∧ attempt.addOut = false)
      · rw [perform_block_of_refused auditAdder hrefused]
        refine ⟨hmade, fun hdistinct => ?_⟩
        simp only [hdistinct, true_iff]
        intro hallowed hfree hadded
        rcases hrefused with hlisted | hblocked | hfailed
        · exact absurd hlisted hallowed
        · rw [hfree] at hblocked
          exact absurd hblocked (by simp)
        · exact absurd hfailed hadded
      · simp only [not_or, Bool.not_eq_true] at hrefused
        obtain ⟨hallowed, hfree, hadded⟩ := hrefused
        have hspec := @perform_block σ auditAdder attempt ip ttlS s hallowed hfree hadded
        have hnone : ∀ ab, ¬ s.Entry ip ab := by
          intro ab hentry
          rw [Std.TreeMap.contains_eq_isSome_getElem?, show s.blocker.blocks[ip]? = some ab
            from hentry] at hfree
          exact absurd hfree (by simp)
        refine ⟨hspec.namesMade ⟨rfl, rfl⟩ hmade, fun hdistinct => ?_⟩
        rw [hspec.namesDistinct_iff hnone ⟨rfl, rfl⟩ hmade hdistinct]
        constructor
        · intro hapart _ _ _
          exact hapart
        · intro hapart
          exact hapart hallowed hfree hadded
  | unblock removal ip =>
      have hnames := (s.perform_unblock auditAdder removal ip).names
      exact ⟨hnames.2 hmade, fun hdistinct => iff_of_true (hnames.1 hdistinct) trivial⟩
  | expire now removals =>
      have hnames := (s.perform_expire auditAdder now removals).names
      exact ⟨hnames.2 hmade, fun hdistinct => iff_of_true (hnames.1 hdistinct) trivial⟩
  | destroy removals =>
      have hnames := (s.perform_destroy auditAdder removals).names
      exact ⟨hnames.2 hmade, fun hdistinct => iff_of_true (hnames.1 hdistinct) trivial⟩

/-- Where the names are distinct, no operation deletes a rule name of an entry that stays. -/
theorem NamesDistinct.not_deleted {s : Host σ} (hdistinct : s.NamesDistinct)
    {operation : Operation} {name : ByteString} (hkept : s.Kept operation name) :
    ¬ s.Deleted operation name := by
  rintro ⟨ip, ab, removal, hremoves, -, hdeletes⟩
  obtain ⟨ip', ab', hentry', hstays, hname⟩ := hkept
  have hentry := entry_of_removes hremoves
  by_cases hip : ip = ip'
  · subst hip
    obtain rfl := Option.some.inj (hentry.symm.trans hentry')
    exact hstays hremoves
  · exact hdistinct.others ip ab ip' ab' hentry hentry' hip ⟨name, hdeletes.names, hname⟩

/-- The rule names of the active blocks are distinct after every operation of a run exactly
if every block of the run is spelled apart, and then no operation deletes a rule of an entry
that stays. -/
theorem trace_namesDistinct_iff (auditAdder : AuditAdder σ) (blocker : FirewallBlocker)
    (world : σ) (steps : List (Transition (Host σ) Operation)) (s : Host σ)
    (htrace : Trace (system auditAdder blocker world) steps s) :
    ((∀ t ∈ steps, t.after.NamesDistinct) ↔ ∀ t ∈ steps, t.before.SpelledApart t.label) ∧
      ((∀ t ∈ steps, t.before.SpelledApart t.label) → ∀ t ∈ steps, ∀ name,
        t.before.Kept t.label name → ¬ t.before.Deleted t.label name) := by
  have hempty : ∀ s, (system auditAdder blocker world).Init s →
      s.NamesMade ∧ s.NamesDistinct := by
    rintro _ ⟨hempty, rfl⟩
    refine ⟨fun ip ab hentry => ?_, fun ip ab hentry => ?_, fun ip ab _ _ hentry => ?_⟩
    all_goals simp [Entry, hempty] at hentry
  constructor
  · refine htrace.forall_after_iff hempty ?_ ?_
    · rintro s operation _ hmade ⟨-, rfl⟩
      exact (perform_names auditAdder hmade operation).1
    · rintro s operation _ hmade hdistinct ⟨-, rfl⟩
      exact (perform_names auditAdder hmade operation).2 hdistinct
  · intro hapart
    have hbefore := htrace.guarded_before (I := fun s => s.NamesMade ∧ s.NamesDistinct)
      hempty ?_ hapart
    · intro t ht name hkept
      exact (hbefore t ht).2.not_deleted hkept
    · rintro s operation _ ⟨hmade, hdistinct⟩ hspelled ⟨-, rfl⟩
      have hnames := perform_names auditAdder hmade operation
      exact ⟨hnames.1, (hnames.2 hdistinct).mpr hspelled⟩

/-- The scanner is the only address that is blocked. -/
theorem scanner_names_distinct :
    ∃ steps s, Trace (system noteEntry {} []) steps s ∧
      steps.map Transition.label = [pairedBlock] ∧ ∀ t ∈ steps, t.after.NamesDistinct := by
  have hstart : Trace (system noteEntry {} []) [] freshHost := .start ⟨rfl, rfl⟩
  have hblock : (system noteEntry {} []).Step freshHost pairedBlock
      (freshHost.perform noteEntry pairedBlock) := ⟨rfl, rfl⟩
  have htrace := hstart.extend hblock
  refine ⟨_, _, htrace, rfl, (trace_namesDistinct_iff noteEntry {} [] _ _ htrace).1.mpr ?_⟩
  simp only [List.nil_append, List.forall_mem_singleton]
  intro _ _ _ ip ab ms hentry
  change (({} : Std.TreeMap ByteString ActiveBlock))[ip]? = some ab at hentry
  simp at hentry

def mixedIp : ByteString := "::1.2.3.4"

def groupedIp : ByteString := "::1:2:3:4"

def mixedBlock : Operation := .block ⟨1000, 1001, true, true⟩ mixedIp 0

def groupedBlock : Operation := .block ⟨1000, 1001, true, true⟩ groupedIp 0

def mixedUnblock : Operation := .unblock ⟨2000, true, true⟩ mixedIp

/-- Two addresses that are blocked at one reading of the clock get the same names, and
removing the first block leaves the second one without rules. -/
theorem alike_addresses_share_names :
    ∃ s, Reachable (system noteEntry {} []) s ∧ ¬ s.NamesDistinct ∧
      (s.perform noteEntry mixedUnblock).blocker.isBlocked groupedIp = true ∧
      (s.perform noteEntry mixedUnblock).rules = [] := by
  have hstart : Trace (system noteEntry {} []) [] freshHost := .start ⟨rfl, rfl⟩
  have hmixed : (system noteEntry {} []).Step freshHost mixedBlock
      (freshHost.perform noteEntry mixedBlock) := ⟨rfl, rfl⟩
  have hgrouped : (system noteEntry {} []).Step (freshHost.perform noteEntry mixedBlock)
      groupedBlock ((freshHost.perform noteEntry mixedBlock).perform noteEntry
        groupedBlock) := ⟨rfl, rfl⟩
  refine ⟨_, ⟨_, (hstart.extend hmixed).extend hgrouped⟩, fun hdistinct => ?_,
    by decide +kernel, by decide +kernel⟩
  exact hdistinct.others mixedIp _ groupedIp _ rfl rfl (by decide)
    ⟨_, .inl rfl, .inl (by decide +kernel)⟩

end Host

end Astartis.Firewall
