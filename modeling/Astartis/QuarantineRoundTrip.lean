import Astartis.QuarantineOutcomes

/-!
A quarantined file comes back.  Between the two calls any file may be taken in and brought back,
the quarantine's own files too.
-/

namespace Astartis.Containment

open Audit
open FileMoves
open TransitionSystem

/-- With keys that occur once, erasing the first entry of a key leaves those of the others. -/
theorem eraseP_eq_filter {α β : Type*} [DecidableEq β] (key : α → β) {xs : List α}
    (hnodup : (xs.map key).Nodup) (b : β) :
    (xs.eraseP fun x => key x = b) = xs.filter fun x => key x ≠ b := by
  induction xs with
  | nil => rfl
  | cons x xs ih =>
      rw [List.map_cons, List.nodup_cons] at hnodup
      by_cases hx : key x = b
      · rw [List.eraseP_cons_of_pos (by simpa using hx),
          List.filter_cons_of_neg (by simpa using hx)]
        refine (List.filter_eq_self.mpr fun y hy => ?_).symm
        rw [decide_eq_true_eq]
        intro hkey
        exact hnodup.1 (List.mem_map.mpr ⟨y, hy, hkey.trans hx.symm⟩)
      · rw [List.eraseP_cons_of_neg (by simpa using hx),
          List.filter_cons_of_pos (by simpa using hx), ih hnodup.2]

namespace Store

variable {Place σ : Type} [DecidableEq Place]

inductive Operation
  | quarantineFile (outcomes : Outcomes) (srcPath virusName : ByteString)
  | restore (outcomes : Outcomes) (entryId : ByteString)

section Runs

variable (sha256 : Sha256) (auditAdder : AuditAdder σ) (paths : Paths Place)

def perform (s : Store Place σ) : Operation → Store Place σ
  | .quarantineFile outcomes srcPath virusName =>
      (s.quarantineFile sha256 auditAdder paths outcomes srcPath virusName).2
  | .restore outcomes entryId => (s.restore auditAdder paths outcomes entryId).2

/-- Operations one after the other, on files of any kind. -/
def quarantineRuns : System (Store Place σ) Operation where
  Init := fun s => s.quarantine.entries = []
  Step := fun s operation s' => s' = s.perform sha256 auditAdder paths operation

/-- The file that the operation is about is there, and its calls of the file system succeed, the
rename or the copy with the removal. -/
def Succeeds (s : Store Place σ) : Operation → Prop
  | .quarantineFile outcomes srcPath _ =>
      outcomes.sized = true ∧ (s.files (paths.locate srcPath)).isSome = true ∧
        outcomes.reading = .whole ∧ outcomes.move.Succeed ∧ outcomes.sidecar = .done
  | .restore outcomes entryId =>
      ∀ e, s.quarantine.entries.find? (fun e => e.entryId = entryId) = some e →
        (s.files (paths.locate e.quarantinePath)).isSome = true ∧ outcomes.move.Succeed ∧
          outcomes.sidecar = .done

/-- The entry id that is drawn is not in use: no entry has it, no file has one of its names, and
no entry came from where its `.bin` goes. -/
def DrawsFresh (s : Store Place σ) : Operation → Prop
  | .quarantineFile outcomes _ _ =>
      (∀ e ∈ s.quarantine.entries,
        e.entryId ≠ generateEntryId outcomes.draw.1 outcomes.draw.2 ∧
          paths.locate e.originalPath ≠ s.entryPlace paths outcomes ".bin") ∧
        s.files (s.entryPlace paths outcomes ".bin") = none ∧
        s.files (s.entryPlace paths outcomes ".meta") = none
  | .restore .. => True

end Runs

section Effects

variable {sha256 : Sha256} {auditAdder : AuditAdder σ} {paths : Paths Place}
variable {s : Store Place σ} {outcomes : Outcomes} {srcPath virusName entryId : ByteString}

/-- What a `quarantine_file` that succeeds does. -/
structure TakesIn (paths : Paths Place) (outcomes : Outcomes) (srcPath : ByteString)
    (s : Store Place σ) (e : QuarantineEntry) (content : ByteString) (s' : Store Place σ) :
    Prop where
  source : s.files (paths.locate srcPath) = some content
  entryId : e.entryId = generateEntryId outcomes.draw.1 outcomes.draw.2
  originalPath : e.originalPath = paths.absolute srcPath
  quarantinePath : e.quarantinePath =
    paths.join s.quarantine.quarantineDir (e.entryId ++ (".bin" : ByteString))
  directory : s'.quarantine.quarantineDir = s.quarantine.quarantineDir
  entries : s'.quarantine.entries = s.quarantine.entries ++ [e]
  files : s'.files = Function.update
    (Function.update
      (Function.update s.files (s.entryPlace paths outcomes ".bin") (some content))
      (paths.locate srcPath) none)
    (s.entryPlace paths outcomes ".meta") (some (makeMetaJson e))

theorem quarantineFile_takesIn
    (hsucceeds : s.Succeeds paths (.quarantineFile outcomes srcPath virusName))
    (hfresh : s.DrawsFresh paths (.quarantineFile outcomes srcPath virusName)) :
    ∃ content, TakesIn paths outcomes srcPath s
      (s.quarantineFile sha256 auditAdder paths outcomes srcPath virusName).1 content
      (s.quarantineFile sha256 auditAdder paths outcomes srcPath virusName).2 := by
  obtain ⟨hsized, hthere, hreading, hmoves, hsidecar⟩ := hsucceeds
  obtain ⟨-, hfree, -⟩ := hfresh
  obtain ⟨content, hfile⟩ := Option.isSome_iff_exists.mp hthere
  obtain ⟨hashed, hread⟩ : ∃ hashed, outcomes.readContent content = some hashed := by
    simp only [Outcomes.readContent, hreading, Reading.deliver]
    split <;> exact ⟨_, rfl⟩
  have hne : paths.locate srcPath ≠ s.entryPlace paths outcomes ".bin" := by
    intro hplace
    rw [← hplace, hfile] at hfree
    exact absurd hfree (by simp)
  have hcall := @quarantineFile_eq_takeIn Place σ _ sha256 auditAdder paths s outcomes srcPath
    virusName content hashed hsized hfile hread
  generalize hentry : newEntry paths sha256 s.quarantine.quarantineDir
    { draw := outcomes.draw, now := outcomes.now } srcPath virusName hashed = e at hcall
  have hbin : s.entryPlace paths outcomes ".bin" = paths.locate e.quarantinePath := hentry ▸ rfl
  have hmeta : paths.locate (metaPath paths s.quarantine.quarantineDir e) =
      s.entryPlace paths outcomes ".meta" := hentry ▸ rfl
  rw [hbin] at hne
  rw [takeIn_of_moved auditAdder paths (relocate_of_succeed hfile hne hmoves), hsidecar, hmeta,
    ← hbin] at hcall
  rw [hcall]
  exact ⟨content, hfile, hentry ▸ rfl, hentry ▸ rfl, hentry ▸ rfl, rfl, rfl, rfl⟩

/-- What a `restore` that succeeds does. -/
structure BringsBack (paths : Paths Place) (s : Store Place σ) (e : QuarantineEntry)
    (content : ByteString) (s' : Store Place σ) : Prop where
  bin : s.files (paths.locate e.quarantinePath) = some content
  directory : s'.quarantine.quarantineDir = s.quarantine.quarantineDir
  entries : s'.quarantine.entries =
    s.quarantine.entries.eraseP fun e' => e'.entryId = e.entryId
  files : s'.files = Function.update
    (Function.update
      (Function.update s.files (paths.locate e.originalPath) (some content))
      (paths.locate e.quarantinePath) none)
    (paths.locate (metaPath paths s.quarantine.quarantineDir e)) none

theorem restore_bringsBack {e : QuarantineEntry}
    (hsucceeds : s.Succeeds paths (.restore outcomes entryId))
    (hfind : (s.quarantine.entries.find? fun e => e.entryId = entryId) = some e)
    (hne : paths.locate e.quarantinePath ≠ paths.locate e.originalPath) :
    (s.restore auditAdder paths outcomes entryId).1 = true ∧
      ∃ content, BringsBack paths s e content (s.restore auditAdder paths outcomes entryId).2 := by
  obtain ⟨hthere, hmoves, hsidecar⟩ := hsucceeds e hfind
  obtain ⟨content, hfile⟩ := Option.isSome_iff_exists.mp hthere
  rw [restore_of_moved auditAdder paths hfind (relocate_of_succeed hfile hne hmoves), hsidecar]
  exact ⟨rfl, content, hfile, rfl, rfl, rfl⟩

end Effects

section Contents

variable {paths : Paths Place} {s s' : Store Place σ}

/-- An entry as `quarantine_file` makes it. -/
def Made (paths : Paths Place) (quarantineDir : ByteString) (e : QuarantineEntry) : Prop :=
  (∃ a b, e.entryId = generateEntryId a b) ∧
    e.quarantinePath = paths.join quarantineDir (e.entryId ++ (".bin" : ByteString))

omit [DecidableEq Place] in
theorem Made.bin_eq_iff {quarantineDir : ByteString} (hnames : paths.NamesApart quarantineDir)
    {e e' : QuarantineEntry} (he : Made paths quarantineDir e)
    (he' : Made paths quarantineDir e') :
    paths.locate e.quarantinePath = paths.locate e'.quarantinePath ↔ e.entryId = e'.entryId := by
  obtain ⟨⟨a, b, hid⟩, hpath⟩ := he
  obtain ⟨⟨a', b', hid'⟩, hpath'⟩ := he'
  rw [hpath, hpath']
  constructor
  · intro h
    exact List.append_cancel_right
      (hnames ⟨a, b, .inl (by rw [hid])⟩ ⟨a', b', .inl (by rw [hid'])⟩ h)
  · intro h
    rw [h]

omit [DecidableEq Place] in
theorem Made.bin_ne_meta {quarantineDir : ByteString} (hnames : paths.NamesApart quarantineDir)
    {e e' : QuarantineEntry} (he : Made paths quarantineDir e)
    (he' : Made paths quarantineDir e') :
    paths.locate e.quarantinePath ≠ paths.locate (metaPath paths quarantineDir e') := by
  obtain ⟨⟨a, b, hid⟩, hpath⟩ := he
  obtain ⟨⟨a', b', hid'⟩, -⟩ := he'
  rw [hpath]
  intro h
  exact Containment.bin_ne_meta _ _
    (hnames ⟨a, b, .inl (by rw [hid])⟩ ⟨a', b', .inr (by rw [hid'])⟩ h)

/-- What the `.bin` of every entry contains while it is there.  The file of one entry can be taken
in as another entry, which then has the same content to bring back. -/
structure Consistent (paths : Paths Place) (contents : ByteString → ByteString)
    (s : Store Place σ) : Prop where
  made : ∀ e ∈ s.quarantine.entries, Made paths s.quarantine.quarantineDir e
  nodup : (s.quarantine.entries.map QuarantineEntry.entryId).Nodup
  apart : ∀ e ∈ s.quarantine.entries,
    paths.locate e.quarantinePath ≠ paths.locate e.originalPath ∧
      paths.locate (metaPath paths s.quarantine.quarantineDir e) ≠ paths.locate e.originalPath
  held : ∀ e ∈ s.quarantine.entries, ∀ content,
    s.files (paths.locate e.quarantinePath) = some content → content = contents e.entryId
  handedOn : ∀ e ∈ s.quarantine.entries, ∀ e' ∈ s.quarantine.entries,
    paths.locate e'.originalPath = paths.locate e.quarantinePath →
      contents e'.entryId = contents e.entryId

variable {outcomes : Outcomes} {srcPath content : ByteString} {e : QuarantineEntry}
  {contents : ByteString → ByteString}

section TakesIn

variable (htakes : TakesIn paths outcomes srcPath s e content s')

include htakes

theorem TakesIn.made : Made paths s.quarantine.quarantineDir e :=
  ⟨⟨_, _, htakes.entryId⟩, htakes.quarantinePath⟩

theorem TakesIn.bin : paths.locate e.quarantinePath = s.entryPlace paths outcomes ".bin" := by
  rw [htakes.quarantinePath, htakes.entryId]
  rfl

theorem TakesIn.sidecar : paths.locate (metaPath paths s.quarantine.quarantineDir e) =
    s.entryPlace paths outcomes ".meta" := by
  rw [metaPath, htakes.entryId]
  rfl

theorem TakesIn.occupied {p : Place} (hfree : s.files p = none) : p ≠ paths.locate srcPath := by
  rintro rfl
  rw [htakes.source] at hfree
  exact absurd hfree (by simp)

theorem TakesIn.forall_entries {P : QuarantineEntry → Prop}
    (hold : ∀ e' ∈ s.quarantine.entries, P e') (hnew : P e) :
    ∀ e' ∈ s'.quarantine.entries, P e' := by
  intro e' he'
  rw [htakes.entries, List.mem_append, List.mem_singleton] at he'
  rcases he' with he' | rfl
  · exact hold e' he'
  · exact hnew

/-- Where the files of the new entry were free, its `.bin` has the content of the source, and that
of an older entry is as it was or gone. -/
theorem TakesIn.held (hnames : paths.NamesApart s.quarantine.quarantineDir)
    (hbinFree : s.files (s.entryPlace paths outcomes ".bin") = none) :
    s'.files (paths.locate e.quarantinePath) = some content ∧
      ∀ e', Made paths s.quarantine.quarantineDir e' → e'.entryId ≠ e.entryId → ∀ found,
        s'.files (paths.locate e'.quarantinePath) = some found →
          s.files (paths.locate e'.quarantinePath) = some found := by
  rw [htakes.files]
  constructor
  · have hapart : s.entryPlace paths outcomes ".bin" ≠ s.entryPlace paths outcomes ".meta" :=
      htakes.bin ▸ htakes.sidecar ▸ htakes.made.bin_ne_meta hnames htakes.made
    rw [htakes.bin, Function.update_of_ne hapart,
      Function.update_of_ne (htakes.occupied hbinFree), Function.update_self]
  · intro e' hmade' hid found hfound
    have hother : paths.locate e'.quarantinePath ≠ s.entryPlace paths outcomes ".bin" :=
      fun h => hid ((hmade'.bin_eq_iff hnames htakes.made).mp (h.trans htakes.bin.symm))
    rw [Function.update_of_ne (htakes.sidecar ▸ hmade'.bin_ne_meta hnames htakes.made)] at hfound
    by_cases hplace : paths.locate e'.quarantinePath = paths.locate srcPath
    · rw [hplace, Function.update_self] at hfound
      exact absurd hfound (by simp)
    · rwa [Function.update_of_ne hplace, Function.update_of_ne hother] at hfound

end TakesIn

/-- One more file is taken in. -/
theorem TakesIn.consistent (htakes : TakesIn paths outcomes srcPath s e content s')
    (hnames : paths.NamesApart s.quarantine.quarantineDir)
    (habsolute : ∀ path, paths.locate (paths.absolute path) = paths.locate path)
    {virusName : ByteString}
    (hfresh : s.DrawsFresh paths (.quarantineFile outcomes srcPath virusName))
    (hconsistent : s.Consistent paths contents) :
    s'.Consistent paths (Function.update contents e.entryId content) := by
  obtain ⟨hunused, hbinFree, hmetaFree⟩ := hfresh
  have horiginal : paths.locate e.originalPath = paths.locate srcPath := by
    rw [htakes.originalPath, habsolute]
  have hnew : ∀ e' ∈ s.quarantine.entries, e'.entryId ≠ e.entryId := fun e' he' =>
    htakes.entryId ▸ (hunused e' he').1
  have hcontents : ∀ e' ∈ s.quarantine.entries,
      Function.update contents e.entryId content e'.entryId = contents e'.entryId :=
    fun e' he' => Function.update_of_ne (hnew e' he') _ _
  obtain ⟨hheld, hheldOld⟩ := htakes.held hnames hbinFree
  constructor
  · rw [htakes.directory]
    exact htakes.forall_entries hconsistent.made htakes.made
  · rw [htakes.entries, List.map_append, List.map_singleton, List.nodup_append]
    refine ⟨hconsistent.nodup, List.nodup_singleton _, ?_⟩
    intro id hid id' hid'
    obtain ⟨e', he', rfl⟩ := List.mem_map.mp hid
    rw [List.mem_singleton.mp hid']
    exact hnew e' he'
  · rw [htakes.directory]
    refine htakes.forall_entries hconsistent.apart ?_
    rw [htakes.bin, htakes.sidecar, horiginal]
    exact ⟨htakes.occupied hbinFree, htakes.occupied hmetaFree⟩
  · refine htakes.forall_entries ?_ ?_
    · intro e' he' found hfound
      rw [hcontents e' he']
      exact hconsistent.held e' he' found
        (hheldOld e' (hconsistent.made e' he') (hnew e' he') found hfound)
    · intro found hfound
      rw [Function.update_self, ← Option.some.inj (hheld.symm.trans hfound)]
  · refine htakes.forall_entries (fun e' he' => ?_) ?_
    · refine htakes.forall_entries (fun e'' he'' hplace => ?_) fun hplace => ?_
      · rw [hcontents e' he', hcontents e'' he'']
        exact hconsistent.handedOn e' he' e'' he'' hplace
      · -- the new entry has taken in the file of an older one
        rw [hcontents e' he', Function.update_self]
        exact hconsistent.held e' he' content (by rw [← hplace, horiginal, htakes.source])
    · refine htakes.forall_entries (fun e'' he'' hplace => ?_) fun _ => rfl
      exact absurd (hplace.trans htakes.bin) (hunused e'' he'').2

/-- A file is brought back. -/
theorem BringsBack.consistent (hbrings : BringsBack paths s e content s')
    (hnames : paths.NamesApart s.quarantine.quarantineDir) (he : e ∈ s.quarantine.entries)
    (hconsistent : s.Consistent paths contents) : s'.Consistent paths contents := by
  have hentries := hbrings.entries.trans
    (eraseP_eq_filter QuarantineEntry.entryId hconsistent.nodup e.entryId)
  have hmem : ∀ e' ∈ s'.quarantine.entries,
      e' ∈ s.quarantine.entries ∧ e'.entryId ≠ e.entryId := by
    intro e' he'
    rw [hentries, List.mem_filter, decide_eq_true_eq] at he'
    exact he'
  constructor
  · intro e' he'
    rw [hbrings.directory]
    exact hconsistent.made e' (hmem e' he').1
  · rw [hentries]
    exact hconsistent.nodup.sublist (List.filter_sublist.map _)
  · intro e' he'
    rw [hbrings.directory]
    exact hconsistent.apart e' (hmem e' he').1
  · intro e' he' found hfound
    obtain ⟨hold, hid⟩ := hmem e' he'
    have hmade := hconsistent.made e he
    have hmade' := hconsistent.made e' hold
    have hbin : paths.locate e'.quarantinePath ≠ paths.locate e.quarantinePath :=
      fun h => hid ((hmade'.bin_eq_iff hnames hmade).mp h)
    rw [hbrings.files, Function.update_of_ne (hmade'.bin_ne_meta hnames hmade),
      Function.update_of_ne hbin] at hfound
    by_cases hplace : paths.locate e'.quarantinePath = paths.locate e.originalPath
    · rw [hplace, Function.update_self] at hfound
      rw [← hconsistent.handedOn e' hold e he hplace.symm, ← Option.some.inj hfound]
      exact hconsistent.held e he content hbrings.bin
    · rw [Function.update_of_ne hplace] at hfound
      exact hconsistent.held e' hold found hfound
  · intro e' he' e'' he'' hplace
    exact hconsistent.handedOn e' (hmem e' he').1 e'' (hmem e'' he'').1 hplace

end Contents

section RoundTrip

variable {sha256 : Sha256} {auditAdder : AuditAdder σ} {paths : Paths Place} {s : Store Place σ}
  {e : QuarantineEntry}

omit [DecidableEq Place] in
theorem find_entry {contents : ByteString → ByteString}
    (hconsistent : s.Consistent paths contents) (he : e ∈ s.quarantine.entries) :
    (s.quarantine.entries.find? fun e' => e'.entryId = e.entryId) = some e := by
  cases hfind : s.quarantine.entries.find? fun e' => e'.entryId = e.entryId with
  | none =>
      have hnone := List.find?_eq_none.mp hfind e he
      simp at hnone
  | some found =>
      have hid : found.entryId = e.entryId := by simpa using List.find?_some hfind
      rw [List.inj_on_of_nodup_map hconsistent.nodup (List.mem_of_find?_eq_some hfind) he hid]

/-- A step of a run keeps what the entries that it leaves in the list stand for. -/
theorem perform_consistent (habsolute : ∀ path, paths.locate (paths.absolute path) =
      paths.locate path)
    (hnames : ∀ quarantineDir, paths.NamesApart quarantineDir) {operation : Operation}
    (hsucceeds : s.Succeeds paths operation) (hfresh : s.DrawsFresh paths operation)
    {contents : ByteString → ByteString} (hconsistent : s.Consistent paths contents) :
    ∃ contents', (s.perform sha256 auditAdder paths operation).Consistent paths contents' ∧
      ∀ e ∈ s.quarantine.entries, contents' e.entryId = contents e.entryId ∧
        ((∀ outcomes, operation ≠ .restore outcomes e.entryId) →
          e ∈ (s.perform sha256 auditAdder paths operation).quarantine.entries) := by
  cases operation with
  | quarantineFile outcomes srcPath virusName =>
      obtain ⟨content, htakes⟩ := @quarantineFile_takesIn Place σ _ sha256 auditAdder paths s
        outcomes srcPath virusName hsucceeds hfresh
      refine ⟨_, htakes.consistent (hnames _) habsolute hfresh hconsistent, fun e he => ⟨?_, ?_⟩⟩
      · exact Function.update_of_ne (htakes.entryId ▸ (hfresh.1 e he).1) _ _
      · intro _
        change e ∈ (quarantineFile sha256 auditAdder paths outcomes srcPath virusName
          s).2.quarantine.entries
        rw [htakes.entries]
        exact List.mem_append_left _ he
  | restore outcomes entryId =>
      cases hfind : s.quarantine.entries.find? fun e => e.entryId = entryId with
      | none =>
          have hcall := @restore_of_none _ _ _ auditAdder paths outcomes s entryId hfind
          refine ⟨contents, ?_, fun e he => ⟨rfl, fun _ => ?_⟩⟩
          · simpa only [perform, hcall] using hconsistent
          · simpa only [perform, hcall] using he
      | some found =>
          have hfound := List.mem_of_find?_eq_some hfind
          have hid : found.entryId = entryId := by simpa using List.find?_some hfind
          obtain ⟨-, content, hbrings⟩ := @restore_bringsBack Place σ _ auditAdder paths s outcomes
            entryId found hsucceeds hfind (hconsistent.apart found hfound).1
          refine ⟨contents, hbrings.consistent (hnames _) hfound hconsistent,
            fun e he => ⟨rfl, fun hother => ?_⟩⟩
          change e ∈ (restore auditAdder paths outcomes entryId s).2.quarantine.entries
          rw [hbrings.entries, eraseP_eq_filter QuarantineEntry.entryId hconsistent.nodup,
            List.mem_filter, decide_eq_true_eq]
          refine ⟨he, fun h => hother outcomes ?_⟩
          rw [h, hid]

variable {before between : List (Transition (Store Place σ) Operation)}
  {t : Transition (Store Place σ) Operation}

theorem exists_consistent (habsolute : ∀ path, paths.locate (paths.absolute path) =
      paths.locate path)
    (hnames : ∀ quarantineDir, paths.NamesApart quarantineDir)
    (htrace : Trace (quarantineRuns sha256 auditAdder paths) before s)
    (hsteps : ∀ u ∈ before,
      u.before.Succeeds paths u.label ∧ u.before.DrawsFresh paths u.label) :
    ∃ contents, s.Consistent paths contents := by
  refine htrace.guarded_invariant (I := fun s => ∃ contents, s.Consistent paths contents)
    (G := fun s operation => s.Succeeds paths operation ∧ s.DrawsFresh paths operation) ?_ ?_ hsteps
  · intro s hempty
    change s.quarantine.entries = [] at hempty
    refine ⟨fun _ => [], ?_, ?_, ?_, ?_, ?_⟩
    all_goals simp [hempty]
  · rintro s operation _ ⟨contents, hconsistent⟩ ⟨hsucceeds, hfresh⟩ rfl
    obtain ⟨contents', hconsistent', -⟩ := @perform_consistent _ _ _ sha256 auditAdder _ _
      habsolute hnames _ hsucceeds hfresh _ hconsistent
    exact ⟨contents', hconsistent'⟩

/-- From the step that takes a file in to the one that brings it back, the entry stays in the list
and its `.bin` contains nothing else. -/
theorem consistent_since (habsolute : ∀ path, paths.locate (paths.absolute path) =
      paths.locate path)
    (hnames : ∀ quarantineDir, paths.NamesApart quarantineDir)
    (htrace : Trace (quarantineRuns sha256 auditAdder paths) (before ++ t :: between) s)
    (hsteps : ∀ u ∈ before ++ t :: between,
      u.before.Succeeds paths u.label ∧ u.before.DrawsFresh paths u.label)
    {outcomes : Outcomes} {srcPath virusName : ByteString}
    (hlabel : t.label = .quarantineFile outcomes srcPath virusName)
    (he : (t.before.quarantineFile sha256 auditAdder paths outcomes srcPath virusName).1 = e)
    (hother : ∀ u ∈ between, ∀ outcomes', u.label ≠ .restore outcomes' e.entryId) :
    ∃ content, t.before.files (paths.locate srcPath) = some content ∧
      paths.locate e.originalPath = paths.locate srcPath ∧
      ∃ contents, s.Consistent paths contents ∧ e ∈ s.quarantine.entries ∧
        contents e.entryId = content := by
  obtain ⟨contents, hconsistent⟩ := exists_consistent habsolute hnames htrace.split.1
    fun u hu => hsteps u (by simp [hu])
  obtain ⟨hsucceeds, hfresh⟩ := hsteps t (by simp)
  rw [hlabel] at hsucceeds hfresh
  obtain ⟨content, htakes⟩ := @quarantineFile_takesIn _ _ _ sha256 auditAdder _ _ _ _ _ hsucceeds
    hfresh
  have hafter : t.after =
      (t.before.quarantineFile sha256 auditAdder paths outcomes srcPath virusName).2 := by
    have hstep : t.after = t.before.perform sha256 auditAdder paths t.label := htrace.split.2
    rw [hstep, hlabel]
    rfl
  rw [he, ← hafter] at htakes
  refine ⟨content, htakes.source, by rw [htakes.originalPath, habsolute], ?_⟩
  refine (htrace.since (J := fun s => ∃ contents, s.Consistent paths contents ∧
    e ∈ s.quarantine.entries ∧ contents e.entryId = content) ?_ ?_).1
  · refine ⟨_, htakes.consistent (hnames _) habsolute hfresh hconsistent, ?_,
      Function.update_self _ _ _⟩
    rw [htakes.entries]
    exact List.mem_append_right _ (List.mem_singleton_self e)
  · rintro u hu ⟨contents, hconsistent, hmem, hcontent⟩ hstep
    obtain ⟨hsucceeds, hfresh⟩ := hsteps u (by simp [hu])
    obtain ⟨contents', hconsistent', hkept⟩ := @perform_consistent _ _ _ sha256 auditAdder _ _
      habsolute hnames _ hsucceeds hfresh _ hconsistent
    obtain ⟨hsame, hstays⟩ := hkept e hmem
    have hnext : u.after = u.before.perform sha256 auditAdder paths u.label := hstep
    rw [hnext]
    exact ⟨contents', hconsistent', hstays (hother u hu), hsame.trans hcontent⟩

/-- What is quarantined comes back: in a run whose operations succeed and draw fresh entry ids,
`restore` puts the bytes back where they were, removes both files of the entry, and takes it out
of the list. -/
theorem quarantineFile_round_trip (sha256 : Sha256) (auditAdder : AuditAdder σ)
    (paths : Paths Place)
    (habsolute : ∀ path, paths.locate (paths.absolute path) = paths.locate path)
    (hnames : ∀ quarantineDir, paths.NamesApart quarantineDir)
    (before between : List (Transition (Store Place σ) Operation))
    (t : Transition (Store Place σ) Operation) (s : Store Place σ)
    (htrace : Trace (quarantineRuns sha256 auditAdder paths) (before ++ t :: between) s)
    (hsteps : ∀ u ∈ before ++ t :: between,
      u.before.Succeeds paths u.label ∧ u.before.DrawsFresh paths u.label)
    (outcomes outcomes' : Outcomes) (srcPath virusName : ByteString)
    (hlabel : t.label = .quarantineFile outcomes srcPath virusName) (e : QuarantineEntry)
    (he : (t.before.quarantineFile sha256 auditAdder paths outcomes srcPath virusName).1 = e)
    (hother : ∀ u ∈ between, ∀ outcomes, u.label ≠ .restore outcomes e.entryId)
    (hrestore : s.Succeeds paths (.restore outcomes' e.entryId)) :
    (s.restore auditAdder paths outcomes' e.entryId).1 = true ∧
      ∃ content, t.before.files (paths.locate srcPath) = some content ∧
        let s' := (s.restore auditAdder paths outcomes' e.entryId).2
        s'.files (paths.locate srcPath) = some content ∧
          s'.files (paths.locate e.quarantinePath) = none ∧
          s'.files (paths.locate (metaPath paths s.quarantine.quarantineDir e)) = none ∧
          s'.quarantine.entries = s.quarantine.entries.filter fun e' => e'.entryId ≠ e.entryId := by
  obtain ⟨content, hsource, horiginal, contents, hconsistent, hmem, hcontent⟩ :=
    consistent_since habsolute hnames htrace hsteps hlabel he hother
  obtain ⟨hbin, hmeta⟩ := hconsistent.apart e hmem
  obtain ⟨hrestored, found, hbrings⟩ := @restore_bringsBack _ _ _ auditAdder _ _ _ _ e hrestore
    (find_entry hconsistent hmem) hbin
  have hfound : found = content := (hconsistent.held e hmem found hbrings.bin).trans hcontent
  have hmade := hconsistent.made e hmem
  refine ⟨hrestored, content, hsource, ?_, ?_, ?_, ?_⟩
  · rw [hbrings.files, ← horiginal, Function.update_of_ne hmeta.symm,
      Function.update_of_ne hbin.symm, Function.update_self, hfound]
  · rw [hbrings.files, Function.update_of_ne (hmade.bin_ne_meta (hnames _) hmade),
      Function.update_self]
  · rw [hbrings.files, Function.update_self]
  · rw [hbrings.entries, eraseP_eq_filter QuarantineEntry.entryId hconsistent.nodup]

end RoundTrip

section Samples

def takeInvoice : Operation := .quarantineFile {} invoicePath "Eicar"

/-- The invoice in the quarantine. -/
def invoiceStore : Store ByteString (List (ByteString × ByteString)) :=
  inboxStore.perform zeroDigest noteEntry windowsPaths takeInvoice

theorem invoice_round_trip :
    ∃ content, inboxStore.files invoicePath = some content ∧
      (invoiceStore.restore noteEntry windowsPaths {} invoiceEntry.entryId).2.files invoicePath =
        some content := by
  have hstart : Trace (quarantineRuns zeroDigest noteEntry windowsPaths) [] inboxStore :=
    .start rfl
  have hstep : (quarantineRuns zeroDigest noteEntry windowsPaths).Step inboxStore takeInvoice
      invoiceStore := rfl
  have htrace := hstart.extend hstep
  have hsucceeds : inboxStore.Succeeds windowsPaths takeInvoice :=
    ⟨rfl, by decide +kernel, rfl, .inl rfl, rfl⟩
  have hfresh : inboxStore.DrawsFresh windowsPaths takeInvoice :=
    ⟨fun _ h => absurd h (by simp [inboxStore, World.store, inbox]), by decide +kernel,
      by decide +kernel⟩
  have hrestore : invoiceStore.Succeeds windowsPaths (.restore {} invoiceEntry.entryId) := by
    intro e hfind
    obtain rfl : invoiceEntry = e := Option.some.inj hfind
    exact ⟨by decide +kernel, .inl rfl, rfl⟩
  obtain ⟨-, content, hsource, hback, -⟩ := quarantineFile_round_trip zeroDigest noteEntry
    windowsPaths (fun _ => rfl) windowsPaths_namesApart [] [] _ invoiceStore htrace
    (by simpa using ⟨hsucceeds, hfresh⟩) {} {} invoicePath "Eicar" rfl invoiceEntry rfl
    (by simp) hrestore
  exact ⟨content, hsource, hback⟩

def secondPath : ByteString := "C:\\in\\second.exe"

/-- Two files in the inbox. -/
def twoFiles : Store ByteString (List (ByteString × ByteString)) :=
  { inboxStore with files := Function.update inboxStore.files secondPath (some newInvoice) }

def takeSecond : Operation := .quarantineFile {} secondPath "Eicar"

def bothTaken : Store ByteString (List (ByteString × ByteString)) :=
  (twoFiles.perform zeroDigest noteEntry windowsPaths takeInvoice).perform zeroDigest noteEntry
    windowsPaths takeSecond

/-- When the same entry id is drawn twice, the second file comes back in the place of the first. -/
theorem drawn_twice_not_restored :
    ∃ steps, Trace (quarantineRuns zeroDigest noteEntry windowsPaths) steps bothTaken ∧
      steps.map Transition.label = [takeInvoice, takeSecond] ∧
      (∀ t ∈ steps, t.before.Succeeds windowsPaths t.label) ∧
      bothTaken.Succeeds windowsPaths (.restore {} invoiceEntry.entryId) ∧
      bothTaken.files invoicePath = none ∧ twoFiles.files invoicePath = some oldInvoice ∧
      (bothTaken.restore noteEntry windowsPaths {} invoiceEntry.entryId).2.files invoicePath =
        some newInvoice := by
  have hstart : Trace (quarantineRuns zeroDigest noteEntry windowsPaths) [] twoFiles := .start rfl
  have hfirst : (quarantineRuns zeroDigest noteEntry windowsPaths).Step twoFiles takeInvoice
      (twoFiles.perform zeroDigest noteEntry windowsPaths takeInvoice) := rfl
  have hsecond : (quarantineRuns zeroDigest noteEntry windowsPaths).Step
      (twoFiles.perform zeroDigest noteEntry windowsPaths takeInvoice) takeSecond bothTaken := rfl
  have hsucceeds : twoFiles.Succeeds windowsPaths takeInvoice :=
    ⟨rfl, by decide +kernel, rfl, .inl rfl, rfl⟩
  have hthere : ((twoFiles.perform zeroDigest noteEntry windowsPaths takeInvoice).files
      secondPath).isSome = true := by
    decide +kernel
  have hsucceeds' : (twoFiles.perform zeroDigest noteEntry windowsPaths takeInvoice).Succeeds
      windowsPaths takeSecond :=
    ⟨rfl, hthere, rfl, .inl rfl, rfl⟩
  refine ⟨_, (hstart.extend hfirst).extend hsecond, rfl, ?_, ?_, by decide +kernel,
    by decide +kernel, by decide +kernel⟩
  · intro t ht
    simp only [List.nil_append, List.cons_append, List.mem_cons, List.not_mem_nil, or_false] at ht
    rcases ht with rfl | rfl
    · exact hsucceeds
    · exact hsucceeds'
  · intro e hfind
    have hfirst : (bothTaken.quarantine.entries.find? fun e =>
        e.entryId = invoiceEntry.entryId) = some invoiceEntry := by
      decide +kernel
    obtain rfl : invoiceEntry = e := Option.some.inj (hfirst.symm.trans hfind)
    exact ⟨by decide +kernel, .inl rfl, rfl⟩

end Samples

end Store

end Astartis.Containment
