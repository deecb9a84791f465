import Mathlib.Data.List.TakeWhile
import Astartis.AttributionReport

/-!
Where the report of a session is written: below the directory of the reports only if the id of
the session comes back to that directory when it leaves it.
-/

namespace Astartis.Attribution

open Audit
open ByteString
open Decoy
open LexicalPath
open Response

def parentName : ByteString := [46, 46]

namespace FileSystem

/-- The root names of Windows paths. -/
inductive WindowsRoot : ByteString → ByteString → Prop
  | drive (letter : UInt8) (rest : ByteString) (hletter : isLetter letter = true) :
      WindowsRoot (letter :: 58 :: rest) [letter, 58]
  | server (first second third : UInt8) (rest : ByteString)
      (hfirst : isWindowsSeparator first = true) (hsecond : isWindowsSeparator second = true)
      (hthird : isWindowsSeparator third = false) :
      WindowsRoot (first :: second :: third :: rest)
        (first :: second :: third :: rest.takeWhile fun b => !isWindowsSeparator b)
  | object (first fourth : UInt8) (rest : ByteString)
      (hfirst : isWindowsSeparator first = true) (hfourth : isWindowsSeparator fourth = true)
      (hrest : rest.head?.any isWindowsSeparator = false) :
      WindowsRoot (first :: 63 :: 63 :: fourth :: rest) [first, 63, 63]

theorem eq_of_isWindowsSeparator {b : UInt8} (hb : isWindowsSeparator b = true) :
    b = 47 ∨ b = 92 := by
  simpa [isWindowsSeparator] using hb

theorem WindowsRoot.windowsRootName_eq {path name : ByteString} (hroot : WindowsRoot path name) :
    windowsRootName path = name := by
  cases hroot with
  | drive letter rest hletter => simp [windowsRootName, hletter]
  | server first second third rest hfirst hsecond hthird =>
      have hdrive : (isLetter first && decide (second = 58)) = false := by
        rcases eq_of_isWindowsSeparator hsecond with rfl | rfl <;> simp
      simp [windowsRootName, hdrive, hfirst, hsecond, hthird]
  | object first fourth rest hfirst hfourth hrest =>
      have hmark : isWindowsSeparator 63 = false := by decide
      simp [windowsRootName, isObjectName, hfirst, hfourth, hrest, hmark]

theorem WindowsRoot.ne_nil {path name : ByteString} (hroot : WindowsRoot path name) :
    name ≠ [] := by
  cases hroot <;> exact List.cons_ne_nil _ _

theorem windowsRootName_cases (path : ByteString) :
    windowsRootName path = [] ∨ WindowsRoot path (windowsRootName path) := by
  rcases path with _ | ⟨first, _ | ⟨second, rest⟩⟩
  · exact .inl rfl
  · exact .inl rfl
  · rw [windowsRootName]
    split
    · rename_i hdrive
      obtain ⟨hletter, rfl⟩ : isLetter first = true ∧ second = 58 := by simpa using hdrive
      exact .inr (.drive first rest hletter)
    · split
      · rename_i hserver
        rcases rest with _ | ⟨third, rest⟩
        · simp at hserver
        · obtain ⟨⟨hfirst, hsecond⟩, hthird⟩ :
              (isWindowsSeparator first = true ∧ isWindowsSeparator second = true) ∧
                isWindowsSeparator third = false := by simpa using hserver
          rw [List.takeWhile_cons_of_pos (by simp [hthird])]
          exact .inr (.server first second third rest hfirst hsecond hthird)
      · split
        · rename_i hobject
          rcases rest with _ | ⟨third, _ | ⟨fourth, rest⟩⟩
          · simp [isObjectName] at hobject
          · simp [isObjectName] at hobject
          · obtain ⟨⟨hfirst, rfl⟩, ⟨rfl, hfourth⟩, hrest⟩ :
                (isWindowsSeparator first = true ∧ second = 63) ∧
                  (third = 63 ∧ isWindowsSeparator fourth = true) ∧
                    rest.head?.any isWindowsSeparator = false := by
              simpa [isObjectName] using hobject
            exact .inr (.object first fourth rest hfirst hfourth hrest)
        · exact .inl rfl

theorem isWindowsSeparator_letter {b : UInt8} (hb : isLetter b = true) :
    isWindowsSeparator b = false := by
  cases hseparator : isWindowsSeparator b with
  | false => rfl
  | true =>
      rcases eq_of_isWindowsSeparator hseparator with rfl | rfl
      · exact absurd hb (by decide)
      · exact absurd hb (by decide)

theorem posix_lawful : posix.grammar.Lawful where
  preferred := rfl
  starts := fun _ => List.nil_prefix
  directory := by
    intro path habs
    exact .inr (by simpa [Grammar.isAbsolute, grammar] using habs)
  named := fun _ _ _ _ => rfl

theorem windows_isAbsolute (path : ByteString) : windows.grammar.isAbsolute path =
    ((windowsRootName path).head?.any isWindowsSeparator ||
      (windows.grammar.hasRootDirectory path && !(windowsRootName path).isEmpty)) :=
  rfl

theorem windows_named {path : ByteString} (habs : windows.grammar.isAbsolute path = true) :
    WindowsRoot path (windowsRootName path) := by
  refine (windowsRootName_cases path).resolve_left fun hnone => ?_
  simp [windows_isAbsolute, hnone] at habs

theorem windows_starts (path : ByteString) : windowsRootName path <+: path := by
  rcases windowsRootName_cases path with hnone | hroot
  · rw [hnone]
    exact List.nil_prefix
  · generalize windowsRootName path = name at hroot
    cases hroot with
    | drive letter rest => exact ⟨rest, rfl⟩
    | server first second third rest =>
        exact ⟨rest.dropWhile _, congrArg (first :: second :: third :: ·)
          List.takeWhile_append_dropWhile⟩
    | object first fourth rest => exact ⟨fourth :: rest, rfl⟩

theorem windows_directory {path : ByteString}
    (habs : windows.grammar.isAbsolute path = true) :
    windows.grammar.behind path = [] ∨ windows.grammar.hasRootDirectory path = true := by
  have hroot := windows_named habs
  have hbehind : windows.grammar.behind path = path.drop (windowsRootName path).length := rfl
  have hdirectory : windows.grammar.hasRootDirectory path =
    (path.drop (windowsRootName path).length).head?.any isWindowsSeparator := rfl
  rw [windows_isAbsolute, hdirectory] at habs
  rw [hbehind, hdirectory]
  generalize windowsRootName path = name at hroot habs
  cases hroot with
  | drive letter rest hletter =>
      have hself : ([letter, 58] : ByteString).head?.any isWindowsSeparator = false :=
        isWindowsSeparator_letter hletter
      rw [hself, Bool.false_or, Bool.and_eq_true] at habs
      exact .inr habs.1
  | server first second third rest =>
      have hdrop := congrArg
        (List.drop (rest.takeWhile fun b => !isWindowsSeparator b).length)
        (List.takeWhile_append_dropWhile (p := fun b => !isWindowsSeparator b) (l := rest))
      rw [List.drop_left] at hdrop
      have hhead := rest.find?_eq_head?_dropWhile_not isWindowsSeparator
      simp only [List.length_cons, List.drop_succ_cons, ← hdrop, ← hhead]
      cases hfind : rest.find? isWindowsSeparator with
      | none => exact .inl (List.head?_eq_none_iff.mp (hhead.symm.trans hfind))
      | some b => exact .inr (show isWindowsSeparator b = true from List.find?_some hfind)
  | object first fourth rest hfirst hfourth => exact .inr hfourth

theorem windows_lawful : windows.grammar.Lawful where
  preferred := by decide
  starts := windows_starts
  directory := fun _ => windows_directory
  named := by
    intro path other habs hnone
    exact absurd hnone (windows_named habs).ne_nil

theorem grammar_lawful (fs : FileSystem) : fs.grammar.Lawful := by
  cases fs with
  | posix => exact posix_lawful
  | windows => exact windows_lawful

theorem windows_anchored {path : ByteString} (habs : windows.grammar.isAbsolute path = true)
    (hordinary : path[1]? ≠ some 63) : windows.grammar.Anchored path where
  absolute := habs
  ends := by
    intro rest hrest
    have hroot := windows_named habs
    show windowsRootName (windowsRootName path ++ rest) = windowsRootName path
    generalize windowsRootName path = name at hroot ⊢
    cases hroot with
    | drive letter tail hletter => exact (WindowsRoot.drive letter rest hletter).windowsRootName_eq
    | server first second third tail hfirst hsecond hthird =>
        have hplain : ∀ b ∈ tail.takeWhile fun b => !isWindowsSeparator b,
            (!isWindowsSeparator b) = true := List.all_eq_true.mp List.all_takeWhile
        have hstop : rest.takeWhile (fun b => !isWindowsSeparator b) = [] := by
          cases rest with
          | nil => rfl
          | cons b rest =>
              have hb : isWindowsSeparator b = true := hrest
              simp [hb]
        have hname := (WindowsRoot.server first second third
          ((tail.takeWhile fun b => !isWindowsSeparator b) ++ rest)
          hfirst hsecond hthird).windowsRootName_eq
        rw [List.takeWhile_append_of_pos hplain, hstop, List.append_nil] at hname
        exact hname
    | object first fourth tail => exact absurd rfl hordinary

section Opened

theorem isWindowsSeparator_head_dropWhile (path : ByteString) :
    (path.dropWhile (· ≠ 0)).head?.any isWindowsSeparator = false := by
  induction path with
  | nil => rfl
  | cons b path ih =>
      rw [List.dropWhile_cons]
      split
      · exact ih
      · rename_i hb
        obtain rfl : b = 0 := by simpa using hb
        rfl

theorem openedPath_cons {b : UInt8} (hb : b ≠ 0) (path : ByteString) :
    openedPath (b :: path) = b :: openedPath path :=
  List.takeWhile_cons_of_pos (by simpa using hb)

theorem letter_ne_zero {b : UInt8} (hb : isLetter b = true) : b ≠ 0 := by
  rintro rfl
  exact absurd hb (by decide)

theorem separator_ne_zero {b : UInt8} (hb : isWindowsSeparator b = true) : b ≠ 0 := by
  rintro rfl
  exact absurd hb (by decide)

/-- Bytes behind a path do not take its root name away. -/
theorem WindowsRoot.extend {path name tail : ByteString} (hroot : WindowsRoot path name)
    (htail : tail.head?.any isWindowsSeparator = false) :
    ∃ longer, WindowsRoot (path ++ tail) longer := by
  cases hroot with
  | drive letter rest hletter => exact ⟨_, .drive letter (rest ++ tail) hletter⟩
  | server first second third rest hfirst hsecond hthird =>
      exact ⟨_, .server first second third (rest ++ tail) hfirst hsecond hthird⟩
  | object first fourth rest hfirst hfourth hrest =>
      have hhead : (rest ++ tail).head?.any isWindowsSeparator = false := by
        cases rest with
        | nil => exact htail
        | cons b rest => exact hrest
      exact ⟨_, .object first fourth (rest ++ tail) hfirst hfourth hhead⟩

theorem takeWhile_openedPath {p : UInt8 → Bool} {path : ByteString}
    (hwhole : (0 : UInt8) ∉ path.takeWhile p) :
    (openedPath path).takeWhile p = path.takeWhile p := by
  induction path with
  | nil => rfl
  | cons b path ih =>
      cases hp : p b with
      | false =>
          rw [List.takeWhile_cons_of_neg (by simp [hp])]
          by_cases hb : b = 0
          · subst hb
            rfl
          · rw [openedPath_cons hb, List.takeWhile_cons_of_neg (by simp [hp])]
      | true =>
          rw [List.takeWhile_cons_of_pos hp, List.mem_cons, not_or] at hwhole
          rw [openedPath_cons (Ne.symm hwhole.1), List.takeWhile_cons_of_pos hp,
            List.takeWhile_cons_of_pos hp, ih hwhole.2]

/-- A root name without a null byte is there in the path that is opened. -/
theorem windowsRootName_openedPath {path : ByteString}
    (hwhole : (0 : UInt8) ∉ windowsRootName path) :
    windowsRootName (openedPath path) = windowsRootName path := by
  rcases windowsRootName_cases path with hnone | hroot
  · rw [hnone]
    refine (windowsRootName_cases (openedPath path)).resolve_right fun hroot => ?_
    obtain ⟨longer, hlong⟩ := hroot.extend (isWindowsSeparator_head_dropWhile path)
    rw [openedPath, List.takeWhile_append_dropWhile] at hlong
    exact hlong.ne_nil (hlong.windowsRootName_eq.symm.trans hnone)
  · generalize windowsRootName path = name at hroot hwhole ⊢
    cases hroot with
    | drive letter rest hletter =>
        rw [openedPath_cons (letter_ne_zero hletter), openedPath_cons (by decide)]
        exact (WindowsRoot.drive letter (openedPath rest) hletter).windowsRootName_eq
    | server first second third rest hfirst hsecond hthird =>
        have hthird' : third ≠ 0 := by
          rintro rfl
          simp at hwhole
        have hkept : (openedPath rest).takeWhile (fun b => !isWindowsSeparator b) =
            rest.takeWhile fun b => !isWindowsSeparator b :=
          takeWhile_openedPath fun hzero => hwhole (by simp [hzero])
        rw [openedPath_cons (separator_ne_zero hfirst),
          openedPath_cons (separator_ne_zero hsecond), openedPath_cons hthird', ← hkept]
        exact (WindowsRoot.server first second third (openedPath rest) hfirst hsecond
          hthird).windowsRootName_eq
    | object first fourth rest hfirst hfourth hrest =>
        have hopened : (openedPath rest).head?.any isWindowsSeparator = false :=
          (Grammar.head?_any_takeWhile (fun _ hb => decide_eq_true (separator_ne_zero hb))
            rest).trans hrest
        rw [openedPath_cons (separator_ne_zero hfirst), openedPath_cons (by decide),
          openedPath_cons (by decide), openedPath_cons (separator_ne_zero hfourth)]
        exact (WindowsRoot.object first fourth (openedPath rest) hfirst hfourth
          hopened).windowsRootName_eq

/-- A root name with a null byte makes the path absolute; cut at that byte, the path stays so
or has no name left. -/
theorem openedPath_of_cut {path : ByteString} (hcut : (0 : UInt8) ∈ windowsRootName path) :
    windows.grammar.isAbsolute path = true ∧
      (windows.grammar.isAbsolute (openedPath path) = true ∨
        windowsRootName (openedPath path) = [] ∧
          windows.grammar.names (windows.grammar.behind (openedPath path)) = []) := by
  have habs : ∀ {path name : ByteString}, WindowsRoot path name →
      name.head?.any isWindowsSeparator = true → windows.grammar.isAbsolute path = true := by
    intro path name hroot hhead
    rw [windows_isAbsolute, hroot.windowsRootName_eq, hhead, Bool.true_or]
  rcases windowsRootName_cases path with hnone | hroot
  · simp [hnone] at hcut
  · generalize windowsRootName path = name at hroot hcut
    cases hroot with
    | drive letter rest hletter =>
        have hzero : (0 : UInt8) = letter := by simpa using hcut
        exact absurd hzero.symm (letter_ne_zero hletter)
    | server first second third rest hfirst hsecond hthird =>
        refine ⟨habs (.server first second third rest hfirst hsecond hthird) hfirst, ?_⟩
        rw [openedPath_cons (separator_ne_zero hfirst),
          openedPath_cons (separator_ne_zero hsecond)]
        by_cases hzero : third = 0
        · have hend : openedPath (0 :: rest) = [] := rfl
          rw [hzero, hend]
          right
          rcases eq_of_isWindowsSeparator hfirst with rfl | rfl <;>
            rcases eq_of_isWindowsSeparator hsecond with rfl | rfl <;> decide
        · rw [openedPath_cons hzero]
          exact .inl (habs (.server first second third _ hfirst hsecond hthird) hfirst)
    | object first fourth rest hfirst =>
        have hzero : (0 : UInt8) = first := by simpa using hcut
        exact absurd hzero.symm (separator_ne_zero hfirst)

end Opened

/-- A sandbox root as a reporter is given it: an absolute path, on Windows on a drive or a
server. -/
structure IsSandboxRoot (fs : FileSystem) (sandboxRoot : ByteString) : Prop where
  absolute : fs.grammar.isAbsolute sandboxRoot = true
  ordinary : fs = .windows → sandboxRoot[1]? ≠ some 63
  whole : (0 : UInt8) ∉ sandboxRoot

theorem IsSandboxRoot.anchored {fs : FileSystem} {sandboxRoot : ByteString}
    (hroot : fs.IsSandboxRoot sandboxRoot) : fs.grammar.Anchored sandboxRoot := by
  cases fs with
  | posix => exact ⟨hroot.absolute, fun _ _ => rfl⟩
  | windows => exact windows_anchored hroot.absolute (hroot.ordinary rfl)

theorem separator_kept {fs : FileSystem} {b : UInt8}
    (hb : fs.grammar.isSeparator b = true) : decide (b ≠ 0) = true := by
  cases fs with
  | posix =>
      obtain rfl : b = 47 := by simpa [grammar] using hb
      rfl
  | windows => exact decide_eq_true (separator_ne_zero hb)

/-- The path that is opened leads below a directory exactly if what the stream reads of the
appended text comes back to it. -/
theorem below_openedPath_append_iff {fs : FileSystem} {directory other : ByteString}
    (hanchored : fs.grammar.Anchored directory) (hwhole : (0 : UInt8) ∉ directory) :
    fs.grammar.Below parentName directory (openedPath (fs.grammar.append directory other)) ↔
      fs.grammar.ComesBack parentName directory (openedPath other) := by
  have hkept : ∀ c ∈ directory, decide (c ≠ 0) = true := by
    intro c hc
    exact decide_eq_true fun hzero => hwhole (hzero ▸ hc)
  have hcommutes : fs.grammar.rootName (openedPath other) = fs.grammar.rootName other →
      fs.grammar.append directory (openedPath other) =
        openedPath (fs.grammar.append directory other) :=
    (grammar_lawful fs).append_takeWhile (fun _ => separator_kept) hkept
  by_cases hcut : (0 : UInt8) ∈ fs.grammar.rootName other
  · cases fs with
    | posix => exact absurd hcut List.not_mem_nil
    | windows =>
        obtain ⟨habs, hopened⟩ := openedPath_of_cut hcut
        rw [Grammar.append, if_pos (.inl habs)]
        rcases hopened with hopened | ⟨hname, hnames⟩
        · have happend : windows.grammar.Below parentName directory
                (windows.grammar.append directory (openedPath other)) ↔ _ :=
            windows_lawful.below_append_iff hanchored
          rwa [Grammar.append, if_pos (.inl hopened)] at happend
        · -- two separators in front of the null byte lead nowhere
          have hplace : (windows.grammar.place parentName (openedPath other)).names = [] := by
            rw [Grammar.place, hnames]
            rfl
          refine iff_of_false (fun hbelow => ?_) fun hback => ?_
          · have hleads := hbelow.2.2.2.2
            rw [hplace] at hleads
            exact Nat.not_lt_zero _ hleads
          · rw [Grammar.ComesBack, hplace] at hback
            split at hback
            · exact Nat.not_lt_zero _ hback.2.2
            · exact Nat.not_lt_zero _ hback.2.2
  · have hname : fs.grammar.rootName (openedPath other) = fs.grammar.rootName other := by
      cases fs with
      | posix => rfl
      | windows => exact windowsRootName_openedPath hcut
    rw [← hcommutes hname]
    exact (grammar_lawful fs).below_append_iff hanchored

theorem reportsDir_relative (fs : FileSystem) (sandboxRoot : ByteString) :
    ¬ fs.grammar.Replaces sandboxRoot "reports" ∧
      fs.grammar.hasRootDirectory "reports" = false := by
  have hplain : fs.grammar.rootName "reports" = [] ∧
      fs.grammar.isAbsolute "reports" = false ∧
      fs.grammar.hasRootDirectory "reports" = false := by
    cases fs <;> decide
  refine ⟨?_, hplain.2.2⟩
  rintro (habs | hname)
  · exact absurd habs (by simp [hplain.2.1])
  · exact hname.1 hplain.1

theorem IsSandboxRoot.reportsDir_anchored {fs : FileSystem} {sandboxRoot : ByteString}
    (hroot : fs.IsSandboxRoot sandboxRoot) :
    fs.grammar.Anchored (reportsDir fs sandboxRoot) := by
  obtain ⟨hreplaces, hdirectory⟩ := reportsDir_relative fs sandboxRoot
  obtain ⟨rest, happend, hrest, -⟩ :=
    (grammar_lawful fs).append_relative hroot.absolute hreplaces hdirectory
  rw [reportsDir, happend]
  exact hroot.anchored.append hrest

theorem IsSandboxRoot.reportsDir_whole {fs : FileSystem} {sandboxRoot : ByteString}
    (hroot : fs.IsSandboxRoot sandboxRoot) : (0 : UInt8) ∉ reportsDir fs sandboxRoot := by
  intro hzero
  rcases (grammar_lawful fs).mem_append hzero with hzero | hzero | hzero
  · exact hroot.whole hzero
  · cases fs <;> exact absurd hzero (by decide)
  · exact absurd hzero (by decide)

section PlainNames

variable {name : ByteString}

theorem rootName_of_plain {fs : FileSystem}
    (hplain : ∀ b ∈ name, fs.grammar.isSeparator b = false ∧ b ≠ 58) :
    fs.grammar.rootName name = [] := by
  cases fs with
  | posix => rfl
  | windows =>
      refine (windowsRootName_cases name).resolve_right fun hroot => ?_
      have hfirst : ∀ first rest, isWindowsSeparator first = true → name ≠ first :: rest := by
        rintro first rest hseparator rfl
        exact absurd (hplain first List.mem_cons_self).1 (by simp [grammar, hseparator])
      generalize windowsRootName name = root at hroot
      cases hroot with
      | drive letter rest => exact (hplain 58 (by simp)).2 rfl
      | server first second third rest hseparator => exact hfirst _ _ hseparator rfl
      | object first fourth rest hseparator => exact hfirst _ _ hseparator rfl

/-- A name without separators, drives and null bytes stays where it is put. -/
theorem comesBack_of_plain {fs : FileSystem} {directory : ByteString}
    (hplain : ∀ b ∈ name, fs.grammar.isSeparator b = false ∧ b ≠ 58 ∧ b ≠ 0)
    (hname : 2 < name.length) :
    fs.grammar.ComesBack parentName directory (openedPath name) := by
  have hroot := rootName_of_plain fun b hb => ⟨(hplain b hb).1, (hplain b hb).2.1⟩
  have hopened : openedPath name = name :=
    List.takeWhile_eq_self_iff.mpr fun b hb => decide_eq_true (hplain b hb).2.2
  have hbehind : fs.grammar.behind name = name := by
    rw [Grammar.behind, hroot]
    rfl
  have hlong : name ≠ [] ∧ name ≠ fs.grammar.here ∧ name ≠ parentName := by
    refine ⟨?_, ?_, ?_⟩
    · exact List.ne_nil_of_length_pos (by omega)
    · intro hhere
      cases fs <;> exact absurd hname (by simp [hhere, grammar])
    · intro hparent
      exact absurd hname (by simp [hparent, parentName])
  have hnames : fs.grammar.names name = [name] := by
    rw [Spelling.names_component fun b hb => (hplain b hb).1]
    simp [hlong.1, hlong.2.1]
  have hdirectory : fs.grammar.hasRootDirectory name = false := by
    obtain ⟨first, rest, hfirst⟩ := List.exists_cons_of_ne_nil hlong.1
    rw [Grammar.hasRootDirectory, hbehind, hfirst]
    exact (hplain first (by simp [hfirst])).1
  have habs : fs.grammar.isAbsolute name = false := by
    rw [Grammar.isAbsolute, hroot, hdirectory]
    cases fs <;> rfl
  have hplace : fs.grammar.place parentName name = ⟨false, 0, [name]⟩ := by
    rw [Grammar.place, hbehind, hnames, habs, hdirectory, List.foldl_cons, Place.enter,
      if_neg hlong.2.2]
    rfl
  rw [hopened, Grammar.ComesBack, hplace]
  simp [hroot, LeadsThrough]

end PlainNames

end FileSystem

section Confinement

variable {σ : Type} (auditAdder : AuditAdder σ)

/-- Whatever a report of the session is written to lies below the directory of the reports. -/
def ReportsConfined (fs : FileSystem) (sandboxRoot sessionId : ByteString) : Prop :=
  ∀ env decoyLog responseLog world generated file text,
    (generate auditAdder fs sandboxRoot env sessionId decoyLog responseLog world).1 =
      some generated →
    generated.written = some (file, text) →
    fs.grammar.Below parentName (reportsDir fs sandboxRoot) file

theorem written_eq {fs : FileSystem} {sandboxRoot sessionId : ByteString} {env : Environment}
    {decoyLog : List DecoyEvent} {responseLog : List ResponseEvent} {world : σ}
    {generated : Generated} {file text : ByteString}
    (hgenerate : (generate auditAdder fs sandboxRoot env sessionId decoyLog responseLog
      world).1 = some generated)
    (hwritten : generated.written = some (file, text)) :
    file = openedPath (reportFile fs sandboxRoot sessionId) := by
  rw [generate] at hgenerate
  split at hgenerate
  · obtain rfl := Option.some.inj hgenerate
    simp only [Option.ite_none_right_eq_some, Option.some.injEq, Prod.mk.injEq] at hwritten
    exact hwritten.2.1.symm
  · nomatch hgenerate

variable {fs : FileSystem} {sandboxRoot sessionId : ByteString}

theorem reportsConfined_of_comesBack (hroot : fs.IsSandboxRoot sandboxRoot)
    (hback : fs.grammar.ComesBack parentName (reportsDir fs sandboxRoot)
      (openedPath (sessionId ++ (".txt" : ByteString)))) :
    ReportsConfined auditAdder fs sandboxRoot sessionId := by
  intro env decoyLog responseLog world generated file text hgenerate hwritten
  rw [written_eq auditAdder hgenerate hwritten]
  exact (FileSystem.below_openedPath_append_iff hroot.reportsDir_anchored
    hroot.reportsDir_whole).mpr hback

/-- The id of a session that is a plain file name keeps its reports where they belong. -/
theorem reportsConfined_of_plain (hroot : fs.IsSandboxRoot sandboxRoot)
    (hplain : ∀ b ∈ sessionId, fs.grammar.isSeparator b = false ∧ b ≠ 58 ∧ b ≠ 0) :
    ReportsConfined auditAdder fs sandboxRoot sessionId := by
  have htext : ofString ".txt" = [46, 116, 120, 116] := by decide
  have hextension : ∀ b ∈ ofString ".txt",
      fs.grammar.isSeparator b = false ∧ b ≠ 58 ∧ b ≠ 0 := by
    rw [htext]
    cases fs <;> simp [FileSystem.grammar, FileSystem.isWindowsSeparator]
  refine reportsConfined_of_comesBack auditAdder hroot
    (FileSystem.comesBack_of_plain (fun b hb => ?_) ?_)
  · exact (List.mem_append.mp hb).elim (hplain b) (hextension b)
  · rw [List.length_append, htext]
    exact Nat.lt_add_left _ (by decide)

/-- A report is confined exactly if the name of its file comes back to the directory of the
reports. -/
theorem reportsConfined_iff (hroot : fs.IsSandboxRoot sandboxRoot) (sessionId : ByteString)
    (world : σ) :
    ReportsConfined auditAdder fs sandboxRoot sessionId ↔
      fs.grammar.ComesBack parentName (reportsDir fs sandboxRoot)
        (openedPath (sessionId ++ (".txt" : ByteString))) := by
  refine ⟨fun hconfined => ?_, reportsConfined_of_comesBack auditAdder hroot⟩
  exact (FileSystem.below_openedPath_append_iff hroot.reportsDir_anchored
    hroot.reportsDir_whole).mp (hconfined ⟨0, true, true⟩ [] [] world _ _ _ rfl rfl)

theorem demoReports_confined :
    ReportsConfined noteEntry .windows "C:\\Temp\\astartis_demo" "demo-atk" :=
  (reportsConfined_iff noteEntry
    ⟨by decide, fun _ => by decide, by decide⟩ "demo-atk" []).mpr (by decide)

/-- Two steps out of the directory lead to the neighbours of the sandbox. -/
theorem climbingReport_not_confined :
    ¬ ReportsConfined noteEntry .windows "C:\\Temp\\astartis_demo" "..\\..\\startup" := by
  intro hconfined
  have hbelow := hconfined ⟨0, true, true⟩ [] [] [] _ _ _ rfl rfl
  exact absurd hbelow (by decide)

end Confinement

end Astartis.Attribution
