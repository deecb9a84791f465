import Astartis.DashboardServer
import Astartis.ShellText

/-!
The commands of `handle_exec`.  One filter of characters stands in front of three routes: a
process of its own, `cmd.exe` and PowerShell.
-/

namespace Astartis.Dashboard

open ByteString
open ShellText

def powershell : Interpreter where
  separators := ";|&\n\r"
  redirections := "<>"
  Substitutes := fun text => (∃ b ∈ text, b ∈ ("$`()\x7b\x7d" : ByteString)) ∨ Prefixed 64 text

def cmdExe : Interpreter where
  separators := "&|\n\r"
  redirections := "<>"
  Substitutes := fun text => Marked 37 text ∨ Marked 33 text

/-- Who reads a command, and what stands around it in the command line. -/
structure Launcher where
  interpreter : Interpreter := {}
  opening : ByteString := []
  closing : ByteString := []

def SafeCmd.launcher (matched : SafeCmd) : Launcher :=
  if matched.needsPs then
    { interpreter := powershell
      opening := "powershell.exe -NoProfile -NonInteractive -Command \""
      closing := "\"" }
  else if matched.needsCmdC then { interpreter := cmdExe, opening := "cmd.exe /c " }
  else {}

structure RunsOneCommand (cmd : ByteString) (matched : SafeCmd) : Prop where
  line : fullCmd cmd matched = matched.launcher.opening ++ cmd ++ matched.launcher.closing
  single : SingleCommand matched.launcher.interpreter matched.pfx cmd
  enclosed : matched.needsPs = true → endsQuoting false cmd = false

/-- What the filter lets through although an interpreter gives it a meaning does not occur:
line breaks for both, variables between percent signs for `cmd.exe`, and for PowerShell
variables behind `@` and quotes that are not escaped. -/
structure FilterSuffices (cmd : ByteString) (matched : SafeCmd) : Prop where
  lineBreaks : matched.needsPs = true ∨ matched.needsCmdC = true → 10 ∉ cmd ∧ 13 ∉ cmd
  percent : matched.needsPs = false → matched.needsCmdC = true → ¬ Marked 37 cmd
  splat : matched.needsPs = true → ¬ Prefixed 64 cmd
  quotes : matched.needsPs = true → QuotesEscaped cmd

section Filter

variable {cmd : ByteString} {matched : SafeCmd}

theorem acceptCmd_ok_iff :
    acceptCmd cmd = .ok matched ↔
      (∀ b ∈ cmd, isBadChar b = false) ∧ safeCmds.find? (SafeCmd.isMatch cmd) = some matched := by
  simp only [acceptCmd]
  split
  · rename_i hbad
    obtain ⟨b, hb, hrefused⟩ := List.any_eq_true.mp hbad
    refine iff_of_false (by simp) fun h => ?_
    rw [h.1 b hb] at hrefused
    exact absurd hrefused (by simp)
  · rename_i hgood
    have hpassed : ∀ b ∈ cmd, isBadChar b = false := by simpa using hgood
    cases hfind : safeCmds.find? (SafeCmd.isMatch cmd) with
    | none => simp
    | some found => simpa using fun _ => hpassed

/-- No entry of the list has a blank in it, so that the entry is the first word. -/
theorem programOf_of_match (hmatch : safeCmds.find? (SafeCmd.isMatch cmd) = some matched) :
    programOf cmd = matched.pfx := by
  have hblank : ∀ safe ∈ safeCmds, (safe.pfx.all fun b => decide (b ≠ 32)) = true := by
    decide +kernel
  have hpfx := List.all_eq_true.mp (hblank matched (List.mem_of_find?_eq_some hmatch))
  have hcmd : SafeCmd.isMatch cmd matched = true := by
    simpa using List.find?_some hmatch
  rw [SafeCmd.isMatch, Bool.and_eq_true, List.isPrefixOf_iff_prefix, Bool.or_eq_true] at hcmd
  obtain ⟨⟨rest, rfl⟩, hend⟩ := hcmd
  rw [programOf, List.takeWhile_append_of_pos hpfx]
  rcases rest with _ | ⟨b, rest⟩
  · simp
  · have hb : b = 32 := by simpa using hend
    simp [hb]

/-- Of the separators and redirections of an interpreter the filter misses the line breaks. -/
theorem single_iff (interpreter : Interpreter) (hpassed : ∀ b ∈ cmd, isBadChar b = false)
    (hprogram : programOf cmd = matched.pfx)
    (hseparators : interpreter.separators.filter (fun b => !isBadChar b) = [10, 13])
    (hredirections : interpreter.redirections.filter (fun b => !isBadChar b) = []) :
    SingleCommand interpreter matched.pfx cmd ↔
      (10 ∉ cmd ∧ 13 ∉ cmd) ∧ ¬ interpreter.Substitutes cmd := by
  constructor
  · intro h
    have hfree := (free_iff_of_filter _ hpassed).mp h.separators
    rw [hseparators] at hfree
    exact ⟨⟨fun hmem => hfree 10 hmem (by simp), fun hmem => hfree 13 hmem (by simp)⟩,
      h.substitution⟩
  · rintro ⟨⟨hlf, hcr⟩, hsubstitution⟩
    refine ⟨hprogram, ?_, ?_, hsubstitution⟩
    · rw [free_iff_of_filter _ hpassed, hseparators]
      intro b hb hmem
      simp only [List.mem_cons, List.not_mem_nil, or_false] at hmem
      rcases hmem with rfl | rfl
      · exact hlf hb
      · exact hcr hb
    · rw [free_iff_of_filter _ hpassed, hredirections]
      simp

theorem powershell_substitutes_iff (hpassed : ∀ b ∈ cmd, isBadChar b = false) :
    powershell.Substitutes cmd ↔ Prefixed 64 cmd := by
  apply or_iff_right
  rintro ⟨b, hb, hmem⟩
  have hall : ∀ b ∈ ("$`()\x7b\x7d" : ByteString), isBadChar b = true :=
    forall_mem_of_all (by decide +kernel)
  exact absurd (hpassed b hb) (by rw [hall b hmem]; simp)

theorem cmdExe_substitutes_iff (hpassed : ∀ b ∈ cmd, isBadChar b = false) :
    cmdExe.Substitutes cmd ↔ Marked 37 cmd := by
  apply or_iff_left
  intro h
  exact absurd (hpassed 33 h.mem) (by decide +kernel)

theorem SafeCmd.launcher_ps (hneedsPs : matched.needsPs = true) :
    matched.launcher.interpreter = powershell ∧
      fullCmd cmd matched = matched.launcher.opening ++ cmd ++ matched.launcher.closing := by
  simp only [launcher, fullCmd, hneedsPs, if_true, and_self]

theorem SafeCmd.launcher_cmdC (hneedsPs : matched.needsPs = false)
    (hneedsCmdC : matched.needsCmdC = true) :
    matched.launcher.interpreter = cmdExe ∧
      fullCmd cmd matched = matched.launcher.opening ++ cmd ++ matched.launcher.closing := by
  simp only [launcher, fullCmd, hneedsPs, hneedsCmdC, Bool.false_eq_true, if_false, if_true,
    List.append_nil, and_self]

theorem SafeCmd.launcher_direct (hneedsPs : matched.needsPs = false)
    (hneedsCmdC : matched.needsCmdC = false) :
    matched.launcher.interpreter = {} ∧
      fullCmd cmd matched = matched.launcher.opening ++ cmd ++ matched.launcher.closing := by
  simp only [launcher, fullCmd, hneedsPs, hneedsCmdC, Bool.false_eq_true, if_false,
    List.nil_append, List.append_nil, and_self]

/-- `handle_exec` starts nothing but accepted commands. -/
theorem handleExec_started {host : Host} {body line : ByteString}
    (hstarted : line ∈ (handleExec host body).started) :
    ∃ cmd matched, acceptCmd cmd = .ok matched ∧ line = fullCmd cmd matched := by
  have hjson : ∀ status value, line ∉ (sendJson host status value).started := by
    intro status value
    simp only [sendJson]
    split <;> simp
  simp only [handleExec] at hstarted
  split at hstarted
  · exact absurd hstarted (hjson _ _)
  · split at hstarted
    · exact absurd hstarted (hjson _ _)
    · rename_i cmd _
      split at hstarted
      · exact absurd hstarted (hjson _ _)
      · split at hstarted
        · exact absurd hstarted (hjson _ _)
        · split at hstarted
          · exact absurd hstarted (hjson _ _)
          · rename_i matched haccept
            refine ⟨cmd, matched, haccept, ?_⟩
            simp only [runProcess] at hstarted
            split at hstarted
            · exact absurd hstarted (hjson _ _)
            · split at hstarted
              · exact absurd hstarted (hjson _ _)
              · exact List.mem_singleton.mp hstarted

def echoHello : ByteString := "echo hello"

def getAndStop : ByteString := "Get- x\nStop-Computer"

end Filter

end Astartis.Dashboard
