import Astartis.DashboardExec

/-!
The cmdlets of the command list.  One test serves the programs, which are whole words, and the
beginning of the names of the cmdlets, which is none.
-/

namespace Astartis.Dashboard

open ByteString
open ShellText

def isLetter (b : UInt8) : Bool :=
  (65 ≤ b && b ≤ 90) || (97 ≤ b && b ≤ 122)

/-- A cmdlet by its name, alone or with arguments that the filter lets through. -/
structure CmdletCall (cmd name rest : ByteString) : Prop where
  cmd : cmd = ("Get-" : ByteString) ++ name ++ rest
  name_ne_nil : name ≠ []
  letters : ∀ b ∈ name, isLetter b = true
  arguments : rest = [] ∨ ∃ args, rest = 32 :: args ∧ ∀ b ∈ args, isBadChar b = false

def IsCmdletCall (cmd : ByteString) : Prop :=
  ∃ name rest, CmdletCall cmd name rest

/-- The first word is neither a program of the list nor the beginning of a cmdlet. -/
structure Unlisted (cmd : ByteString) : Prop where
  program : ∀ safe ∈ safeCmds, safe.needsPs = false → programOf cmd ≠ safe.pfx
  cmdlet : ¬ ("Get-" : ByteString) <+: cmd

/-- The checks in front of the list let the command through, and it is not the one that the
server answers itself. -/
structure ReachesList (cmd : ByteString) : Prop where
  nonempty : cmd ≠ []
  notHelp : cmd ≠ ("help" : ByteString)
  clean : cmd.any isBadChar = false

/-- The answer is a document with this status. -/
def AnswersWith (outcome : Outcome) (status : Nat) : Prop :=
  ∃ text, outcome.answer = some (.response status "application/json" text true)

section

variable (host : Host) (body : ByteString)

/-- The command in the body of a request. -/
def commandOf : Option ByteString :=
  (host.json.parse body).bind fun j => j.value? Json.getString? "cmd" []

/-- A command is accepted, and PowerShell is started with it. -/
def RunsInPowerShell (cmd : ByteString) : Prop :=
  ∃ matched, acceptCmd cmd = .ok matched ∧ matched.needsPs = true ∧
    handleExec host body = runProcess host (fullCmd cmd matched)

/-- Cmdlets run in PowerShell, and what is not on the list is rejected. -/
def ServesCmdlets : Prop :=
  ∀ cmd, commandOf host body = some cmd →
    (IsCmdletCall cmd → RunsInPowerShell host body cmd) ∧
      (Unlisted cmd → AnswersWith (handleExec host body) 403)

end

theorem letter_passes {b : UInt8} (hb : isLetter b = true) : isBadChar b = false := by
  have hbad : ∀ c ∈ badChars, isLetter c = false := forall_mem_of_all (by decide +kernel)
  rw [isBadChar, Bool.or_eq_false_iff, ← Bool.not_eq_true, List.contains_iff_mem,
    decide_eq_false_iff_not]
  constructor
  · intro hmem
    rw [hbad b hmem] at hb
    exact absurd hb (by simp)
  · rintro rfl
    exact absurd hb (by decide)

theorem CmdletCall.passes {cmd name rest : ByteString} (hcall : CmdletCall cmd name rest) :
    cmd.any isBadChar = false := by
  rw [hcall.cmd, List.any_append, List.any_append, Bool.or_eq_false_iff, Bool.or_eq_false_iff]
  refine ⟨⟨by decide +kernel, ?_⟩, ?_⟩
  · rw [List.any_eq_false]
    intro b hb
    simp [letter_passes (hcall.letters b hb)]
  · rcases hcall.arguments with rfl | ⟨args, rfl, hargs⟩
    · rfl
    · rw [List.any_cons, Bool.or_eq_false_iff, List.any_eq_false]
      exact ⟨by decide +kernel, fun b hb => by simp [hargs b hb]⟩

/-- The first word of a cmdlet call is its whole name. -/
theorem CmdletCall.programOf_eq {cmd name rest : ByteString} (hcall : CmdletCall cmd name rest) :
    programOf cmd = ("Get-" : ByteString) ++ name := by
  have hfront : ∀ b ∈ ("Get-" : ByteString), decide (b ≠ 32) = true :=
    forall_mem_of_all (by decide +kernel)
  have hword : ∀ b ∈ ("Get-" : ByteString) ++ name, decide (b ≠ 32) = true := by
    intro b hb
    rcases List.mem_append.mp hb with hb | hb
    · exact hfront b hb
    · have hletter := hcall.letters b hb
      rw [decide_eq_true_iff]
      rintro rfl
      exact absurd hletter (by decide)
  rw [hcall.cmd, programOf, List.takeWhile_append_of_pos hword]
  rcases hcall.arguments with rfl | ⟨args, rfl, -⟩
  · simp
  · simp

/-- Only the entry for all cmdlets begins as they do. -/
theorem pfx_of_cmdlet : ∀ safe ∈ safeCmds, ("Get-" : ByteString).isPrefixOf safe.pfx = true →
    safe.pfx = ("Get-" : ByteString) := by
  decide +kernel

theorem pfx_of_needsPs : ∀ safe ∈ safeCmds, safe.needsPs = true →
    safe.pfx = ("Get-" : ByteString) := by
  decide +kernel

/-- The name goes on where the entry ends, so that no entry matches. -/
theorem CmdletCall.not_listed {cmd name rest : ByteString} (hcall : CmdletCall cmd name rest) :
    safeCmds.find? (SafeCmd.isMatch cmd) = none := by
  rcases hfind : safeCmds.find? (SafeCmd.isMatch cmd) with _ | matched
  · rfl
  · have hpfx : ("Get-" : ByteString) ++ name = matched.pfx :=
      hcall.programOf_eq.symm.trans (programOf_of_match hfind)
    have hstarts : ("Get-" : ByteString).isPrefixOf matched.pfx = true := by
      rw [← hpfx]
      exact List.isPrefixOf_iff_prefix.mpr (List.prefix_append _ _)
    have hentry := pfx_of_cmdlet matched (List.mem_of_find?_eq_some hfind) hstarts
    rw [← hpfx, List.append_right_eq_self] at hentry
    exact absurd hentry hcall.name_ne_nil

theorem Unlisted.not_listed {cmd : ByteString} (hunlisted : Unlisted cmd) :
    safeCmds.find? (SafeCmd.isMatch cmd) = none := by
  rcases hfind : safeCmds.find? (SafeCmd.isMatch cmd) with _ | matched
  · rfl
  · have hmem := List.mem_of_find?_eq_some hfind
    have hprogram := programOf_of_match hfind
    cases hps : matched.needsPs with
    | false => exact absurd hprogram (hunlisted.program matched hmem hps)
    | true =>
        rw [pfx_of_needsPs matched hmem hps] at hprogram
        have hstarts : programOf cmd <+: cmd := List.takeWhile_prefix _
        rw [hprogram] at hstarts
        exact absurd hstarts hunlisted.cmdlet

theorem acceptCmd_of_not_listed {cmd : ByteString}
    (hlisted : safeCmds.find? (SafeCmd.isMatch cmd) = none) :
    acceptCmd cmd =
      if cmd.any isBadChar then .error (400, "Command contains disallowed characters")
      else .error (403, "Command not in whitelist") := by
  rw [acceptCmd, hlisted]

theorem handleExec_of_command {host : Host} {body cmd : ByteString}
    (hcommand : commandOf host body = some cmd) :
    handleExec host body =
      if cmd = [] then sendError host 400 "cmd required"
      else if cmd = "help" then
        sendJson host 200 (.object [("output", .string helpText)])
      else
        match acceptCmd cmd with
        | .error (status, msg) => sendError host status msg
        | .ok matched => runProcess host (fullCmd cmd matched) := by
  obtain ⟨j, hparse, hvalue⟩ := Option.bind_eq_some_iff.mp hcommand
  rw [handleExec, hparse]
  dsimp only
  exact hvalue ▸ rfl

section Answers

variable {host : Host} {status status' : Nat} {value : Json} {msg : ByteString}

theorem answersWith_sendJson_iff (hlibrary : host.json.RefusesNonUtf8)
    (hutf8 : value.isUtf8 = true) :
    AnswersWith (sendJson host status value) status' ↔ status = status' := by
  obtain ⟨text, htext⟩ := Option.isSome_iff_exists.mp ((hlibrary value).trans hutf8)
  rw [AnswersWith, sendJson, htext]
  simp

theorem answersWith_sendError_iff (hlibrary : host.json.RefusesNonUtf8)
    (hmsg : validUtf8 msg = true) :
    AnswersWith (sendError host status msg) status' ↔ status = status' := by
  have hkeys : validUtf8 ("error" : ByteString) = true ∧
      validUtf8 ("status" : ByteString) = true := by
    decide +kernel
  apply answersWith_sendJson_iff hlibrary
  simp only [Json.isUtf8, Json.membersUtf8, hkeys.1, hkeys.2, hmsg, Bool.and_true]

/-- What is not on the list is rejected exactly if nothing answers it before. -/
theorem Unlisted.rejected_iff {body cmd : ByteString} (hunlisted : Unlisted cmd)
    (hlibrary : host.json.RefusesNonUtf8) (hcommand : commandOf host body = some cmd) :
    AnswersWith (handleExec host body) 403 ↔ ReachesList cmd := by
  rw [handleExec_of_command hcommand, acceptCmd_of_not_listed hunlisted.not_listed]
  split
  · rename_i hempty
    rw [answersWith_sendError_iff hlibrary (by decide +kernel)]
    exact ⟨fun h => absurd h (by decide), fun h => absurd hempty h.nonempty⟩
  · rename_i hnonempty
    split
    · rename_i hhelp
      have hutf8 : (Json.object [("output", .string helpText)]).isUtf8 = true := by
        decide +kernel
      rw [answersWith_sendJson_iff hlibrary hutf8]
      exact ⟨fun h => absurd h (by decide), fun h => absurd hhelp h.notHelp⟩
    · rename_i hnotHelp
      cases hclean : cmd.any isBadChar with
      | true =>
          rw [if_pos rfl]
          refine (answersWith_sendError_iff hlibrary (by decide +kernel)).trans ?_
          exact ⟨fun h => absurd h (by decide), fun h => absurd hclean (by simp [h.clean])⟩
      | false =>
          rw [if_neg (by simp)]
          refine (answersWith_sendError_iff hlibrary (by decide +kernel)).trans ?_
          exact ⟨fun _ => ⟨hnonempty, hnotHelp, hclean⟩, fun _ => rfl⟩

/-- Every command is served as it should be exactly if it is not a cmdlet and, where it is not
on the list, nothing answers it before. -/
theorem servesCmdlets_iff (host : Host) (body : ByteString)
    (hlibrary : host.json.RefusesNonUtf8) :
    ServesCmdlets host body ↔ ∀ cmd, commandOf host body = some cmd →
      ¬ IsCmdletCall cmd ∧ (Unlisted cmd → ReachesList cmd) := by
  constructor
  · intro hserves cmd hcommand
    obtain ⟨hcmdlets, hrejects⟩ := hserves cmd hcommand
    refine ⟨fun hcmdlet => ?_, fun hunlisted => ?_⟩
    · obtain ⟨matched, haccept, -⟩ := hcmdlets hcmdlet
      obtain ⟨name, rest, hcall⟩ := hcmdlet
      rw [acceptCmd_of_not_listed hcall.not_listed, hcall.passes] at haccept
      exact absurd haccept (by simp)
    · exact (hunlisted.rejected_iff hlibrary hcommand).mp (hrejects hunlisted)
  · intro hcommands cmd hcommand
    obtain ⟨hcmdlet, hreaches⟩ := hcommands cmd hcommand
    refine ⟨fun h => absurd h hcmdlet, fun hunlisted => ?_⟩
    exact (hunlisted.rejected_iff hlibrary hcommand).mpr (hreaches hunlisted)

end Answers

def formatBody : ByteString := "\x7b\"cmd\":\"format c:\"\x7d"

def formatHost : Host :=
  sampleHost formatBody (.object [("cmd", .string "format c:")]) []

theorem format_rejected : ServesCmdlets formatHost formatBody := by
  refine (servesCmdlets_iff formatHost formatBody (Json.sampleLibrary_refusesNonUtf8 _ _)).mpr ?_
  intro cmd hcommand
  obtain rfl : ("format c:" : ByteString) = cmd := Option.some.inj hcommand
  refine ⟨?_, fun _ => ⟨by decide, by decide, by decide +kernel⟩⟩
  rintro ⟨name, rest, hcall⟩
  have hbyte : some (102 : UInt8) = some 71 := congrArg List.head? hcall.cmd
  exact absurd hbyte (by decide)

def processBody : ByteString := "\x7b\"cmd\":\"Get-Process\"\x7d"

def processHost : Host :=
  sampleHost processBody (.object [("cmd", .string "Get-Process")]) []

theorem getProcess_isCmdletCall : IsCmdletCall "Get-Process" :=
  ⟨"Process", [], ⟨by decide, by decide, by decide +kernel, .inl rfl⟩⟩

/-- The cmdlet that the list names as its example is not in the list. -/
theorem getProcess_not_served : ¬ ServesCmdlets processHost processBody := by
  intro hserves
  obtain ⟨matched, haccept, -⟩ := (hserves "Get-Process" rfl).1 getProcess_isCmdletCall
  have hrefused : acceptCmd "Get-Process" = .error (403, "Command not in whitelist") := by
    decide +kernel
  rw [hrefused] at haccept
  exact absurd haccept (by simp)

end Astartis.Dashboard
