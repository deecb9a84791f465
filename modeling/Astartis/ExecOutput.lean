import Astartis.CmdletAccess

/-!
The output of a command.  It arrives in pieces, and the cap is looked at between them.
-/

namespace Astartis.Dashboard

open ByteString

/-- What one `ReadFile` delivers. -/
structure Piece where
  bytes : ByteString
  nonempty : bytes ≠ []
  fits : bytes.length ≤ 4096 - 1

def arrived (pieces : List Piece) : ByteString :=
  pieces.flatMap Piece.bytes

/-- The loop over `ReadFile`.  Behind the listed pieces the pipe is closed. -/
def readLoop : List Piece → ByteString → ByteString
  | [], output => output
  | piece :: pieces, output =>
      if output.length < maxOutput then readLoop pieces (output ++ piece.bytes) else output

/-- A process that was started: how its output arrives, and whether it runs too long. -/
structure Child where
  pieces : List Piece
  timedOut : Bool

/-- A host whose processes write into pipes. -/
def Host.withChildren (children : ByteString → Option Child) (host : Host) : Host :=
  { host with
    createProcess := fun line =>
      (children line).map fun child => (readLoop child.pieces [], child.timedOut) }

def timeoutNotice : ByteString := "\n... [command timed out after 5 seconds]"

def truncationNotice : ByteString := "\n... [truncated at 20 KB]"

/-- The command line that a request starts. -/
def startedLine (host : Host) (body : ByteString) : Option ByteString :=
  (commandOf host body).bind fun cmd =>
    if cmd = [] then none
    else if cmd = "help" then none
    else
      match acceptCmd cmd with
      | .error _ => none
      | .ok matched => some (fullCmd cmd matched)

theorem handleExec_of_startedLine {host : Host} {body line : ByteString}
    (hline : startedLine host body = some line) :
    handleExec host body = runProcess host line := by
  obtain ⟨cmd, hcommand, hstarts⟩ := Option.bind_eq_some_iff.mp hline
  rw [handleExec_of_command hcommand]
  split at hstarts
  · simp at hstarts
  · rename_i hempty
    split at hstarts
    · simp at hstarts
    · rename_i hhelp
      rw [if_neg hempty, if_neg hhelp]
      split at hstarts
      · simp at hstarts
      · rename_i matched haccept
        rw [haccept, ← Option.some.inj hstarts]

/-! How much is read. -/

/-- The pieces fit under the cap, or one of them ends exactly there. -/
def MeetsCap (pieces : List Piece) : Prop :=
  (arrived pieces).length ≤ maxOutput ∨
    ∃ front behind, pieces = front ++ behind ∧ (arrived front).length = maxOutput

section Loop

variable {pieces front behind : List Piece} {output : ByteString}

@[simp] theorem arrived_nil : arrived [] = [] := rfl

@[simp] theorem arrived_cons (piece : Piece) (pieces : List Piece) :
    arrived (piece :: pieces) = piece.bytes ++ arrived pieces := rfl

@[simp] theorem arrived_append : arrived (front ++ behind) = arrived front ++ arrived behind :=
  List.flatMap_append

theorem Piece.length_pos (piece : Piece) : 0 < piece.bytes.length :=
  List.length_pos_of_ne_nil piece.nonempty

/-- The loop reads the pieces up to the first with which the cap is reached. -/
theorem readLoop_split (pieces : List Piece) (output : ByteString) :
    ∃ front behind, pieces = front ++ behind ∧ readLoop pieces output = output ++ arrived front ∧
      (behind = [] ∨ maxOutput ≤ (output ++ arrived front).length) := by
  induction pieces generalizing output with
  | nil => exact ⟨[], [], rfl, by simp [readLoop], .inl rfl⟩
  | cons piece pieces ih =>
      rw [readLoop]
      split
      · obtain ⟨front, behind, hsplit, hread, hstop⟩ := ih (output ++ piece.bytes)
        refine ⟨piece :: front, behind, by rw [hsplit]; rfl, ?_, ?_⟩
        · rw [hread, arrived_cons, List.append_assoc]
        · rwa [arrived_cons, ← List.append_assoc]
      · rename_i hcap
        refine ⟨[], piece :: pieces, rfl, by simp, .inr ?_⟩
        rw [arrived_nil, List.append_nil]
        omega

/-- A beginning that ends exactly at the cap is what is read. -/
theorem readLoop_exact (hexact : (output ++ arrived front).length = maxOutput) :
    readLoop (front ++ behind) output = output ++ arrived front := by
  induction front generalizing output with
  | nil =>
      rw [arrived_nil, List.append_nil] at hexact ⊢
      rw [List.nil_append]
      cases behind with
      | nil => rfl
      | cons piece behind => rw [readLoop, if_neg (by omega)]
  | cons piece front ih =>
      have hpiece := piece.length_pos
      have hmore : output.length < maxOutput := by
        simp only [arrived_cons, List.length_append] at hexact
        omega
      rw [arrived_cons, ← List.append_assoc] at hexact ⊢
      rw [List.cons_append, readLoop, if_pos hmore, ih hexact]

theorem readLoop_length_le_iff :
    (readLoop pieces []).length ≤ maxOutput ↔ MeetsCap pieces := by
  obtain ⟨front, behind, rfl, hread, hstop⟩ := readLoop_split pieces []
  rw [List.nil_append] at hread hstop
  constructor
  · intro hle
    rw [hread] at hle
    rcases hstop with rfl | hcap
    · exact .inl (by rwa [List.append_nil])
    · exact .inr ⟨front, behind, rfl, by omega⟩
  · rintro (htotal | ⟨front', behind', hsplit, hexact⟩)
    · rw [arrived_append, List.length_append] at htotal
      rw [hread]
      omega
    · rw [hsplit, readLoop_exact (by rwa [List.nil_append]), List.nil_append]
      omega

/-- What is read is a beginning of what arrives. -/
theorem readLoop_eq_take (pieces : List Piece) :
    readLoop pieces [] = (arrived pieces).take (readLoop pieces []).length := by
  obtain ⟨front, behind, rfl, hread, -⟩ := readLoop_split pieces []
  rw [hread, List.nil_append, arrived_append, List.take_left]

/-- If the cap holds, it is the first 20 KB, or all. -/
theorem readLoop_of_meetsCap (hcap : MeetsCap pieces) :
    readLoop pieces [] = (arrived pieces).take maxOutput := by
  have hle := readLoop_length_le_iff.mpr hcap
  obtain ⟨front, behind, rfl, hread, hstop⟩ := readLoop_split pieces []
  rw [List.nil_append] at hread hstop
  rw [hread] at hle ⊢
  rcases hstop with rfl | hreached
  · rw [List.append_nil, List.take_of_length_le hle]
  · have hlength : (arrived front).length = maxOutput := by omega
    rw [arrived_append, ← hlength, List.take_left]

end Loop

/-! What is answered. -/

/-- What `handle_exec` puts behind the output of a child that runs too long. -/
def Child.timeoutText (child : Child) : ByteString :=
  if child.timedOut then timeoutNotice else []

/-- The output with the notices. -/
def Child.output (child : Child) : ByteString :=
  let output := readLoop child.pieces [] ++ child.timeoutText
  if maxOutput ≤ output.length then output ++ truncationNotice else output

/-- The answer is one JSON document with the output in it, of which at most 20 KB are the
child's and the rest is notices, and no exception leaves the thread. -/
structure AnswersBounded (host : Host) (body : ByteString) (child : Child) : Prop where
  bounded : ∃ n notice, n ≤ 20 * 1024 ∧ (notice = [] ∨ notice = truncationNotice) ∧
    child.output = (arrived child.pieces).take n ++ child.timeoutText ++ notice
  answered : ∃ text, host.json.dump (.object [("output", .string child.output)]) = some text ∧
    (handleExec host body).answer = some (.response 200 "application/json" text true)
  returns : (handleExec host body).threw = false

section Answer

variable {host : Host} {children : ByteString → Option Child} {body line : ByteString}
  {child : Child}

theorem runProcess_child (hpipe : host.pipeCreated = true) (hchild : children line = some child) :
    runProcess (host.withChildren children) line =
      { sendJson (host.withChildren children) 200
          (.object [("output", .string child.output)]) with started := [line] } := by
  have hcreated : (host.withChildren children).createProcess line =
      some (readLoop child.pieces [], child.timedOut) := by
    show (children line).map _ = _
    rw [hchild]
    rfl
  have hopen : (host.withChildren children).pipeCreated = true := hpipe
  rw [runProcess, hopen, hcreated]
  cases htimedOut : child.timedOut <;>
    simp [Child.output, Child.timeoutText, timeoutNotice, truncationNotice, htimedOut]

/-- Of the output, the notices do not count. -/
theorem bounded_iff :
    (∃ n notice, n ≤ 20 * 1024 ∧ (notice = [] ∨ notice = truncationNotice) ∧
      child.output = (arrived child.pieces).take n ++ child.timeoutText ++ notice) ↔
      MeetsCap child.pieces := by
  rw [← readLoop_length_le_iff]
  constructor
  · rintro ⟨n, notice, hn, hnotice, houtput⟩
    have hlength := congrArg List.length houtput
    simp only [Child.output, List.length_append, List.length_take] at hlength
    have hle : notice.length ≤ truncationNotice.length := by
      rcases hnotice with rfl | rfl
      · exact Nat.zero_le _
      · exact le_refl _
    have hcap : maxOutput = 20 * 1024 := rfl
    split at hlength
    · rw [List.length_append, List.length_append] at hlength
      omega
    · rename_i hbelow
      omega
  · intro hle
    rw [Child.output]
    split
    · refine ⟨_, truncationNotice, hle, .inr rfl, ?_⟩
      rw [← readLoop_eq_take]
    · refine ⟨_, [], hle, .inl rfl, ?_⟩
      rw [← readLoop_eq_take, List.append_nil]

theorem validUtf8_output :
    validUtf8 child.output = validUtf8 (readLoop child.pieces []) := by
  have htimeout : ∀ b ∈ timeoutNotice, b ≤ 0x7F := forall_mem_of_all (by decide +kernel)
  have htruncation : ∀ b ∈ truncationNotice, b ≤ 0x7F := forall_mem_of_all (by decide +kernel)
  have htext : validUtf8 (readLoop child.pieces [] ++ child.timeoutText) =
      validUtf8 (readLoop child.pieces []) := by
    apply validUtf8_append_ascii
    rw [Child.timeoutText]
    split
    · exact htimeout
    · simp
  rw [Child.output]
  split
  · rw [validUtf8_append_ascii htruncation, htext]
  · exact htext

end Answer

def verBody : ByteString := "\x7b\"cmd\":\"ver\"\x7d"

def verLine : ByteString := "cmd.exe /c ver"

def verHost : Host :=
  sampleHost verBody (.object [("cmd", .string "ver")]) []

/-- A child that writes one piece. -/
def oneChild (bytes : ByteString) (hnonempty : bytes ≠ []) (hfits : bytes.length ≤ 4096 - 1) :
    Child where
  pieces := [⟨bytes, hnonempty, hfits⟩]
  timedOut := false

end Astartis.Dashboard
