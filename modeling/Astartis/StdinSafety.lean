import Astartis.StdinLoop

/-!
Which iterations of the loop over stdin end normally.  The message of an exception is reported
as JSON, and it may quote bytes that JSON cannot hold.
-/

namespace Astartis.Stdin

open ByteString

/-- What the JSON library does with text that is not UTF-8, and with a failed parse. -/
structure Library.Documented (lib : Library) : Prop where
  dump : ∀ j, (∃ text, lib.dump j = .ok text) ↔ j.isUtf8 = true
  dumpError : ∀ j text, lib.dump j = .error text → ∀ b ∈ text, b ≤ 0x7F
  parseError : ∀ line text, lib.parse line = .error text →
    ∃ before after, (∀ b ∈ before, b ≤ 0x7F) ∧ (∀ b ∈ after, b ≤ 0x7F) ∧
      text = before ++ lib.lastRead line ++ after

section Errors

variable {α β : Type}

def AsciiErrors (x : Except ByteString α) : Prop :=
  ∀ text, x = .error text → ∀ b ∈ text, b ≤ 0x7F

theorem asciiErrors_ok (a : α) : AsciiErrors (.ok a : Except ByteString α) := by
  intro text h
  exact absurd h (by simp)

theorem AsciiErrors.bind {x : Except ByteString α} {f : α → Except ByteString β}
    (hx : AsciiErrors x) (hf : ∀ a, AsciiErrors (f a)) : AsciiErrors (x >>= f) := by
  cases x with
  | error text =>
      intro text' h
      have herror : (.error text : Except ByteString β) = .error text' := h
      exact hx text' (by rw [Except.error.inj herror])
  | ok a => exact hf a

theorem typeName_ascii (j : Json) : ∀ b ∈ typeName j, b ≤ 0x7F := by
  cases j <;> exact forall_mem_of_all (by simp only [typeName]; decide +kernel)

theorem value_asciiErrors (get? : Json → Option α) {expected : ByteString}
    (hexpected : ∀ b ∈ expected, b ≤ 0x7F) (key : ByteString) (default : α) (j : Json) :
    AsciiErrors (value get? expected key default j) := by
  have h302 : ∀ member, ∀ b ∈ typeError302 expected member, b ≤ 0x7F := by
    have htext : ∀ b ∈ ("[json.exception.type_error.302] type must be " : ByteString),
        b ≤ 0x7F := forall_mem_of_all (by decide +kernel)
    have hbut : ∀ b ∈ (", but is " : ByteString), b ≤ 0x7F :=
      forall_mem_of_all (by decide +kernel)
    intro member b hb
    simp only [typeError302, List.mem_append] at hb
    rcases hb with ((hb | hb) | hb) | hb
    · exact htext b hb
    · exact hexpected b hb
    · exact hbut b hb
    · exact typeName_ascii member b hb
  have h306 : ∀ b ∈ typeError306 j, b ≤ 0x7F := by
    have htext :
        ∀ b ∈ ("[json.exception.type_error.306] cannot use value() with " : ByteString),
          b ≤ 0x7F := forall_mem_of_all (by decide +kernel)
    intro b hb
    rcases List.mem_append.mp hb with hb | hb
    · exact htext b hb
    · exact typeName_ascii j b hb
  intro text h
  simp only [value] at h
  split at h
  · split at h
    · exact absurd h (by simp)
    · split at h
      · exact Except.error.inj h ▸ h302 _
      · exact absurd h (by simp)
  · exact Except.error.inj h ▸ h306

theorem stringValue_asciiErrors (key default : ByteString) (j : Json) :
    AsciiErrors (stringValue key default j) :=
  value_asciiErrors _ (forall_mem_of_all (by decide +kernel)) key default j

theorem intValue_asciiErrors (key : ByteString) (default : Int32) (j : Json) :
    AsciiErrors (intValue key default j) :=
  value_asciiErrors _ (forall_mem_of_all (by decide +kernel)) key default j

theorem doubleValue_asciiErrors (key : ByteString) (default : Double) (j : Json) :
    AsciiErrors (doubleValue key default j) :=
  value_asciiErrors _ (forall_mem_of_all (by decide +kernel)) key default j

theorem boolValue_asciiErrors (key : ByteString) (default : Bool) (j : Json) :
    AsciiErrors (boolValue key default j) :=
  value_asciiErrors _ (forall_mem_of_all (by decide +kernel)) key default j

theorem jsonValue_asciiErrors (key : ByteString) (default : Json) (j : Json) :
    AsciiErrors (jsonValue key default j) :=
  value_asciiErrors _ (by simp) key default j

/-- Arguments of a wrong type are reported in ASCII, whatever the command is. -/
theorem commands_asciiErrors :
    ∀ command ∈ commands, ∀ args, AsciiErrors (command.2 args) := by
  intro command hcommand args
  simp only [commands, List.mem_cons, List.not_mem_nil, or_false] at hcommand
  rcases hcommand with rfl | rfl | rfl | rfl | rfl | rfl | rfl | rfl | rfl | rfl | rfl | rfl |
    rfl | rfl | rfl | rfl | rfl | rfl | rfl | rfl | rfl | rfl | rfl | rfl | rfl | rfl
  all_goals
    repeat'
      first
      | exact asciiErrors_ok _
      | refine (stringValue_asciiErrors _ _ _).bind fun _ => ?_
      | refine (intValue_asciiErrors _ _ _).bind fun _ => ?_
      | refine (doubleValue_asciiErrors _ _ _).bind fun _ => ?_
      | refine (boolValue_asciiErrors _ _ _).bind fun _ => ?_
      | refine (jsonValue_asciiErrors _ _ _).bind fun _ => ?_

theorem decode_asciiErrors (msg : Json) : AsciiErrors (decode msg) := by
  refine (stringValue_asciiErrors _ _ _).bind fun cmd => ?_
  refine (jsonValue_asciiErrors _ _ _).bind fun args => ?_
  cases hcommand : commands.lookup cmd with
  | none => exact asciiErrors_ok _
  | some extract =>
      obtain ⟨before, after, hsplit, -⟩ := List.lookup_eq_some_iff.mp hcommand
      exact commands_asciiErrors (cmd, extract) (by rw [hsplit]; simp) args

end Errors

section Iteration

variable {σ : Type} (lib : Library) (components : Request → σ → Served σ)

structure EndsNormally (progress : Progress σ) : Prop where
  raised : progress.raised = none
  written : progress.written ≠ []

/-- The message of what goes wrong with a line can be reported: the token that a failed parse
quotes is UTF-8, and so is the message of an exception of the component that serves it. -/
def Reportable (line : ByteString) (state : σ) : Prop :=
  match lib.parse line with
  | .error _ => validUtf8 (lib.lastRead line) = true
  | .ok msg =>
      ∀ request, decode msg = .ok request → request.immediate? = none →
        ∀ text, (components request state).data = .error text → validUtf8 text = true

variable {lib}

theorem isUtf8_parseError (text : ByteString) :
    (event "parse_error" (.object [("msg", .string text)])).isUtf8 = validUtf8 text := by
  have hkeys : validUtf8 ("event" : ByteString) = true ∧ validUtf8 ("data" : ByteString) = true ∧
      validUtf8 ("parse_error" : ByteString) = true ∧ validUtf8 ("msg" : ByteString) = true := by
    decide +kernel
  simp only [event, Json.isUtf8, Json.membersUtf8, hkeys, Bool.true_and, Bool.and_true]

theorem emit_written {obj : Json} {written : List ByteString} {state : σ}
    (hraised : (emit lib obj written state).raised = none) :
    (emit lib obj written state).written ≠ [] := by
  simp only [emit] at hraised ⊢
  split at hraised
  · exact absurd hraised (by simp)
  · simp

/-- The serializer complains in ASCII. -/
theorem emit_raised (hlib : lib.Documented) (obj : Json) (written : List ByteString)
    (state : σ) (text : ByteString) (hraised : (emit lib obj written state).raised = some text) :
    validUtf8 text = true := by
  simp only [emit] at hraised
  split at hraised
  · rename_i text' hdump
    obtain rfl := Option.some.inj hraised
    exact validUtf8_of_ascii (hlib.dumpError obj _ hdump)
  · exact absurd hraised (by simp)

/-- The handler gets by with a message that is UTF-8, and with no other. -/
theorem handleException_iff (hlib : lib.Documented) {progress : Progress σ}
    (hwritten : progress.raised = none → progress.written ≠ []) :
    EndsNormally (handleException lib progress) ↔
      ∀ text, progress.raised = some text → validUtf8 text = true := by
  cases hraised : progress.raised with
  | none =>
      simp only [handleException, hraised]
      exact iff_of_true ⟨hraised, hwritten hraised⟩ (by simp)
  | some text =>
      simp only [handleException, hraised, Option.some.injEq, forall_eq', emit,
        ← isUtf8_parseError, ← hlib.dump]
      cases hdump : lib.dump (event "parse_error" (.object [("msg", .string text)])) with
      | error text' => exact iff_of_false (fun h => absurd h.raised (by simp)) (by simp)
      | ok line => exact iff_of_true ⟨rfl, by simp⟩ ⟨line, rfl⟩

theorem attempt_written {line : ByteString} {state : σ}
    (hraised : (attempt lib components line state).raised = none) :
    (attempt lib components line state).written ≠ [] := by
  simp only [attempt, dispatch] at hraised ⊢
  split at hraised
  · exact absurd hraised (by simp)
  · split at hraised
    · exact absurd hraised (by simp)
    · split at hraised
      · exact emit_written hraised
      · split at hraised
        · exact absurd hraised (by simp)
        · exact emit_written hraised

/-- What is raised in the `try` block. -/
theorem attempt_iff (hlib : lib.Documented) (line : ByteString) (state : σ) :
    (∀ text, (attempt lib components line state).raised = some text → validUtf8 text = true) ↔
      Reportable lib components line state := by
  simp only [attempt, Reportable]
  cases hparse : lib.parse line with
  | error text =>
      obtain ⟨before, after, hbefore, hafter, rfl⟩ := hlib.parseError line text hparse
      simp only [Option.some.injEq, forall_eq', validUtf8_append_ascii hafter,
        validUtf8_ascii_append hbefore]
  | ok msg =>
      simp only [dispatch]
      cases hdecode : decode msg with
      | error text =>
          have hascii := validUtf8_of_ascii (decode_asciiErrors msg text hdecode)
          simp [hascii]
      | ok request =>
          simp only [Except.ok.injEq, forall_eq']
          cases himmediate : request.immediate? with
          | some reply => exact iff_of_true (emit_raised hlib reply [] state) (by simp)
          | none =>
              cases hserved : (components request state).data with
              | error text => simp
              | ok data => exact iff_of_true (emit_raised hlib _ _ _) (by simp)

/-- The handler saves the iteration, or it does not write and the exception goes on. -/
theorem handleException_raised_iff {progress : Progress σ}
    (hwritten : progress.raised = none → progress.written ≠ []) :
    (handleException lib progress).raised = none ↔
      EndsNormally (handleException lib progress) := by
  refine ⟨fun h => ⟨h, ?_⟩, fun h => h.raised⟩
  cases hraised : progress.raised with
  | none =>
      simp only [handleException, hraised]
      exact hwritten hraised
  | some text =>
      simp only [handleException, hraised] at h ⊢
      exact emit_written h

theorem handled_iff (hlib : lib.Documented) (line : ByteString) (state : σ) :
    EndsNormally (handleException lib (attempt lib components line state)) ↔
      Reportable lib components line state :=
  (handleException_iff hlib (attempt_written components)).trans
    (attempt_iff components hlib line state)

/-- The loop reads all lines exactly if each of them is empty or can be reported in the state
in which it is read. -/
theorem stdinLoop_raised_iff (hlib : lib.Documented) (lines : List ByteString) (state : σ) :
    (stdinLoop lib components lines state).raised = none ↔
      ∀ before line after, lines = before ++ line :: after → strip line = [] ∨
        Reportable lib components (strip line) (stdinLoop lib components before state).state := by
  have hiteration : ∀ line state, (iteration lib components line state).raised = none ↔
      strip line = [] ∨ Reportable lib components (strip line) state := by
    intro line state
    by_cases hempty : strip line = []
    · simp [iteration, hempty]
    · rw [iteration, if_neg hempty, handleException_raised_iff (attempt_written components),
        handled_iff components hlib]
      exact (or_iff_right hempty).symm
  induction lines generalizing state with
  | nil => simp [stdinLoop]
  | cons line rest ih =>
      cases hraised : (iteration lib components line state).raised with
      | some text =>
          refine iff_of_false (by simp [stdinLoop, hraised]) fun h => ?_
          have hnone := (hiteration line state).mpr (h [] line rest rfl)
          exact absurd (hraised.symm.trans hnone) (by simp)
      | none =>
          let next := (iteration lib components line state).state
          have hrest : (stdinLoop lib components (line :: rest) state).raised =
              (stdinLoop lib components rest next).raised := by
            simp only [stdinLoop, hraised, next]
          have hbefore : ∀ before, (stdinLoop lib components (line :: before) state).state =
              (stdinLoop lib components before next).state := by
            intro before
            simp only [stdinLoop, hraised, next]
          rw [hrest]
          refine (ih next).trans ?_
          constructor
          · rintro h (_ | ⟨first, before⟩) line' after hsplit
            · obtain ⟨rfl, -⟩ := List.cons.inj hsplit
              exact (hiteration line state).mp hraised
            · obtain ⟨rfl, hsplit'⟩ := List.cons.inj hsplit
              rw [hbefore]
              exact h before line' after hsplit'
          · intro h before line' after hsplit
            have hreported := h (line :: before) line' after (by rw [hsplit]; rfl)
            rwa [hbefore] at hreported

/-- When an iteration ends normally. -/
theorem line_endsNormally_iff (lib : Library) (components : Request → σ → Served σ)
    (hlib : lib.Documented) (line : ByteString) (state : σ) :
    EndsNormally (iteration lib components line state) ↔
      strip line ≠ [] ∧ Reportable lib components (strip line) state := by
  by_cases hempty : strip line = []
  · rw [iteration, if_pos hempty]
    exact iff_of_false (fun h => h.written rfl) (fun h => h.1 hempty)
  · rw [iteration, if_neg hempty, handled_iff components hlib]
    exact (and_iff_right hempty).symm

end Iteration

/-! Samples. -/

/-- A library that knows one document, and calls the first byte of anything else an invalid
literal. -/
def sampleLibrary (document : ByteString) (msg : Json) : Library where
  parse := fun line =>
    if line = document then .ok msg
    else .error
      (.ofLiterals ["[json.exception.parse_error.101] parse error at line 1, column 1: ",
          "syntax error while parsing value - invalid literal; last read: '"] ++
        line.take 1 ++ ("'" : ByteString))
  dump := fun j =>
    if j.isUtf8 then .ok j.text
    else .error "[json.exception.type_error.316] invalid UTF-8 byte"
  lastRead := fun line => line.take 1

theorem sampleLibrary_documented (document : ByteString) (msg : Json) :
    (sampleLibrary document msg).Documented where
  dump := by
    intro j
    simp only [sampleLibrary]
    split <;> simp_all
  dumpError := by
    intro j text h
    simp only [sampleLibrary] at h
    split at h
    · exact absurd h (by simp)
    · obtain rfl := Except.error.inj h
      exact forall_mem_of_all (by decide +kernel)
  parseError := by
    intro line text h
    simp only [sampleLibrary] at h
    split at h
    · exact absurd h (by simp)
    · exact ⟨_, _, forall_mem_of_all (by decide +kernel), forall_mem_of_all (by decide +kernel),
        (Except.error.inj h).symm⟩

def idleComponents : Request → Unit → Served Unit := fun _ state =>
  { data := .ok .null, state := state }

def pingLine : ByteString := "\x7b\"cmd\":\"ping\"\x7d"

def pingLibrary : Library := sampleLibrary pingLine (.object [("cmd", .string "ping")])

theorem pingLine_endsNormally :
    EndsNormally (iteration pingLibrary idleComponents (pingLine ++ [13]) ()) := by
  refine (line_endsNormally_iff pingLibrary idleComponents
    (sampleLibrary_documented _ _) _ _).mpr ⟨by decide +kernel, ?_⟩
  have hstrip : strip (pingLine ++ [13]) = pingLine := by decide +kernel
  have hparse : pingLibrary.parse pingLine = .ok (.object [("cmd", .string "ping")]) := by
    simp only [pingLibrary, sampleLibrary, if_true]
  rw [hstrip, Reportable, hparse]
  intro request hdecode himmediate
  obtain rfl : .ping = request := Except.ok.inj hdecode
  exact absurd himmediate (by simp [Request.immediate?])

/-- The report quotes the byte 0xFF, and the exception leaves the thread. -/
theorem invalid_byte_raises :
    pingLibrary.Documented ∧ ¬ EndsNormally (iteration pingLibrary idleComponents [0xFF] ()) := by
  refine ⟨sampleLibrary_documented _ _, fun h => ?_⟩
  have hraised : (iteration pingLibrary idleComponents [0xFF] ()).raised.isSome = true := by
    decide +kernel
  rw [h.raised] at hraised
  exact absurd hraised (by simp)

end Astartis.Stdin
