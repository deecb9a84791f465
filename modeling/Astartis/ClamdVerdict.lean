import Astartis.ClamdScanner

/-!
What a reply of the scanner is taken for.
-/

namespace Astartis.Clamd

open ByteString

def foundReply (signature : ByteString) : ByteString :=
  ("stream: " : ByteString) ++ signature ++ (" FOUND" : ByteString)

def okReply : ByteString := "stream: OK"

def errorReply (message : ByteString) : ByteString :=
  message ++ (" ERROR" : ByteString)

/-- A reply is taken for what the scanner says in it. -/
structure Understood (raw path : ByteString) (durationMs : Int64) : Prop where
  found : ∀ signature, raw = foundReply signature →
    (parseResponse raw path durationMs).status = .scanInfected ∧
      (parseResponse raw path durationMs).virusName = signature
  ok : raw = okReply → (parseResponse raw path durationMs).status = .scanClean
  error : ∀ message, raw = errorReply message →
    (parseResponse raw path durationMs).status = .scanError
  clean : (parseResponse raw path durationMs).status = .scanClean →
    raw = okReply ∨ raw = okReply ++ [0]

/-- An error does not speak of the other verdicts, and only the reply without a finding does
of the second of them. -/
structure Unambiguous (raw : ByteString) : Prop where
  error : ∀ message, raw = errorReply message → ¬ foundText <:+: raw ∧ ¬ okText <:+: raw
  ok : ¬ foundText <:+: raw → okText <:+: raw → raw = okReply ∨ raw = okReply ++ [0]

theorem status_parseResponse (raw path : ByteString) (durationMs : Int64) :
    (parseResponse raw path durationMs).status =
      if (findText foundText raw).isSome then .scanInfected
      else if (findText okText raw).isSome then .scanClean else .scanError := by
  rw [parseResponse]
  split
  · rename_i hempty
    rw [hempty]
    rfl
  · split <;> [skip; split <;> [skip; split]] <;> rfl

theorem status_infected {raw : ByteString} (path : ByteString) (durationMs : Int64)
    (hfound : foundText <:+: raw) :
    (parseResponse raw path durationMs).status = .scanInfected := by
  rw [status_parseResponse, if_pos (findText_isSome_iff.mpr hfound)]

theorem status_clean_iff {raw path : ByteString} {durationMs : Int64} :
    (parseResponse raw path durationMs).status = .scanClean ↔
      ¬ foundText <:+: raw ∧ okText <:+: raw := by
  rw [status_parseResponse, ← findText_isSome_iff, ← findText_isSome_iff]
  split
  · simp [*]
  · split <;> simp [*]

theorem status_error_iff {raw path : ByteString} {durationMs : Int64} :
    (parseResponse raw path durationMs).status = .scanError ↔
      ¬ foundText <:+: raw ∧ ¬ okText <:+: raw := by
  rw [status_parseResponse, ← findText_isSome_iff, ← findText_isSome_iff]
  split
  · simp [*]
  · split <;> simp [*]

theorem findText_colon (rest : ByteString) :
    findText colonText (("stream: " : ByteString) ++ rest) = some 6 := by
  have htext : ("stream: " : ByteString) = [115, 116, 114, 101, 97, 109, 58, 32] := by decide
  have hcolon : colonText = [58, 32] := by decide
  rw [htext, hcolon, findText_eq_some_iff]
  refine ⟨by simp, by simp, fun j hj => ?_⟩
  interval_cases j <;> simp

/-- The name stands between the first colon and the last word, whatever it contains. -/
theorem virusName_foundReply (signature : ByteString) :
    virusName (foundReply signature) = signature := by
  have hlength : (("stream: " : ByteString) ++ signature).length = 8 + signature.length := by
    rw [List.length_append]
    rfl
  have hcolon : findText colonText (foundReply signature) = some 6 := by
    rw [foundReply, List.append_assoc]
    exact findText_colon _
  have hfound : rfindText foundText (foundReply signature).length (foundReply signature) =
      some (8 + signature.length) := by
    rw [← hlength]
    exact rfindText_append (by decide)
  have hname : substr (foundReply signature) 8 signature.length = signature := by
    rw [substr, foundReply, List.append_assoc]
    exact List.take_left
  rw [virusName, hcolon, hfound]
  dsimp only
  rw [if_neg (by omega), show 8 + signature.length - (6 + 2) = signature.length by omega]
  exact hname

theorem foundText_infix_foundReply (signature : ByteString) :
    foundText <:+: foundReply signature :=
  (List.suffix_append _ _).isInfix

theorem okReply_clean (path : ByteString) (durationMs : Int64) :
    (parseResponse okReply path durationMs).status = .scanClean := by
  rw [status_parseResponse]
  rfl

/-- The reply is understood exactly if it is not ambiguous. -/
theorem understood_iff (raw path : ByteString) (durationMs : Int64) :
    Understood raw path durationMs ↔ Unambiguous raw := by
  constructor
  · intro hunderstood
    constructor
    · intro message hmessage
      exact status_error_iff.mp (hunderstood.error message hmessage)
    · intro hfound hok
      exact hunderstood.clean (status_clean_iff.mpr ⟨hfound, hok⟩)
  · intro hunambiguous
    constructor
    · rintro signature rfl
      refine ⟨status_infected _ _ (foundText_infix_foundReply signature), ?_⟩
      have hempty : foundReply signature ≠ [] :=
        List.append_ne_nil_of_right_ne_nil _ (by decide)
      rw [parseResponse, if_neg hempty,
        if_pos (findText_isSome_iff.mpr (foundText_infix_foundReply signature))]
      exact virusName_foundReply signature
    · rintro rfl
      exact okReply_clean path durationMs
    · intro message hmessage
      exact status_error_iff.mpr (hunambiguous.error message hmessage)
    · intro hclean
      obtain ⟨hfound, hok⟩ := status_clean_iff.mp hclean
      exact hunambiguous.ok hfound hok

/-- An aborted scan that mentions the other verdict is taken for a clean file. -/
theorem aborted_scan_clean :
    ¬ ∀ raw path durationMs, Understood raw path durationMs := by
  intro hall
  have hstatus := (hall (errorReply "stream: not OK") [] 0).error "stream: not OK" rfl
  rw [status_parseResponse] at hstatus
  exact absurd hstatus (by decide)

end Astartis.Clamd
