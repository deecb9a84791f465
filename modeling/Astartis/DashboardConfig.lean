import Astartis.DashboardServer

/-!
What `handle_config_post` stores.  The bounds checks look at converted copies of the values,
and the values themselves are stored.
-/

namespace Astartis.Dashboard

open ByteString

def IntegerIn (low high : Int) : Json → Prop
  | .numberInteger n => low ≤ n ∧ n ≤ high
  | .numberUnsigned n => low ≤ n ∧ (n : Int) ≤ high
  | _ => False

def NumberIn (low high : ℚ) : Json → Prop
  | .numberInteger n => low ≤ n ∧ (n : ℚ) ≤ high
  | .numberUnsigned n => low ≤ n ∧ (n : ℚ) ≤ high
  | .numberFloat d => Double.le (.finite low) d = true ∧ Double.le d (.finite high) = true
  | _ => False

def LoopbackName : Json → Prop
  | .string h => h = ("127.0.0.1" : ByteString) ∨ h = ("localhost" : ByteString)
  | _ => False

/-- An object in which every bounded field that is present has its documented type and lies
in its documented range. -/
structure Documented (cfg : Json) : Prop where
  isObject : ∃ members, cfg = .object members
  maxConcurrentTasks : ∀ value, cfg.member? "max_concurrent_tasks" = some value →
    IntegerIn 1 64 value
  ollamaTimeoutS : ∀ value, cfg.member? "ollama_timeout_s" = some value →
    IntegerIn 5 3600 value
  ollamaHost : ∀ value, cfg.member? "ollama_host" = some value → LoopbackName value
  ollamaPort : ∀ value, cfg.member? "ollama_port" = some value → IntegerIn 1024 65535 value
  chaosThreshold : ∀ value, cfg.member? "chaos_threshold" = some value → NumberIn 0 1 value

variable (host : Host) (self : Server) (body : ByteString)

/-- The request was answered with 200, and file and callback have received the body as a
documented object. -/
def Saved (outcome : Outcome) : Prop :=
  ∃ cfg cfgStr contentType text addCors, host.json.parse body = some cfg ∧ Documented cfg ∧
    host.dumpIndented cfg = some cfgStr ∧
    outcome.answer = some (.response 200 contentType text addCors) ∧
    outcome.written = [(self.configPath, cfgStr)] ∧
    (host.onConfigSave.isSome = true → outcome.notified = [cfgStr])

/-- The request was answered with an error, and the file is as it was. -/
def Refused (outcome : Outcome) : Prop :=
  ∃ status contentType text addCors,
    outcome.answer = some (.response status contentType text addCors) ∧
    400 ≤ status ∧ status < 600 ∧ outcome.written = []

def AllOrNothing : Prop :=
  let outcome := handleConfigPost host self body
  outcome.threw = false ∧ (Saved host self body outcome ∨ Refused outcome)

def CallbackReturns (cfg : Json) : Prop :=
  ∀ callback cfgStr, host.onConfigSave = some callback → host.dumpIndented cfg = some cfgStr →
    callback cfgStr = true

def IsNumber : Json → Prop
  | .numberInteger _ | .numberUnsigned _ => True
  | .numberFloat d => d ≠ .nan
  | _ => False

/-- Nothing is lost in the conversions behind which the checks look: the body is an object,
its bounded integers are integers of 32 bits and its threshold is a number. -/
structure ConvertsExactly (cfg : Json) : Prop where
  isObject : ∃ members, cfg = .object members
  integers : ∀ field ∈ [maxConcurrentTasks, ollamaTimeoutS, ollamaPort], ∀ value,
    cfg.member? field.key = some value → IntegerIn (-2 ^ 31) (2 ^ 31 - 1) value
  chaosThreshold : ∀ value, cfg.member? "chaos_threshold" = some value → IsNumber value

/-- The body is not JSON; or a check refuses a value before another one throws; or all checks
pass, and the file cannot be opened or the checks have looked at the values themselves. -/
def StoresWhatItChecks : Prop :=
  ∀ cfg, host.json.parse body = some cfg →
    (∃ msg, boundsChecks cfg boundedFields = .refused msg) ∨
      (boundsChecks cfg boundedFields = .passed ∧
        (host.configOpens = false ∨ (ConvertsExactly cfg ∧ CallbackReturns host cfg)))

/-- The libraries serialize exactly what is UTF-8, and only that is parsed. -/
structure LibraryAssumptions : Prop where
  dump : host.json.RefusesNonUtf8
  dumpIndented : ∀ j, (host.dumpIndented j).isSome = j.isUtf8
  parse : ∀ text j, host.json.parse text = some j → j.isUtf8 = true

section Checks

variable {cfg : Json}

/-- Of an integer of 32 bits the check sees the value itself. -/
theorem intField_accepts_iff {key msg : ByteString} {low high : Int32} {value : Json}
    (hvalue : IntegerIn (-2 ^ 31) (2 ^ 31 - 1) value) :
    (intField key low high msg).accepts? value = some true ↔
      IntegerIn low.toInt high.toInt value := by
  have hinside : ∀ v : Int32, (!(decide (v < low) || decide (high < v))) = true ↔
      low.toInt ≤ v.toInt ∧ v.toInt ≤ high.toInt := by
    intro v
    rw [Bool.not_eq_true', Bool.or_eq_false_iff, decide_eq_false_iff_not, decide_eq_false_iff_not,
      Int32.lt_iff_toInt_lt, Int32.lt_iff_toInt_lt, not_lt, not_lt]
  cases value with
  | numberInteger n =>
      obtain ⟨h, h'⟩ := hvalue
      have htoInt : (Int32.ofInt n).toInt = n := Int32.toInt_ofInt_of_le (by omega) (by omega)
      simp only [intField, Json.getInt32?, Option.map_some, Option.some.injEq, hinside, htoInt,
        IntegerIn]
  | numberUnsigned n =>
      obtain ⟨h, h'⟩ := hvalue
      have htoInt : (Int32.ofNat n).toInt = n := Int32.toInt_ofNat_of_lt (by omega)
      simp only [intField, Json.getInt32?, Option.map_some, Option.some.injEq, hinside, htoInt,
        IntegerIn]
  | _ => exact hvalue.elim

theorem IntegerIn.widen {low high low' high' : Int} {value : Json}
    (hvalue : IntegerIn low high value) (hlow : low' ≤ low) (hhigh : high ≤ high') :
    IntegerIn low' high' value := by
  cases value with
  | numberInteger n => exact ⟨hlow.trans hvalue.1, hvalue.2.trans hhigh⟩
  | numberUnsigned n => exact ⟨hlow.trans hvalue.1, hvalue.2.trans hhigh⟩
  | _ => exact hvalue.elim

theorem ollamaHost_accepts_iff {value : Json} :
    ollamaHost.accepts? value = some true ↔ LoopbackName value := by
  cases value with
  | string h =>
      simp only [ollamaHost, Json.getString?, Option.map_some, Option.some.injEq,
        Bool.not_eq_true', Bool.and_eq_false_iff, decide_eq_false_iff_not, ne_eq, not_not,
        LoopbackName]
  | _ => simp [ollamaHost, Json.getString?, LoopbackName]

/-- Rounding to a double moves no integer across the bounds. -/
theorem ofRat_inside_iff {n : Int} :
    (!((Double.ofRat n).lt (.finite 0) || Double.lt (.finite 1) (Double.ofRat n))) = true ↔
      (0 : ℚ) ≤ n ∧ (n : ℚ) ≤ 1 := by
  have hbounds : ((0 : ℚ) ≤ n ∧ (n : ℚ) ≤ 1) ↔ n = 0 ∨ n = 1 := by
    have hlow : ((0 : ℚ) ≤ n) ↔ 0 ≤ n := Int.cast_nonneg_iff
    have hhigh : ((n : ℚ) ≤ 1) ↔ n ≤ 1 := by exact_mod_cast Iff.rfl
    rw [hlow, hhigh]
    omega
  rw [hbounds]
  constructor
  · intro h
    by_contra hother
    rcases lt_or_ge n 0 with hneg | hpos
    · have hbelow : (n : ℚ) ≤ -1 := by exact_mod_cast (by omega : n ≤ -1)
      simp [Double.ofRat_lt_zero hbelow] at h
    · have habove : (2 : ℚ) ≤ n := by exact_mod_cast (by omega : 2 ≤ n)
      simp [Double.one_lt_ofRat habove] at h
  · rintro (rfl | rfl)
    · decide +kernel
    · decide +kernel

theorem chaosThreshold_accepts_iff {value : Json} (hvalue : IsNumber value) :
    chaosThreshold.accepts? value = some true ↔ NumberIn 0 1 value := by
  cases value with
  | numberInteger n =>
      simp only [chaosThreshold, Json.getDouble?, Option.map_some, Option.some.injEq, NumberIn]
      exact ofRat_inside_iff
  | numberUnsigned n =>
      simp only [chaosThreshold, Json.getDouble?, Option.map_some, Option.some.injEq, NumberIn]
      exact_mod_cast @ofRat_inside_iff n
  | numberFloat d =>
      have hnan : d ≠ .nan := hvalue
      simp [chaosThreshold, Json.getDouble?, NumberIn, Double.le, hnan]
  | _ => exact hvalue.elim

theorem NumberIn.isNumber {low high : ℚ} {value : Json} (hvalue : NumberIn low high value) :
    IsNumber value := by
  cases value with
  | numberFloat d =>
      rintro rfl
      simp [NumberIn, Double.le] at hvalue
  | numberInteger _ => trivial
  | numberUnsigned _ => trivial
  | _ => exact hvalue.elim

theorem BoundedField.check_passed_iff {field : BoundedField} :
    field.check cfg = .passed ↔
      ∀ value, cfg.member? field.key = some value → field.accepts? value = some true := by
  simp only [check]
  cases hmember : cfg.member? field.key with
  | none => simp
  | some value =>
      simp only [Option.some.injEq, forall_eq']
      split <;> simp_all

theorem boundsChecks_passed_iff {fields : List BoundedField} :
    boundsChecks cfg fields = .passed ↔ ∀ field ∈ fields, field.check cfg = .passed := by
  induction fields with
  | nil => simp [boundsChecks]
  | cons field rest ih =>
      simp only [boundsChecks, List.mem_cons, forall_eq_or_imp]
      split
      · rename_i hpassed
        simp [hpassed, ih]
      · rename_i hother
        exact iff_of_false hother fun h => hother h.1

/-- Where the checks pass, the values are documented if the checks have looked at them. -/
theorem documented_iff (hpassed : boundsChecks cfg boundedFields = .passed) :
    Documented cfg ↔ ConvertsExactly cfg := by
  have haccepts : ∀ field ∈ boundedFields, ∀ value, cfg.member? field.key = some value →
      field.accepts? value = some true := fun field hfield =>
    BoundedField.check_passed_iff.mp (boundsChecks_passed_iff.mp hpassed field hfield)
  constructor
  · intro h
    refine ⟨h.isObject, ?_, fun value hvalue => (h.chaosThreshold value hvalue).isNumber⟩
    intro field hfield value hvalue
    simp only [List.mem_cons, List.not_mem_nil, or_false] at hfield
    rcases hfield with rfl | rfl | rfl
    · exact (h.maxConcurrentTasks value hvalue).widen (by omega) (by omega)
    · exact (h.ollamaTimeoutS value hvalue).widen (by omega) (by omega)
    · exact (h.ollamaPort value hvalue).widen (by omega) (by omega)
  · intro h
    refine ⟨h.isObject, fun value hvalue => ?_, fun value hvalue => ?_, fun value hvalue => ?_,
      fun value hvalue => ?_, fun value hvalue => ?_⟩
    · exact (intField_accepts_iff (h.integers maxConcurrentTasks (by simp) value hvalue)).mp
        (haccepts maxConcurrentTasks (by simp [boundedFields]) value hvalue)
    · exact (intField_accepts_iff (h.integers ollamaTimeoutS (by simp) value hvalue)).mp
        (haccepts ollamaTimeoutS (by simp [boundedFields]) value hvalue)
    · exact ollamaHost_accepts_iff.mp
        (haccepts ollamaHost (by simp [boundedFields]) value hvalue)
    · exact (intField_accepts_iff (h.integers ollamaPort (by simp) value hvalue)).mp
        (haccepts ollamaPort (by simp [boundedFields]) value hvalue)
    · exact (chaosThreshold_accepts_iff (h.chaosThreshold value hvalue)).mp
        (haccepts chaosThreshold (by simp [boundedFields]) value hvalue)

/-- The message of a refusal is that of one of the fields. -/
theorem exists_field_of_refused {fields : List BoundedField} {msg : ByteString}
    (hrefused : boundsChecks cfg fields = .refused msg) : ∃ field ∈ fields, field.msg = msg := by
  induction fields with
  | nil => exact absurd hrefused (by simp [boundsChecks])
  | cons field rest ih =>
      rw [boundsChecks] at hrefused
      split at hrefused
      · obtain ⟨field', hmem, hmsg⟩ := ih hrefused
        exact ⟨field', by simp [hmem], hmsg⟩
      · refine ⟨field, by simp, ?_⟩
        simp only [BoundedField.check] at hrefused
        split at hrefused
        · exact absurd hrefused (by simp)
        · split at hrefused
          · exact absurd hrefused (by simp)
          · exact absurd hrefused (by simp)
          · exact Verdict.refused.inj hrefused

theorem boundedFields_msg_utf8 {field : BoundedField} (hfield : field ∈ boundedFields) :
    validUtf8 field.msg = true := by
  simp only [boundedFields, List.mem_cons, List.not_mem_nil, or_false] at hfield
  rcases hfield with rfl | rfl | rfl | rfl | rfl <;> decide +kernel

end Checks

section Answers

variable {host}

theorem sendJson_eq (hlibrary : LibraryAssumptions host) {value : Json} (status : Nat)
    (hutf8 : value.isUtf8 = true) :
    ∃ text, sendJson host status value =
      { answer := some (.response status "application/json" text true) } := by
  obtain ⟨text, htext⟩ := Option.isSome_iff_exists.mp ((hlibrary.dump value).trans hutf8)
  exact ⟨text, by rw [sendJson, htext]⟩

theorem sendError_refused (hlibrary : LibraryAssumptions host) {status : Nat} {msg : ByteString}
    (hlow : 400 ≤ status) (hhigh : status < 600) (hmsg : validUtf8 msg = true) :
    (sendError host status msg).threw = false ∧ Refused (sendError host status msg) := by
  have hutf8 : (Json.object [("error", .string msg),
      ("status", .numberInteger status)]).isUtf8 = true := by
    have herror : validUtf8 ("error" : ByteString) = true := by decide +kernel
    have hstatus : validUtf8 ("status" : ByteString) = true := by decide +kernel
    simp only [Json.isUtf8, Json.membersUtf8, herror, hstatus, hmsg, Bool.and_self]
  obtain ⟨text, heq⟩ := sendJson_eq hlibrary status hutf8
  rw [sendError, heq]
  exact ⟨rfl, status, _, _, _, rfl, hlow, hhigh, rfl⟩

/-- An answer with 200 means that a documented body has been stored. -/
theorem saved_or_refused_iff {cfg : Json} {cfgStr contentType text : ByteString} {addCors : Bool}
    {outcome : Outcome} (hparse : host.json.parse body = some cfg)
    (hdump : host.dumpIndented cfg = some cfgStr)
    (hok : outcome.answer = some (.response 200 contentType text addCors))
    (hwritten : outcome.written = [(self.configPath, cfgStr)])
    (hnotified : host.onConfigSave.isSome = true → outcome.notified = [cfgStr]) :
    (Saved host self body outcome ∨ Refused outcome) ↔ Documented cfg := by
  constructor
  · rintro (⟨cfg', cfgStr', _, _, _, hparse', hdocumented, -⟩ |
      ⟨status, _, _, _, herror, hle, -⟩)
    · obtain rfl := Option.some.inj (hparse.symm.trans hparse')
      exact hdocumented
    · rw [hok] at herror
      simp only [Option.some.injEq, Answer.response.injEq] at herror
      omega
  · intro hdocumented
    exact .inl ⟨cfg, cfgStr, _, _, _, hparse, hdocumented, hdump, hok, hwritten, hnotified⟩

theorem callbackReturns_iff {cfg : Json} {cfgStr : ByteString} {callback : ByteString → Bool}
    (hcallback : host.onConfigSave = some callback)
    (hdump : host.dumpIndented cfg = some cfgStr) :
    CallbackReturns host cfg ↔ callback cfgStr = true := by
  constructor
  · intro h
    exact h callback cfgStr hcallback hdump
  · rintro h callback' cfgStr' hcallback' hdump'
    obtain rfl := Option.some.inj (hcallback.symm.trans hcallback')
    obtain rfl := Option.some.inj (hdump.symm.trans hdump')
    exact h

/-- Behind the checks, the body is stored or the file cannot be opened. -/
theorem writeConfig_iff (hlibrary : LibraryAssumptions host) {cfg : Json}
    (hparse : host.json.parse body = some cfg) :
    ((writeConfig host self cfg).threw = false ∧
        (Saved host self body (writeConfig host self cfg) ∨ Refused (writeConfig host self cfg))) ↔
      (host.configOpens = false ∨ (Documented cfg ∧ CallbackReturns host cfg)) := by
  cases hopens : host.configOpens with
  | false =>
      have hrefused := @sendError_refused host hlibrary 500 "Cannot write config"
        (by omega) (by omega) (by decide +kernel)
      simp only [writeConfig, hopens]
      exact iff_of_true ⟨hrefused.1, .inr hrefused.2⟩ (.inl trivial)
  | true =>
      obtain ⟨cfgStr, hdump⟩ := Option.isSome_iff_exists.mp
        ((hlibrary.dumpIndented cfg).trans (hlibrary.parse body cfg hparse))
      obtain ⟨text, hanswer⟩ := @sendJson_eq host hlibrary
        (.object [("ok", .boolean true), ("message", .string "Config saved")]) 200
        (by decide +kernel)
      cases hcallback : host.onConfigSave with
      | none =>
          have hreturns : CallbackReturns host cfg := by
            intro callback _ h
            rw [hcallback] at h
            exact absurd h (by simp)
          simp only [writeConfig, hopens, hdump, hcallback, hanswer, Bool.not_true,
            Bool.false_eq_true, if_false, false_or, true_and, reduceCtorEq]
          rw [saved_or_refused_iff self body hparse hdump rfl rfl (by simp [hcallback])]
          exact (and_iff_left hreturns).symm
      | some callback =>
          rw [callbackReturns_iff hcallback hdump]
          cases hcall : callback cfgStr with
          | true =>
              simp only [writeConfig, hopens, hdump, hcallback, hanswer, hcall, Bool.not_true,
                Bool.false_eq_true, if_false, if_true, false_or, true_and, and_true,
                reduceCtorEq]
              exact saved_or_refused_iff self body hparse hdump rfl rfl fun _ => rfl
          | false =>
              simp [writeConfig, hopens, hdump, hcallback, hcall]

/-! Samples. -/

theorem sampleHost_library {document indented : ByteString} {value : Json}
    (hutf8 : value.isUtf8 = true) : LibraryAssumptions (sampleHost document value indented) where
  dump := Json.sampleLibrary_refusesNonUtf8 document value
  dumpIndented := by
    intro j
    simp only [sampleHost]
    split <;> simp_all
  parse := by
    intro text j hparse
    simp only [sampleHost, Json.sampleLibrary] at hparse
    split at hparse
    · exact Option.some.inj hparse ▸ hutf8
    · exact absurd hparse (by simp)

def tasksBody (number : String) : ByteString :=
  .ofLiterals ["\x7b\"max_concurrent_tasks\":", number, "\x7d"]

def tasksIndented (number : String) : ByteString :=
  .ofLiterals ["\x7b\n  \"max_concurrent_tasks\": ", number, "\n\x7d"]

def tasksHost (number : String) (n : Nat) : Host :=
  sampleHost (tasksBody number) (.object [("max_concurrent_tasks", .numberUnsigned n)])
    (tasksIndented number)

theorem tasksHost_parse (number : String) (n : Nat) :
    (tasksHost number n).json.parse (tasksBody number) =
      some (.object [("max_concurrent_tasks", .numberUnsigned n)]) := by
  simp [tasksHost, sampleHost, Json.sampleLibrary]

theorem tasksHost_library (number : String) (n : Nat) :
    LibraryAssumptions (tasksHost number n) := by
  apply sampleHost_library
  have hkey : validUtf8 ("max_concurrent_tasks" : ByteString) = true := by decide +kernel
  simp only [Json.isUtf8, Json.membersUtf8, hkey, Bool.and_self]

/-- When `handle_config_post` is all-or-nothing. -/
theorem allOrNothing_iff (host : Host) (self : Server) (body : ByteString)
    (hlibrary : LibraryAssumptions host) :
    AllOrNothing host self body ↔ StoresWhatItChecks host body := by
  simp only [AllOrNothing, StoresWhatItChecks, handleConfigPost]
  cases hparse : host.json.parse body with
  | none =>
      have hrefused := @sendError_refused host hlibrary 400 "Invalid JSON" (by omega) (by omega)
        (by decide +kernel)
      exact iff_of_true ⟨hrefused.1, .inr hrefused.2⟩ (by simp)
  | some cfg =>
      simp only [Option.some.injEq, forall_eq']
      cases hchecks : boundsChecks cfg boundedFields with
      | refused msg =>
          obtain ⟨field, hfield, rfl⟩ := exists_field_of_refused hchecks
          have hrefused := @sendError_refused host hlibrary 400 field.msg (by omega) (by omega)
            (boundedFields_msg_utf8 hfield)
          exact iff_of_true ⟨hrefused.1, .inr hrefused.2⟩ (.inl ⟨_, rfl⟩)
      | threw => simp
      | passed =>
          simp only [reduceCtorEq, exists_false, false_or, true_and, ← documented_iff hchecks]
          exact writeConfig_iff self body hlibrary hparse

theorem eight_tasks_saved :
    AllOrNothing (tasksHost "8" 8) sampleServer (tasksBody "8") := by
  refine (allOrNothing_iff _ _ _ (tasksHost_library "8" 8)).mpr fun cfg hparse => ?_
  obtain rfl := Option.some.inj ((tasksHost_parse "8" 8).symm.trans hparse)
  refine .inr ⟨by decide +kernel, .inr ⟨⟨⟨_, rfl⟩, ?_, ?_⟩, ?_⟩⟩
  · intro field hfield value hvalue
    simp only [List.mem_cons, List.not_mem_nil, or_false] at hfield
    rcases hfield with rfl | rfl | rfl
    · obtain rfl : .numberUnsigned 8 = value := Option.some.inj hvalue
      exact ⟨by decide, by decide⟩
    · exact absurd (show none = some value from hvalue) (by simp)
    · exact absurd (show none = some value from hvalue) (by simp)
  · intro value hvalue
    exact absurd (show none = some value from hvalue) (by simp)
  · intro callback _ hcallback
    exact absurd hcallback (by simp [tasksHost, sampleHost])

/-- 2^32 + 1 tasks pass for one. -/
theorem wide_tasks_saved :
    LibraryAssumptions (tasksHost "4294967297" 4294967297) ∧
      ¬ AllOrNothing (tasksHost "4294967297" 4294967297) sampleServer
        (tasksBody "4294967297") := by
  refine ⟨tasksHost_library _ _, ?_⟩
  rintro ⟨-, ⟨cfg, _, _, _, _, hparse, hdocumented, -⟩ | ⟨status, _, _, _, hanswer, hstatus, -⟩⟩
  · obtain rfl := Option.some.inj ((tasksHost_parse _ _).symm.trans hparse)
    exact absurd (hdocumented.maxConcurrentTasks (.numberUnsigned 4294967297) rfl).2 (by decide)
  · have hok : ∃ contentType text addCors, (handleConfigPost (tasksHost "4294967297" 4294967297)
        sampleServer (tasksBody "4294967297")).answer =
          some (.response 200 contentType text addCors) :=
      ⟨_, _, _, by rfl⟩
    obtain ⟨_, _, _, hok⟩ := hok
    rw [hok] at hanswer
    simp only [Option.some.injEq, Answer.response.injEq] at hanswer
    omega

end Answers

end Astartis.Dashboard
