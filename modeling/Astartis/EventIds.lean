import Mathlib.Tactic.Common
import Astartis.EventLogMonitor
import Astartis.JsonReader

/-!
The number that the monitor reads of an event, against the one that its document holds.
-/

namespace Astartis.EventLog

open Subtext

def startTag : WideString := wide "<EventID>"

def endTag : WideString := wide "</EventID>"

theorem startTag_eq : startTag = 60 :: wide "EventID>" := by decide

theorem endTag_eq : endTag = 60 :: wide "/EventID>" := by decide

/-- A rendered event: what stands in front of its first `EventID` element, the attributes of
its start tag, the number that is its text, and what stands behind it. -/
structure EventXml where
  before : WideString
  attributes : WideString
  eventId : Nat
  after : WideString
  before_tags : ¬ startTag <:+: before ∧ ¬ endTag <:+: before
  attributes_blank : ∀ u ∈ attributes.head?, isWideSpace u = true
  attributes_no_tag : 60 ∉ attributes
  units : 0 ∉ before ++ attributes ++ after
  /-- The size of the buffer is a `DWORD` that counts bytes. -/
  small : before.length + attributes.length + (ByteString.decimal eventId).length +
    after.length < 2 ^ 31 - 20

namespace EventXml

variable (event : EventXml)

/-- The element between its first and its last bracket. -/
def inner : WideString :=
  wide "EventID" ++ event.attributes ++ 62 :: wide (ByteString.decimal event.eventId)

def text : WideString :=
  event.before ++ 60 :: (event.inner ++ (endTag ++ event.after))

/-- The buffer that `EvtRender` fills, with the zeros behind the text. -/
def buffer : WideString :=
  event.text ++ [0, 0]

/-- The number is read as it is, and decides with the table whether the callback is called. -/
def Scored : Prop :=
  (∃ id, eventId? event.text = some id ∧ id.toNat = event.eventId) ∧
    ∀ now, (onEvent now (some event.buffer)).isSome = true ↔
      ∃ eventDef ∈ eventDefs, eventDef.id.toNat = event.eventId ∧ 0 < eventDef.score

end EventXml

/-- In what follows the element stands a start tag without attributes, from which a number is
read that agrees with this one in its low 16 bits. -/
def ReadLater (n : Nat) (after : WideString) : Prop :=
  ∃ gap rest number, after = gap ++ (startTag ++ rest) ∧ ¬ startTag <:+: gap ∧
    stoul (behindBracket rest) = some number ∧ number.toNat % 2 ^ 16 = n

/-! Numbers. -/

theorem wide_decimal_digits (n : Nat) :
    ∀ u ∈ wide (ByteString.decimal n), isWideDigit u = true := by
  intro u hu
  obtain ⟨b, hb, rfl⟩ := List.mem_map.mp hu
  rw [ByteString.decimal, if_neg (by omega), Int.natAbs_natCast] at hb
  have hdigit := Json.isDecimal_of_mem_natText hb
  simp only [Json.isDecimal, isWideDigit, Bool.and_eq_true, decide_eq_true_eq,
    UInt8.le_iff_toNat_le, UInt16.le_iff_toNat_le, UInt8.toNat_toUInt16] at hdigit ⊢
  exact hdigit

theorem digitsValue_wide (s : ByteString) : digitsValue (wide s) = Json.digitsValue s := by
  rw [digitsValue, wide, List.foldl_map]
  rfl

theorem digitsValue_wide_decimal (n : Nat) :
    digitsValue (wide (ByteString.decimal n)) = n := by
  rw [digitsValue_wide, ByteString.decimal, if_neg (by omega), Int.natAbs_natCast,
    Json.digitsValue_natText]

theorem le_of_isWideDigit {u : UInt16} (hu : isWideDigit u = true) : 48 ≤ u.toNat := by
  simp only [isWideDigit, Bool.and_eq_true, decide_eq_true_eq, UInt16.le_iff_toNat_le,
    UInt16.reduceToNat] at hu
  exact hu.1

theorem isWideSpace_of_isWideDigit {u : UInt16} (hu : isWideDigit u = true) :
    isWideSpace u = false := by
  have hle := le_of_isWideDigit hu
  simp only [isWideSpace, Bool.or_eq_false_iff, Bool.and_eq_false_iff, decide_eq_false_iff_not,
    UInt16.le_iff_toNat_le, ← UInt16.toNat_inj, UInt16.reduceToNat]
  omega

/-- A digit is no sign. -/
theorem signed_digit {u : UInt16} (hu : isWideDigit u = true) (rest : WideString) :
    signed (u :: rest) = (false, u :: rest) := by
  have hle := le_of_isWideDigit hu
  unfold signed
  split
  · rename_i heq
    obtain ⟨rfl, -⟩ := List.cons.inj heq
    simp at hle
  · rename_i heq
    obtain ⟨rfl, -⟩ := List.cons.inj heq
    simp at hle
  · rfl

theorem stoul_digits {digits : WideString} (hne : digits ≠ [])
    (hdigits : ∀ u ∈ digits, isWideDigit u = true) :
    stoul digits =
      if 2 ^ 32 ≤ digitsValue digits then none else some (UInt32.ofNat (digitsValue digits)) := by
  have hsigned : signed (digits.dropWhile isWideSpace) = (false, digits) := by
    cases digits with
    | nil => exact absurd rfl hne
    | cons u rest =>
        have hu := hdigits u List.mem_cons_self
        rw [List.dropWhile_cons_of_neg (by simp [isWideSpace_of_isWideDigit hu]),
          signed_digit hu]
  rw [stoul, hsigned]
  simp only [List.takeWhile_eq_self_iff.mpr hdigits, if_neg hne]
  split <;> simp

theorem scoreForEventId_pos (id : UInt16) :
    0 < scoreForEventId id ↔
      ∃ eventDef ∈ eventDefs, eventDef.id.toNat = id.toNat ∧ 0 < eventDef.score := by
  have hscores : ∀ eventDef ∈ eventDefs, 0 < eventDef.score := by decide
  rw [scoreForEventId]
  constructor
  · intro hpos
    split at hpos
    · rename_i eventDef hfind
      have hid : eventDef.id = id := by simpa using List.find?_some hfind
      exact ⟨eventDef, List.mem_of_find?_eq_some hfind, congrArg UInt16.toNat hid, hpos⟩
    · exact absurd hpos (by simp)
  · rintro ⟨eventDef, hmem, hid, -⟩
    split
    · rename_i hfind
      exact hscores _ (List.mem_of_find?_eq_some hfind)
    · rename_i hnone
      have hother := List.find?_eq_none.mp hnone eventDef hmem
      exact absurd (UInt16.toNat_inj.mp hid) (by simpa using hother)

/-! The number of a document. -/

theorem length_between {start stop : Nat} (hle : start + 9 ≤ stop) (hsmall : stop < 2 ^ 31) :
    (UInt64.ofNat stop - UInt64.ofNat start - 9).toNat = stop - start - 9 := by
  simp only [UInt64.toNat_sub, UInt64.toNat_ofNat', UInt64.reduceToNat]
  omega

/-- The tags stand the other way, and the difference wraps around. -/
theorem length_wraps {start stop : Nat} (hlt : stop < start) (hsmall : start < 2 ^ 31) :
    2 ^ 31 ≤ (UInt64.ofNat stop - UInt64.ofNat start - 9).toNat := by
  simp only [UInt64.toNat_sub, UInt64.toNat_ofNat', UInt64.reduceToNat]
  omega

theorem behindBracket_of_not_mem {idStr : WideString} (hno : 62 ∉ idStr) :
    behindBracket idStr = idStr := by
  have hnone : position? [62] idStr = none := by
    simpa [position?] using position?_append_of_not_mem hno []
  rw [behindBracket, hnone]

namespace EventXml

variable (event : EventXml)

theorem inner_no_tag : 60 ∉ event.inner := by
  have hdigits : 60 ∉ wide (ByteString.decimal event.eventId) := fun hmem =>
    absurd (wide_decimal_digits event.eventId 60 hmem) (by decide)
  have hname : (60 : UInt16) ∉ wide "EventID" := by decide
  simp only [inner, List.mem_append, List.mem_cons, not_or]
  exact ⟨⟨hname, event.attributes_no_tag⟩, by decide, hdigits⟩

theorem length_inner : event.inner.length =
    event.attributes.length + (ByteString.decimal event.eventId).length + 8 := by
  have hname : (wide "EventID").length = 7 := by decide
  rw [inner, List.length_append, List.length_append, List.length_cons, hname, wide,
    List.length_map]
  omega

theorem length_text : event.text.length =
    event.before.length + 1 + event.inner.length + 10 + event.after.length := by
  have htag : endTag.length = 10 := by decide
  simp only [text, List.length_append, List.length_cons, htag]
  omega

theorem text_small : event.text.length < 2 ^ 31 := by
  have hsmall := event.small
  rw [length_text, length_inner]
  omega

theorem position?_endTag :
    position? endTag event.text = some (event.before.length + 1 + event.inner.length) := by
  have hname : (60 : UInt16) ∉ wide "/EventID>" := by decide
  have hbefore := event.before_tags.2
  have hfirst : ¬ endTag <+: 60 :: (event.inner ++ (endTag ++ event.after)) := by
    intro hprefix
    have hslash : (47 : UInt16) = 69 := by
      rw [endTag_eq, inner] at hprefix
      exact (List.cons_prefix_cons.mp (List.cons_prefix_cons.mp hprefix).2).1
    exact absurd hslash (by decide)
  rw [endTag_eq] at hbefore hfirst
  rw [text, endTag_eq, position?_append hname hbefore (by simp),
    position?_cons_later hfirst, position?_append_of_not_mem event.inner_no_tag,
    position?_append_left]
  simp only [Option.map_some, Option.some.injEq]
  omega

theorem text_plain (hplain : event.attributes = []) :
    event.text = event.before ++
      (startTag ++ (wide (ByteString.decimal event.eventId) ++ (endTag ++ event.after))) := by
  have htag : startTag = 60 :: (wide "EventID" ++ [62]) := by decide
  simp only [text, inner, hplain, htag, List.append_assoc, List.cons_append, List.nil_append]

theorem position?_startTag_plain (hplain : event.attributes = []) :
    position? startTag event.text = some event.before.length := by
  have hname : (60 : UInt16) ∉ wide "EventID>" := by decide
  have hbefore := event.before_tags.1
  rw [startTag_eq] at hbefore
  rw [event.text_plain hplain, startTag_eq, position?_append hname hbefore (by simp),
    position?_append_left]
  simp

/-- The start tag with attributes is passed over. -/
theorem position?_startTag_attributes (hattributes : event.attributes ≠ []) :
    position? startTag event.text = (position? startTag event.after).map
      (· + (event.before.length + 1 + event.inner.length + 10)) := by
  have hname : (60 : UInt16) ∉ wide "EventID>" := by decide
  have hrest : (60 : UInt16) ∉ wide "/EventID>" := by decide
  have hlength : (wide "/EventID>").length = 9 := by decide
  have hbefore := event.before_tags.1
  have hfirst : ¬ startTag <+: 60 :: (event.inner ++ (endTag ++ event.after)) := by
    obtain ⟨u, attributes, hu⟩ := List.exists_cons_of_ne_nil hattributes
    have hblank := event.attributes_blank u (by rw [hu]; rfl)
    intro hprefix
    have hbracket : 62 = u := by
      rw [inner, hu] at hprefix
      obtain ⟨behind, hbehind⟩ := hprefix
      exact (List.cons.inj (List.append_cancel_left
        (show wide "<EventID" ++ 62 :: behind = wide "<EventID" ++ u :: _ from hbehind))).1
    rw [← hbracket] at hblank
    exact absurd hblank (by decide)
  have hend : ¬ startTag <+: 60 :: (wide "/EventID>" ++ event.after) := by
    intro hprefix
    have hslash : (69 : UInt16) = 47 := by
      rw [startTag_eq] at hprefix
      exact (List.cons_prefix_cons.mp (List.cons_prefix_cons.mp hprefix).2).1
    exact absurd hslash (by decide)
  rw [startTag_eq] at hbefore hfirst hend
  rw [text, startTag_eq, position?_append hname hbefore (by simp),
    position?_cons_later hfirst, position?_append_of_not_mem event.inner_no_tag,
    endTag_eq, List.cons_append, position?_cons_later hend,
    position?_append_of_not_mem hrest, Option.map_map, Option.map_map, Option.map_map,
    Option.map_map]
  congr 1
  funext i
  simp only [Function.comp_apply, hlength]
  omega

/-- Without attributes the number is the text of the element, narrowed twice. -/
theorem eventId?_plain (hplain : event.attributes = []) :
    eventId? event.text =
      if 2 ^ 32 ≤ event.eventId then none
      else some (UInt32.ofNat event.eventId).toUInt16 := by
  have hdigits := wide_decimal_digits event.eventId
  have hno : 62 ∉ wide (ByteString.decimal event.eventId) := fun hmem =>
    absurd (hdigits 62 hmem) (by decide)
  have hne : wide (ByteString.decimal event.eventId) ≠ [] := by
    rw [ByteString.decimal, if_neg (by omega), Int.natAbs_natCast, wide, Ne,
      List.map_eq_nil_iff]
    exact Json.natText_ne_nil _
  have htext := event.text_plain hplain
  rw [← List.append_assoc] at htext
  have hdrop : (event.before ++ startTag).length = event.before.length + 9 := by
    have htag : startTag.length = 9 := by decide
    rw [List.length_append, htag]
  have hsmall := event.text_small
  have hinner := event.length_inner
  have hlength := event.length_text
  rw [hplain, List.length_nil] at hinner
  have hbetween : between? startTag endTag event.text =
      some (wide (ByteString.decimal event.eventId)) := by
    rw [between?, event.position?_startTag_plain hplain, event.position?_endTag]
    simp only
    rw [length_between (by omega) (by omega), htext, ← hdrop, List.drop_left,
      List.take_left']
    rw [wide, List.length_map]
    omega
  rw [startTag, endTag] at hbetween
  simp only [eventId?, hbetween]
  rw [behindBracket_of_not_mem hno, stoul_digits hne hdigits, digitsValue_wide_decimal]
  split <;> rfl

/-- With attributes it is read behind the element, up to the end of the document. -/
theorem eventId?_attributes (hattributes : event.attributes ≠ []) :
    eventId? event.text = (position? startTag event.after).bind fun i =>
      (stoul (behindBracket (event.after.drop (i + 9)))).map UInt32.toUInt16 := by
  have hstart := event.position?_startTag_attributes hattributes
  cases hposition : position? startTag event.after with
  | none =>
      rw [hposition, Option.map_none, startTag] at hstart
      simp only [eventId?, between?, hstart, Option.bind_none]
  | some i =>
      have hsmall := event.text_small
      have hlength := event.length_text
      have hi : i ≤ event.after.length := by
        obtain ⟨gap, rest, hafter, -, rfl⟩ :=
          (position?_eq_some_iff (by decide)).mp (startTag_eq ▸ hposition)
        rw [hafter, List.length_append]
        omega
      rw [hposition, Option.map_some] at hstart
      have htext : event.text = (event.before ++ 60 :: (event.inner ++ endTag)) ++
          event.after := by
        simp only [text, List.append_assoc, List.cons_append]
      have hfront : (event.before ++ 60 :: (event.inner ++ endTag)).length =
          event.before.length + 1 + event.inner.length + 10 := by
        have htag : endTag.length = 10 := by decide
        simp only [List.length_append, List.length_cons, htag]
        omega
      have hbetween : between? startTag endTag event.text =
          some (event.after.drop (i + 9)) := by
        have hbehind : event.before.length + 1 + event.inner.length <
            i + (event.before.length + 1 + event.inner.length + 10) := by omega
        have hwraps := length_wraps hbehind (by omega)
        rw [between?, hstart, event.position?_endTag]
        simp only
        rw [List.take_of_length_le (by rw [List.length_drop]; omega), htext,
          ← hfront, Nat.add_right_comm, Nat.add_comm (i + 9), List.drop_append,
          List.drop_of_length_le (by omega), Nat.add_sub_cancel_left, List.nil_append]
      rw [startTag, endTag] at hbetween
      simp only [eventId?, hbetween, Option.bind_some]

theorem text_units : ∀ u ∈ event.text, u ≠ 0 := by
  have hunits := event.units
  have hname : (0 : UInt16) ∉ wide "EventID" := by decide
  have htag : (0 : UInt16) ∉ endTag := by decide
  have hdigits : 0 ∉ wide (ByteString.decimal event.eventId) := fun hmem =>
    absurd (wide_decimal_digits event.eventId 0 hmem) (by decide)
  rintro u hu rfl
  simp only [List.mem_append, not_or] at hunits
  simp only [text, inner, List.mem_append, List.mem_cons, hunits.1.1, hunits.1.2, hunits.2,
    hname, htag, hdigits, or_false, false_or] at hu
  exact absurd hu (by decide)

theorem onEvent_isSome (now : Int64) :
    (onEvent now (some event.buffer)).isSome = true ↔
      ∃ id, eventId? event.text = some id ∧ 0 < scoreForEventId id := by
  have htext : (event.buffer.takeWhile fun u => decide (u ≠ 0)) = event.text := by
    rw [buffer, List.takeWhile_append_of_pos (by simpa using event.text_units)]
    simp
  rw [onEvent]
  simp only [htext]
  cases eventId? event.text with
  | none => simp
  | some id =>
      by_cases hscore : scoreForEventId id ≤ 0
      · simp [hscore]
      · simp [hscore, not_le.mp hscore]

theorem scored_iff_eventId? :
    event.Scored ↔ ∃ id, eventId? event.text = some id ∧ id.toNat = event.eventId := by
  refine ⟨And.left, fun hread => ⟨hread, fun now => ?_⟩⟩
  obtain ⟨id, hid, hnumber⟩ := hread
  rw [event.onEvent_isSome, hid, ← hnumber, ← scoreForEventId_pos]
  simp

theorem exists_later_iff :
    (∃ id, ((position? startTag event.after).bind fun i =>
        (stoul (behindBracket (event.after.drop (i + 9)))).map UInt32.toUInt16) = some id ∧
        id.toNat = event.eventId) ↔
      ReadLater event.eventId event.after := by
  have hname : (60 : UInt16) ∉ wide "EventID>" := by decide
  have hbehind : ∀ gap rest, (gap ++ (startTag ++ rest)).drop (gap.length + 9) = rest := by
    intro gap rest
    have htag : startTag.length = 9 := by decide
    rw [← htag, ← List.length_append, ← List.append_assoc, List.drop_left]
  constructor
  · rintro ⟨id, hid, hnumber⟩
    obtain ⟨i, hi, hstoul⟩ := Option.bind_eq_some_iff.mp hid
    obtain ⟨number, hnumber', rfl⟩ := Option.map_eq_some_iff.mp hstoul
    obtain ⟨gap, rest, hafter, hfirst, rfl⟩ :=
      (position?_eq_some_iff hname).mp (startTag_eq ▸ hi)
    rw [← startTag_eq] at hafter hfirst
    rw [hafter, hbehind] at hnumber'
    exact ⟨gap, rest, number, hafter, hfirst, hnumber',
      by rw [← hnumber, UInt32.toNat_toUInt16]⟩
  · rintro ⟨gap, rest, number, hafter, hfirst, hstoul, hnumber⟩
    have hi : position? startTag event.after = some gap.length := by
      rw [startTag_eq] at hafter hfirst ⊢
      exact (position?_eq_some_iff hname).mpr ⟨gap, rest, hafter, hfirst, rfl⟩
    refine ⟨number.toUInt16, ?_, by rw [UInt32.toNat_toUInt16, hnumber]⟩
    rw [hi, Option.bind_some, hafter, hbehind, hstoul, Option.map_some]

/-- The number is read as it is, and decides about the callback, exactly if its element has no
attributes and it fits 16 bits, or the element has some and a later text reads as its number. -/
theorem scored_iff :
    event.Scored ↔ event.attributes = [] ∧ event.eventId < 2 ^ 16 ∨
      event.attributes ≠ [] ∧ ReadLater event.eventId event.after := by
  rw [scored_iff_eventId?]
  by_cases hplain : event.attributes = []
  · have hplain' : (∃ id, eventId? event.text = some id ∧ id.toNat = event.eventId) ↔
        event.eventId < 2 ^ 16 := by
      rw [event.eventId?_plain hplain]
      split
      · simp
        omega
      · simp
    rw [hplain']
    simp [hplain]
  · rw [event.eventId?_attributes hplain, exists_later_iff]
    simp [hplain]

/-- An event of the System channel, whose provider gives the number qualifiers. -/
def serviceEvent : EventXml where
  before := wide "<Event><System><Provider Name='Service Control Manager'/>"
  attributes := wide " Qualifiers='16384'"
  eventId := 7036
  after := wide "<Version>0</Version><Channel>System</Channel></System></Event>"
  before_tags := by decide
  attributes_blank := by
    intro u hu
    obtain rfl : 32 = u := Option.some_inj.mp hu
    rfl
  attributes_no_tag := by decide
  units := by decide
  small := by decide

theorem serviceEvent_dropped :
    eventId? serviceEvent.text = none ∧ (∀ now, onEvent now (some serviceEvent.buffer) = none) ∧
      (∃ eventDef ∈ eventDefs, eventDef.id.toNat = serviceEvent.eventId ∧ 0 < eventDef.score) ∧
      ¬ serviceEvent.Scored := by
  have hnone : eventId? serviceEvent.text = none := by
    rw [serviceEvent.eventId?_attributes (by decide),
      show position? startTag serviceEvent.after = none by decide, Option.bind_none]
  refine ⟨hnone, fun now => ?_, by decide, ?_⟩
  · have hsome := serviceEvent.onEvent_isSome now
    rw [hnone] at hsome
    simpa using hsome
  · rw [serviceEvent.scored_iff_eventId?, hnone]
    simp

end EventXml

end Astartis.EventLog
