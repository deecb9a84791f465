import Astartis.JsonObject
import Astartis.JsonReader

/-!
Documents that are written and read again.  Between two tokens a writer may put what blanks it
likes, and it may write floats as it likes, as long as they can be read.
-/

namespace Astartis.Json

open ByteString

/-- The blanks of a writer at each depth, and its floats. -/
structure Layout where
  item : Nat → ByteString
  close : Nat → ByteString
  colon : ByteString
  float : Double → ByteString

mutual

def write (layout : Layout) (depth : Nat) : Json → ByteString
  | .null => "null"
  | .boolean b => if b then "true" else "false"
  | .numberInteger n => decimal n
  | .numberUnsigned n => decimal n
  | .numberFloat d => layout.float d
  | .string s => quote s
  | .array [] => "[]"
  | .array (j :: rest) =>
      (91 : UInt8) :: (layout.item (depth + 1) ++ (write layout (depth + 1) j ++
        (writeElements layout (depth + 1) rest ++ (layout.close depth ++ [93]))))
  | .object [] => "\x7b\x7d"
  | .object ((key, j) :: rest) =>
      (123 : UInt8) :: (layout.item (depth + 1) ++ (quote key ++ (58 :: (layout.colon ++
        (write layout (depth + 1) j ++ (writeMembers layout (depth + 1) rest ++
          (layout.close depth ++ [125])))))))

def writeElements (layout : Layout) (depth : Nat) : List Json → ByteString
  | [] => []
  | j :: rest =>
      (44 : UInt8) :: (layout.item depth ++ (write layout depth j ++
        writeElements layout depth rest))

def writeMembers (layout : Layout) (depth : Nat) : List (ByteString × Json) → ByteString
  | [] => []
  | (key, j) :: rest =>
      (44 : UInt8) :: (layout.item depth ++ (quote key ++ (58 :: (layout.colon ++
        (write layout depth j ++ writeMembers layout depth rest)))))

end

mutual

/-- A document as it comes back: without a sign where there is none, and with its floats as
they are read. -/
def returned (back : Double → Json) : Json → Json
  | .numberInteger n => if n < 0 then .numberInteger n else .numberUnsigned n.toNat
  | .numberFloat d => back d
  | .array elements => .array (returnedAll back elements)
  | .object members => .object (returnedMembers back members)
  | j => j

def returnedAll (back : Double → Json) : List Json → List Json
  | [] => []
  | j :: rest => returned back j :: returnedAll back rest

def returnedMembers (back : Double → Json) :
    List (ByteString × Json) → List (ByteString × Json)
  | [] => []
  | (key, j) :: rest => (key, returned back j) :: returnedMembers back rest

end

/-- `dump()`, for the floats that it writes. -/
def compact (float : Double → ByteString) : Layout where
  item := fun _ => []
  close := fun _ => []
  colon := []
  float := float

/-- `dump(2)`. -/
def indented (float : Double → ByteString) : Layout where
  item := newline
  close := newline
  colon := [32]
  float := float

/-- Every float can be read, up to a byte that ends a number. -/
def Readable (float : Double → ByteString) (back : Double → Json) : Prop :=
  ∀ d turns b rest, EndsInteger b →
    readValue (turns + 1) (float d ++ b :: rest) = some (back d, b :: rest)

theorem returnedAll_eq_map (back : Double → Json) (elements : List Json) :
    returnedAll back elements = elements.map (returned back) := by
  induction elements with
  | nil => rfl
  | cons j elements ih => rw [returnedAll, ih, List.map_cons]

/-- What a writer must keep to in order to be read. -/
structure Layout.Legible (layout : Layout) (back : Double → Json) : Prop where
  item : ∀ depth, ∀ b ∈ layout.item depth, isBlank b = true
  close : ∀ depth, ∀ b ∈ layout.close depth, isBlank b = true
  colon : ∀ b ∈ layout.colon, isBlank b = true
  float : Readable layout.float back

theorem isBlank_newline {depth : Nat} : ∀ b ∈ newline depth, isBlank b = true := by
  intro b hb
  rcases List.mem_cons.mp hb with rfl | hb
  · rfl
  · rw [List.eq_of_mem_replicate hb]
    rfl

section Layouts

variable {float : Double → ByteString} {back : Double → Json} (hfloat : Readable float back)

include hfloat

theorem compact_legible : (compact float).Legible back where
  item := by simp [compact]
  close := by simp [compact]
  colon := by simp [compact]
  float := hfloat

theorem indented_legible : (indented float).Legible back where
  item := fun depth => isBlank_newline
  close := fun depth => isBlank_newline
  colon := by simp [indented, isBlank]
  float := hfloat

end Layouts

section Strings

variable {b : UInt8} {s rest text : ByteString}

theorem hexDigit?_digitByte {d : Nat} (hd : d < 16) : hexDigit? (digitByte d) = some d := by
  have hall : ∀ d < 16, hexDigit? (digitByte d) = some d := by decide
  exact hall d hd

theorem stringBody_unicode (hcontrol : b < 32) :
    stringBody (92 :: 117 :: 48 :: 48 :: (hexByte b ++ s)) = prepend [b] (stringBody s) := by
  have hnat : b.toNat < 32 := UInt8.lt_iff_toNat_lt.mp hcontrol
  have hzero : hexDigit? 48 = some 0 := hexDigit?_digitByte (d := 0) (by omega)
  have hunit : codeUnit? 48 48 (digitByte (b.toNat / 16)) (digitByte (b.toNat % 16)) =
      some b.toNat := by
    rw [codeUnit?, hzero, hexDigit?_digitByte (by omega), hexDigit?_digitByte (by omega)]
    refine congrArg some ?_
    omega
  have hhigh : isHighSurrogate b.toNat = false := by
    simp only [isHighSurrogate, Bool.and_eq_false_imp, decide_eq_true_eq]
    omega
  have hlow : isLowSurrogate b.toNat = false := by
    simp only [isLowSurrogate, Bool.and_eq_false_imp, decide_eq_true_eq]
    omega
  have hencoded : encodeUtf8 b.toNat = [b] := by
    rw [encodeUtf8, if_pos (by omega), UInt8.ofNat_toNat]
  rw [stringBody.eq_def]
  simp [hexByte, hunit, hhigh, hlow, hencoded]

theorem stringBody_escapeByte (b : UInt8) (s : ByteString) :
    stringBody (escapeByte b ++ s) = prepend [b] (stringBody s) := by
  have hunescape : ∀ c, unescape? c = some b → escapeByte b = [92, c] →
      stringBody (escapeByte b ++ s) = prepend [b] (stringBody s) := by
    intro c hc hescape
    rw [hescape]
    exact stringBody_unescape hc
  by_cases hshort : b ∈ ([8, 9, 10, 12, 13, 34, 92] : List UInt8)
  · simp only [List.mem_cons, List.not_mem_nil, or_false] at hshort
    rcases hshort with rfl | rfl | rfl | rfl | rfl | rfl | rfl
    · exact hunescape 98 (by decide) rfl
    · exact hunescape 116 (by decide) rfl
    · exact hunescape 110 (by decide) rfl
    · exact hunescape 102 (by decide) rfl
    · exact hunescape 114 (by decide) rfl
    · exact hunescape 34 (by decide) rfl
    · exact hunescape 92 (by decide) rfl
  · simp only [List.mem_cons, List.not_mem_nil, or_false, not_or] at hshort
    obtain ⟨h8, h9, h10, h12, h13, h34, h92⟩ := hshort
    simp only [escapeByte, if_neg h8, if_neg h9, if_neg h10, if_neg h12, if_neg h13, if_neg h34,
      if_neg h92]
    split
    · rename_i hcontrol
      exact stringBody_unicode hcontrol
    · rename_i hplain
      exact stringBody_plain ⟨UInt8.not_lt.mp hplain, h34, h92⟩

theorem stringBody_escaped (text rest : ByteString) :
    stringBody (text.flatMap escapeByte ++ 34 :: rest) = some (text, rest) := by
  induction text with
  | nil => exact stringBody_quote
  | cons b text ih =>
      rw [List.flatMap_cons, List.append_assoc, stringBody_escapeByte, ih]
      rfl

theorem readString_quoted (hutf8 : validUtf8 text = true) (rest : ByteString) :
    readString (text.flatMap escapeByte ++ 34 :: rest) = some (text, rest) := by
  rw [readString, stringBody_escaped]
  exact if_pos hutf8

end Strings

section Blanks

variable {blanks s : ByteString} (hblanks : ∀ b ∈ blanks, isBlank b = true)

include hblanks

theorem skipBlanks_append : skipBlanks (blanks ++ s) = skipBlanks s :=
  List.dropWhile_append_of_pos hblanks

theorem readValue_blanks (turns : Nat) : readValue turns (blanks ++ s) = readValue turns s := by
  cases turns with
  | zero => rfl
  | succ turns => rw [readValue, readValue, skipBlanks_append hblanks]

theorem readMembers_blanks (turns : Nat) :
    readMembers turns (blanks ++ s) = readMembers turns s := by
  rw [← readMembers_skipBlanks, skipBlanks_append hblanks, readMembers_skipBlanks]

/-- What stands in front of a bracket or a comma does not continue a number. -/
theorem exists_endsInteger {c : UInt8} (hc : EndsInteger c) :
    ∃ b rest, blanks ++ c :: s = b :: rest ∧ EndsInteger b := by
  rcases blanks with _ | ⟨b, blanks⟩
  · exact ⟨c, s, rfl, hc⟩
  · refine ⟨b, blanks ++ c :: s, rfl, ?_⟩
    have hb : isBlank b = true := hblanks b List.mem_cons_self
    simp only [isBlank, Bool.or_eq_true, decide_eq_true_eq] at hb
    rcases hb with ((rfl | rfl) | rfl) | rfl
    all_goals
      unfold EndsInteger
      decide

end Blanks

theorem readElements_blanks {blanks s : ByteString} (hblanks : ∀ b ∈ blanks, isBlank b = true)
    (turns : Nat) : readElements turns (blanks ++ s) = readElements turns s := by
  cases turns with
  | zero => rfl
  | succ turns => rw [readElements, readElements, readValue_blanks hblanks]

section Documents

variable {layout : Layout} {back : Double → Json} (hlegible : layout.Legible back)

theorem ofInteger_eq_returned (n : Int) :
    ofInteger (decide (n < 0)) n.natAbs = returned back (.numberInteger n) := by
  rw [returned, ofInteger]
  by_cases hn : n < 0
  · rw [if_pos (by simpa using hn), if_pos hn]
    congr 1
    omega
  · rw [if_neg (by simpa using hn), if_neg hn]
    congr 1
    omega

theorem readValue_word {word rest : ByteString} {j : Json} (turns : Nat)
    (hword : word = "null" ∧ j = .null ∨ word = "true" ∧ j = .boolean true ∨
      word = "false" ∧ j = .boolean false) :
    readValue (turns + 1) (word ++ rest) = some (j, rest) := by
  rcases hword with ⟨rfl, rfl⟩ | ⟨rfl, rfl⟩ | ⟨rfl, rfl⟩
  all_goals
    rw [readValue]
    rfl

theorem readValue_integer (back : Double → Json) {turns : Nat} (n : Int) {b : UInt8}
    {rest : ByteString} (hb : EndsInteger b) :
    readValue (turns + 1) (decimal n ++ b :: rest) =
      some (returned back (.numberInteger n), b :: rest) := by
  rw [← ofInteger_eq_returned]
  refine readValue_decimal n hb ?_
  obtain ⟨first, ds, hdecimal, hfirst⟩ := decimal_cons n
  rw [hdecimal, List.cons_append]
  refine skipBlanks_of_cons ?_
  rcases hfirst with rfl | hdigit
  · rfl
  · simp only [isDecimal, Bool.and_eq_true, decide_eq_true_eq, UInt8.le_iff_toNat_le] at hdigit
    simp only [isBlank, Bool.or_eq_false_iff, decide_eq_false_iff_not]
    refine ⟨⟨⟨?_, ?_⟩, ?_⟩, ?_⟩
    all_goals
      rintro rfl
      simp at hdigit

/-- No value begins with a bracket that closes one. -/
theorem readValue_head {turns : Nat} {s : ByteString} {r : Json × ByteString}
    (h : readValue turns s = some r) :
    ∃ c rest, skipBlanks s = c :: rest ∧ c ≠ 93 ∧ c ≠ 125 := by
  cases turns with
  | zero => exact absurd h (by simp [readValue])
  | succ turns =>
      rw [readValue] at h
      rcases hs : skipBlanks s with _ | ⟨c, rest⟩
      · exact absurd (hs ▸ h) (by simp)
      · refine ⟨c, rest, rfl, ?_, ?_⟩
        all_goals
          rintro rfl
          rw [hs] at h
          exact absurd h (by simp [readNumber, readUnsigned, readDigits, isDecimal])

theorem readValue_array {turns : Nat} {s tail : ByteString} {c : UInt8} {rest : ByteString}
    (hs : skipBlanks s = 91 :: tail) (htail : skipBlanks tail = c :: rest) (hc : c ≠ 93) :
    readValue (turns + 1) s =
      (readElements turns tail).map fun p => (.array p.1, p.2) := by
  have hblanks : readElements turns (skipBlanks tail) = readElements turns tail := by
    cases turns with
    | zero => rfl
    | succ turns =>
        rw [readElements, readElements]
        cases turns with
        | zero => rfl
        | succ turns => rw [readValue, readValue, skipBlanks_skipBlanks]
  rw [readValue, hs, ← hblanks, htail]
  simp only
  rw [if_neg (by decide), if_neg (by decide), if_pos trivial]
  split
  · rename_i hclosed
    rw [htail] at hclosed
    exact absurd (List.cons.inj hclosed).1 hc
  · rw [htail]

theorem readElements_head {turns : Nat} {s : ByteString} {r : List Json × ByteString}
    (h : readElements turns s = some r) : ∃ c rest, skipBlanks s = c :: rest ∧ c ≠ 93 := by
  cases turns with
  | zero => exact absurd h (by simp [readElements])
  | succ turns =>
      rw [readElements] at h
      obtain ⟨p, hvalue, -⟩ := Option.bind_eq_some_iff.mp h
      obtain ⟨c, rest, hs, hc, -⟩ := readValue_head hvalue
      exact ⟨c, rest, hs, hc⟩

theorem writeElements_cases (layout : Layout) (depth : Nat) (elements : List Json) :
    writeElements layout depth elements = [] ∨
      ∃ s, writeElements layout depth elements = 44 :: s := by
  cases elements with
  | nil => exact .inl rfl
  | cons => exact .inr ⟨_, rfl⟩

theorem writeMembers_cases (layout : Layout) (depth : Nat) (members : List (ByteString × Json)) :
    writeMembers layout depth members = [] ∨
      ∃ s, writeMembers layout depth members = 44 :: s := by
  cases members with
  | nil => exact .inl rfl
  | cons => exact .inr ⟨_, rfl⟩

/-- What stands behind an element or a member does not continue a number. -/
theorem tail_ends (hlegible : layout.Legible back) (depth : Nat) {c : UInt8} (hc : EndsInteger c)
    (tail : ByteString) {more : ByteString} (hmore : more = [] ∨ ∃ s, more = 44 :: s) :
    ∃ b rest, more ++ (layout.close depth ++ c :: tail) = b :: rest ∧ EndsInteger b := by
  rcases hmore with rfl | ⟨s, rfl⟩
  · exact exists_endsInteger (hlegible.close depth) hc
  · refine ⟨44, _, rfl, ?_⟩
    unfold EndsInteger
    decide

/-- An object whose members are read. -/
theorem readValue_members (hlegible : layout.Legible back) {depth turns : Nat} {key : ByteString}
    {first : Json} {members read : List (ByteString × Json)} {tail : ByteString}
    (hmembers : readMembers turns (quote key ++ (58 :: (layout.colon ++
      (write layout (depth + 1) first ++ (writeMembers layout (depth + 1) members ++
        (layout.close depth ++ 125 :: tail)))))) = some (read, tail)) :
    readValue (turns + 1) (write layout depth (.object ((key, first) :: members)) ++ tail) =
      some (.object read, tail) := by
  rw [← readMembers_blanks (hlegible.item (depth + 1))] at hmembers
  simp only [write, List.cons_append, List.append_assoc, List.nil_append]
  obtain ⟨front, hfront⟩ : ∃ front, skipBlanks (layout.item (depth + 1) ++ (quote key ++ (58 ::
      (layout.colon ++ (write layout (depth + 1) first ++
        (writeMembers layout (depth + 1) members ++
          (layout.close depth ++ 125 :: tail))))))) = 34 :: front := by
    rw [skipBlanks_append (hlegible.item (depth + 1))]
    exact ⟨_, skipBlanks_of_cons (by decide)⟩
  rw [readValue_object (skipBlanks_of_cons (by decide)) hfront (by decide), hmembers]
  rfl

mutual

/-- A value is read up to what follows it, with as many turns as it is large. -/
theorem readValue_write (hlegible : layout.Legible back) (j : Json) (depth turns : Nat) {b : UInt8}
    {rest : ByteString} (hutf8 : j.isUtf8 = true) (hturns : sizeOf j ≤ turns)
    (hb : EndsInteger b) :
    readValue turns (write layout depth j ++ b :: rest) =
      some (returned back j, b :: rest) := by
  obtain ⟨turns, rfl⟩ : ∃ t, turns = t + 1 := by
    refine ⟨turns - 1, ?_⟩
    have hpos : 0 < sizeOf j := by cases j <;> simp
    omega
  cases j with
  | null => exact readValue_word turns (.inl ⟨rfl, rfl⟩)
  | boolean value =>
      cases value with
      | true => exact readValue_word turns (.inr (.inl ⟨rfl, rfl⟩))
      | false => exact readValue_word turns (.inr (.inr ⟨rfl, rfl⟩))
  | numberInteger n => exact readValue_integer back n hb
  | numberUnsigned n =>
      refine (readValue_integer back (n : Int) hb).trans ?_
      simp [returned]
  | numberFloat d => exact hlegible.float d turns b rest hb
  | string s =>
      rw [write, quote, List.cons_append, List.cons_append, List.append_assoc]
      refine (readValue_string (skipBlanks_of_cons (by decide))).trans ?_
      show Option.map _ (readString (s.flatMap escapeByte ++ 34 :: b :: rest)) = _
      rw [readString_quoted hutf8]
      rfl
  | array elements =>
      rcases elements with _ | ⟨first, elements⟩
      · rw [write, readValue]
        rfl
      · have helements := readElements_write hlegible first elements (depth + 1) depth turns
          (b :: rest) hutf8 (by simp at hturns ⊢; omega)
        rw [← readElements_blanks (hlegible.item (depth + 1))] at helements
        obtain ⟨c, front, hfront, hc⟩ := readElements_head helements
        simp only [write, List.cons_append, List.append_assoc, List.nil_append] at hfront ⊢
        rw [readValue_array (skipBlanks_of_cons (by decide)) hfront hc, helements]
        rfl
  | object members =>
      rcases members with _ | ⟨⟨key, first⟩, members⟩
      · rw [write, readValue]
        rfl
      · exact readValue_members hlegible (readMembers_write hlegible key first members (depth + 1)
          depth turns (b :: rest) hutf8 (by simp at hturns ⊢; omega))
termination_by turns

theorem readElements_write (hlegible : layout.Legible back) (first : Json) (elements : List Json)
    (depth outer turns : Nat) (tail : ByteString)
    (hutf8 : areUtf8 (first :: elements) = true) (hturns : sizeOf (first :: elements) ≤ turns) :
    readElements turns (write layout depth first ++ (writeElements layout depth elements ++
      (layout.close outer ++ 93 :: tail))) =
        some (returnedAll back (first :: elements), tail) := by
  obtain ⟨turns, rfl⟩ : ∃ t, turns = t + 1 := ⟨turns - 1, by simp at hturns; omega⟩
  simp only [List.cons.sizeOf_spec] at hturns
  rw [areUtf8, Bool.and_eq_true] at hutf8
  have hbracket : EndsInteger 93 := by
    unfold EndsInteger
    decide
  obtain ⟨c, rest, hrest, hc⟩ := tail_ends hlegible outer hbracket tail
    (writeElements_cases layout depth elements)
  rw [readElements, hrest, readValue_write hlegible first depth turns hutf8.1 (by omega) hc,
    ← hrest]
  simp only [Option.bind_eq_bind, Option.bind_some]
  rcases elements with _ | ⟨second, more⟩
  · rw [writeElements, List.nil_append, skipBlanks_append (hlegible.close outer)]
    rfl
  · rw [writeElements, List.cons_append, skipBlanks_of_cons (by decide)]
    simp only [List.append_assoc]
    rw [readElements_blanks (hlegible.item depth),
      readElements_write hlegible second more depth outer turns tail hutf8.2 (by omega)]
    rfl
termination_by turns

theorem readMembers_write (hlegible : layout.Legible back) (key : ByteString) (first : Json)
    (members : List (ByteString × Json)) (depth outer turns : Nat) (tail : ByteString)
    (hutf8 : membersUtf8 ((key, first) :: members) = true)
    (hturns : sizeOf ((key, first) :: members) ≤ turns) :
    readMembers turns (quote key ++ (58 :: (layout.colon ++ (write layout depth first ++
      (writeMembers layout depth members ++ (layout.close outer ++ 125 :: tail)))))) =
        some (returnedMembers back ((key, first) :: members), tail) := by
  obtain ⟨turns, rfl⟩ : ∃ t, turns = t + 1 := ⟨turns - 1, by simp at hturns; omega⟩
  simp only [List.cons.sizeOf_spec, Prod.mk.sizeOf_spec] at hturns
  rw [membersUtf8, Bool.and_eq_true, Bool.and_eq_true] at hutf8
  obtain ⟨⟨hkey, hfirst⟩, hmembers⟩ := hutf8
  have hbracket : EndsInteger 125 := by
    unfold EndsInteger
    decide
  obtain ⟨c, rest, hrest, hc⟩ := tail_ends hlegible outer hbracket tail
    (writeMembers_cases layout depth members)
  rw [readMembers, quote, List.cons_append, List.cons_append, skipBlanks_of_cons (by decide),
    List.append_assoc]
  simp only [List.cons_append, List.nil_append, readString_quoted hkey]
  have hcolon : ∀ s, expect [58] (skipBlanks (58 :: s)) = some s := by
    intro s
    rw [skipBlanks_of_cons (by decide)]
    simp [expect]
  simp only [Option.bind_eq_bind, Option.bind_some, hcolon]
  rw [hrest, readValue_blanks hlegible.colon,
    readValue_write hlegible first depth turns hfirst (by omega) hc, ← hrest]
  simp only [Option.bind_some]
  rcases members with _ | ⟨⟨next, second⟩, more⟩
  · rw [writeMembers, List.nil_append, skipBlanks_append (hlegible.close outer)]
    rfl
  · rw [writeMembers, List.cons_append, skipBlanks_of_cons (by decide)]
    simp only [List.append_assoc, List.cons_append]
    rw [readMembers_blanks (hlegible.item depth),
      readMembers_write hlegible next second more depth outer turns tail hmembers (by omega)]
    rfl
termination_by turns

end

theorem Reads.unique {s : ByteString} {j j' : Json} (hreads : Reads s j) (hreads' : Reads s j') :
    j = j' := by
  obtain ⟨turns, hread⟩ := hreads
  obtain ⟨turns', hread'⟩ := hreads'
  have hmore := read_of_le (Nat.le_max_left turns turns') hread
  rw [read_of_le (Nat.le_max_right turns turns') hread'] at hmore
  exact (Option.some.inj hmore).symm

/-- An object is read as it was written, whatever blanks follow it. -/
theorem reads_write (hlegible : layout.Legible back) {members : List (ByteString × Json)}
    (hutf8 : membersUtf8 members = true) {blanks : ByteString}
    (hblanks : ∀ b ∈ blanks, isBlank b = true) :
    Reads (write layout 0 (.object members) ++ blanks) (returned back (.object members)) := by
  obtain ⟨turns, hread⟩ : ∃ turns, readValue turns (write layout 0 (.object members) ++ blanks) =
      some (returned back (.object members), blanks) := by
    rcases members with _ | ⟨⟨key, first⟩, members⟩
    · exact ⟨1, rfl⟩
    · refine ⟨sizeOf ((key, first) :: members) + 1, ?_⟩
      exact readValue_members hlegible (readMembers_write hlegible key first members 1 0 _ blanks
        hutf8 le_rfl)
  refine ⟨turns, ?_⟩
  rw [read, hread]
  refine if_pos ?_
  rw [← List.append_nil blanks, skipBlanks_append hblanks]
  rfl

end Documents

section Newlines

theorem newline_not_mem_escapeByte (b : UInt8) : 10 ∉ escapeByte b := by
  have hdigit : ∀ d < 16, digitByte d ≠ 10 := by decide
  have hnat := b.toNat_lt
  have hhex : 10 ∉ hexByte b := by
    simp only [hexByte, List.mem_cons, List.not_mem_nil, or_false, not_or]
    exact ⟨Ne.symm (hdigit _ (by omega)), Ne.symm (hdigit _ (by omega))⟩
  by_cases hnewline : b = 10
  · subst hnewline
    decide
  · simp only [escapeByte, if_neg hnewline]
    repeat' split
    all_goals first
      | decide
      | exact List.not_mem_append (by decide) hhex
      | simpa using Ne.symm hnewline

/-- The layout of a writer whose bytes are replaced. -/
def Layout.translate (layout : Layout) (f : UInt8 → ByteString) : Layout where
  item := fun depth => (layout.item depth).flatMap f
  close := fun depth => (layout.close depth).flatMap f
  colon := layout.colon.flatMap f
  float := fun d => (layout.float d).flatMap f

variable {f : UInt8 → ByteString} (hkeeps : ∀ b, b ≠ 10 → f b = [b])

include hkeeps

theorem flatMap_of_not_mem {s : ByteString} (hs : 10 ∉ s) : s.flatMap f = s := by
  induction s with
  | nil => rfl
  | cons b s ih =>
      rw [List.mem_cons, not_or] at hs
      rw [List.flatMap_cons, hkeeps b (Ne.symm hs.1), ih hs.2]
      rfl

theorem flatMap_cons_of_ne {b : UInt8} (hb : b ≠ 10) (s : ByteString) :
    (b :: s).flatMap f = b :: s.flatMap f := by
  rw [List.flatMap_cons, hkeeps b hb, List.singleton_append]

theorem flatMap_quote (s : ByteString) : (quote s).flatMap f = quote s := by
  refine flatMap_of_not_mem hkeeps ?_
  simp only [quote, List.mem_append, List.mem_cons, List.mem_flatMap, List.not_mem_nil, or_false,
    not_or, not_exists, not_and]
  exact ⟨⟨by decide, fun b _ => newline_not_mem_escapeByte b⟩, by decide⟩

theorem flatMap_decimal (n : Int) : (decimal n).flatMap f = decimal n := by
  have hdigits : 10 ∉ natText 10 n.natAbs :=
    fun hmem => absurd (isDecimal_of_mem_natText hmem) (by decide)
  refine flatMap_of_not_mem hkeeps ?_
  rw [decimal]
  split
  · exact List.not_mem_cons_of_ne_of_not_mem (by decide) hdigits
  · exact hdigits

variable (layout : Layout)

mutual

/-- Only the layout of a document has newlines. -/
theorem flatMap_write (depth : Nat) (j : Json) :
    (write layout depth j).flatMap f = write (layout.translate f) depth j := by
  match j with
  | .null =>
      exact flatMap_of_not_mem hkeeps (show 10 ∉ ("null" : ByteString) by decide)
  | .boolean true =>
      exact flatMap_of_not_mem hkeeps (show 10 ∉ ("true" : ByteString) by decide)
  | .boolean false =>
      exact flatMap_of_not_mem hkeeps (show 10 ∉ ("false" : ByteString) by decide)
  | .numberInteger n => exact flatMap_decimal hkeeps n
  | .numberUnsigned n => exact flatMap_decimal hkeeps n
  | .numberFloat d => rfl
  | .string s => exact flatMap_quote hkeeps s
  | .array [] =>
      exact flatMap_of_not_mem hkeeps (show 10 ∉ ("[]" : ByteString) by decide)
  | .array (j :: rest) =>
      simp only [write, flatMap_cons_of_ne hkeeps (b := 91) (by decide), List.flatMap_append,
        flatMap_write (depth + 1) j, flatMap_writeElements (depth + 1) rest]
      rw [flatMap_of_not_mem hkeeps (by decide : (10 : UInt8) ∉ [93])]
      rfl
  | .object [] =>
      exact flatMap_of_not_mem hkeeps (show 10 ∉ ("\x7b\x7d" : ByteString) by decide)
  | .object ((key, j) :: rest) =>
      simp only [write, flatMap_cons_of_ne hkeeps (b := 123) (by decide),
        flatMap_cons_of_ne hkeeps (b := 58) (by decide), List.flatMap_append, flatMap_quote hkeeps,
        flatMap_write (depth + 1) j, flatMap_writeMembers (depth + 1) rest]
      rw [flatMap_of_not_mem hkeeps (by decide : (10 : UInt8) ∉ [125])]
      rfl

theorem flatMap_writeElements (depth : Nat) (elements : List Json) :
    (writeElements layout depth elements).flatMap f =
      writeElements (layout.translate f) depth elements := by
  match elements with
  | [] => rfl
  | j :: rest =>
      simp only [writeElements, flatMap_cons_of_ne hkeeps (b := 44) (by decide),
        List.flatMap_append, flatMap_write depth j, flatMap_writeElements depth rest]
      rfl

theorem flatMap_writeMembers (depth : Nat) (members : List (ByteString × Json)) :
    (writeMembers layout depth members).flatMap f =
      writeMembers (layout.translate f) depth members := by
  match members with
  | [] => rfl
  | (key, j) :: rest =>
      simp only [writeMembers, flatMap_cons_of_ne hkeeps (b := 44) (by decide),
        flatMap_cons_of_ne hkeeps (b := 58) (by decide), List.flatMap_append, flatMap_quote hkeeps,
        flatMap_write depth j, flatMap_writeMembers depth rest]
      rfl

end

omit hkeeps in
/-- A document on one line. -/
theorem newline_not_mem_write (hitem : ∀ depth, 10 ∉ layout.item depth)
    (hclose : ∀ depth, 10 ∉ layout.close depth) (hcolon : 10 ∉ layout.colon)
    (hfloat : ∀ d, 10 ∉ layout.float d) (depth : Nat) (j : Json) :
    10 ∉ write layout depth j := by
  let f : UInt8 → ByteString := fun b => if b = 10 then [] else [b]
  have hkeeps : ∀ b, b ≠ 10 → f b = [b] := fun b hb => if_neg hb
  have hsame : layout.translate f = layout := by
    rw [Layout.translate]
    congr 1
    · funext depth
      exact flatMap_of_not_mem hkeeps (hitem depth)
    · funext depth
      exact flatMap_of_not_mem hkeeps (hclose depth)
    · exact flatMap_of_not_mem hkeeps hcolon
    · funext d
      exact flatMap_of_not_mem hkeeps (hfloat d)
  have hwrite := flatMap_write hkeeps layout depth j
  rw [hsame] at hwrite
  rw [← hwrite, List.mem_flatMap]
  rintro ⟨b, -, hb⟩
  simp only [f] at hb
  split at hb
  · exact absurd hb List.not_mem_nil
  · rename_i hne
    exact hne (List.mem_singleton.mp hb).symm

end Newlines

/-- Floats of documents that have no other number than zero among them. -/
def zeroText (d : Double) : ByteString :=
  if d = .finite 0 then "0.0" else "null"

def zeroBack (d : Double) : Json :=
  if d = .finite 0 then .numberFloat (.ofRat 0) else .null

theorem newline_not_mem_zeroText (d : Double) : 10 ∉ zeroText d := by
  rw [zeroText]
  split <;> decide

theorem zeroText_readable : Readable zeroText zeroBack := by
  intro d turns b rest hb
  obtain ⟨hdigit, -, hlower, hupper⟩ := hb
  rw [zeroText, zeroBack]
  split
  · have hwhole : readDigits (48 :: 46 :: 48 :: b :: rest) =
        some ([48], 46 :: 48 :: b :: rest) := by
      rw [readDigits, List.span_eq_takeWhile_dropWhile]
      simp [isDecimal]
    have hfraction : readDigits (48 :: b :: rest) = some ([48], b :: rest) := by
      rw [readDigits, List.span_eq_takeWhile_dropWhile]
      simp [List.takeWhile, List.dropWhile, hdigit, show isDecimal 48 = true by decide]
    show readValue (turns + 1) (48 :: 46 :: 48 :: b :: rest) = _
    rw [readValue, skipBlanks_of_cons (by decide)]
    simp [readNumber, readUnsigned, hwhole, hfraction, readFraction, readExponent, hlower,
      hupper, digitsValue]
  · exact readValue_word turns (.inl ⟨rfl, rfl⟩)

end Astartis.Json
