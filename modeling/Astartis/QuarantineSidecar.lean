import Astartis.JsonReader
import Astartis.Quarantine

/-!
The sidecar of a quarantined file as a JSON document.  Its writer escapes quotation marks and
backslashes.
-/

namespace Astartis.Containment

open ByteString
open Json

/-- A text that the writer gets through. -/
def Writable (s : ByteString) : Prop :=
  validUtf8 s = true ∧ ∀ b ∈ s, 32 ≤ b

instance (s : ByteString) : Decidable (Writable s) :=
  inferInstanceAs (Decidable (_ ∧ _))

/-- The members that a sidecar stands for. -/
def metaMembers (e : QuarantineEntry) : List (ByteString × Json) :=
  [("entry_id", .string e.entryId), ("original_path", .string e.originalPath),
    ("quarantine_path", .string e.quarantinePath), ("virus_name", .string e.virusName),
    ("sha256_hash", .string e.sha256Hash),
    ("quarantined_at_ms",
      ofInteger (decide (e.quarantinedAtMs.toInt < 0)) e.quarantinedAtMs.toInt.natAbs)]

section Escaping

/-- No byte is a control character. -/
def Uncontrolled (s : ByteString) : Prop :=
  ∀ b ∈ s, 32 ≤ b

instance (s : ByteString) : Decidable (Uncontrolled s) :=
  inferInstanceAs (Decidable (∀ b ∈ s, 32 ≤ b))

theorem uncontrolled_cons {c : UInt8} {s : ByteString} :
    Uncontrolled (c :: s) ↔ 32 ≤ c ∧ Uncontrolled s :=
  List.forall_mem_cons

theorem stringBody_escape (s rest : ByteString) :
    stringBody (escape s ++ 34 :: rest) =
      if Uncontrolled s then some (s, rest) else none := by
  induction s with
  | nil => simp [escape, stringBody_quote, Uncontrolled]
  | cons c s ih =>
      have hcons : escape (c :: s) ++ 34 :: rest =
          (if c = 92 then "\\\\" else if c = 34 then "\\\"" else [c] : ByteString) ++
            (escape s ++ 34 :: rest) := by
        simp [escape]
      have hprepend : prepend [c] (stringBody (escape s ++ 34 :: rest)) =
          if Uncontrolled s then some (c :: s, rest) else none := by
        rw [ih]
        split <;> rfl
      rw [hcons]
      simp only [uncontrolled_cons]
      by_cases hslash : c = 92
      · subst hslash
        have hliteral : ("\\\\" : ByteString) = [92, 92] := by decide
        have hlow : (32 : UInt8) ≤ 92 := by decide
        have hunescape : unescape? 92 = some 92 := by decide
        rw [if_pos rfl, hliteral, List.cons_append, List.cons_append, List.nil_append,
          stringBody_unescape hunescape, hprepend]
        simp only [hlow, true_and]
      · rw [if_neg hslash]
        by_cases hquote : c = 34
        · subst hquote
          have hliteral : ("\\\"" : ByteString) = [92, 34] := by decide
          have hlow : (32 : UInt8) ≤ 34 := by decide
          have hunescape : unescape? 34 = some 34 := by decide
          rw [if_pos rfl, hliteral, List.cons_append, List.cons_append, List.nil_append,
            stringBody_unescape hunescape, hprepend]
          simp only [hlow, true_and]
        · rw [if_neg hquote, List.singleton_append]
          by_cases hlow : 32 ≤ c
          · rw [stringBody_plain ⟨hlow, hquote, hslash⟩, hprepend]
            simp only [hlow, true_and]
          · rw [stringBody_control (UInt8.not_le.mp hlow)]
            simp only [hlow, false_and, if_false]

theorem readString_escape (s rest : ByteString) :
    readString (escape s ++ 34 :: rest) = if Writable s then some (s, rest) else none := by
  rw [readString, stringBody_escape]
  by_cases hlow : Uncontrolled s
  · rw [if_pos hlow]
    by_cases hutf8 : validUtf8 s = true
    · have hwritable : Writable s := ⟨hutf8, hlow⟩
      simp only [hutf8, hwritable, if_true]
    · have hrefused : ¬ Writable s := fun h => hutf8 h.1
      simp [hutf8, hrefused]
  · have hrefused : ¬ Writable s := fun h => hlow h.2
    rw [if_neg hlow, if_neg hrefused]

end Escaping

section Members

/-- A line of the sidecar, with what follows. -/
def memberText (key raw rest : ByteString) : ByteString :=
  32 :: 32 :: 34 :: (key ++ 34 :: 58 :: 32 :: 34 :: (raw ++ 34 :: 44 :: 10 :: rest))

/-- The line with the time, and the end of the sidecar. -/
def timeText (key : ByteString) (n : Int) : ByteString :=
  32 :: 32 :: 34 :: (key ++ 34 :: 58 :: 32 :: (decimal n ++ [10, 125, 10]))

/-- The texts of the writer, of whatever keys. -/
theorem memberTexts {t₁ t₂ t₃ t₄ t₅ t₆ k₁ k₂ k₃ k₄ k₅ k₆ : ByteString}
    (h₁ : t₁ = [32, 32, 34] ++ k₁ ++ [34, 58, 32, 34])
    (h₂ : t₂ = [32, 32, 34] ++ k₂ ++ [34, 58, 32, 34])
    (h₃ : t₃ = [32, 32, 34] ++ k₃ ++ [34, 58, 32, 34])
    (h₄ : t₄ = [32, 32, 34] ++ k₄ ++ [34, 58, 32, 34])
    (h₅ : t₅ = [32, 32, 34] ++ k₅ ++ [34, 58, 32, 34])
    (h₆ : t₆ = [32, 32, 34] ++ k₆ ++ [34, 58, 32])
    {first next last : ByteString} (hfirst : first = [123, 10]) (hnext : next = [34, 44, 10])
    (hlast : last = [10, 125, 10]) (r₁ r₂ r₃ r₄ r₅ : ByteString) (n : Int) :
    first ++ t₁ ++ r₁ ++ next ++ t₂ ++ r₂ ++ next ++ t₃ ++ r₃ ++ next ++ t₄ ++ r₄ ++ next ++
        t₅ ++ r₅ ++ next ++ t₆ ++ decimal n ++ last =
      123 :: 10 :: memberText k₁ r₁ (memberText k₂ r₂ (memberText k₃ r₃ (memberText k₄ r₄
        (memberText k₅ r₅ (timeText k₆ n))))) := by
  subst h₁ h₂ h₃ h₄ h₅ h₆ hfirst hnext hlast
  simp only [memberText, timeText, List.append_assoc, List.cons_append, List.nil_append]

theorem makeMetaJson_eq (e : QuarantineEntry) :
    makeMetaJson e = 123 :: 10 :: memberText "entry_id" (escape e.entryId)
      (memberText "original_path" (escape e.originalPath)
        (memberText "quarantine_path" (escape e.quarantinePath)
          (memberText "virus_name" (escape e.virusName)
            (memberText "sha256_hash" e.sha256Hash
              (timeText "quarantined_at_ms" e.quarantinedAtMs.toInt))))) :=
  memberTexts (by decide) (by decide) (by decide) (by decide) (by decide) (by decide)
    (by decide) (by decide) (by decide) _ _ _ _ _ _

variable {turns : Nat} {key raw value rest : ByteString}

theorem skipBlanks_memberText :
    skipBlanks (10 :: memberText key raw rest) =
      34 :: (key ++ 34 :: 58 :: 32 :: 34 :: (raw ++ 34 :: 44 :: 10 :: rest)) := by
  rw [memberText, skipBlanks_cons (by decide), skipBlanks_cons (by decide),
    skipBlanks_cons (by decide), skipBlanks_of_cons (by decide)]

/-- A line whose string is read up to its last quotation mark. -/
theorem readMembers_memberText (hplain : ∀ b ∈ key, IsPlain b) (hutf8 : validUtf8 key = true)
    {text : ByteString}
    (hraw : readString (raw ++ 34 :: 44 :: 10 :: rest) = some (text, 44 :: 10 :: rest)) :
    readMembers (turns + 2) (10 :: memberText key raw rest) =
      (readMembers (turns + 1) (10 :: rest)).map fun q => ((key, .string text) :: q.1, q.2) := by
  rw [readMembers_key skipBlanks_memberText hplain hutf8,
    readValue_string ((skipBlanks_cons (by decide)).trans (skipBlanks_of_cons (by decide))), hraw]
  rfl

theorem readMembers_escaped (hplain : ∀ b ∈ key, IsPlain b) (hutf8 : validUtf8 key = true) :
    readMembers (turns + 2) (10 :: memberText key (escape value) rest) =
      if Writable value then
        (readMembers (turns + 1) (10 :: rest)).map fun q => ((key, .string value) :: q.1, q.2)
      else none := by
  have hread := readString_escape value (44 :: 10 :: rest)
  split
  · rename_i hvalue
    rw [if_pos hvalue] at hread
    exact readMembers_memberText hplain hutf8 hread
  · rename_i hvalue
    rw [if_neg hvalue] at hread
    rw [readMembers_key skipBlanks_memberText hplain hutf8,
      readValue_string ((skipBlanks_cons (by decide)).trans (skipBlanks_of_cons (by decide))),
      hread]
    rfl

theorem readMembers_escaped_iff (hplain : ∀ b ∈ key, IsPlain b) (hutf8 : validUtf8 key = true)
    {members : List (ByteString × Json)} {rest' : ByteString} :
    readMembers (turns + 2) (10 :: memberText key (escape value) rest) =
        some ((key, .string value) :: members, rest') ↔
      Writable value ∧ readMembers (turns + 1) (10 :: rest) = some (members, rest') := by
  rw [readMembers_escaped hplain hutf8]
  by_cases hvalue : Writable value
  · simp only [hvalue, if_true, true_and, Option.map_eq_some_iff]
    constructor
    · rintro ⟨⟨members', after⟩, hmembers, hpair⟩
      simp only [Prod.mk.injEq, List.cons.injEq, true_and] at hpair
      obtain ⟨rfl, rfl⟩ := hpair
      exact hmembers
    · intro hmembers
      exact ⟨_, hmembers, rfl⟩
  · simp [hvalue]

/-- A string that is written without escapes is read back only if it needs none. -/
theorem plain_of_readString
    (h : readString (raw ++ 34 :: 44 :: 10 :: rest) = some (raw, value)) :
    validUtf8 raw = true ∧ ∀ b ∈ raw, IsPlain b := by
  rw [readString] at h
  split at h
  · rename_i text rest' hbody
    split at h
    · rename_i hutf8
      obtain ⟨rfl, rfl⟩ := Prod.mk.inj (Option.some.inj h)
      refine ⟨hutf8, ?_⟩
      obtain ⟨raw', hsplit, hlow, ⟨rfl, hplain⟩ | hlonger⟩ := stringBody_raw hbody
      · exact hplain
      -- the string would go on over the end of the line
      · rcases List.append_eq_append_iff.mp hsplit with ⟨excess, rfl, hover⟩ | ⟨short, hshort, -⟩
        · rcases excess with _ | ⟨b₁, _ | ⟨b₂, _ | ⟨b₃, excess⟩⟩⟩
          · simp at hlonger
          · simp at hover
          · simp at hover
          · simp only [List.cons_append, List.cons.injEq] at hover
            have hcontrol := hlow b₃ (by simp)
            rw [← hover.2.2.1] at hcontrol
            exact absurd hcontrol (by decide)
        · rw [hshort, List.length_append] at hlonger
          omega
    · exact absurd h (by simp)
  · exact absurd h (by simp)

theorem readMembers_raw (hplain : ∀ b ∈ key, IsPlain b) (hutf8 : validUtf8 key = true)
    {members : List (ByteString × Json)} {rest' : ByteString} :
    readMembers (turns + 2) (10 :: memberText key raw rest) =
        some ((key, .string raw) :: members, rest') ↔
      (validUtf8 raw = true ∧ ∀ b ∈ raw, IsPlain b) ∧
        readMembers (turns + 1) (10 :: rest) = some (members, rest') := by
  constructor
  · intro h
    have hread : validUtf8 raw = true ∧ ∀ b ∈ raw, IsPlain b := by
      rw [readMembers_key skipBlanks_memberText hplain hutf8, readValue_string
        ((skipBlanks_cons (by decide)).trans (skipBlanks_of_cons (by decide)))] at h
      obtain ⟨_, hvalue, h⟩ := Option.bind_eq_some_iff.mp h
      obtain ⟨⟨text, after⟩, hstring, rfl⟩ := Option.map_eq_some_iff.mp hvalue
      have htext : text = raw := by
        simp only at h
        split at h
        · obtain ⟨q, -, hq⟩ := Option.map_eq_some_iff.mp h
          simpa using (List.cons.inj (Prod.mk.inj hq).1).1
        · simpa using (List.cons.inj (Prod.mk.inj (Option.some.inj h)).1).1
        · exact absurd h (by simp)
      rw [htext] at hstring
      exact plain_of_readString hstring
    refine ⟨hread, ?_⟩
    rw [readMembers_memberText hplain hutf8 (readString_text hread.2 hread.1),
      Option.map_eq_some_iff] at h
    obtain ⟨⟨members', after⟩, hmembers, hpair⟩ := h
    simp only [Prod.mk.injEq, List.cons.injEq, true_and] at hpair
    obtain ⟨rfl, rfl⟩ := hpair
    exact hmembers
  · rintro ⟨⟨hrawUtf8, hrawPlain⟩, hmembers⟩
    rw [readMembers_memberText hplain hutf8 (readString_text hrawPlain hrawUtf8), hmembers]
    rfl

theorem readMembers_timeText (hplain : ∀ b ∈ key, IsPlain b) (hutf8 : validUtf8 key = true)
    (n : Int) :
    readMembers (turns + 2) (10 :: timeText key n) =
      some ([(key, ofInteger (decide (n < 0)) n.natAbs)], [10]) := by
  have hblanks : skipBlanks (10 :: timeText key n) =
      34 :: (key ++ 34 :: 58 :: 32 :: (decimal n ++ [10, 125, 10])) := by
    rw [timeText, skipBlanks_cons (by decide), skipBlanks_cons (by decide),
      skipBlanks_cons (by decide), skipBlanks_of_cons (by decide)]
  have hends : EndsInteger 10 := ⟨by decide, by decide, by decide, by decide⟩
  have hnumber : skipBlanks (32 :: (decimal n ++ [10, 125, 10])) =
      decimal n ++ 10 :: [125, 10] := by
    obtain ⟨b, ds, hdecimal, hb⟩ := decimal_cons n
    have hblank : isBlank b = false := by
      rcases hb with rfl | hdigit
      · decide
      · simp only [isDecimal, Bool.and_eq_true, decide_eq_true_eq] at hdigit
        have hne : ∀ c : UInt8, c < 48 → b ≠ c := by
          rintro c hc rfl
          exact absurd hdigit.1 (UInt8.not_le.mpr hc)
        simp [isBlank, hne 32 (by decide), hne 9 (by decide), hne 10 (by decide),
          hne 13 (by decide)]
    rw [skipBlanks_cons (by decide), hdecimal, List.cons_append, skipBlanks_of_cons hblank]
  rw [readMembers_key hblanks hplain hutf8, readValue_decimal n hends hnumber]
  rfl

end Members

section Keys

/-- The keys of the sidecar stand for themselves. -/
def metaKeys : List ByteString :=
  ["entry_id", "original_path", "quarantine_path", "virus_name", "sha256_hash",
    "quarantined_at_ms"]

instance (b : UInt8) : Decidable (IsPlain b) :=
  inferInstanceAs (Decidable (_ ∧ _))

theorem metaKeys_plain {key : ByteString} (hkey : key ∈ metaKeys) :
    (∀ b ∈ key, IsPlain b) ∧ validUtf8 key = true := by
  have hplain : ∀ key ∈ metaKeys, (key.all fun b => decide (IsPlain b)) = true := by
    decide +kernel
  have hutf8 : ∀ key ∈ metaKeys, validUtf8 key = true := by decide +kernel
  exact ⟨forall_mem_of_all (hplain key hkey), hutf8 key hkey⟩

end Keys

section Documents

variable {turns : Nat} (e : QuarantineEntry)

/-- The sidecar behind its opening brace. -/
def metaLines : ByteString :=
  10 :: memberText "entry_id" (escape e.entryId)
    (memberText "original_path" (escape e.originalPath)
      (memberText "quarantine_path" (escape e.quarantinePath)
        (memberText "virus_name" (escape e.virusName)
          (memberText "sha256_hash" e.sha256Hash
            (timeText "quarantined_at_ms" e.quarantinedAtMs.toInt)))))

theorem metaKeys_each :
    (∀ key ∈ metaKeys, ∀ b ∈ key, IsPlain b) ∧ ∀ key ∈ metaKeys, validUtf8 key = true :=
  ⟨fun _ hkey => (metaKeys_plain hkey).1, fun _ hkey => (metaKeys_plain hkey).2⟩

/-- The texts that the writer escapes. -/
def TextsWritable : Prop :=
  Writable e.entryId ∧ Writable e.originalPath ∧ Writable e.quarantinePath ∧
    Writable e.virusName

theorem readMembers_metaLines_iff {rest : ByteString} :
    readMembers (turns + 7) (metaLines e) = some (metaMembers e, rest) ↔
      (TextsWritable e ∧ validUtf8 e.sha256Hash = true ∧ ∀ b ∈ e.sha256Hash, IsPlain b) ∧
        rest = [10] := by
  have hkeys := metaKeys_each
  simp only [metaKeys, List.forall_mem_cons] at hkeys
  obtain ⟨⟨h₁, h₂, h₃, h₄, h₅, h₆, -⟩, u₁, u₂, u₃, u₄, u₅, u₆, -⟩ := hkeys
  rw [metaLines, metaMembers, readMembers_escaped_iff h₁ u₁, readMembers_escaped_iff h₂ u₂,
    readMembers_escaped_iff h₃ u₃, readMembers_escaped_iff h₄ u₄, readMembers_raw h₅ u₅,
    readMembers_timeText h₆ u₆]
  simp only [TextsWritable, Option.some.injEq, Prod.mk.injEq, true_and, and_assoc, eq_comm]

/-- A text with a control character ends the document. -/
theorem readMembers_metaLines_of_refused (hrefused : ¬ TextsWritable e) :
    readMembers (turns + 7) (metaLines e) = none := by
  have hkeys := metaKeys_each
  simp only [metaKeys, List.forall_mem_cons] at hkeys
  obtain ⟨⟨h₁, h₂, h₃, h₄, -⟩, u₁, u₂, u₃, u₄, -⟩ := hkeys
  rw [metaLines, readMembers_escaped h₁ u₁]
  split
  · rename_i hid
    rw [readMembers_escaped h₂ u₂]
    split
    · rename_i horiginal
      rw [readMembers_escaped h₃ u₃]
      split
      · rename_i hpath
        rw [readMembers_escaped h₄ u₄, if_neg fun hvirus =>
          hrefused ⟨hid, horiginal, hpath, hvirus⟩]
        rfl
      · rfl
    · rfl
  · rfl

theorem readValue_makeMetaJson :
    readValue (turns + 8) (makeMetaJson e) =
      (readMembers (turns + 7) (metaLines e)).map fun p => (.object p.1, p.2) := by
  rw [makeMetaJson_eq]
  exact readValue_object (skipBlanks_of_cons (by decide)) skipBlanks_memberText (by decide)

/-- What the sidecar reads as is an object of its lines. -/
theorem reads_makeMetaJson_iff {j : Json} :
    Reads (makeMetaJson e) j ↔ ∃ turns members rest,
      readMembers (turns + 7) (metaLines e) = some (members, rest) ∧
        skipBlanks rest = [] ∧ j = .object members := by
  rw [@reads_iff 8]
  apply exists_congr
  intro turns
  rw [Json.read, readValue_makeMetaJson]
  constructor
  · intro h
    split at h
    · rename_i found after hread
      obtain ⟨⟨members, rest⟩, hmembers, hpair⟩ := Option.map_eq_some_iff.mp hread
      obtain ⟨rfl, rfl⟩ := Prod.mk.inj hpair
      split at h
      · rename_i hend
        exact ⟨members, rest, hmembers, hend, (Option.some.inj h).symm⟩
      · exact absurd h (by simp)
    · exact absurd h (by simp)
  · rintro ⟨members, rest, hmembers, hend, rfl⟩
    rw [hmembers]
    simp only [Option.map_some, hend, if_true]

/-- Without a writable text there is no document at all. -/
theorem not_reads_of_refused (hrefused : ¬ TextsWritable e) (j : Json) :
    ¬ Reads (makeMetaJson e) j := by
  rw [reads_makeMetaJson_iff]
  rintro ⟨turns, members, rest, hmembers, -⟩
  rw [readMembers_metaLines_of_refused e hrefused] at hmembers
  exact absurd hmembers (by simp)

/-- The sidecar reads back as the entry exactly if its texts are UTF-8 without control
characters, and its digest needs no escapes either. -/
theorem makeMetaJson_reads_iff :
    Reads (makeMetaJson e) (.object (metaMembers e)) ↔
      TextsWritable e ∧ validUtf8 e.sha256Hash = true ∧ ∀ b ∈ e.sha256Hash, IsPlain b := by
  rw [reads_makeMetaJson_iff]
  constructor
  · rintro ⟨turns, members, rest, hmembers, -, hobject⟩
    obtain rfl := Json.object.inj hobject
    exact ((readMembers_metaLines_iff e).mp hmembers).1
  · intro hwritable
    exact ⟨0, _, [10], (readMembers_metaLines_iff e).mpr ⟨hwritable, rfl⟩, by decide, rfl⟩

/-- A text of ASCII characters that stand for themselves. -/
theorem plain_ascii {s : ByteString} (hs : ∀ b ∈ s, IsPlain b ∧ b ≤ 0x7F) :
    validUtf8 s = true ∧ ∀ b ∈ s, IsPlain b :=
  ⟨validUtf8_of_ascii fun b hb => (hs b hb).2, fun b hb => (hs b hb).1⟩

theorem digitByte_plain {d : Nat} (hd : d < 16) :
    IsPlain (digitByte d) ∧ digitByte d ≤ 0x7F := by
  revert d
  decide +kernel

theorem sha256Hex_plain (sha256 : Audit.Sha256) (data : ByteString) :
    ∀ b ∈ sha256Hex sha256 data, IsPlain b ∧ b ≤ 0x7F := by
  intro b hb
  obtain ⟨c, -, hbyte⟩ := List.mem_flatMap.mp hb
  have hc := c.toNat_lt
  simp only [hexByte, List.mem_cons, List.not_mem_nil, or_false] at hbyte
  rcases hbyte with rfl | rfl
  · exact digitByte_plain (by omega)
  · exact digitByte_plain (by omega)

theorem generateEntryId_plain (a b : UInt64) :
    ∀ c ∈ generateEntryId a b, IsPlain c ∧ c ≤ 0x7F := by
  have hword : ∀ (word : UInt64), ∀ c ∈ hexWord word, IsPlain c ∧ c ≤ 0x7F := by
    intro word c hc
    rcases List.mem_append.mp hc with hzero | hdigit
    · rw [List.eq_of_mem_replicate hzero]
      decide
    · obtain ⟨d, hd, rfl⟩ := mem_natText (by omega) hdigit
      exact digitByte_plain hd
  have hqtn : ∀ c ∈ ("qtn_" : ByteString), IsPlain c ∧ c ≤ 0x7F :=
    forall_mem_of_all (by decide +kernel)
  intro c hc
  rcases List.mem_append.mp hc with hc | hc
  · exact (List.mem_append.mp hc).elim (hqtn c) (hword a c)
  · exact hword b c hc

/-- Of an entry that `quarantine_file` makes, the paths and the name decide. -/
theorem newEntry_reads_iff {Place : Type} (paths : Paths Place) (sha256 : Audit.Sha256)
    (quarantineDir : ByteString) (inputs : Inputs) (srcPath virusName : ByteString)
    (content : Option ByteString) :
    let e := newEntry paths sha256 quarantineDir inputs srcPath virusName content
    Reads (makeMetaJson e) (.object (metaMembers e)) ↔
      Writable e.originalPath ∧ Writable e.quarantinePath ∧ Writable e.virusName := by
  intro e
  have hid := plain_ascii (generateEntryId_plain inputs.draw.1 inputs.draw.2)
  have hhash : validUtf8 e.sha256Hash = true ∧ ∀ b ∈ e.sha256Hash, IsPlain b := by
    cases content with
    | none =>
        exact plain_ascii (s := "(file too large to hash)")
          (forall_mem_of_all (by decide +kernel))
    | some content => exact plain_ascii (sha256Hex_plain sha256 content)
  rw [makeMetaJson_reads_iff]
  constructor
  · rintro ⟨⟨-, htexts⟩, -⟩
    exact htexts
  · intro htexts
    exact ⟨⟨⟨hid.1, fun b hb => (hid.2 b hb).1⟩, htexts⟩, hhash⟩

/-- A signature name with a line feed. -/
def brokenNameEntry : QuarantineEntry where
  entryId := "qtn_00000000000000010000000000000002"
  originalPath := "C:\\Users\\a.exe"
  quarantinePath := "C:\\q\\qtn_00000000000000010000000000000002.bin"
  virusName := "Eicar\nTest"
  sha256Hash := "(file too large to hash)"
  quarantinedAtMs := 1700000000000

theorem brokenName_unreadable :
    validUtf8 brokenNameEntry.originalPath = true ∧
      validUtf8 brokenNameEntry.virusName = true ∧
      ∀ j, ¬ Reads (makeMetaJson brokenNameEntry) j := by
  refine ⟨by decide, by decide, not_reads_of_refused brokenNameEntry ?_⟩
  rintro ⟨-, -, -, -, hlow⟩
  exact absurd (hlow 10 (by decide)) (by decide)

end Documents

end Astartis.Containment
