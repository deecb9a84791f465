import Astartis.DispatchSafety
import Astartis.RegexLanguage

/-!
Which addresses an agent can have blocked.  The addresses are found as four groups of digits and
filtered by their spelling, while what they denote depends on the numbers.
-/

namespace Astartis.ActionDispatcher

open ByteString
open PolicyEngine
open Regex

/-- One to three digits. -/
structure Numeral (g : ByteString) : Prop where
  length_pos : 1 ≤ g.length
  length_le : g.length ≤ 3
  digits : ∀ b ∈ g, isDigit b = true

/-- The number of a group, leading zeros or not. -/
def octet (g : ByteString) : Nat :=
  g.foldl (fun n b => 10 * n + (b.toNat - 48)) 0

def groups (ip : ByteString) : List ByteString :=
  ip.splitOn 46

/-- Four octets that denote a host outside of loopback, the zero network, link-local and the
private ranges. -/
def Routable (ip : ByteString) : Prop :=
  ∃ a b c d, groups ip = [a, b, c, d] ∧ (∀ g ∈ [a, b, c, d], Numeral g ∧ octet g ≤ 255) ∧
    octet a ≠ 127 ∧ octet a ≠ 0 ∧ ¬ (octet a = 169 ∧ octet b = 254) ∧
    octet a ≠ 10 ∧ ¬ (octet a = 172 ∧ 16 ≤ octet b ∧ octet b ≤ 31) ∧
    ¬ (octet a = 192 ∧ octet b = 168)

/-- What the prefixes of `is_safe_ip` do not cover: octets above 255, most of loopback and of the
zero network, link-local, and private ranges that are written with a leading zero. -/
def Overlooked (ip : ByteString) : Prop :=
  ∃ a b c d, groups ip = [a, b, c, d] ∧
    ((∃ g ∈ [a, b, c, d], 255 < octet g) ∨ octet a = 127 ∨ octet a = 0 ∨
      (octet a = 169 ∧ octet b = 254) ∨ a = ("010" : ByteString) ∨
      (a = ("172" : ByteString) ∧ b.head? = some 48 ∧ 16 ≤ octet b ∧ octet b ≤ 31))

section Spelling

theorem digit_bounds {b : UInt8} (hb : isDigit b = true) : 48 ≤ b.toNat ∧ b.toNat ≤ 57 := by
  simpa [isDigit, UInt8.le_iff_toNat_le] using hb

/-- A numeral by its digits. -/
theorem Numeral.cases {g : ByteString} (hg : Numeral g) :
    (∃ x, g = [x] ∧ octet g = x.toNat - 48 ∧ isDigit x = true) ∨
    (∃ x y, g = [x, y] ∧ octet g = 10 * (x.toNat - 48) + (y.toNat - 48) ∧ isDigit x = true ∧
      isDigit y = true) ∨
    ∃ x y z, g = [x, y, z] ∧
      octet g = 100 * (x.toNat - 48) + 10 * (y.toNat - 48) + (z.toNat - 48) ∧
      isDigit x = true ∧ isDigit y = true ∧ isDigit z = true := by
  obtain ⟨hpos, hle, hdigits⟩ := hg
  rcases g with _ | ⟨x, _ | ⟨y, _ | ⟨z, _ | ⟨w, g⟩⟩⟩⟩
  · simp at hpos
  · exact .inl ⟨x, rfl, by simp [octet], hdigits x (by simp)⟩
  · exact .inr (.inl ⟨x, y, rfl, by simp [octet], hdigits x (by simp), hdigits y (by simp)⟩)
  · refine .inr (.inr ⟨x, y, z, rfl, ?_, hdigits x (by simp), hdigits y (by simp),
      hdigits z (by simp)⟩)
    simp only [octet, List.foldl_cons, List.foldl_nil]
    omega
  · simp only [List.length_cons] at hle
    omega

theorem eq_digit {b : UInt8} {n : Nat} (hb : isDigit b = true) (hn : b.toNat - 48 = n) :
    b = UInt8.ofNat (48 + n) := by
  have hbounds := digit_bounds hb
  rw [← UInt8.toNat_inj, UInt8.toNat_ofNat']
  omega

/-- A number of three digits has one spelling. -/
theorem Numeral.eq_of_three {g : ByteString} (hg : Numeral g) (hoctet : 100 ≤ octet g) :
    g = [UInt8.ofNat (48 + octet g / 100), UInt8.ofNat (48 + octet g / 10 % 10),
      UInt8.ofNat (48 + octet g % 10)] := by
  rcases hg.cases with ⟨x, rfl, hvalue, hx⟩ | ⟨x, y, rfl, hvalue, hx, hy⟩ |
    ⟨x, y, z, rfl, hvalue, hx, hy, hz⟩
  · have := digit_bounds hx
    omega
  · have := digit_bounds hx
    have := digit_bounds hy
    omega
  · have := digit_bounds hx
    have := digit_bounds hy
    have := digit_bounds hz
    rw [← eq_digit hx (by omega), ← eq_digit hy (by omega), ← eq_digit hz (by omega)]

/-- A number of two digits is written with them, or with a zero in front of them. -/
theorem Numeral.eq_of_two {g : ByteString} (hg : Numeral g) (hleast : 10 ≤ octet g)
    (hmost : octet g < 100) :
    g = [UInt8.ofNat (48 + octet g / 10), UInt8.ofNat (48 + octet g % 10)] ∨
      g = [48, UInt8.ofNat (48 + octet g / 10), UInt8.ofNat (48 + octet g % 10)] := by
  rcases hg.cases with ⟨x, rfl, hvalue, hx⟩ | ⟨x, y, rfl, hvalue, hx, hy⟩ |
    ⟨x, y, z, rfl, hvalue, hx, hy, hz⟩
  · have := digit_bounds hx
    omega
  · have := digit_bounds hx
    have := digit_bounds hy
    rw [← eq_digit hx (by omega), ← eq_digit hy (by omega)]
    exact .inl rfl
  · have := digit_bounds hx
    have := digit_bounds hy
    have := digit_bounds hz
    rw [← eq_digit hy (by omega), ← eq_digit hz (by omega)]
    have hzero : x = UInt8.ofNat (48 + 0) := eq_digit hx (by omega)
    exact .inr (by rw [hzero]; rfl)

/-- A match of the address pattern has four groups. -/
theorem groups_of_spells {ip : ByteString} (hip : ipRe.Spells ip) :
    ∃ a b c d, groups ip = [a, b, c, d] ∧ ∀ g ∈ [a, b, c, d], Numeral g := by
  have hnumeral : ∀ g, (Regex.repeated (.byte isDigit) 1 3).Spells g → Numeral g := by
    rintro g ⟨pieces, hleast, hmost, hpieces, rfl⟩
    have hlength : pieces.flatten.length = pieces.length := by
      rw [List.length_flatten, List.map_congr_left (g := fun _ => 1), List.map_const',
        List.sum_replicate]
      · simp
      · intro piece hpiece
        obtain ⟨b, -, rfl⟩ := hpieces piece hpiece
        rfl
    refine ⟨hlength ▸ hleast, hlength ▸ hmost, ?_⟩
    intro b hb
    obtain ⟨piece, hpiece, hb⟩ := List.mem_flatten.mp hb
    obtain ⟨digit, hdigit, rfl⟩ := hpieces piece hpiece
    exact List.mem_singleton.mp hb ▸ hdigit
  obtain ⟨_, _, rfl, ⟨front, _, ⟨pieces, hleast, hmost, hpieces, rfl⟩,
    ⟨d, _, hd, rfl, rfl⟩, rfl⟩, rfl⟩ := hip
  have hgroup : ∀ piece ∈ pieces, ∃ g, Numeral g ∧ piece = g ++ [46] := by
    intro piece hpiece
    obtain ⟨g, dot, hg, ⟨b, hb, rfl⟩, rfl⟩ := hpieces piece hpiece
    obtain rfl : b = 46 := by simpa using hb
    exact ⟨g, hnumeral g hg, rfl⟩
  obtain ⟨p, q, r, rfl⟩ := List.length_eq_three.mp (le_antisymm hmost hleast)
  obtain ⟨a, ha, rfl⟩ := hgroup p (by simp)
  obtain ⟨b, hb, rfl⟩ := hgroup q (by simp)
  obtain ⟨c, hc, rfl⟩ := hgroup r (by simp)
  have hdots : ∀ {g : ByteString}, Numeral g → ∀ x ∈ g, (x == (46 : UInt8)) = false := by
    intro g hg x hx
    have hbounds := digit_bounds (hg.digits x hx)
    rw [beq_eq_false_iff_ne]
    rintro rfl
    exact absurd hbounds.1 (by decide)
  have hd := hnumeral d hd
  refine ⟨a, b, c, d, ?_, ?_⟩
  · have htext : [] ++ ([a ++ [46], b ++ [46], c ++ [46]].flatten ++ (d ++ [])) =
        a ++ 46 :: (b ++ 46 :: (c ++ 46 :: d)) := by simp
    rw [htext, groups, List.splitOn, List.splitOnP_append_cons _ _ rfl,
      List.splitOnP_append_cons _ _ rfl, List.splitOnP_append_cons _ _ rfl,
      List.splitOnP_eq_singleton (hdots ha), List.splitOnP_eq_singleton (hdots hb),
      List.splitOnP_eq_singleton (hdots hc), List.splitOnP_eq_singleton (hdots hd)]
    rfl
  · simp only [List.forall_mem_cons, List.not_mem_nil, IsEmpty.forall_iff, implies_true, and_true]
    exact ⟨ha, hb, hc, hd⟩

theorem eq_of_groups {ip a b c d : ByteString} (hip : groups ip = [a, b, c, d]) :
    ip = a ++ 46 :: (b ++ 46 :: (c ++ 46 :: d)) := by
  have htext : List.intercalate [46] (ip.splitOn 46) = ip := List.intercalate_splitOn 46
  rw [groups] at hip
  rw [← htext, hip]
  simp [List.intercalate]

theorem isSafeIp_of_covered {ip safePrefix : ByteString} (hmember : safePrefix ∈ safePrefixes)
    (hip : safePrefix <+: ip) : isSafeIp ip = true := by
  have hany : (safePrefixes.any fun safePrefix => safePrefix.isPrefixOf ip) = true :=
    List.any_eq_true.mpr ⟨safePrefix, hmember, List.isPrefixOf_iff_prefix.mpr hip⟩
  simp only [isSafeIp, hany, Bool.or_true]

/-- A private address is covered by a prefix unless it is written with a leading zero. -/
theorem private_spelling {ip a b c d : ByteString} (hip : groups ip = [a, b, c, d])
    (ha : Numeral a) (hb : Numeral b) (hsafe : isSafeIp ip = false)
    (hprivate : octet a = 10 ∨ (octet a = 172 ∧ 16 ≤ octet b ∧ octet b ≤ 31) ∨
      (octet a = 192 ∧ octet b = 168)) :
    a = ("010" : ByteString) ∨
      (a = ("172" : ByteString) ∧ b.head? = some 48 ∧ 16 ≤ octet b ∧ octet b ≤ 31) := by
  have htext := eq_of_groups hip
  have huncovered : ∀ safePrefix ∈ safePrefixes, ¬ safePrefix <+: ip := by
    intro safePrefix hmem hstart
    rw [isSafeIp_of_covered hmem hstart] at hsafe
    exact absurd hsafe (by decide)
  rcases hprivate with hten | ⟨htwelve, hlow, hhigh⟩ | ⟨hlast, hclass⟩
  · have hspelling := ha.eq_of_two (by omega) (by omega)
    rw [hten] at hspelling
    rcases hspelling with rfl | rfl
    · exact absurd ⟨_, htext.symm⟩ (huncovered [49, 48, 46] (by decide +kernel))
    · exact .inl (by decide +kernel)
  · have hspelling := ha.eq_of_three (by omega)
    rw [htwelve] at hspelling
    subst hspelling
    refine .inr ⟨by decide +kernel, ?_, hlow, hhigh⟩
    rcases hb.eq_of_two (by omega) (by omega) with hspelt | hspelt
    · have hcovered : ∀ n, 16 ≤ n → n ≤ 31 →
          [49, 55, 50, 46, UInt8.ofNat (48 + n / 10), UInt8.ofNat (48 + n % 10), 46] ∈
            safePrefixes := by
        decide +kernel
      rw [hspelt] at htext
      exact absurd ⟨_, htext.symm⟩ (huncovered _ (hcovered (octet b) hlow hhigh))
    · rw [hspelt]
      rfl
  · have hfirst := ha.eq_of_three (by omega)
    have hsecond := hb.eq_of_three (by omega)
    rw [hlast] at hfirst
    rw [hclass] at hsecond
    subst hfirst hsecond
    exact absurd ⟨_, htext.symm⟩
      (huncovered [49, 57, 50, 46, 49, 54, 56, 46] (by decide +kernel))

theorem routable_iff {ip a b c d : ByteString} (hip : groups ip = [a, b, c, d])
    (hnumerals : ∀ g ∈ [a, b, c, d], Numeral g) (hsafe : isSafeIp ip = false) :
    Routable ip ↔ ¬ Overlooked ip := by
  constructor
  · rintro ⟨a', b', c', d', hip', hoctets, hloop, hzero, hlink, hten, htwelve, -⟩
      ⟨a'', b'', c'', d'', hip'', hoverlooked⟩
    obtain ⟨rfl, rfl, rfl, rfl⟩ : a' = a'' ∧ b' = b'' ∧ c' = c'' ∧ d' = d'' := by
      simpa using hip'.symm.trans hip''
    rcases hoverlooked with ⟨g, hg, hlarge⟩ | h | h | h | rfl | ⟨rfl, -, hrange⟩
    · exact absurd (hoctets g hg).2 (by omega)
    · exact hloop h
    · exact hzero h
    · exact hlink h
    · exact hten (by decide +kernel)
    · exact htwelve ⟨by decide +kernel, hrange⟩
  · intro hpassed
    have hnot : ∀ {P : Prop}, (P → Overlooked ip) → ¬ P := fun h hP => hpassed (h hP)
    have hprivate := private_spelling hip (hnumerals a (by simp)) (hnumerals b (by simp)) hsafe
    have hspelt : ¬ (octet a = 10 ∨ (octet a = 172 ∧ 16 ≤ octet b ∧ octet b ≤ 31) ∨
        (octet a = 192 ∧ octet b = 168)) := by
      refine hnot fun h => ⟨a, b, c, d, hip, ?_⟩
      rcases hprivate h with hzero | hzero
      · exact .inr (.inr (.inr (.inr (.inl hzero))))
      · exact .inr (.inr (.inr (.inr (.inr hzero))))
    simp only [not_or] at hspelt
    refine ⟨a, b, c, d, hip, fun g hg => ⟨hnumerals g hg, ?_⟩, ?_, ?_, ?_, hspelt.1, hspelt.2.1,
      hspelt.2.2⟩
    · by_contra hlarge
      exact hpassed ⟨a, b, c, d, hip, .inl ⟨g, hg, by omega⟩⟩
    · exact hnot fun h => ⟨a, b, c, d, hip, .inr (.inl h)⟩
    · exact hnot fun h => ⟨a, b, c, d, hip, .inr (.inr (.inl h))⟩
    · exact hnot fun h => ⟨a, b, c, d, hip, .inr (.inr (.inr (.inl h)))⟩

end Spelling

section Scan

variable (texts : Texts)

/-- The addresses in a text that may be blocked. -/
def candidates (text : ByteString) : List ByteString :=
  (ipRe.matchTexts text).filter fun ip => !isSafeIp ip

/-- The texts of a member, `none` where an element cannot be serialized. -/
def memberTexts (takesString : Bool) (key : ByteString) (j : Json) : List (Option ByteString) :=
  match j.member? key with
  | some (.array elements) => elements.map (elementText texts)
  | some (.string s) => if takesString then [some s] else []
  | _ => []

/-- The serializer and the matcher raise no exception. -/
def readable : Option ByteString → Bool
  | none => false
  | some s => !texts.givesUp ipRe s

/-- The texts of the structured pass, which ends at an exception. -/
def structuredTexts (outputJson : ByteString) : List ByteString :=
  match texts.json.parse outputJson with
  | none => []
  | some j =>
      ((memberTexts texts true "containment_actions" j ++
        memberTexts texts false "iocs_found" j).takeWhile (readable texts)).filterMap id

/-- All texts that are scanned for an address, in their order. -/
def scannedTexts (outputJson : ByteString) : List ByteString :=
  structuredTexts texts outputJson ++ if texts.givesUp ipRe outputJson then [] else [outputJson]

theorem ne_nil_of_mem_candidates {text ip : ByteString} (hip : ip ∈ candidates text) :
    ip ≠ [] := by
  obtain ⟨a, b, c, d, hgroups, -⟩ :=
    groups_of_spells (matchTexts_spells (List.mem_filter.mp hip).1)
  rw [eq_of_groups hgroups]
  simp

/-- The first address of several texts is a candidate of one of them. -/
theorem mem_candidates_of_head? {scanned : List ByteString} {ip : ByteString}
    (hfirst : (scanned.flatMap candidates).head? = some ip) :
    ∃ text ∈ scanned, ip ∈ candidates text :=
  List.mem_flatMap.mp (List.mem_of_mem_head? (Option.mem_def.mpr hfirst))

theorem ne_nil_of_head? {scanned : List ByteString} {ip : ByteString}
    (hfirst : (scanned.flatMap candidates).head? = some ip) : ip ≠ [] := by
  obtain ⟨text, -, hfound⟩ := mem_candidates_of_head? hfirst
  exact ne_nil_of_mem_candidates hfound

theorem extractIpv4_eq (text : ByteString) :
    extractIpv4 texts text =
      if texts.givesUp ipRe text then none else some ((candidates text).head?.getD []) := by
  rw [extractIpv4, candidates, List.head?_filter]

/-- The first extraction from a list of texts, as both loops and the string case make it. -/
def firstOf (extract : ByteString → Option ByteString) :
    List (Option ByteString) → Option ByteString
  | [] => some []
  | text :: rest => do
      let found ← extract (← text)
      if found = [] then firstOf extract rest else return found

theorem firstExtracted_eq (extract : ByteString → Option ByteString) (elements : List Json) :
    firstExtracted texts extract elements = firstOf extract (elements.map (elementText texts)) := by
  induction elements with
  | nil => rfl
  | cons element rest ih =>
      rw [firstExtracted, List.map_cons, firstOf, ih]

theorem firstOf_cons (extract : ByteString → Option ByteString) (s : ByteString)
    (rest : List (Option ByteString)) :
    firstOf extract (some s :: rest) = (extract s).bind fun found =>
      if found = [] then firstOf extract rest else some found :=
  rfl

theorem scanMember_eq (extract : ByteString → Option ByteString) (takesString : Bool)
    (key : ByteString) (j : Json) :
    scanMember texts extract takesString key j =
      firstOf extract (memberTexts texts takesString key j) := by
  have hone : ∀ s, firstOf extract [some s] = extract s := by
    intro s
    rw [firstOf_cons]
    cases hfound : extract s with
    | none => rfl
    | some found =>
        rw [Option.bind_some]
        split
        · rename_i hnil
          rw [hnil, firstOf]
        · rfl
  simp only [scanMember, memberTexts]
  cases j.member? key with
  | none => rfl
  | some member =>
      cases member with
      | array elements => exact firstExtracted_eq texts extract elements
      | string s =>
          cases takesString with
          | true => exact (hone s).symm
          | false => rfl
      | _ => rfl

theorem firstOf_append (extract : ByteString → Option ByteString)
    (first second : List (Option ByteString)) :
    firstOf extract (first ++ second) = (firstOf extract first).bind fun found =>
      if found = [] then firstOf extract second else some found := by
  induction first with
  | nil => simp [firstOf]
  | cons text first ih =>
      cases text with
      | none => rfl
      | some s =>
          rw [List.cons_append, firstOf_cons, firstOf_cons, ih]
          cases extract s with
          | none => rfl
          | some found =>
              simp only [Option.bind_some]
              split
              · rfl
              · rename_i hne
                rw [Option.bind_some, if_neg hne]

/-- The first extraction is the first candidate in front of an exception. -/
theorem firstOf_eq (list : List (Option ByteString)) :
    (firstOf (extractIpv4 texts) list).getD [] =
      ((((list.takeWhile (readable texts)).filterMap id).flatMap candidates).head?).getD [] := by
  induction list with
  | nil => rfl
  | cons text rest ih =>
      cases text with
      | none => rfl
      | some s =>
          have hreadable : readable texts (some s) = !texts.givesUp ipRe s := rfl
          rw [firstOf_cons, List.takeWhile_cons, hreadable, extractIpv4_eq]
          by_cases hgives : texts.givesUp ipRe s = true
          · rw [if_pos hgives, hgives]
            rfl
          · simp only [Bool.not_eq_true] at hgives
            simp only [hgives, Bool.false_eq_true, if_false, Bool.not_false, if_true,
              Option.bind_some, List.filterMap_cons, id_eq, List.flatMap_cons, List.head?_append]
            cases hhead : (candidates s).head? with
            | none =>
                simp only [Option.getD_none, if_true, Option.none_or]
                exact ih
            | some ip =>
                have hne : ip ≠ [] :=
                  ne_nil_of_mem_candidates (List.mem_of_mem_head? (Option.mem_def.mpr hhead))
                simp [hne]

/-- The structured pass, as one search through the texts of both members. -/
theorem structured_eq (outputJson : ByteString) :
    ((do
        let j ← texts.json.parse outputJson
        let found ← scanMember texts (extractIpv4 texts) true "containment_actions" j
        if found = [] then scanMember texts (extractIpv4 texts) false "iocs_found" j
        else return found : Option ByteString)).getD [] =
      (((structuredTexts texts outputJson).flatMap candidates).head?).getD [] := by
  rw [structuredTexts]
  cases texts.json.parse outputJson with
  | none => rfl
  | some j =>
      simp only [scanMember_eq]
      exact (congrArg (Option.getD · []) (firstOf_append (extractIpv4 texts) _ _).symm).trans
        (firstOf_eq texts _)

/-- The dispatcher's target is the first candidate in the scanned texts. -/
theorem scanOutput_eq_iff (outputJson : ByteString) {ip : ByteString} (hip : ip ≠ []) :
    scanOutput texts (extractIpv4 texts) "containment_actions" "iocs_found" outputJson = some ip ↔
      ((scannedTexts texts outputJson).flatMap candidates).head? = some ip := by
  have hstructured := structured_eq texts outputJson
  rw [scanOutput, scannedTexts, List.flatMap_append, List.head?_append]
  generalize (do
    let j ← texts.json.parse outputJson
    let found ← scanMember texts (extractIpv4 texts) true "containment_actions" j
    if found = [] then scanMember texts (extractIpv4 texts) false "iocs_found" j
    else return found : Option ByteString) = structured at hstructured ⊢
  cases hhead : ((structuredTexts texts outputJson).flatMap candidates).head? with
  | none =>
      rw [hhead] at hstructured
      simp only [hstructured, Option.getD_none, if_true, Option.none_or, extractIpv4_eq]
      cases texts.givesUp ipRe outputJson with
      | true => simp
      | false =>
          cases hraw : (candidates outputJson).head? with
          | none => simp [hraw, Ne.symm hip]
          | some found => simp [hraw]
  | some found =>
      have hne := ne_nil_of_head? hhead
      rw [hhead, Option.getD_some] at hstructured
      cases structured with
      | none => exact absurd hstructured.symm hne
      | some target =>
          rw [Option.getD_some] at hstructured
          simp [hstructured, hne]

end Scan

def Call.blocked? : Call → Option ByteString
  | .block ip _ _ => some ip
  | _ => none

/-- The addresses that were passed to `block`. -/
def blockedIps (calls : List Call) : List ByteString :=
  calls.filterMap Call.blocked?

theorem blockedIps_append (first second : List Call) :
    blockedIps (first ++ second) = blockedIps first ++ blockedIps second :=
  List.filterMap_append

section Blocks

variable {σ : Type} (texts : Texts) (effectors : Effectors σ) (outputJson agentName : ByteString)

/-- The addresses that an output makes this agent block. -/
def targets : List ByteString :=
  if canBlockFirewall agentName = true ∧ outputJson ≠ [] then
    (((scannedTexts texts outputJson).flatMap candidates).head?).toList
  else []

theorem tryFirewallBlock_blockedIps (houtput : outputJson ≠ []) (out : DispatchResult)
    (world : σ) :
    ∃ outcome after calls,
      tryFirewallBlock texts effectors.recorded outputJson agentName out (world, []) =
        (outcome, (after, calls)) ∧
      blockedIps calls = targets texts outputJson agentName := by
  have hscan := @scanOutput_eq_iff texts outputJson
  have hnothing (hmissed : ∀ ip, ip ≠ [] → scanOutput texts (extractIpv4 texts)
      "containment_actions" "iocs_found" outputJson ≠ some ip) :
      ((scannedTexts texts outputJson).flatMap candidates).head? = none := by
    rw [Option.eq_none_iff_forall_not_mem]
    intro ip hfirst
    have hnonempty := ne_nil_of_head? hfirst
    exact hmissed ip hnonempty ((hscan hnonempty).mpr hfirst)
  simp only [tryFirewallBlock, targets]
  cases hallowed : canBlockFirewall agentName with
  | false => exact ⟨_, _, _, rfl, by simp [blockedIps]⟩
  | true =>
      simp only [true_and, houtput, ne_eq, not_false_eq_true, if_true, Bool.true_eq_false,
        if_false]
      cases htarget : scanOutput texts (extractIpv4 texts) "containment_actions" "iocs_found"
          outputJson with
      | none =>
          refine ⟨_, _, _, rfl, ?_⟩
          rw [hnothing fun ip _ => by simp [htarget]]
          rfl
      | some target =>
          cases target with
          | nil =>
              refine ⟨_, _, _, rfl, ?_⟩
              rw [hnothing fun ip hip => by simpa [htarget] using hip.symm]
              rfl
          | cons b rest =>
              have hfirst := (hscan (List.cons_ne_nil b rest)).mp htarget
              refine ⟨_, _, _, rfl, ?_⟩
              rw [hfirst]
              rfl

/-- No later attempt blocks an address. -/
theorem laterAttempts_blockedIps (out : DispatchResult) (world : σ) (calls : List Call) :
    ∃ outcome after new,
      firstTaken [tryQuarantine texts effectors.recorded outputJson agentName,
          tryDeception texts effectors.recorded outputJson agentName,
          tryZerotrustDeny texts effectors.recorded outputJson agentName] out (world, calls) =
        (outcome, (after, calls ++ new)) ∧ blockedIps new = [] := by
  obtain ⟨new, hrun, hinorder⟩ := firstTaken_records
    (instrumentedAttempts texts effectors agentName outputJson).tail
    (fun a ha => instrumentedAttempts_records texts effectors agentName outputJson a
      (List.mem_of_mem_tail ha))
    (by simp [instrumentedAttempts, Action.rank]) out world calls
  refine ⟨_, _, new, hrun, ?_⟩
  apply List.filterMap_eq_nil_iff.mpr
  intro call hcall
  cases call with
  | block ip ttlS result =>
      have hmem : (Action.firewallBlock, result.blocked) ∈ attemptsOf new :=
        List.mem_filterMap.mpr ⟨_, hcall, rfl⟩
      have haction := (hinorder.permitted _ hmem).1
      simp [instrumentedAttempts] at haction
  | _ => rfl

/-- A dispatch blocks the first candidate of an agent that may block, and nothing else. -/
theorem dispatch_blockedIps (world : σ) :
    blockedIps (dispatch texts effectors.recorded agentName outputJson (world, [])).2.2 =
      targets texts outputJson agentName := by
  simp only [dispatch]
  split
  · rename_i houtput
    simp [targets, houtput, blockedIps]
  · rename_i houtput
    obtain ⟨outcome, after, calls, hfirst, hblocked⟩ :=
      tryFirewallBlock_blockedIps texts effectors outputJson agentName houtput {} world
    have haudit : ∀ eventType payload, blockedIps [.audit eventType payload] = [] :=
      fun _ _ => rfl
    rw [firstTaken, hfirst]
    rcases outcome with _ | ⟨_ | _, out⟩
    · exact hblocked
    · obtain ⟨outcome, after, new, hlater, hnew⟩ :=
        laterAttempts_blockedIps texts effectors outputJson agentName out after calls
      have hall : blockedIps (calls ++ new) = targets texts outputJson agentName := by
        rw [blockedIps_append, hnew, List.append_nil, hblocked]
      simp only [hlater]
      rcases outcome with _ | ⟨_ | _, out⟩
      · exact hall
      · simp only [Effectors.recorded]
        rw [blockedIps_append, haudit, List.append_nil, hall]
      · exact hall
    · exact hblocked

variable {texts outputJson agentName} in
/-- A target is a match of the address pattern that no prefix covers. -/
theorem groups_of_mem_targets {ip : ByteString} (hip : ip ∈ targets texts outputJson agentName) :
    (∃ a b c d, groups ip = [a, b, c, d] ∧ ∀ g ∈ [a, b, c, d], Numeral g) ∧
      isSafeIp ip = false := by
  obtain ⟨text, -, hfound⟩ : ∃ text ∈ scannedTexts texts outputJson, ip ∈ candidates text := by
    rw [targets] at hip
    split at hip
    · exact mem_candidates_of_head? (Option.mem_toList.mp hip)
    · simp at hip
  obtain ⟨hmatch, huncovered⟩ := List.mem_filter.mp hfound
  exact ⟨groups_of_spells (matchTexts_spells hmatch), by simpa using huncovered⟩

/-- Every address that a dispatch blocks is routable exactly if the prefixes overlook none of its
targets. -/
theorem dispatch_routable_iff (world : σ) :
    (∀ ip ∈ blockedIps (dispatch texts effectors.recorded agentName outputJson (world, [])).2.2,
        Routable ip) ↔
      ∀ ip ∈ targets texts outputJson agentName, ¬ Overlooked ip := by
  rw [dispatch_blockedIps]
  refine forall₂_congr fun ip hip => ?_
  obtain ⟨⟨a, b, c, d, hgroups, hnumerals⟩, huncovered⟩ := groups_of_mem_targets hip
  exact routable_iff hgroups hnumerals huncovered

end Blocks

/-- Outputs that are not JSON. -/
def rawTexts : Texts where
  json := ⟨fun _ => none, fun _ => none⟩
  givesUp := fun _ _ => false

/-- Components that do what they are asked for. -/
def willingEffectors : Effectors Unit where
  block := fun _ _ world => ({ blocked := true, reason := [] }, world)
  quarantineFile := fun _ _ world => ("qtn-1", world)
  serve := fun _ _ _ world => (1, world)
  evaluate := fun _ world => (.deny, world)
  auditAdder := fun _ _ world => ("entry-1", world)

/-- An address of the loopback network is not covered by the comparison with one of them. -/
theorem loopback_blocked :
    let calls := (dispatch rawTexts willingEffectors.recorded "incident_responder"
      "Block 127.0.0.2 at once" ((), [])).2.2
    blockedIps calls = ["127.0.0.2"] ∧ ¬ ∀ ip ∈ blockedIps calls, Routable ip := by
  intro calls
  have hblocked : blockedIps calls = [("127.0.0.2" : ByteString)] := by decide +kernel
  refine ⟨hblocked, fun hroutable => ?_⟩
  obtain ⟨a, b, c, d, hgroups, -, hloopback, -⟩ :=
    hroutable "127.0.0.2" (hblocked ▸ List.mem_singleton_self _)
  have hfirst : (groups "127.0.0.2").head? = some [49, 50, 55] := by decide +kernel
  rw [hgroups] at hfirst
  obtain rfl : a = [49, 50, 55] := Option.some.inj hfirst
  exact hloopback (by decide)

end Astartis.ActionDispatcher
