import Mathlib.Data.List.DropRight
import Astartis.DashboardServer

/-!
Which origins `check_origin` lets through, against the header that a request really has.
-/

namespace Astartis.Dashboard

open ByteString

/-! The origin of a request. -/

/-- The pieces between the line ends of a text. -/
def textLines : ByteString → List ByteString
  | [] => [[]]
  | 13 :: 10 :: rest => [] :: textLines rest
  | b :: rest =>
      match textLines rest with
      | [] => [[b]]
      | line :: lines => (b :: line) :: lines

/-- The lines behind the request line and in front of the first empty one. -/
def headerLines (request : ByteString) : List ByteString :=
  (textLines request).tail.takeWhile fun line => !line.isEmpty

/-- A text without blanks at its ends. -/
def trimBlanks (s : ByteString) : ByteString :=
  (s.dropWhile isBlank).rdropWhile isBlank

def lowerByte (b : UInt8) : UInt8 :=
  if 65 ≤ b && b ≤ 90 then b + 32 else b

/-- The value of a header line with this name, which is written in any case. -/
def headerNamed? (name line : ByteString) : Option ByteString :=
  let lineName := line.takeWhile (· ≠ 58)
  if line.contains 58 && decide (lineName.map lowerByte = name) then
    some (trimBlanks (line.drop (lineName.length + 1)))
  else none

def originHeader? (request : ByteString) : Option ByteString :=
  (headerLines request).findSome? (headerNamed? "origin")

/-- A byte at which a host name is over. -/
def endsHost (b : UInt8) : Bool :=
  b = 58 || b = 47

/-- The host of a URL. -/
def hostOf? (url : ByteString) : Option ByteString :=
  (behind? "://" url).map fun rest => rest.takeWhile fun b => !endsHost b

def LoopbackHost (url : ByteString) : Prop :=
  hostOf? url = some ("127.0.0.1" : ByteString) ∨ hostOf? url = some ("localhost" : ByteString)

/-- A request passes exactly if it has no origin or one on this machine. -/
def OriginJudged (request : ByteString) : Prop :=
  checkOrigin request = true ↔ ∀ url, originHeader? request = some url → LoopbackHost url

/-! What the check looks at. -/

/-- A text that begins as the URL of this machine does. -/
def StartsLoopback (text : ByteString) : Prop :=
  ("http://127.0.0.1" : ByteString) <+: text ∨ ("http://localhost" : ByteString) <+: text

/-- Behind the beginning of such a URL the host is over. -/
def HostIsOver (url : ByteString) : Prop :=
  ∀ rest, url = ("http://127.0.0.1" : ByteString) ++ rest ∨
    url = ("http://localhost" : ByteString) ++ rest → ∀ b ∈ rest.head?, endsHost b = true

theorem hostOf?_http (rest : ByteString) :
    hostOf? (("http://" : ByteString) ++ rest) =
      some (rest.takeWhile fun b => !endsHost b) := rfl

theorem takeWhile_host_eq_nil_iff {rest : ByteString} :
    (rest.takeWhile fun b => !endsHost b) = [] ↔ ∀ b ∈ rest.head?, endsHost b = true := by
  cases rest with
  | nil => simp
  | cons b rest =>
      rw [List.takeWhile_cons]
      cases hb : endsHost b <;> simp [hb]

def loopbackHosts : List ByteString :=
  ["127.0.0.1", "localhost"]

/-- None of the hosts begins as the other does. -/
theorem eq_of_append_eq {host other a b : ByteString} (hhost : host ∈ loopbackHosts)
    (hother : other ∈ loopbackHosts) (heq : host ++ a = other ++ b) : host = other := by
  simp only [loopbackHosts, List.mem_cons, List.not_mem_nil, or_false] at hhost hother
  have hbyte := congrArg List.head? heq
  rcases hhost with rfl | rfl <;> rcases hother with rfl | rfl
  · rfl
  · exact absurd (show some (49 : UInt8) = some 108 from hbyte) (by decide)
  · exact absurd (show some (108 : UInt8) = some 49 from hbyte) (by decide)
  · rfl

theorem loopbackHost_iff_mem {url host : ByteString} (hurl : hostOf? url = some host) :
    LoopbackHost url ↔ host ∈ loopbackHosts := by
  simp only [LoopbackHost, hurl, Option.some.injEq, loopbackHosts, List.mem_cons,
    List.not_mem_nil, or_false]

theorem startsLoopback_iff {url : ByteString} :
    StartsLoopback url ↔
      ∃ host ∈ loopbackHosts, ∃ rest, ("http://" : ByteString) ++ (host ++ rest) = url := by
  simp only [loopbackHosts, List.exists_mem_cons_iff, List.not_mem_nil, false_and, exists_false,
    or_false]
  rfl

theorem hostIsOver_iff {url : ByteString} :
    HostIsOver url ↔ ∀ host ∈ loopbackHosts, ∀ rest,
      url = ("http://" : ByteString) ++ (host ++ rest) → ∀ b ∈ rest.head?, endsHost b = true := by
  simp only [loopbackHosts, List.forall_mem_cons, List.not_mem_nil, false_implies, implies_true,
    and_true]
  constructor
  · intro hover
    exact ⟨fun rest h => hover rest (.inl h), fun rest h => hover rest (.inr h)⟩
  · rintro ⟨hip, hname⟩ rest (h | h)
    · exact hip rest h
    · exact hname rest h

theorem loopbackHost_http_iff {host rest : ByteString} (hhost : host ∈ loopbackHosts) :
    LoopbackHost (("http://" : ByteString) ++ (host ++ rest)) ↔
      ∀ b ∈ rest.head?, endsHost b = true := by
  have hends : ∀ host ∈ loopbackHosts, (host.all fun b => !endsHost b) = true := by decide
  rw [loopbackHost_iff_mem (hostOf?_http (host ++ rest)),
    List.takeWhile_append_of_pos (List.all_eq_true.mp (hends host hhost)),
    ← takeWhile_host_eq_nil_iff]
  constructor
  · intro hmem
    have heq := eq_of_append_eq hhost hmem (List.append_nil _).symm
    exact List.append_right_eq_self.mp heq.symm
  · intro hnil
    rwa [hnil, List.append_nil]

theorem loopbackHost_iff {url : ByteString} (hstarts : StartsLoopback url) :
    LoopbackHost url ↔ HostIsOver url := by
  obtain ⟨host, hhost, rest, rfl⟩ := startsLoopback_iff.mp hstarts
  rw [loopbackHost_http_iff hhost, hostIsOver_iff]
  constructor
  · intro hover other hother rest' hurl
    have hhosts := List.append_cancel_left hurl
    obtain rfl := eq_of_append_eq hhost hother hhosts
    rwa [← List.append_cancel_left hhosts]
  · exact fun hover => hover host hhost rest rfl

theorem startsLoopback_of_http {url : ByteString} (hhttp : ("http://" : ByteString) <+: url)
    (hloopback : LoopbackHost url) : StartsLoopback url := by
  obtain ⟨rest, rfl⟩ := hhttp
  obtain ⟨behind, hbehind⟩ := List.takeWhile_prefix (l := rest) fun b => !endsHost b
  have hmem := (loopbackHost_iff_mem (hostOf?_http rest)).mp hloopback
  exact startsLoopback_iff.mpr ⟨_, hmem, behind, by rw [hbehind]⟩

/-- Of a URL, the beginning tells the host if the host is over behind it, and if a URL of this
machine has the scheme that the beginning has. -/
theorem startsLoopback_iff_loopbackHost_iff {url : ByteString} :
    (StartsLoopback url ↔ LoopbackHost url) ↔
      HostIsOver url ∧ (LoopbackHost url → ("http://" : ByteString) <+: url) := by
  have hhttp : StartsLoopback url → ("http://" : ByteString) <+: url := by
    rintro (hip | hname)
    · exact List.IsPrefix.trans ⟨("127.0.0.1" : ByteString), by decide⟩ hip
    · exact List.IsPrefix.trans ⟨("localhost" : ByteString), by decide⟩ hname
  constructor
  · intro hagrees
    refine ⟨?_, fun hloopback => hhttp (hagrees.mpr hloopback)⟩
    rintro rest hurl
    have hstarts : StartsLoopback url :=
      hurl.imp (fun h => ⟨rest, h.symm⟩) fun h => ⟨rest, h.symm⟩
    exact (loopbackHost_iff hstarts).mp (hagrees.mp hstarts) rest hurl
  · rintro ⟨hover, hscheme⟩
    constructor
    · intro hstarts
      exact (loopbackHost_iff hstarts).mpr hover
    · intro hloopback
      exact startsLoopback_of_http (hscheme hloopback) hloopback

/-- Blanks at the end of a text do not change how it begins. -/
theorem startsWith_trimBlanks {front s : ByteString} (hlast : ∃ b, front.getLast? = some b ∧
    isBlank b = false) : front <+: trimBlanks s ↔ front <+: s.dropWhile isBlank := by
  obtain ⟨b, hb, hnotBlank⟩ := hlast
  have hsplit : trimBlanks s ++ (s.dropWhile isBlank).rtakeWhile isBlank =
      s.dropWhile isBlank := List.rdropWhile_append_rtakeWhile
  constructor
  · intro h
    rw [← hsplit]
    exact h.trans (List.prefix_append _ _)
  · intro h
    have hle : front.length ≤ (trimBlanks s).length := by
      by_contra hlt
      rw [← hsplit] at h
      obtain ⟨more, rfl⟩ : trimBlanks s <+: front :=
        List.prefix_of_prefix_length_le (List.prefix_append _ _) h (by omega)
      have hmore : more <+: (s.dropWhile isBlank).rtakeWhile isBlank :=
        (List.prefix_append_right_inj _).mp h
      have hne : more ≠ [] := by
        rintro rfl
        simp at hlt
      rw [List.getLast?_append_of_ne_nil _ hne] at hb
      have hblank := List.mem_rtakeWhile_imp (hmore.subset (List.mem_of_getLast? hb))
      rw [hblank] at hnotBlank
      exact absurd hnotBlank (by simp)
    rw [← hsplit] at h
    exact List.prefix_of_prefix_length_le h (List.prefix_append _ _) hle

theorem startsLoopback_trimBlanks {s : ByteString} :
    StartsLoopback (trimBlanks s) ↔ StartsLoopback (s.dropWhile isBlank) := by
  rw [StartsLoopback, StartsLoopback,
    startsWith_trimBlanks ⟨49, by decide, by decide⟩,
    startsWith_trimBlanks ⟨116, by decide, by decide⟩]

/-- Of a text of blanks the check keeps the blanks, with which no URL begins. -/
theorem startsWith_blanks {front s : ByteString}
    (hfirst : ∃ b, front.head? = some b ∧ isBlank b = false)
    (hblank : s.dropWhile isBlank = []) : front <+: s ↔ front <+: s.dropWhile isBlank := by
  obtain ⟨b, hb, hnotBlank⟩ := hfirst
  obtain ⟨rest, rfl⟩ : ∃ rest, front = b :: rest := List.head?_eq_some_iff.mp hb
  rw [hblank]
  constructor
  · intro h
    have hall := List.dropWhile_eq_nil_iff.mp hblank b (h.subset List.mem_cons_self)
    rw [hall] at hnotBlank
    exact absurd hnotBlank (by simp)
  · intro h
    simp at h

theorem checkOrigin_iff (request : ByteString) :
    checkOrigin request = true ↔
      match headerValue "Origin:" request with
      | .absent => True
      | .unterminated => False
      | .text found => StartsLoopback (trimBlanks found) := by
  rw [checkOrigin]
  rcases headerValue "Origin:" request with _ | _ | found
  · simp
  · simp
  · dsimp only
    rw [startsLoopback_trimBlanks, StartsLoopback, Bool.or_eq_true, List.isPrefixOf_iff_prefix,
      List.isPrefixOf_iff_prefix]
    split
    · rename_i hblank
      rw [startsWith_blanks ⟨104, by decide, by decide⟩ hblank,
        startsWith_blanks ⟨104, by decide, by decide⟩ hblank]
    · rfl

/-- The check judges what is there.  Where the first `Origin:` stands in front of the value of
the header, the value is a URL of another machine, or one of this machine with the scheme that
the check knows and nothing of a host name behind the part that it compares.  Where another text
is found, or none, it says of this machine what the header says. -/
def OriginReadable (request : ByteString) : Prop :=
  match originHeader? request, headerValue "Origin:" request with
  | none, .absent => True
  | none, .unterminated => False
  | none, .text found => StartsLoopback (trimBlanks found)
  | some url, .absent => LoopbackHost url
  | some url, .unterminated => ¬ LoopbackHost url
  | some url, .text found =>
      if trimBlanks found = url then
        HostIsOver url ∧ (LoopbackHost url → ("http://" : ByteString) <+: url)
      else (StartsLoopback (trimBlanks found) ↔ LoopbackHost url)

theorem originJudged_iff (request : ByteString) :
    OriginJudged request ↔ OriginReadable request := by
  rw [OriginJudged, checkOrigin_iff, OriginReadable]
  rcases originHeader? request with _ | url <;>
    rcases headerValue "Origin:" request with _ | _ | found
  · simp
  · simp
  · simp
  · simp
  · simp
  · simp only [Option.some.injEq, forall_eq']
    split
    · rename_i hfound
      rw [hfound]
      exact startsLoopback_iff_loopbackHost_iff
    · rfl

def evilRequest : ByteString :=
  .ofLiterals ["POST /exec HTTP/1.0\r\nHost: 127.0.0.1\r\n",
    "Origin: http://127.0.0.1.evil.com\r\n\r\n"]

/-- The page of a host whose name begins with the address of this machine passes. -/
theorem evil_origin_passes : ¬ OriginJudged evilRequest := by
  intro hjudged
  have hpasses : checkOrigin evilRequest = true := by decide +kernel
  have hheader : originHeader? evilRequest = some ("http://127.0.0.1.evil.com" : ByteString) := by
    decide +kernel
  have hhost := hjudged.mp hpasses _ hheader
  rcases hhost with h | h <;> exact absurd h (by decide)

end Astartis.Dashboard
