import Astartis.DashboardServer

/-!
How a request is cut into the results of `recv`, and what the server makes of it.
-/

namespace Astartis.Dashboard

open ByteString
open SegmentedStream

def Dispatch.isRejection : Dispatch → Bool
  | .handler _ _ _ => false
  | _ => true

/-- Both select the same handler with the same body, or both reject. -/
def Dispatch.Agrees (d d' : Dispatch) : Prop :=
  d = d' ∨ (d.isRejection = true ∧ d'.isRejection = true)

/-- The length of the body by the headers that have been read, capped. -/
def declaredLength (raw : ByteString) : Nat :=
  min (contentLength raw) maxBody

/-- How many bytes the client has sent behind the headers. -/
def sentBody (stream : ByteString) : Nat :=
  match findText blankLine stream with
  | none => 0
  | some i => stream.length - (i + 4)

/-- The server takes the same decision however the stream is cut, and a body is as long as
declared if that much was sent. -/
structure SegmentationFree (token stream : ByteString) : Prop where
  agrees : ∀ offers offers',
    (dispatch token ⟨stream, offers⟩).Agrees (dispatch token ⟨stream, offers'⟩)
  bodyLength : ∀ offers endpoint path body,
    dispatch token ⟨stream, offers⟩ = .handler endpoint path body →
      endpoint.readsBody = true →
        declaredLength (readHeaders ⟨stream, offers⟩).1 ≤ sentBody stream →
          body.length = declaredLength (readHeaders ⟨stream, offers⟩).1

/-- The request line selects a handler, and its checks pass. -/
def admits (token raw : ByteString) : Bool :=
  match requestLine raw with
  | none => false
  | some line =>
      route line ≠ .notFound &&
        (!(route line).isGuarded || (checkToken token raw && checkOrigin raw))

def wantsBody (raw : ByteString) : Bool :=
  (requestLine raw).any fun line => (route line).readsBody

/-- The positions at which the loop over the headers can stop. -/
def Stops (stream : ByteString) (k : Nat) : Prop :=
  Source.Boundary recvLimit headersRead stream k

/-- Where the body begins for a server that has read up to `k`. -/
def bodyStart (stream : ByteString) (k : Nat) : Nat :=
  match findText blankLine (stream.take k) with
  | none => k
  | some i => i + 4

/-- The bytes that a server that has read up to `k` has to take for the body. -/
def declaredBody (stream : ByteString) (k : Nat) : ByteString :=
  (stream.drop (bodyStart stream k)).take (declaredLength (stream.take k))

/-- The checks pass wherever the loop stops or nowhere; and where a body is read, no more
than the declared bytes come along with the headers, and they are the same bytes. -/
structure HeadersDecide (token stream : ByteString) : Prop where
  admits_eq : ∀ k k', Stops stream k → Stops stream k' →
    admits token (stream.take k) = admits token (stream.take k')
  notBeyond : ∀ k, Stops stream k → admits token (stream.take k) = true →
    wantsBody (stream.take k) = true →
      k ≤ bodyStart stream k + declaredLength (stream.take k)
  declaredBody_eq : ∀ k k', Stops stream k → Stops stream k' →
    admits token (stream.take k) = true → wantsBody (stream.take k) = true →
      declaredBody stream k = declaredBody stream k'

section Prefixes

variable {stream : ByteString} {k k' : Nat}

theorem headersRead_mono (hle : k ≤ k') (hread : headersRead (stream.take k) = true) :
    headersRead (stream.take k') = true := by
  simp only [headersRead, Bool.or_eq_true, decide_eq_true_eq] at hread ⊢
  rcases hread with hblank | hlength
  · obtain ⟨i, hi⟩ := Option.isSome_iff_exists.mp hblank
    exact .inl (by rw [findText_take_mono hle hi]; rfl)
  · refine .inr ?_
    rw [List.length_take] at hlength ⊢
    omega

theorem headersRead_nil : headersRead [] = false := by decide

theorem requestLine_take_mono {line : RequestLine} (hle : k ≤ k')
    (hline : requestLine (stream.take k) = some line) :
    requestLine (stream.take k') = some line := by
  simp only [requestLine, Option.map_eq_some_iff] at hline ⊢
  obtain ⟨nl, hnl, hwords⟩ := hline
  refine ⟨nl, findText_take_mono hle hnl, ?_⟩
  have hbound : nl + 2 ≤ k := (findText_take_iff.mp hnl).2
  have htake : (stream.take k').take nl = (stream.take k).take nl := by
    rw [List.take_take, List.take_take, min_eq_left (by omega), min_eq_left (by omega)]
  rw [htake]
  exact hwords

theorem requestLine_take_eq {line line' : RequestLine}
    (hline : requestLine (stream.take k) = some line)
    (hline' : requestLine (stream.take k') = some line') : line = line' := by
  rcases Nat.le_total k k' with hle | hle
  · exact Option.some.inj ((requestLine_take_mono hle hline).symm.trans hline')
  · exact Option.some.inj (hline.symm.trans (requestLine_take_mono hle hline'))

theorem headerValue_take_mono {name val : ByteString} (hle : k ≤ k')
    (hvalue : headerValue name (stream.take k) = .text val) :
    headerValue name (stream.take k') = .text val := by
  simp only [headerValue] at hvalue
  split at hvalue
  · exact absurd hvalue (by simp)
  rename_i pos hpos
  split at hvalue
  · exact absurd hvalue (by simp)
  rename_i eol heol
  rw [List.drop_take] at heol
  have hbound : eol + 2 ≤ k - pos := (findText_take_iff.mp heol).2
  have heol' : findText lineEnd ((stream.take k').drop pos) = some eol := by
    rw [List.drop_take]
    exact findText_take_mono (by omega) heol
  have hval : substr (stream.take k') (pos + name.length) (eol - name.length) =
      substr (stream.take k) (pos + name.length) (eol - name.length) := by
    simp only [substr, List.drop_take, List.take_take]
    rw [min_eq_left (by omega), min_eq_left (by omega)]
  simp only [headerValue, findText_take_mono hle hpos, heol', hval]
  exact hvalue

variable (stream) in
/-- A length that has been read does not change with what comes behind. -/
theorem declaredLength_take_mono (hle : k ≤ k') (hpos : 0 < declaredLength (stream.take k)) :
    declaredLength (stream.take k') = declaredLength (stream.take k) := by
  have htext : ∃ val, headerValue "Content-Length:" (stream.take k) = .text val := by
    cases hvalue : headerValue "Content-Length:" (stream.take k) with
    | text val => exact ⟨val, rfl⟩
    | absent => simp [declaredLength, contentLength, hvalue] at hpos
    | unterminated => simp [declaredLength, contentLength, hvalue] at hpos
  obtain ⟨val, hval⟩ := htext
  simp only [declaredLength, contentLength, hval, headerValue_take_mono hle hval]

end Prefixes

/-! What the server does when it stops at a position. -/

/-- The body for a server that has read up to `k`. -/
def bodyAt (stream : ByteString) (k : Nat) : ByteString :=
  bodyRead (stream.take k) ++
    (stream.drop k).take (declaredLength (stream.take k) - (bodyRead (stream.take k)).length)

section Positions

variable {token stream : ByteString} {k : Nat}

theorem bodyRead_take :
    bodyRead (stream.take k) = (stream.drop (bodyStart stream k)).take
      (k - bodyStart stream k) := by
  cases hfind : findText blankLine (stream.take k) with
  | none => simp [bodyRead, bodyStart, hfind]
  | some i => simp only [bodyRead, bodyStart, hfind, List.drop_take]

theorem bodyRead_take_length (hk : k ≤ stream.length) :
    (bodyRead (stream.take k)).length = k - bodyStart stream k := by
  rw [bodyRead_take, List.length_take, List.length_drop]
  omega

theorem bodyStart_le : bodyStart stream k ≤ k := by
  simp only [bodyStart]
  split
  · exact le_refl k
  · rename_i i hi
    exact (findText_take_iff.mp hi).2

/-- At least as much is left behind `bodyStart` as behind the blank line. -/
theorem sentBody_le (hk : k ≤ stream.length) :
    sentBody stream ≤ stream.length - bodyStart stream k := by
  simp only [sentBody, bodyStart]
  split
  · omega
  · rename_i i hi
    split
    · rename_i hnone
      have hbeyond : ¬ i + blankLine.length ≤ k := fun h => by
        rw [findText_take_iff.mpr ⟨hi, h⟩] at hnone
        exact absurd hnone (by simp)
      rw [show blankLine.length = 4 from rfl] at hbeyond
      omega
    · rename_i i' hi'
      obtain rfl := Option.some.inj (hi.symm.trans (findText_take_iff.mp hi').1)
      exact le_refl _

theorem bodyAt_eq (hk : k ≤ stream.length)
    (hle : k ≤ bodyStart stream k + declaredLength (stream.take k)) :
    bodyAt stream k = declaredBody stream k := by
  have hstart : bodyStart stream k ≤ k := bodyStart_le
  have hdrop : stream.drop k =
      (stream.drop (bodyStart stream k)).drop (k - bodyStart stream k) := by
    rw [List.drop_drop]
    congr 1
    omega
  rw [bodyAt, bodyRead_take_length hk, bodyRead_take, hdrop, ← List.take_add, declaredBody]
  congr 1
  omega

theorem readFullBody_eq (headers : ByteString) (length : Nat) (socket : Source UInt8) :
    readFullBody headers length socket =
      bodyRead headers ++ socket.stream.take (min length maxBody - (bodyRead headers).length) :=
  Source.readTo_eq (by decide) _ _ _ (le_refl _)

variable (token) in
/-- The decision depends on the offers through the position only. -/
theorem dispatch_eq {offers offers' : List Nat}
    (hread : readHeaders ⟨stream, offers⟩ = (stream.take k, ⟨stream.drop k, offers'⟩)) :
    ((admits token (stream.take k) = false ∧
        (dispatch token ⟨stream, offers⟩).isRejection = true) ∨
      ∃ line, admits token (stream.take k) = true ∧
        requestLine (stream.take k) = some line ∧
        dispatch token ⟨stream, offers⟩ = .handler (route line) line.path
          (if (route line).readsBody then bodyAt stream k else [])) := by
  simp only [dispatch, hread, admits]
  cases hline : requestLine (stream.take k) with
  | none => exact .inl ⟨rfl, rfl⟩
  | some line =>
      dsimp only
      by_cases hfound : route line = .notFound
      · rw [if_pos hfound]
        exact .inl ⟨by simp [hfound], rfl⟩
      · rw [if_neg hfound]
        by_cases htoken : (route line).isGuarded && !checkToken token (stream.take k)
        · rw [if_pos htoken]
          refine .inl ⟨?_, rfl⟩
          simp only [Bool.and_eq_true, Bool.not_eq_true'] at htoken
          simp [htoken.1, htoken.2]
        · rw [if_neg htoken]
          by_cases horigin : (route line).isGuarded && !checkOrigin (stream.take k)
          · rw [if_pos horigin]
            refine .inl ⟨?_, rfl⟩
            simp only [Bool.and_eq_true, Bool.not_eq_true'] at horigin
            simp [horigin.1, horigin.2]
          · rw [if_neg horigin]
            refine .inr ⟨line, ?_, rfl, ?_⟩
            · revert htoken horigin
              cases (route line).isGuarded <;> cases checkToken token (stream.take k) <;>
                cases checkOrigin (stream.take k) <;> simp [hfound]
            · rw [readFullBody_eq]
              rfl

theorem stops_of_read (stream : ByteString) (offers : List Nat) :
    ∃ k offers', Stops stream k ∧
      readHeaders ⟨stream, offers⟩ = (stream.take k, ⟨stream.drop k, offers'⟩) :=
  Source.readUntil_boundary (by decide) headersRead_nil stream offers

theorem exists_offers_of_stops (hstops : Stops stream k) :
    ∃ offers offers', readHeaders ⟨stream, offers⟩ =
      (stream.take k, ⟨stream.drop k, offers'⟩) :=
  Source.exists_offers_of_boundary (by decide) (fun _ _ => headersRead_mono) hstops

/-- The first position at which the loop can stop, where nothing of a body is read yet. -/
theorem exists_first_stop (stream : ByteString) :
    ∃ m, Stops stream m ∧ bodyStart stream m = m ∧ ∀ k, Stops stream k → m ≤ k := by
  have hend : ∃ m, m = stream.length ∨ headersRead (stream.take m) = true :=
    ⟨_, .inl rfl⟩
  have hleast : ∀ k, k < Nat.find hend →
      k ≠ stream.length ∧ headersRead (stream.take k) = false := by
    intro k hk
    have hnot := Nat.find_min hend hk
    rw [not_or, Bool.not_eq_true] at hnot
    exact hnot
  have hfirst : ∀ k, Stops stream k → Nat.find hend ≤ k := fun k hk => Nat.find_min' hend hk.2.1
  have hle : Nat.find hend ≤ stream.length := Nat.find_min' hend (.inl rfl)
  refine ⟨Nat.find hend, ⟨hle, Nat.find_spec hend, ?_⟩, ?_, hfirst⟩
  · by_cases hempty : stream = []
    · exact .inl hempty
    · refine .inr ⟨Nat.find hend - 1, ?_⟩
      have hpos : Nat.find hend ≠ 0 := by
        intro hzero
        have hspec := Nat.find_spec hend
        rw [hzero, List.take_zero, headersRead_nil] at hspec
        rcases hspec with h | h
        · exact hempty (List.length_eq_zero_iff.mp h.symm)
        · exact absurd h (by simp)
      exact ⟨by omega, by simp only [recvLimit]; omega, (hleast _ (by omega)).2⟩
  · simp only [bodyStart]
    split
    · rfl
    · rename_i i hi
      have hbound : i + 4 ≤ Nat.find hend := (findText_take_iff.mp hi).2
      by_contra hne
      have hread : headersRead (stream.take (i + 4)) = true := by
        simp only [headersRead, Bool.or_eq_true]
        refine .inl ?_
        have hall := (findText_take_iff.mp hi).1
        rw [findText_take_iff.mpr ⟨hall, show i + blankLine.length ≤ i + 4 from le_refl _⟩]
        rfl
      rw [(hleast (i + 4) (by omega)).2] at hread
      exact absurd hread (by simp)

end Positions

section Decision

variable {token stream : ByteString}

theorem HeadersDecide.segmentationFree (hdecide : HeadersDecide token stream) :
    SegmentationFree token stream := by
  constructor
  · intro offers offers'
    obtain ⟨k, rest, hk, hread⟩ := stops_of_read stream offers
    obtain ⟨k', rest', hk', hread'⟩ := stops_of_read stream offers'
    have hsame := hdecide.admits_eq k k' hk hk'
    rcases dispatch_eq token hread with ⟨hno, hreject⟩ | ⟨line, hyes, hline, heq⟩
    · rcases dispatch_eq token hread' with ⟨-, hreject'⟩ | ⟨line', hyes', -, -⟩
      · exact .inr ⟨hreject, hreject'⟩
      · rw [hno, hyes'] at hsame
        exact absurd hsame (by simp)
    · rcases dispatch_eq token hread' with ⟨hno', -⟩ | ⟨line', hyes', hline', heq'⟩
      · rw [hyes, hno'] at hsame
        exact absurd hsame (by simp)
      · obtain rfl := requestLine_take_eq hline hline'
        refine .inl ?_
        rw [heq, heq']
        congr 1
        split
        · rename_i hbody
          have hwants : wantsBody (stream.take k) = true := by simp [wantsBody, hline, hbody]
          have hwants' : wantsBody (stream.take k') = true := by simp [wantsBody, hline', hbody]
          rw [bodyAt_eq hk.1 (hdecide.notBeyond k hk hyes hwants),
            bodyAt_eq hk'.1 (hdecide.notBeyond k' hk' hyes' hwants')]
          exact hdecide.declaredBody_eq k k' hk hk' hyes hwants
        · rfl
  · intro offers endpoint path body hdispatch hbody hsent
    obtain ⟨k, rest, hk, hread⟩ := stops_of_read stream offers
    rw [hread] at hsent ⊢
    change declaredLength (stream.take k) ≤ sentBody stream at hsent
    change body.length = declaredLength (stream.take k)
    rcases dispatch_eq token hread with ⟨-, hreject⟩ | ⟨line, hyes, hline, heq⟩
    · rw [hdispatch] at hreject
      exact absurd hreject (by simp [Dispatch.isRejection])
    · rw [hdispatch] at heq
      simp only [Dispatch.handler.injEq] at heq
      obtain ⟨rfl, rfl, rfl⟩ := heq
      have hwants : wantsBody (stream.take k) = true := by simp [wantsBody, hline, hbody]
      rw [if_pos hbody, bodyAt_eq hk.1 (hdecide.notBeyond k hk hyes hwants), declaredBody,
        List.length_take, List.length_drop]
      have hle := hk.1
      have hleft : sentBody stream ≤ stream.length - bodyStart stream k := sentBody_le hk.1
      omega

theorem exists_rejection_of_stops {k : Nat} (hk : Stops stream k)
    (hno : admits token (stream.take k) = false) :
    ∃ offers, (dispatch token ⟨stream, offers⟩).isRejection = true := by
  obtain ⟨offers, rest, hread⟩ := exists_offers_of_stops hk
  rcases dispatch_eq token hread with ⟨-, hreject⟩ | ⟨line, hyes, -, -⟩
  · exact ⟨offers, hreject⟩
  · rw [hno] at hyes
    exact absurd hyes (by simp)

theorem exists_handler_of_stops {k : Nat} (hk : Stops stream k)
    (hyes : admits token (stream.take k) = true) :
    ∃ offers line, requestLine (stream.take k) = some line ∧
      dispatch token ⟨stream, offers⟩ = .handler (route line) line.path
        (if (route line).readsBody then bodyAt stream k else []) := by
  obtain ⟨offers, rest, hread⟩ := exists_offers_of_stops hk
  rcases dispatch_eq token hread with ⟨hno, -⟩ | ⟨line, -, hline, heq⟩
  · rw [hyes] at hno
    exact absurd hno (by simp)
  · exact ⟨offers, line, hline, heq⟩

section Positions

variable {k k' : Nat}

theorem SegmentationFree.admits_of_admits (hfree : SegmentationFree token stream)
    (hk : Stops stream k) (hk' : Stops stream k')
    (hyes : admits token (stream.take k) = true) :
    admits token (stream.take k') = true := by
  by_contra hno'
  rw [Bool.not_eq_true] at hno'
  obtain ⟨offers, line, -, heq⟩ := exists_handler_of_stops hk hyes
  obtain ⟨offers', hreject'⟩ := exists_rejection_of_stops hk' hno'
  rcases hfree.agrees offers offers' with hsame | ⟨hreject, -⟩
  · rw [← hsame, heq] at hreject'
    exact absurd hreject' (by simp [Dispatch.isRejection])
  · rw [heq] at hreject
    exact absurd hreject (by simp [Dispatch.isRejection])

theorem SegmentationFree.wantsBody_of_wantsBody (hfree : SegmentationFree token stream)
    (hk : Stops stream k) (hk' : Stops stream k')
    (hyes : admits token (stream.take k) = true)
    (hwants : wantsBody (stream.take k) = true) :
    wantsBody (stream.take k') = true := by
  obtain ⟨offers, line, hline, -⟩ := exists_handler_of_stops hk hyes
  obtain ⟨offers', line', hline', -⟩ :=
    exists_handler_of_stops hk' (hfree.admits_of_admits hk hk' hyes)
  obtain rfl := requestLine_take_eq hline hline'
  simpa [wantsBody, hline, hline'] using hwants

theorem SegmentationFree.bodyAt_eq_bodyAt (hfree : SegmentationFree token stream)
    (hk : Stops stream k) (hk' : Stops stream k')
    (hyes : admits token (stream.take k) = true)
    (hwants : wantsBody (stream.take k) = true) :
    bodyAt stream k = bodyAt stream k' := by
  obtain ⟨offers, line, hline, heq⟩ := exists_handler_of_stops hk hyes
  obtain ⟨offers', line', hline', heq'⟩ :=
    exists_handler_of_stops hk' (hfree.admits_of_admits hk hk' hyes)
  have hbody : (route line).readsBody = true := by simpa [wantsBody, hline] using hwants
  obtain rfl := requestLine_take_eq hline hline'
  rcases hfree.agrees offers offers' with hsame | ⟨hreject, -⟩
  · rw [heq, heq', if_pos hbody, if_pos hbody] at hsame
    exact (Dispatch.handler.inj hsame).2.2
  · rw [heq] at hreject
    exact absurd hreject (by simp [Dispatch.isRejection])

/-- No more than the declared bytes come with the headers: at the first stop no more are read. -/
theorem SegmentationFree.notBeyond (hfree : SegmentationFree token stream)
    (hk : Stops stream k) (hyes : admits token (stream.take k) = true)
    (hwants : wantsBody (stream.take k) = true) :
    k ≤ bodyStart stream k + declaredLength (stream.take k) := by
  by_contra hbeyond
  obtain ⟨m, hm, hstart, hfirst⟩ := exists_first_stop stream
  have hbody := congrArg List.length (hfree.bodyAt_eq_bodyAt hk hm hyes hwants)
  have hmle := hfirst k hk
  have hshort : (bodyAt stream m).length ≤ declaredLength (stream.take m) := by
    rw [bodyAt, List.length_append, bodyRead_take_length hm.1, hstart, List.length_take]
    omega
  have hlong : k - bodyStart stream k ≤ (bodyAt stream k).length := by
    rw [bodyAt, List.length_append, bodyRead_take_length hk.1]
    omega
  have hsame := declaredLength_take_mono stream hmle (by omega)
  omega

end Positions

theorem SegmentationFree.headersDecide (hfree : SegmentationFree token stream) :
    HeadersDecide token stream := by
  refine ⟨?_, fun k hk hyes hwants => hfree.notBeyond hk hyes hwants, ?_⟩
  · intro k k' hk hk'
    rw [Bool.eq_iff_iff]
    exact ⟨hfree.admits_of_admits hk hk', hfree.admits_of_admits hk' hk⟩
  · intro k k' hk hk' hyes hwants
    have hyes' := hfree.admits_of_admits hk hk' hyes
    have hwants' := hfree.wantsBody_of_wantsBody hk hk' hyes hwants
    rw [← bodyAt_eq hk.1 (hfree.notBeyond hk hyes hwants),
      ← bodyAt_eq hk'.1 (hfree.notBeyond hk' hyes' hwants')]
    exact hfree.bodyAt_eq_bodyAt hk hk' hyes hwants

/-- When the decision does not depend on how the stream is cut. -/
theorem segmentationFree_iff (token stream : ByteString) :
    SegmentationFree token stream ↔ HeadersDecide token stream :=
  ⟨SegmentationFree.headersDecide, HeadersDecide.segmentationFree⟩

/-- Two bytes are declared and four are sent. -/
def pipelined : ByteString :=
  .ofLiterals ["POST /exec HTTP/1.0\r\n", "X-Astartis-Token: 5f3a\r\n",
    "Content-Length: 2\r\n\r\n", "\x7b\x7d\r\n"]

theorem pipelined_not_segmentationFree : ¬ SegmentationFree "5f3a" pipelined := by
  intro hfree
  have hdispatch : dispatch "5f3a" ⟨pipelined, []⟩ =
      .handler .exec "/exec" ("\x7b\x7d\r\n" : ByteString) := by decide +kernel
  have hlength := hfree.bodyLength [] _ _ _ hdispatch rfl (by decide +kernel)
  exact absurd hlength (by decide +kernel)

end Decision

end Astartis.Dashboard
