import Astartis.ClamdScanner

/-!
What the scanner reads from the socket is the buffer, however the sends were cut.
-/

namespace Astartis.Clamd

open ByteString FrameStream

theorem be32_toNat (v : UInt32) :
    (be32 v).foldl (fun n b => 256 * n + b.toNat) 0 = v.toNat := by
  have hv := v.toNat_lt
  simp [be32, List.range_succ, Nat.shiftRight_eq_div_pow]
  omega

/-- The lengths as the scanner reads them. -/
def be32Header : Header UInt8 where
  width := 4
  limit := 2 ^ 32 - 1
  encode n := be32 (UInt32.ofNat n)
  decode bytes := bytes.foldl (fun n b => 256 * n + b.toNat) 0
  encode_length n := by simp [be32]
  decode_encode n hn := by
    rw [be32_toNat, UInt32.toNat_ofNat', Nat.mod_eq_of_lt (by omega)]

/-- What a sending puts on the socket if it all goes out. -/
def Puts (sending : Sending) (text : ByteString) : Prop :=
  ∀ socket, (sending socket).1 = true → (sending socket).2.sent = socket.sent ++ text

/-- A sending goes through when no send fails, in at most as many of them as `cost`. -/
def GoesThrough (sending : Sending) (cost : Nat) : Prop :=
  ∀ socket : Socket, (∀ offer ∈ socket.offers, 0 < offer) → cost ≤ socket.offers.length →
    (sending socket).1 = true ∧ (∀ offer ∈ (sending socket).2.offers, 0 < offer) ∧
      socket.offers.length ≤ (sending socket).2.offers.length + cost

theorem Puts.andThen {first second : Sending} {text text' : ByteString} (hfirst : Puts first text)
    (hsecond : Puts second text') : Puts (Sending.andThen first second) (text ++ text') := by
  intro socket hsent
  rw [Sending.andThen] at hsent ⊢
  have hputs := hfirst socket
  rcases hstep : first socket with ⟨ok, socket'⟩
  rw [hstep] at hsent hputs
  cases ok with
  | false => simp at hsent
  | true =>
      dsimp only at hsent ⊢
      rw [hsecond socket' hsent, hputs rfl, List.append_assoc]

theorem GoesThrough.andThen {first second : Sending} {cost cost' : Nat}
    (hfirst : GoesThrough first cost) (hsecond : GoesThrough second cost') :
    GoesThrough (Sending.andThen first second) (cost + cost') := by
  intro socket hpositive hcost
  obtain ⟨hok, hrest, hspent⟩ := hfirst socket hpositive (by omega)
  obtain ⟨hok', hrest', hspent'⟩ := hsecond (first socket).2 hrest (by omega)
  have hstep : first socket = (true, (first socket).2) := by rw [← hok]
  rw [Sending.andThen, hstep]
  exact ⟨hok', hrest', by dsimp only; omega⟩

theorem puts_sendTurns (turns : Nat) (buf : ByteString) :
    Puts (Socket.sendTurns turns buf) buf := by
  induction turns generalizing buf with
  | zero =>
      intro socket hsent
      have hempty : buf = [] := by simpa [Socket.sendTurns] using hsent
      rw [hempty, List.append_nil]
      rfl
  | succ turns ih =>
      intro socket
      rw [Socket.sendTurns]
      split
      · rename_i hempty
        simp [hempty]
      · rcases hstep : socket.send buf with ⟨n, socket'⟩
        dsimp only
        split
        · simp
        · rename_i hn
          intro hsent
          rw [ih _ _ hsent]
          have hput : socket'.sent = socket.sent ++ buf.take n.toNat := by
            rw [Socket.send] at hstep
            split at hstep
            · simp only [Prod.mk.injEq] at hstep
              omega
            · simp only [Prod.mk.injEq] at hstep
              rw [← hstep.2, ← hstep.1]
          rw [hput, List.append_assoc, List.take_append_drop]

theorem puts_sendAll (buf : ByteString) : Puts (sendAll buf) buf :=
  puts_sendTurns buf.length buf

theorem Socket.send_positive {socket : Socket} {buf : ByteString} (hbuf : buf ≠ [])
    (hbound : buf.length < 2 ^ 31) (hpositive : ∀ offer ∈ socket.offers, 0 < offer)
    (hoffers : socket.offers ≠ []) :
    ∃ n : Int, ∃ socket' : Socket, socket.send buf = (n, socket') ∧ 0 < n ∧
      (∀ offer ∈ socket'.offers, 0 < offer) ∧
      socket.offers.length = socket'.offers.length + 1 := by
  have hlength : 0 < buf.length := List.length_pos_of_ne_nil hbuf
  obtain ⟨offer, offers, hcons⟩ := List.exists_cons_of_ne_nil hoffers
  have hoffer : 0 < offer := hpositive offer (by simp [hcons])
  have hcount : (Int32.ofNat buf.length).toInt = buf.length := Int32.toInt_ofNat_of_lt hbound
  rw [Socket.send, hcons]
  refine ⟨_, _, rfl, ?_, fun o ho => hpositive o (by simp [hcons, show o ∈ offers from ho]), rfl⟩
  rw [hcount]
  omega

theorem goesThrough_sendTurns {turns : Nat} {buf : ByteString} (hturns : buf.length ≤ turns)
    (hbound : buf.length < 2 ^ 31) : GoesThrough (Socket.sendTurns turns buf) buf.length := by
  induction turns generalizing buf with
  | zero =>
      intro socket hpositive _
      have hempty : buf = [] := List.length_eq_zero_iff.mp (by omega)
      subst hempty
      exact ⟨rfl, hpositive, Nat.le_add_right _ _⟩
  | succ turns ih =>
      intro socket hpositive hcost
      rw [Socket.sendTurns]
      split
      · exact ⟨rfl, hpositive, Nat.le_add_right _ _⟩
      · rename_i hbuf
        have hlength : 0 < buf.length := List.length_pos_of_ne_nil hbuf
        obtain ⟨n, socket', hstep, hn, hpositive', hspent⟩ :=
          Socket.send_positive hbuf hbound hpositive (List.ne_nil_of_length_pos (by omega))
        have hdrop : (buf.drop n.toNat).length + 1 ≤ buf.length := by
          rw [List.length_drop]
          omega
        rw [hstep]
        dsimp only
        rw [if_neg (by omega)]
        have hthrough : GoesThrough (Socket.sendTurns turns (buf.drop n.toNat)) _ :=
          ih (by omega) (by omega)
        obtain ⟨hok, hrest, hspent'⟩ := hthrough socket' hpositive' (by omega)
        exact ⟨hok, hrest, by omega⟩

theorem goesThrough_sendAll (buf : ByteString) (hbound : buf.length < 2 ^ 31) :
    GoesThrough (sendAll buf) buf.length :=
  goesThrough_sendTurns (le_refl _) hbound

theorem goesThrough_be32 (v : UInt32) : GoesThrough (sendAll (be32 v)) 4 :=
  goesThrough_sendAll (be32 v) (by simp [be32])

/-- The chunks from an offset on: together what is left of the buffer, none of them empty or
too long. -/
structure ChunksFrom (data : ByteString) (offset : Nat) (chunks : List ByteString) : Prop where
  flatten : chunks.flatten = data.drop offset
  bounds : ∀ chunk ∈ chunks, 1 ≤ chunk.length ∧ chunk.length ≤ chunkSize

theorem ChunksFrom.fits {data : ByteString} {offset : Nat} {chunks : List ByteString}
    (hchunks : ChunksFrom data offset chunks) : ∀ chunk ∈ chunks, be32Header.Fits chunk := by
  intro chunk hchunk
  have hbounds := hchunks.bounds chunk hchunk
  refine ⟨hbounds.1, le_trans hbounds.2 ?_⟩
  simp [chunkSize, be32Header]

theorem ChunksFrom.nil {data : ByteString} {offset : Nat} (hoffset : data.length ≤ offset) :
    ChunksFrom data offset [] :=
  ⟨by rw [List.drop_eq_nil_of_le hoffset, List.flatten_nil], by simp⟩

theorem ChunksFrom.cons {data : ByteString} {offset csz : Nat} {chunks : List ByteString}
    (hcsz : csz = min chunkSize (data.length - offset)) (hoffset : offset < data.length)
    (hchunks : ChunksFrom data (offset + csz) chunks) :
    ChunksFrom data offset ((data.drop offset).take csz :: chunks) := by
  constructor
  · rw [List.flatten_cons, hchunks.flatten, ← List.drop_drop, List.take_append_drop]
  · intro chunk hchunk
    rcases List.mem_cons.mp hchunk with rfl | hchunk
    · have hchunkSize : 1 ≤ chunkSize := by simp [chunkSize]
      rw [List.length_take, List.length_drop]
      omega
    · exact hchunks.bounds chunk hchunk

theorem sendChunks_puts (data : ByteString) (turns offset : Nat)
    (hturns : data.length ≤ turns + offset) :
    ∃ chunks, ChunksFrom data offset chunks ∧
      Puts (sendChunks data turns offset) (chunks.flatMap be32Header.frame) := by
  induction turns generalizing offset with
  | zero =>
      refine ⟨[], .nil (by omega), fun socket _ => ?_⟩
      simp [sendChunks]
  | succ turns ih =>
      rw [sendChunks]
      split
      · rename_i hoffset
        obtain ⟨csz, hcsz⟩ : ∃ csz, csz = min chunkSize (data.length - offset) := ⟨_, rfl⟩
        have hchunkSize : 1 ≤ chunkSize := by simp [chunkSize]
        rw [← hcsz]
        obtain ⟨chunks, hchunks, hputs⟩ := ih (offset + csz) (by omega)
        have hlength : ((data.drop offset).take csz).length = csz := by
          rw [List.length_take, List.length_drop]
          omega
        have hframe : be32Header.frame ((data.drop offset).take csz) =
            be32 (UInt32.ofNat csz) ++ (data.drop offset).take csz := by
          rw [Header.frame, hlength]
          rfl
        refine ⟨_, hchunks.cons hcsz hoffset, ?_⟩
        rw [List.flatMap_cons, hframe, List.append_assoc]
        exact (puts_sendAll _).andThen ((puts_sendAll _).andThen hputs)
      · exact ⟨[], .nil (by omega), fun socket _ => by simp⟩

theorem GoesThrough.mono {sending : Sending} {cost cost' : Nat} (hcost : cost ≤ cost')
    (hthrough : GoesThrough sending cost) : GoesThrough sending cost' := by
  intro socket hpositive hoffers
  obtain ⟨hok, hrest, hspent⟩ := hthrough socket hpositive (le_trans hcost hoffers)
  exact ⟨hok, hrest, by omega⟩

theorem goesThrough_sendChunks (data : ByteString) (turns offset : Nat)
    (hturns : data.length ≤ turns + offset) :
    GoesThrough (sendChunks data turns offset) (5 * (data.length - offset)) := by
  induction turns generalizing offset with
  | zero =>
      intro socket hpositive _
      exact ⟨by simp [sendChunks]; omega, hpositive, Nat.le_add_right _ _⟩
  | succ turns ih =>
      rw [sendChunks]
      split
      · rename_i hoffset
        obtain ⟨csz, hcsz⟩ : ∃ csz, csz = min chunkSize (data.length - offset) := ⟨_, rfl⟩
        have hchunkSize : chunkSize = 4096 := rfl
        rw [← hcsz]
        have hlength : ((data.drop offset).take csz).length = csz := by
          rw [List.length_take, List.length_drop]
          omega
        have hchunk := goesThrough_sendAll ((data.drop offset).take csz) (by omega)
        rw [hlength] at hchunk
        apply GoesThrough.mono _
          ((goesThrough_be32 _).andThen (hchunk.andThen (ih (offset + csz) (by omega))))
        omega
      · intro socket hpositive _
        exact ⟨rfl, hpositive, Nat.le_add_right _ _⟩

/-- When every send takes something, the buffer goes out whole. -/
theorem sendInstream_goesThrough (data : ByteString) :
    GoesThrough (sendInstream data) (14 + 5 * data.length) := by
  have hcommand : GoesThrough (sendAll instreamCommand) 10 :=
    goesThrough_sendAll instreamCommand (by decide)
  apply GoesThrough.mono _ (hcommand.andThen
    ((goesThrough_sendChunks data data.length 0 (Nat.le_refl _)).andThen (goesThrough_be32 0)))
  omega

theorem sendInstream_puts (data : ByteString) :
    ∃ chunks, ChunksFrom data 0 chunks ∧
      Puts (sendInstream data) (instreamCommand ++ be32Header.stream chunks) := by
  obtain ⟨chunks, hchunks, hputs⟩ := sendChunks_puts data data.length 0 (Nat.le_refl _)
  exact ⟨chunks, hchunks, (puts_sendAll _).andThen (hputs.andThen (puts_sendAll _))⟩

theorem doInstream_sent (data : ByteString) (socket : Socket) :
    (doInstream data socket).2 = (sendInstream data socket).2 := by
  rw [doInstream]
  split <;> rename_i hsent <;> rw [hsent]

/-- Whatever each send takes, once the sending is through the scanner reads the buffer, in
frames none of which ends it early, and nothing stands behind the frame that does. -/
theorem instream_framing (data : ByteString) (socket : Socket)
    (hsent : (sendInstream data socket).1 = true) :
    ∃ text frames,
      (doInstream data socket).2.sent =
        socket.sent ++ (("zINSTREAM" : ByteString) ++ [0]) ++ text ∧
      be32Header.read text = some (frames, []) ∧ frames.flatten = data ∧
      ∀ frame ∈ frames, 1 ≤ frame.length ∧ frame.length ≤ 4096 := by
  obtain ⟨frames, hframes, hputs⟩ := sendInstream_puts data
  refine ⟨be32Header.stream frames, frames, ?_, ?_, hframes.flatten, hframes.bounds⟩
  · rw [doInstream_sent, hputs socket hsent, List.append_assoc]
    rfl
  · rw [← List.append_nil (be32Header.stream frames)]
    exact Header.read_stream hframes.fits

/-- Five bytes, sent one or two at a time. -/
theorem five_bytes_framed :
    (sendInstream "hello" { offers := [2, 1, 2, 1, 2, 2, 1, 1, 2, 1, 2, 2, 1, 3, 1] }).1 = true ∧
      ∃ text frames,
        (doInstream "hello"
            { offers := [2, 1, 2, 1, 2, 2, 1, 1, 2, 1, 2, 2, 1, 3, 1] }).2.sent =
          [] ++ (("zINSTREAM" : ByteString) ++ [0]) ++ text ∧
        be32Header.read text = some (frames, []) ∧ frames.flatten = ("hello" : ByteString) ∧
        ∀ frame ∈ frames, 1 ≤ frame.length ∧ frame.length ≤ 4096 :=
  ⟨by decide, instream_framing "hello"
    { offers := [2, 1, 2, 1, 2, 2, 1, 1, 2, 1, 2, 2, 1, 3, 1] } (by decide)⟩

end Astartis.Clamd
