import Mathlib.Data.List.Basic

/-!
A stream cut into frames.  A frame carries its length in a header of fixed width, and the
first frame of length zero ends the stream.
-/

namespace Astartis.FrameStream

universe u

variable {α : Type u}

/-- How lengths up to a limit are written, and how they are read back. -/
structure Header (α : Type u) where
  width : Nat
  limit : Nat
  encode : Nat → List α
  decode : List α → Nat
  encode_length : ∀ n, (encode n).length = width
  decode_encode : ∀ n, n ≤ limit → decode (encode n) = n

namespace Header

def frame (header : Header α) (chunk : List α) : List α :=
  header.encode chunk.length ++ chunk

/-- The frames of the chunks and the frame that ends the stream. -/
def stream (header : Header α) (chunks : List (List α)) : List α :=
  chunks.flatMap header.frame ++ header.frame []

/-- One turn for each frame: the chunks up to the frame that ends the stream, and what
stands behind it. -/
def readFrames (header : Header α) : Nat → List α → Option (List (List α) × List α)
  | 0, _ => none
  | turns + 1, s =>
      if s.length < header.width then none
      else
        let length := header.decode (s.take header.width)
        let rest := s.drop header.width
        if length = 0 then some ([], rest)
        else if rest.length < length then none
        else
          (header.readFrames turns (rest.drop length)).map fun (chunks, behind) =>
            (rest.take length :: chunks, behind)

/-- Every turn but the last takes a chunk of at least one element, so that this many turns
are enough. -/
def read (header : Header α) (s : List α) : Option (List (List α) × List α) :=
  header.readFrames (s.length + 1) s

/-- A chunk that fits into a frame and does not end the stream. -/
def Fits (header : Header α) (chunk : List α) : Prop :=
  0 < chunk.length ∧ chunk.length ≤ header.limit

variable {header : Header α} {chunk rest : List α} {chunks : List (List α)} {turns : Nat}

@[simp] theorem frame_length : (header.frame chunk).length = header.width + chunk.length := by
  simp [frame, header.encode_length]

theorem readFrames_frame (hchunk : chunk.length ≤ header.limit) :
    header.readFrames (turns + 1) (header.frame chunk ++ rest) =
      if chunk = [] then some ([], rest)
      else
        (header.readFrames turns rest).map fun (chunks, behind) => (chunk :: chunks, behind) := by
  have hhead : (header.frame chunk ++ rest).take header.width = header.encode chunk.length := by
    rw [frame, List.append_assoc, ← header.encode_length chunk.length, List.take_left]
  have htail : (header.frame chunk ++ rest).drop header.width = chunk ++ rest := by
    rw [frame, List.append_assoc, ← header.encode_length chunk.length, List.drop_left]
  have hwidth : ¬ (header.frame chunk ++ rest).length < header.width := by
    simp only [List.length_append, frame_length]
    omega
  have hlength : ¬ (chunk ++ rest).length < chunk.length := by
    simp
  rw [readFrames, if_neg hwidth, hhead, htail, header.decode_encode _ hchunk]
  dsimp only
  rw [if_neg hlength, List.take_left, List.drop_left]
  simp only [List.length_eq_zero_iff]
  split
  · rename_i hempty
    rw [hempty, List.nil_append]
  · rfl

theorem readFrames_stream (hchunks : ∀ chunk ∈ chunks, header.Fits chunk)
    (hturns : chunks.length < turns) :
    header.readFrames turns (header.stream chunks ++ rest) = some (chunks, rest) := by
  induction chunks generalizing turns with
  | nil =>
      obtain ⟨turns, rfl⟩ : ∃ t, turns = t + 1 := ⟨turns - 1, by simp at hturns; omega⟩
      show header.readFrames (turns + 1) (header.frame [] ++ rest) = _
      rw [readFrames_frame (Nat.zero_le _), if_pos rfl]
  | cons chunk chunks ih =>
      obtain ⟨turns, rfl⟩ : ∃ t, turns = t + 1 :=
        ⟨turns - 1, by simp only [List.length_cons] at hturns; omega⟩
      have hchunk : header.Fits chunk := hchunks chunk (by simp)
      have hempty : chunk ≠ [] := List.ne_nil_of_length_pos hchunk.1
      have hstream : header.stream (chunk :: chunks) ++ rest =
          header.frame chunk ++ (header.stream chunks ++ rest) := by
        simp [stream]
      rw [hstream, readFrames_frame hchunk.2, if_neg hempty,
        ih (fun c hc => hchunks c (by simp [hc])) (by simpa using hturns)]
      rfl

theorem length_le_stream (hchunks : ∀ chunk ∈ chunks, header.Fits chunk) :
    chunks.length ≤ (header.stream chunks).length := by
  induction chunks with
  | nil => simp
  | cons chunk chunks ih =>
      have hchunk : 0 < chunk.length := (hchunks chunk (by simp)).1
      have hrest := ih fun c hc => hchunks c (by simp [hc])
      simp only [stream, List.flatMap_cons, List.append_assoc, List.length_append, frame_length,
        List.length_cons] at hrest ⊢
      omega

/-- What is framed is read back, up to the end of the stream. -/
theorem read_stream (hchunks : ∀ chunk ∈ chunks, header.Fits chunk) :
    header.read (header.stream chunks ++ rest) = some (chunks, rest) := by
  apply readFrames_stream hchunks
  have hle := length_le_stream hchunks
  rw [List.length_append]
  omega

end Header

end Astartis.FrameStream
