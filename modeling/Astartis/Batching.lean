import Mathlib.Data.List.Induction

/-!
A buffer that is emptied into a batch as soon as it is full, and the batches that come of the
elements put into it.
-/

namespace Astartis.Batching

variable {α : Type*} {limit : Nat} {xs : List α} {batches : List (List α)} {buffer : List α}

/-- The elements so far stand in full batches, and the last of them in the buffer. -/
structure Cut (limit : Nat) (xs : List α) (batches : List (List α)) (buffer : List α) :
    Prop where
  flatten_append : batches.flatten ++ buffer = xs
  full : ∀ batch ∈ batches, batch.length = limit
  room : buffer.length < limit

theorem Cut.start (hlimit : 0 < limit) : Cut limit ([] : List α) [] [] where
  flatten_append := rfl
  full := by simp
  room := hlimit

theorem Cut.keep (hcut : Cut limit xs batches buffer) (x : α)
    (hroom : buffer.length + 1 < limit) : Cut limit (xs ++ [x]) batches (buffer ++ [x]) where
  flatten_append := by rw [← List.append_assoc, hcut.flatten_append]
  full := hcut.full
  room := by simpa using hroom

theorem Cut.emit (hcut : Cut limit xs batches buffer) (x : α)
    (hfull : buffer.length + 1 = limit) :
    Cut limit (xs ++ [x]) (batches ++ [buffer ++ [x]]) [] where
  flatten_append := by simp [← hcut.flatten_append]
  full := by
    intro batch hbatch
    rcases List.mem_append.mp hbatch with hbatch | hbatch
    · exact hcut.full batch hbatch
    · rw [List.mem_singleton.mp hbatch]
      simpa using hfull
  room := Nat.zero_lt_of_lt hcut.room

/-- A fold whose state is that of the batches and the buffer, whether an element fills the
buffer or not. -/
theorem exists_cut_foldl {State : Type*} {step : State → α → State}
    (state : List (List α) → List α → State) (hlimit : 0 < limit)
    (hkeep : ∀ batches buffer x, buffer.length + 1 < limit →
      step (state batches buffer) x = state batches (buffer ++ [x]))
    (hemit : ∀ batches buffer x, buffer.length + 1 = limit →
      step (state batches buffer) x = state (batches ++ [buffer ++ [x]]) [])
    (xs : List α) :
    ∃ batches buffer, Cut limit xs batches buffer ∧
      xs.foldl step (state [] []) = state batches buffer := by
  induction xs using List.reverseRecOn with
  | nil => exact ⟨[], [], .start hlimit, rfl⟩
  | append_singleton xs x ih =>
      obtain ⟨batches, buffer, hcut, hstate⟩ := ih
      rw [List.foldl_append, hstate]
      rcases Nat.lt_or_eq_of_le (Nat.succ_le_of_lt hcut.room) with hroom | hfull
      · exact ⟨batches, buffer ++ [x], hcut.keep x hroom, hkeep batches buffer x hroom⟩
      · exact ⟨batches ++ [buffer ++ [x]], [], hcut.emit x hfull, hemit batches buffer x hfull⟩

/-- The batches after what is left in the buffer is emptied as well. -/
def closed (batches : List (List α)) (buffer : List α) : List (List α) :=
  if buffer = [] then batches else batches ++ [buffer]

/-- The elements in batches one behind the other. -/
structure Partition (limit : Nat) (xs : List α) (batches : List (List α)) : Prop where
  flatten : batches.flatten = xs
  ne_nil : ∀ batch ∈ batches, batch ≠ []
  length_le : ∀ batch ∈ batches, batch.length ≤ limit
  full : ∀ batch ∈ batches.dropLast, batch.length = limit

theorem Cut.partition (hcut : Cut limit xs batches buffer) :
    Partition limit xs (closed batches buffer) := by
  have hpos : 0 < limit := Nat.zero_lt_of_lt hcut.room
  have hne : ∀ batch ∈ batches, batch ≠ [] := by
    intro batch hbatch
    exact List.ne_nil_of_length_pos ((hcut.full batch hbatch).symm ▸ hpos)
  unfold closed
  split
  · rename_i hempty
    subst hempty
    exact
      { flatten := by simpa using hcut.flatten_append
        ne_nil := hne
        length_le := fun batch hbatch => Nat.le_of_eq (hcut.full batch hbatch)
        full := fun batch hbatch => hcut.full batch (List.dropLast_subset batches hbatch) }
  · rename_i hbuffer
    have hmem : ∀ batch ∈ batches ++ [buffer], batch ∈ batches ∨ batch = buffer := by simp
    exact
      { flatten := by simpa using hcut.flatten_append
        ne_nil := fun batch hbatch => (hmem batch hbatch).elim (hne batch) (· ▸ hbuffer)
        length_le := fun batch hbatch =>
          (hmem batch hbatch).elim (fun h => Nat.le_of_eq (hcut.full batch h))
            (· ▸ Nat.le_of_lt hcut.room)
        full := fun batch hbatch =>
          hcut.full batch (by simpa only [List.dropLast_concat] using hbatch) }

end Astartis.Batching
