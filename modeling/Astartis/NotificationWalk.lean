import Astartis.AutonomyLoop

/-!
The walk of `watch_loop` over the records that `ReadDirectoryChangesW` has put into its buffer.
-/

namespace Astartis.Monitor

/-! The buffer. -/

def dword? (buf : List UInt8) (i : Nat) : Option UInt32 := do
  let a ← buf[i]?
  let b ← buf[i + 1]?
  let c ← buf[i + 2]?
  let d ← buf[i + 3]?
  some (a.toUInt32 + (b.toUInt32 <<< 8) + (c.toUInt32 <<< 16) + (d.toUInt32 <<< 24))

/-- `n` code units from the index `i` on. -/
def wchars? (buf : List UInt8) : Nat → Nat → Option (List UInt16)
  | _, 0 => some []
  | i, n + 1 => do
      let low ← buf[i]?
      let high ← buf[i + 1]?
      let rest ← wchars? buf (i + 2) n
      some ((low.toUInt16 + (high.toUInt16 <<< 8)) :: rest)

/-- The values of `FILE_ACTION_ADDED` to `FILE_ACTION_RENAMED_NEW_NAME`. -/
def FileAction.ofCode? (code : UInt32) : Option FileAction :=
  if code = 1 then some .added
  else if code = 2 then some .removed
  else if code = 3 then some .modified
  else if code = 4 then some .renamedOldName
  else if code = 5 then some .renamedNewName
  else none

/-- The actions that have a type of event. -/
def recognised? (code : UInt32) : Option FileAction :=
  (FileAction.ofCode? code).filter fun action => (FsMonitor.eventType? action).isSome

/-- The variables of the walk, and the offsets it has been at. -/
structure Walk (σ : Type) where
  offset : UInt32 := 0
  eventsForwarded : UInt64
  world : σ
  visited : List UInt32 := []

section

variable {σ : Type} (self : FsMonitor) (root : ByteString) (now : Int64)
  (onEvent : FsEvent → σ → σ) (buf : List UInt8) (bytesReturned : UInt32)

/-- The body of the loop. -/
def visitRecord (w : Walk σ) : Option (ForInStep (Walk σ)) := do
  let info := w.offset.toNat
  let w := { w with visited := w.visited ++ [w.offset] }
  let nextEntryOffset ← dword? buf info
  let action ← dword? buf (info + 4)
  match recognised? action with
  | none =>
      let w := { w with
        offset := if nextEntryOffset ≠ 0 then w.offset + nextEntryOffset else 0 }
      if nextEntryOffset = 0 then some (.done w) else some (.yield w)
  | some action => do
      let fileNameLength ← dword? buf (info + 8)
      let fileName ← wchars? buf (info + 12) (fileNameLength.toNat / 2)
      let w :=
        match self.event? root action fileName now with
        | none => w
        | some ev => { w with
            eventsForwarded := w.eventsForwarded + 1
            world := onEvent ev w.world }
      if nextEntryOffset = 0 then some (.done w)
      else some (.yield { w with offset := w.offset + nextEntryOffset })

/-- The `do … while` loop, with a bound on its turns; a read outside of the buffer ends it as
running out of turns does. -/
def recordWalk : Nat → Walk σ → Option (Walk σ)
  | 0, _ => none
  | turns + 1, w => do
      match ← visitRecord self root now onEvent buf w with
      | .done w => some w
      | .yield w => if w.offset < bytesReturned then recordWalk turns w else some w

/-- What a completed read leads to. -/
def handleNotification (turns : Nat) (w : Walk σ) : Option (Walk σ) :=
  if bytesReturned = 0 then some w
  else recordWalk self root now onEvent buf bytesReturned turns w

end

/-! Well-formed buffers. -/

structure NotifyRecord where
  offset : UInt32
  nextEntryOffset : UInt32
  action : UInt32
  fileNameLength : UInt32
  fileName : List UInt16

/-- The record is in the buffer, and in front of its end. -/
structure NotifyRecord.Within (r : NotifyRecord) (buf : List UInt8) (bytesReturned : UInt32) :
    Prop where
  nextEntryOffset : dword? buf r.offset.toNat = some r.nextEntryOffset
  action : dword? buf (r.offset.toNat + 4) = some r.action
  fileNameLength : dword? buf (r.offset.toNat + 8) = some r.fileNameLength
  fileName : wchars? buf (r.offset.toNat + 12) (r.fileNameLength.toNat / 2) = some r.fileName
  bound : r.offset.toNat + 12 + r.fileNameLength.toNat ≤ bytesReturned.toNat

/-- Records that follow each other by their `NextEntryOffset`, up to one where it is 0. -/
inductive Chain (buf : List UInt8) (bytesReturned : UInt32) : UInt32 → List NotifyRecord → Prop
  | last {offset : UInt32} {r : NotifyRecord} (hoffset : r.offset = offset)
      (hwithin : r.Within buf bytesReturned) (hlast : r.nextEntryOffset = 0) :
      Chain buf bytesReturned offset [r]
  | link {offset : UInt32} {r : NotifyRecord} {records : List NotifyRecord}
      (hoffset : r.offset = offset) (hwithin : r.Within buf bytesReturned)
      (hnext : r.nextEntryOffset ≠ 0)
      (hrest : Chain buf bytesReturned (offset + r.nextEntryOffset) records) :
      Chain buf bytesReturned offset (r :: records)

namespace NotifyRecord

/-- Created, modified or renamed to this name. -/
def relevant (r : NotifyRecord) : Bool :=
  r.action = 1 || r.action = 5 || r.action = 3

def extension (r : NotifyRecord) : ByteString :=
  match ByteString.rfind 46 (narrow r.fileName) with
  | none => []
  | some dot => toLower ((narrow r.fileName).drop dot)

def passes (self : FsMonitor) (r : NotifyRecord) : Bool :=
  r.relevant && self.shouldFire r.extension

def event (root : ByteString) (now : Int64) (r : NotifyRecord) : FsEvent where
  type := if r.action = 3 then .modified else .created
  path := root ++ ("\\" : ByteString) ++ narrow r.fileName
  filename := narrow r.fileName
  extension := r.extension
  timestampMs := now

end NotifyRecord

/-- The events that the records of a buffer are to be reported by. -/
def eventsOf (self : FsMonitor) (root : ByteString) (now : Int64) (records : List NotifyRecord) :
    List FsEvent :=
  (records.filter (·.passes self)).map (·.event root now)

theorem NotifyRecord.Within.unique {buf : List UInt8} {bytesReturned : UInt32}
    {r other : NotifyRecord} (hr : r.Within buf bytesReturned)
    (hother : other.Within buf bytesReturned) (hoffset : r.offset = other.offset) : r = other := by
  obtain ⟨offset, nextEntryOffset, action, fileNameLength, fileName⟩ := r
  obtain rfl : offset = other.offset := hoffset
  obtain rfl := Option.some_inj.mp (hr.nextEntryOffset.symm.trans hother.nextEntryOffset)
  obtain rfl := Option.some_inj.mp (hr.action.symm.trans hother.action)
  obtain rfl := Option.some_inj.mp (hr.fileNameLength.symm.trans hother.fileNameLength)
  obtain rfl := Option.some_inj.mp (hr.fileName.symm.trans hother.fileName)
  rfl

theorem Chain.unique {buf : List UInt8} {bytesReturned offset : UInt32}
    {records others : List NotifyRecord} (hchain : Chain buf bytesReturned offset records)
    (hother : Chain buf bytesReturned offset others) : records = others := by
  induction hchain generalizing others with
  | last hoffset hwithin hlast =>
      cases hother with
      | last hoffset' hwithin' _ => rw [hwithin.unique hwithin' (hoffset.trans hoffset'.symm)]
      | link hoffset' hwithin' hnext' _ =>
          obtain rfl := hwithin.unique hwithin' (hoffset.trans hoffset'.symm)
          exact absurd hlast hnext'
  | link hoffset hwithin hnext hrest ih =>
      cases hother with
      | last hoffset' hwithin' hlast' =>
          obtain rfl := hwithin.unique hwithin' (hoffset.trans hoffset'.symm)
          exact absurd hlast' hnext
      | link hoffset' hwithin' _ hrest' =>
          obtain rfl := hwithin.unique hwithin' (hoffset.trans hoffset'.symm)
          rw [ih hrest']

theorem Chain.head_lt {buf : List UInt8} {bytesReturned offset : UInt32}
    {records : List NotifyRecord} (hchain : Chain buf bytesReturned offset records) :
    offset < bytesReturned := by
  have hwithin {r : NotifyRecord} (hr : r.Within buf bytesReturned) : r.offset < bytesReturned := by
    rw [UInt32.lt_iff_toNat_lt]
    have := hr.bound
    omega
  cases hchain with
  | last hoffset hr _ => exact hoffset ▸ hwithin hr
  | link hoffset hr _ _ => exact hoffset ▸ hwithin hr

/-- From each of its records on a chain goes on as a chain. -/
theorem Chain.from_mem {buf : List UInt8} {bytesReturned offset : UInt32}
    {records : List NotifyRecord} (hchain : Chain buf bytesReturned offset records)
    {r : NotifyRecord} (hr : r ∈ records) :
    ∃ rest, Chain buf bytesReturned r.offset rest ∧ rest.length ≤ records.length := by
  induction hchain with
  | last hoffset hwithin hlast =>
      obtain rfl := List.mem_singleton.mp hr
      exact ⟨_, .last rfl hwithin hlast, Nat.le_refl _⟩
  | link hoffset hwithin hnext hrest ih =>
      rcases List.mem_cons.mp hr with rfl | hr
      · exact ⟨_, .link rfl hwithin hnext (hoffset ▸ hrest), Nat.le_refl _⟩
      · obtain ⟨rest, hchain, hlength⟩ := ih hr
        exact ⟨rest, hchain, Nat.le_succ_of_le hlength⟩

theorem Chain.offsets_nodup {buf : List UInt8} {bytesReturned offset : UInt32}
    {records : List NotifyRecord} (hchain : Chain buf bytesReturned offset records) :
    (records.map NotifyRecord.offset).Nodup := by
  induction hchain with
  | last _ _ _ => exact List.nodup_singleton _
  | @link offset r records hoffset hwithin hnext hrest ih =>
      refine List.nodup_cons.mpr ⟨fun hmem => ?_, ih⟩
      obtain ⟨again, hagain, hsame⟩ := List.mem_map.mp hmem
      -- A chain that came back to the record would have the whole chain as its own end.
      obtain ⟨rest, hchain, hlength⟩ := hrest.from_mem hagain
      rw [hsame, hoffset] at hchain
      rw [hchain.unique (.link hoffset hwithin hnext hrest), List.length_cons] at hlength
      omega

section

variable {σ : Type} (self : FsMonitor) (root : ByteString) (now : Int64)
  (onEvent : FsEvent → σ → σ) {buf : List UInt8} {bytesReturned : UInt32}

theorem recognised?_eq (code : UInt32) :
    recognised? code =
      if code = 1 then some .added
      else if code = 3 then some .modified
      else if code = 5 then some .renamedNewName
      else none := by
  unfold recognised? FileAction.ofCode?
  by_cases hadded : code = 1
  · rw [if_pos hadded, if_pos hadded]
    rfl
  by_cases hremoved : code = 2
  · subst hremoved
    rfl
  by_cases hmodified : code = 3
  · subst hmodified
    rfl
  by_cases hold : code = 4
  · subst hold
    rfl
  by_cases hnew : code = 5
  · subst hnew
    rfl
  · simp [hadded, hremoved, hmodified, hold, hnew]

theorem recognised?_isSome (r : NotifyRecord) :
    (recognised? r.action).isSome = r.relevant := by
  rw [recognised?_eq, NotifyRecord.relevant]
  split_ifs with hadded hmodified hnew <;> simp [*]

theorem event?_of_recognised {r : NotifyRecord} {action : FileAction}
    (hsome : recognised? r.action = some action) :
    self.event? root action r.fileName now =
      if r.passes self then some (r.event root now) else none := by
  have hrelevant : r.relevant = true := by rw [← recognised?_isSome, hsome, Option.isSome_some]
  have htype : FsMonitor.eventType? action =
      some (if r.action = 3 then .modified else .created) := by
    rw [recognised?_eq] at hsome
    split_ifs at hsome with hadded hmodified hnew
    · obtain rfl := Option.some_inj.mp hsome
      simp [hadded, FsMonitor.eventType?]
    · obtain rfl := Option.some_inj.mp hsome
      simp [hmodified, FsMonitor.eventType?]
    · obtain rfl := Option.some_inj.mp hsome
      simp [hmodified, FsMonitor.eventType?]
  rw [NotifyRecord.passes, hrelevant, Bool.true_and]
  simp only [FsMonitor.event?, htype]
  rfl

/-- The walk once it has dealt with the record. -/
def Walk.after (w : Walk σ) (r : NotifyRecord) : Walk σ where
  offset := if r.nextEntryOffset = 0 ∧ r.relevant = false then 0 else r.offset + r.nextEntryOffset
  eventsForwarded := if r.passes self then w.eventsForwarded + 1 else w.eventsForwarded
  world := if r.passes self then onEvent (r.event root now) w.world else w.world
  visited := w.visited ++ [r.offset]

theorem visitRecord_eq {r : NotifyRecord} {w : Walk σ} (hwithin : r.Within buf bytesReturned)
    (hoffset : r.offset = w.offset) :
    visitRecord self root now onEvent buf w =
      some (if r.nextEntryOffset = 0 then .done (w.after self root now onEvent r)
        else .yield (w.after self root now onEvent r)) := by
  have hrelevant := recognised?_isSome r
  simp only [visitRecord, ← hoffset, hwithin.nextEntryOffset, hwithin.action,
    hwithin.fileNameLength, hwithin.fileName, Option.bind_eq_bind, Option.bind_some]
  cases hrecognised : recognised? r.action with
  | none =>
      rw [hrecognised, Option.isSome_none] at hrelevant
      have hfiltered : r.passes self = false := by
        rw [NotifyRecord.passes, ← hrelevant, Bool.false_and]
      by_cases hnext : r.nextEntryOffset = 0
      · simp [Walk.after, hfiltered, hnext, ← hrelevant]
      · simp [Walk.after, hfiltered, hnext]
  | some action =>
      rw [hrecognised, Option.isSome_some] at hrelevant
      simp only [event?_of_recognised self root now hrecognised]
      by_cases hnext : r.nextEntryOffset = 0
      · by_cases hpasses : r.passes self <;>
          simp [Walk.after, hpasses, hnext, ← hrelevant]
      · by_cases hpasses : r.passes self <;>
          simp [Walk.after, hpasses, hnext]

/-- With a turn for each of its records the walk deals with a chain from its head to its end. -/
theorem recordWalk_chain {offset : UInt32} {records : List NotifyRecord}
    (hchain : Chain buf bytesReturned offset records) {turns : Nat}
    (hturns : records.length ≤ turns) {w : Walk σ} (hoffset : w.offset = offset) :
    recordWalk self root now onEvent buf bytesReturned turns w =
      some (records.foldl (·.after self root now onEvent ·) w) := by
  induction hchain generalizing turns w with
  | @last offset r hr hwithin hlast =>
      obtain ⟨turns, rfl⟩ : ∃ n, turns = n + 1 := ⟨turns - 1, by simp at hturns; omega⟩
      rw [recordWalk, visitRecord_eq self root now onEvent hwithin (hr.trans hoffset.symm),
        if_pos hlast]
      rfl
  | @link offset r records hr hwithin hnext hrest ih =>
      obtain ⟨turns, rfl⟩ : ∃ n, turns = n + 1 := ⟨turns - 1, by simp at hturns; omega⟩
      have hadvanced : (w.after self root now onEvent r).offset = offset + r.nextEntryOffset := by
        simp [Walk.after, hnext, hr]
      have hbelow : offset + r.nextEntryOffset < bytesReturned := hrest.head_lt
      rw [recordWalk, visitRecord_eq self root now onEvent hwithin (hr.trans hoffset.symm),
        if_neg hnext]
      simp only [Option.bind_eq_bind, Option.bind_some, hadvanced, hbelow, if_true]
      exact ih (Nat.le_of_succ_le_succ hturns) hadvanced

theorem foldl_after_visited (records : List NotifyRecord) (w : Walk σ) :
    (records.foldl (·.after self root now onEvent ·) w).visited =
      w.visited ++ records.map NotifyRecord.offset := by
  induction records generalizing w with
  | nil => exact (List.append_nil _).symm
  | cons r records ih => rw [List.foldl_cons, ih, List.map_cons, Walk.after, List.append_assoc,
      List.singleton_append]

theorem foldl_after_world (records : List NotifyRecord) (w : Walk σ) :
    (records.foldl (·.after self root now onEvent ·) w).world =
      (eventsOf self root now records).foldl (fun world ev => onEvent ev world) w.world := by
  induction records generalizing w with
  | nil => rfl
  | cons r records ih =>
      rw [List.foldl_cons, ih]
      by_cases hpasses : r.passes self <;> simp [eventsOf, Walk.after, hpasses]

theorem foldl_after_eventsForwarded (records : List NotifyRecord) (w : Walk σ) :
    (records.foldl (·.after self root now onEvent ·) w).eventsForwarded =
      w.eventsForwarded + UInt64.ofNat (eventsOf self root now records).length := by
  induction records generalizing w with
  | nil => exact (UInt64.add_zero _).symm
  | cons r records ih =>
      rw [List.foldl_cons, ih]
      by_cases hpasses : r.passes self
      · simp [eventsOf, Walk.after, hpasses, UInt64.ofNat_add, UInt64.add_assoc, UInt64.add_comm]
      · simp [eventsOf, Walk.after, hpasses]

/-- For a well-formed buffer the walk ends, has been at each record once and in order, and has
reported exactly those that were created, modified or renamed to and have such an extension. -/
theorem handleNotification_chain {records : List NotifyRecord}
    (hchain : Chain buf bytesReturned 0 records) {turns : Nat} (hturns : records.length ≤ turns)
    (eventsForwarded : UInt64) (world : σ) :
    ∃ w, handleNotification self root now onEvent buf bytesReturned turns
        { eventsForwarded := eventsForwarded, world := world } = some w ∧
      w.visited = records.map NotifyRecord.offset ∧
      (records.map NotifyRecord.offset).Nodup ∧
      w.world =
        (eventsOf self root now records).foldl (fun world ev => onEvent ev world) world ∧
      w.eventsForwarded =
        eventsForwarded + UInt64.ofNat (eventsOf self root now records).length := by
  have hsome : bytesReturned ≠ 0 := by
    rintro rfl
    exact absurd hchain.head_lt (by decide)
  let start : Walk σ := { eventsForwarded := eventsForwarded, world := world }
  have hwalk : handleNotification self root now onEvent buf bytesReturned turns start =
      some (records.foldl (·.after self root now onEvent ·) start) := by
    rw [handleNotification, if_neg hsome]
    exact recordWalk_chain self root now onEvent hchain hturns rfl
  exact ⟨_, hwalk, foldl_after_visited self root now onEvent records start,
    hchain.offsets_nodup, foldl_after_world self root now onEvent records start,
    foldl_after_eventsForwarded self root now onEvent records start⟩

end

/-- Four files with one action each, of which the second is deleted. -/
def sampleBuffer : List UInt8 :=
  [24, 0, 0, 0, 1, 0, 0, 0, 10, 0, 0, 0, 97, 0, 46, 0, 101, 0, 120, 0, 101, 0, 0, 0,
    24, 0, 0, 0, 2, 0, 0, 0, 10, 0, 0, 0, 98, 0, 46, 0, 101, 0, 120, 0, 101, 0, 0, 0,
    24, 0, 0, 0, 3, 0, 0, 0, 10, 0, 0, 0, 99, 0, 46, 0, 116, 0, 120, 0, 116, 0, 0, 0,
    0, 0, 0, 0, 5, 0, 0, 0, 10, 0, 0, 0, 100, 0, 46, 0, 69, 0, 88, 0, 69, 0, 0, 0]

def sampleRecords : List NotifyRecord :=
  [⟨0, 24, 1, 10, [97, 46, 101, 120, 101]⟩, ⟨24, 24, 2, 10, [98, 46, 101, 120, 101]⟩,
    ⟨48, 24, 3, 10, [99, 46, 116, 120, 116]⟩, ⟨72, 0, 5, 10, [100, 46, 69, 88, 69]⟩]

theorem sampleBuffer_chain : Chain sampleBuffer 94 0 sampleRecords := by
  refine .link rfl ⟨rfl, rfl, rfl, rfl, by decide⟩ (by decide) ?_
  refine .link rfl ⟨rfl, rfl, rfl, rfl, by decide⟩ (by decide) ?_
  refine .link rfl ⟨rfl, rfl, rfl, rfl, by decide⟩ (by decide) ?_
  exact .last rfl ⟨rfl, rfl, rfl, rfl, by decide⟩ rfl

theorem handleNotification_chain_mixed :
    let self : FsMonitor := { extFilter := [".exe"] }
    let events := eventsOf self "C:" 7 sampleRecords
    events.map FsEvent.filename = [("a.exe" : ByteString), ("d.EXE" : ByteString)] ∧
      ∃ w, handleNotification self "C:" 7 (fun ev log => log ++ [ev]) sampleBuffer 94 4
          { eventsForwarded := 0, world := [] } = some w ∧
        w.visited = [0, 24, 48, 72] ∧ w.world = events.foldl (fun log ev => log ++ [ev]) [] := by
  intro self events
  refine ⟨by decide +kernel, ?_⟩
  obtain ⟨w, hwalk, hvisited, _, hworld, _⟩ := handleNotification_chain self "C:" 7
    (fun ev log => log ++ [ev]) sampleBuffer_chain (Nat.le_refl 4) 0 ([] : List FsEvent)
  exact ⟨w, hwalk, hvisited, hworld⟩

end Astartis.Monitor
