/-
`internal/storeforward/buffer.go` and `ack.go`: the bounded SQLite ring
buffer between the Pump and the uplink.  Rows carry an AUTOINCREMENT
sequence; a write at capacity drops the oldest rows; the cursor row holds the
last acknowledged sequence.

A transaction commits as a whole or leaves the database alone, so a failed
`Write`, `Advance` or `ReadBatch` is the unchanged buffer; the functions here
are the committed ones.  Left out are the checkpoint wall clock and the
wake-up channel, which nothing here reads.
-/

import NexusGateway.Lib.Dict

namespace NexusGateway.StoreForward

open Lib

/-! ## Frames -/

/-- The `value` of a `TelemetryFrame`; a double is given by its bits. -/
inductive FrameValue where
  | valueNum (bits : UInt64)
  | valueStr (s : String)
  | valueBool (b : Bool)
deriving DecidableEq, Repr

structure TelemetryFrame where
  gatewayId : String
  pointId : String
  value : Option FrameValue
  timestamp : String
  attributes : Dict String String

def sampleFrame : TelemetryFrame := ⟨"gw", "p", none, "", ∅⟩

/-- `StoredFrame`: a row of the `frames` table. -/
structure StoredFrame where
  seq : Nat
  frame : TelemetryFrame

/-- The `frames` table, in ascending order of `seq`; `lastSeq` is the highest
    sequence AUTOINCREMENT ever handed out. -/
structure FrameTable where
  rows : List StoredFrame
  lastSeq : Nat
  sorted : rows.Pairwise fun f g => f.seq < g.seq
  le_last : ∀ f ∈ rows, f.seq ≤ lastSeq

namespace FrameTable

def empty : FrameTable := ⟨[], 0, .nil, fun _ h => by cases h⟩

def insert (t : FrameTable) (f : TelemetryFrame) : FrameTable where
  rows := t.rows ++ [⟨t.lastSeq + 1, f⟩]
  lastSeq := t.lastSeq + 1
  sorted := by
    refine List.pairwise_append.mpr ⟨t.sorted, List.pairwise_singleton .., ?_⟩
    intro g hg g' hg'
    rw [List.mem_singleton.mp hg']
    exact Nat.lt_succ_of_le (t.le_last g hg)
  le_last := by
    intro g hg
    rcases List.mem_append.mp hg with hg | hg
    · exact Nat.le_succ_of_le (t.le_last g hg)
    · rw [List.mem_singleton.mp hg]

/-- `DELETE` of the `k` rows with the lowest sequences. -/
def dropOldest (t : FrameTable) (k : Nat) : FrameTable where
  rows := t.rows.drop k
  lastSeq := t.lastSeq
  sorted := t.sorted.sublist (List.drop_sublist ..)
  le_last := fun f hf => t.le_last f (List.mem_of_mem_drop hf)

/-- `SELECT … WHERE seq > after ORDER BY seq ASC LIMIT limit`. -/
def select (t : FrameTable) (after limit : Nat) : List StoredFrame :=
  (t.rows.filter fun f => after < f.seq).take limit

theorem mem_of_mem_select {t : FrameTable} {after limit : Nat} {f : StoredFrame}
    (h : f ∈ t.select after limit) : f ∈ t.rows ∧ after < f.seq := by
  have hmem := List.mem_filter.mp (List.mem_of_mem_take h)
  exact ⟨hmem.1, of_decide_eq_true hmem.2⟩

theorem sorted_select (t : FrameTable) (after limit : Nat) :
    (t.select after limit).Pairwise fun f g => f.seq < g.seq :=
  t.sorted.sublist ((List.take_sublist ..).trans List.filter_sublist)

theorem mem_select_of_le {t : FrameTable} {after limit : Nat} {f g : StoredFrame}
    (hf : f ∈ t.rows) (hafter : after < f.seq) (hg : g ∈ t.select after limit)
    (hle : f.seq ≤ g.seq) : f ∈ t.select after limit := by
  have hmem : f ∈ t.rows.filter fun f => after < f.seq :=
    List.mem_filter.mpr ⟨hf, decide_eq_true hafter⟩
  have hsorted : (t.rows.filter fun f => after < f.seq).Pairwise fun f g => f.seq < g.seq :=
    t.sorted.sublist List.filter_sublist
  rw [← List.take_append_drop limit (t.rows.filter _)] at hmem hsorted
  rcases List.mem_append.mp hmem with htake | hdrop
  · exact htake
  · -- a row behind the limit comes after every selected one
    have hlt := (List.pairwise_append.mp hsorted).2.2 g hg f hdrop
    omega

theorem le_of_select_eq_nil {t : FrameTable} {after limit : Nat} (hlimit : 0 < limit)
    (h : t.select after limit = []) {f : StoredFrame} (hf : f ∈ t.rows) : f.seq ≤ after := by
  rw [select, List.take_eq_nil_iff, or_iff_right (by omega), List.filter_eq_nil_iff] at h
  have hnot := h f hf
  simp only [decide_eq_true_eq] at hnot
  omega

def push (t : FrameTable) (capacity : Nat) (f : TelemetryFrame) : FrameTable :=
  (t.insert f).dropOldest ((t.insert f).rows.length - capacity)

def evicted (t : FrameTable) (capacity : Nat) (f : TelemetryFrame) : List Nat :=
  ((t.insert f).rows.take ((t.insert f).rows.length - capacity)).map StoredFrame.seq

theorem mem_push_or_evicted {t : FrameTable} {capacity : Nat} {f : TelemetryFrame}
    {g : StoredFrame} (hg : g ∈ (t.insert f).rows) :
    g ∈ (t.push capacity f).rows ∨ g.seq ∈ t.evicted capacity f := by
  rw [← List.take_append_drop ((t.insert f).rows.length - capacity) (t.insert f).rows] at hg
  rcases List.mem_append.mp hg with htake | hdrop
  · exact Or.inr (List.mem_map_of_mem htake)
  · exact Or.inl hdrop

theorem mem_of_mem_push {t : FrameTable} {capacity : Nat} {f : TelemetryFrame} {g : StoredFrame}
    (hg : g ∈ (t.push capacity f).rows) : g ∈ t.rows ∨ g.seq = t.lastSeq + 1 := by
  rcases List.mem_append.mp (List.mem_of_mem_drop hg) with hg | hg
  · exact Or.inl hg
  · rw [List.mem_singleton.mp hg]
    exact Or.inr rfl

end FrameTable

/-! ## The buffer -/

/-- `Buffer`: the table and the cursor row in the database, and the counters. -/
structure Buffer where
  capacity : Nat
  capacity_pos : 0 < capacity
  frames : FrameTable
  cursorRow : Option Nat
  written : Nat := 0
  evictedSent : Nat := 0
  lostUnsent : Nat := 0
  writeErrors : Nat := 0
  duplicates : Nat := 0
  sent : Nat := 0
  accepted : Int64 := 0
  checkpoints : Nat := 0
  sendErrors : Nat := 0
  drifts : Dict String Nat := ∅
  driftTotal : Nat := 0

namespace Buffer

theorem toNat_pos {capacity : Int} (h : 0 < capacity) : 0 < capacity.toNat := by omega

/-- `Open` on a file with this table and this cursor row, with any capacity; a new file has
    neither rows nor a cursor. -/
def openFile (frames : FrameTable) (cursorRow : Option Nat) (capacity : Int) :
    Except String Buffer :=
  if h : 0 < capacity then
    .ok { capacity := capacity.toNat, capacity_pos := toNat_pos h, frames, cursorRow }
  else .error ("storeforward: capacity must be positive, got " ++ toString capacity)

/-- `Open` with the same capacity: the counters start again at zero. -/
def reopen (b : Buffer) : Buffer :=
  { capacity := b.capacity, capacity_pos := b.capacity_pos,
    frames := b.frames, cursorRow := b.cursorRow }

/-- `Cursor`, when the row can be read. -/
def cursor (b : Buffer) : Nat := b.cursorRow.getD 0

def write (b : Buffer) (f : TelemetryFrame) : Buffer :=
  let inserted := b.frames.insert f
  let total := inserted.rows.length
  let acked := inserted.rows.countP fun g => g.seq ≤ b.cursor
  let victims := total - b.capacity
  let evictedSent := min victims acked
  { b with
    frames := b.frames.push b.capacity f
    written := b.written + 1
    evictedSent := b.evictedSent + evictedSent
    lostUnsent := b.lostUnsent + (victims - evictedSent) }

def readBatch (b : Buffer) (afterSeq limit : Nat) : List StoredFrame :=
  b.frames.select afterSeq limit

def advance (b : Buffer) (seq : Nat) : Buffer := { b with cursorRow := some seq }

def depth (b : Buffer) : Nat := b.frames.rows.countP fun f => b.cursor < f.seq

def recordWriteError (b : Buffer) : Buffer := { b with writeErrors := b.writeErrors + 1 }

def recordDuplicate (b : Buffer) : Buffer := { b with duplicates := b.duplicates + 1 }

def recordSendError (b : Buffer) : Buffer := { b with sendErrors := b.sendErrors + 1 }

def recordDrift (b : Buffer) (pointID : String) (delta : Nat) : Buffer :=
  { b with
    drifts := b.drifts.insert pointID ((b.drifts.lookup pointID).getD 0 + delta)
    driftTotal := b.driftTotal + delta }

def recordSent (b : Buffer) (n : Nat) : Buffer := { b with sent := b.sent + n }

def recordAccepted (b : Buffer) (n : Int64) : Buffer := { b with accepted := b.accepted + n }

def recordCheckpoint (b : Buffer) : Buffer := { b with checkpoints := b.checkpoints + 1 }

end Buffer

/-! ## Acknowledgements -/

structure SentFrame where
  seq : Nat
  pointID : String
deriving DecidableEq, Repr

/-- `ApplyAck`: the new cursor and the drift of each point.  The difference is
    taken in `int64`. -/
def applyAck (batch : List SentFrame) (accepted : Int64) : Nat × Dict String Nat :=
  match batch.getLast? with
  | none => (0, ∅)
  | some last =>
    let lost := Int64.ofNat batch.length - accepted
    if lost ≤ 0 then (last.seq, ∅)
    else
      let start := accepted.toInt.toNat
      (last.seq, (batch.drop start).foldl
        (fun drifts sf => drifts.insert sf.pointID ((drifts.lookup sf.pointID).getD 0 + 1)) ∅)

theorem applyAck_fst (batch : List SentFrame) (accepted : Int64) :
    (applyAck batch accepted).1 = (batch.getLast?.map SentFrame.seq).getD 0 := by
  unfold applyAck
  cases batch.getLast? with
  | none => rfl
  | some last =>
    simp only [Option.map_some, Option.getD_some]
    split <;> rfl

end NexusGateway.StoreForward
