/-
The ring buffer over whole histories: writes, cursor advances, and closings
followed by `Open` with another capacity.  A history is run next to what it
should add up to: every frame ever written, the number of rows the process
found when it opened the file, and for each row it deleted the cursor at that
moment.

`Write` never looks at the rows it deletes.  It takes the smaller of two
counts, which is their split at the cursor because the table is in order of
`seq`: the rows at or below the cursor are in front.
-/

import NexusGateway.Lib.Run
import NexusGateway.Lib.Bounded
import NexusGateway.StoreForward.Buffer

namespace NexusGateway.StoreForward

open Lib

/-! ## Histories -/

structure Eviction where
  seq : Nat
  cursor : Nat
deriving DecidableEq, Repr

/-- The Buffer of the running process, every frame ever written to the file, and
    what this process found and deleted. -/
structure History where
  buf : Buffer
  past : List TelemetryFrame
  rowsAtOpen : Nat
  deleted : List Eviction

inductive Operation where
  | write (f : TelemetryFrame) (ok : Bool)
  | advance (seq : Nat) (ok : Bool)
  | closeAndOpen (capacity : Int)

namespace History

def init (capacity : Int) : Except String History :=
  (Buffer.openFile .empty none capacity).map fun b =>
    { buf := b, past := [], rowsAtOpen := 0, deleted := [] }

/-- One operation.  The cursor is advanced to a sequence that was handed out and
    not below the present one; a capacity that `Open` refuses is no step. -/
def step (h : History) : Operation → Option History
  | .write f ok =>
    if ok then some { h with
      buf := h.buf.write f
      past := h.past ++ [f]
      deleted := h.deleted ++
        (h.buf.frames.evicted h.buf.capacity f).map fun seq => ⟨seq, h.buf.cursor⟩ }
    else some h
  | .advance seq ok =>
    if h.buf.cursor ≤ seq ∧ seq ≤ h.buf.frames.lastSeq then
      if ok then some { h with buf := h.buf.advance seq } else some h
    else none
  | .closeAndOpen capacity =>
    match Buffer.openFile h.buf.frames h.buf.cursorRow capacity with
    | .error _ => none
    | .ok b => some
        { buf := b, past := h.past, rowsAtOpen := b.frames.rows.length, deleted := [] }

def Steps (h : History) (op : Operation) (h' : History) : Prop := h.step op = some h'

end History

/-! ## One write -/

def numbered (past : List TelemetryFrame) : List StoredFrame :=
  past.mapIdx fun i f => ⟨i + 1, f⟩

theorem numbered_concat (past : List TelemetryFrame) (f : TelemetryFrame) :
    numbered (past ++ [f]) = numbered past ++ [⟨past.length + 1, f⟩] := by
  rw [numbered, List.mapIdx_concat]
  rfl

namespace FrameTable

variable (t : FrameTable) (capacity : Nat) (f : TelemetryFrame)

theorem rows_push :
    (t.push capacity f).rows = pushBounded capacity t.rows ⟨t.lastSeq + 1, f⟩ := by
  show (t.insert f).rows.drop ((t.insert f).rows.length - capacity) = _
  have hlen : (t.insert f).rows.length = t.rows.length + 1 := List.length_append
  rw [hlen]
  rfl

theorem sorted_front (cursor : Nat) :
    t.rows.Pairwise fun f g => decide (g.seq ≤ cursor) = true → decide (f.seq ≤ cursor) = true := by
  refine t.sorted.imp ?_
  intro f g hlt hg
  rw [decide_eq_true_eq] at hg ⊢
  omega

theorem length_evicted :
    (t.evicted capacity f).length = t.rows.length + 1 - capacity := by
  have hlen : (t.insert f).rows.length = t.rows.length + 1 := List.length_append
  rw [evicted, List.length_map, List.length_take, hlen]
  omega

theorem countP_evicted (cursor : Nat) :
    (t.evicted capacity f).countP (fun seq => seq ≤ cursor) =
      min (t.rows.length + 1 - capacity) ((t.insert f).rows.countP fun g => g.seq ≤ cursor) := by
  have hlen : (t.insert f).rows.length = t.rows.length + 1 := List.length_append
  rw [evicted, List.countP_map, hlen]
  exact countP_take_of_front ((t.insert f).sorted_front cursor) _

variable {t capacity f} {s : Nat}

theorem le_of_mem_evicted (hs : s ∈ t.evicted capacity f) : s ≤ t.lastSeq + 1 := by
  obtain ⟨e, he, rfl⟩ := List.mem_map.mp hs
  exact (t.insert f).le_last e (List.mem_of_mem_take he)

theorem not_mem_push_of_evicted (hs : s ∈ t.evicted capacity f) :
    ∀ g ∈ (t.push capacity f).rows, g.seq ≠ s := by
  intro g hg heq
  obtain ⟨e, he, rfl⟩ := List.mem_map.mp hs
  -- every evicted row stands before every row that stays
  have hsorted := (t.insert f).sorted
  rw [← List.take_append_drop ((t.insert f).rows.length - capacity) (t.insert f).rows] at hsorted
  have hlt := (List.pairwise_append.mp hsorted).2.2 e he g hg
  omega

end FrameTable

theorem Buffer.write_counters (b : Buffer) (f : TelemetryFrame) :
    (b.write f).evictedSent = b.evictedSent +
        (b.frames.evicted b.capacity f).countP (fun seq => seq ≤ b.cursor) ∧
      (b.write f).lostUnsent = b.lostUnsent +
        (b.frames.evicted b.capacity f).countP (fun seq => b.cursor < seq) := by
  have hlen : (b.frames.insert f).rows.length = b.frames.rows.length + 1 := List.length_append
  have hsent := b.frames.countP_evicted b.capacity f b.cursor
  have hall := List.length_eq_countP_add_countP (fun seq => decide (seq ≤ b.cursor))
    (l := b.frames.evicted b.capacity f)
  have hnot : (fun seq => decide ¬ (decide (seq ≤ b.cursor) = true)) =
      fun seq => decide (b.cursor < seq) := by
    funext seq
    simp
  rw [hnot, b.frames.length_evicted b.capacity f] at hall
  constructor
  · rw [hsent]
    simp only [Buffer.write, hlen]
  · simp only [Buffer.write, hlen]
    omega

/-! ## Every history -/

structure Exact (h : History) : Prop where
  numbers : h.buf.frames.lastSeq = h.past.length
  suffix : h.buf.frames.rows <:+ numbered h.past
  evictedSent : h.buf.evictedSent = h.deleted.countP fun e => e.seq ≤ e.cursor
  lostUnsent : h.buf.lostUnsent = h.deleted.countP fun e => e.cursor < e.seq
  balance : h.buf.frames.rows.length + h.buf.evictedSent + h.buf.lostUnsent =
    h.rowsAtOpen + h.buf.written

theorem exact_init {capacity : Int} {h : History} (hinit : History.init capacity = .ok h) :
    Exact h := by
  unfold History.init Buffer.openFile at hinit
  split at hinit
  · cases hinit
    exact ⟨rfl, List.suffix_refl _, rfl, rfl, rfl⟩
  · cases hinit

section Steps

variable {h h' : History}

theorem countP_deleted (h : History) (f : TelemetryFrame) (p : Nat → Nat → Bool) :
    (h.deleted ++ (h.buf.frames.evicted h.buf.capacity f).map
        fun seq => (⟨seq, h.buf.cursor⟩ : Eviction)).countP (fun e => p e.seq e.cursor) =
      h.deleted.countP (fun e => p e.seq e.cursor) +
        (h.buf.frames.evicted h.buf.capacity f).countP fun seq => p seq h.buf.cursor := by
  rw [List.countP_append, List.countP_map]
  rfl

theorem Exact.write (hE : Exact h) (f : TelemetryFrame) :
    Exact { h with
      buf := h.buf.write f
      past := h.past ++ [f]
      deleted := h.deleted ++
        (h.buf.frames.evicted h.buf.capacity f).map fun seq => ⟨seq, h.buf.cursor⟩ } := by
  obtain ⟨hsent, hlost⟩ := h.buf.write_counters f
  have hrows : (h.buf.write f).frames.rows =
      pushBounded h.buf.capacity h.buf.frames.rows ⟨h.buf.frames.lastSeq + 1, f⟩ :=
    h.buf.frames.rows_push h.buf.capacity f
  refine ⟨?_, ?_, ?_, ?_, ?_⟩
  · show h.buf.frames.lastSeq + 1 = (h.past ++ [f]).length
    rw [hE.numbers, List.length_append, List.length_singleton]
  · show (h.buf.write f).frames.rows <:+ _
    rw [hrows, numbered_concat, hE.numbers]
    exact pushBounded_suffix hE.suffix _ _
  · show (h.buf.write f).evictedSent = _
    rw [hsent, hE.evictedSent]
    exact (countP_deleted h f fun seq cursor => seq ≤ cursor).symm
  · show (h.buf.write f).lostUnsent = _
    rw [hlost, hE.lostUnsent]
    exact (countP_deleted h f fun seq cursor => cursor < seq).symm
  · -- a row more, and as many less as there are evictions
    show (h.buf.write f).frames.rows.length + (h.buf.write f).evictedSent +
      (h.buf.write f).lostUnsent = h.rowsAtOpen + (h.buf.written + 1)
    have hlen := length_pushBounded h.buf.capacity h.buf.frames.rows ⟨h.buf.frames.lastSeq + 1, f⟩
    have hvictims : (h.buf.write f).evictedSent + (h.buf.write f).lostUnsent =
        h.buf.evictedSent + h.buf.lostUnsent + (h.buf.frames.rows.length + 1 - h.buf.capacity) := by
      have htotal : (h.buf.frames.insert f).rows.length = h.buf.frames.rows.length + 1 :=
        List.length_append
      simp only [Buffer.write, htotal]
      omega
    have hbalance := hE.balance
    rw [hrows, hlen]
    omega

theorem Exact.step (hE : Exact h) {op : Operation} (hstep : History.Steps h op h') :
    Exact h' := by
  unfold History.Steps at hstep
  cases op with
  | write f ok =>
    simp only [History.step] at hstep
    split at hstep
    · cases hstep
      exact hE.write f
    · cases hstep
      exact hE
  | advance seq ok =>
    simp only [History.step] at hstep
    split at hstep
    · split at hstep
      · cases hstep
        exact { hE with }
      · cases hstep
        exact hE
    · cases hstep
  | closeAndOpen capacity =>
    simp only [History.step, Buffer.openFile] at hstep
    split at hstep
    · cases hstep
    · next b hopen =>
      split at hopen
      · cases hopen
        cases hstep
        exact ⟨hE.numbers, hE.suffix, rfl, rfl, rfl⟩
      · cases hopen

theorem exact_of_run {capacity : Int} {h₀ : History} (hinit : History.init capacity = .ok h₀)
    {ops : List Operation} (hrun : Run History.Steps h₀ ops h) : Exact h :=
  hrun.invariant (exact_init hinit) fun _ _ _ hE hstep => hE.step hstep

end Steps

/-- In every history of a file, for every capacity it was opened with: the table
    is a suffix of everything ever written, numbered from 1; a successful write
    leaves the newest frames, as many as fit and at most one more than before;
    the two eviction counters of the process are the numbers of rows it deleted
    at or below the cursor of that moment and above it; the rows balance; and
    `Depth` counts the rows above the cursor. -/
theorem ring_contents_and_counters_exact {capacity : Int} {h₀ h : History}
    (hinit : History.init capacity = .ok h₀) {ops : List Operation}
    (hrun : Run History.Steps h₀ ops h) :
    (∀ f h', History.Steps h (.write f true) h' →
      h'.past = h.past ++ [f] ∧ h'.buf.frames.rows <:+ numbered h'.past ∧
      h'.buf.frames.rows.length = min h.buf.capacity (h.buf.frames.rows.length + 1)) ∧
    h.buf.evictedSent = h.deleted.countP (fun e => e.seq ≤ e.cursor) ∧
    h.buf.lostUnsent = h.deleted.countP (fun e => e.cursor < e.seq) ∧
    (h.buf.frames.rows.length : Int) =
      h.rowsAtOpen + h.buf.written - h.buf.evictedSent - h.buf.lostUnsent ∧
    h.buf.depth = h.buf.frames.rows.countP (fun f => h.buf.cursor < f.seq) := by
  have hE := exact_of_run hinit hrun
  refine ⟨?_, hE.evictedSent, hE.lostUnsent, ?_, rfl⟩
  · intro f h' hstep
    have hE' := hE.step hstep
    simp only [History.Steps, History.step, if_true, Option.some.injEq] at hstep
    subst hstep
    refine ⟨rfl, hE'.suffix, ?_⟩
    show (h.buf.frames.push h.buf.capacity f).rows.length = _
    rw [FrameTable.rows_push]
    exact length_pushBounded ..
  · have hbalance := hE.balance
    omega

/-- Four rows under capacity 3, the cursor past the third; then, reopened with
    capacity 1, one write deletes three rows, of which only one was unsent. -/
theorem ring_contents_and_counters_shrunk :
    ∃ h₀ h f, History.init 3 = .ok h₀ ∧
      Run History.Steps h₀ [.write f true, .write f true, .write f true, .write f true,
        .advance 3 true, .closeAndOpen 1, .write f true] h ∧
      h.buf.evictedSent = 2 ∧ h.buf.lostUnsent = 1 ∧ h.rowsAtOpen = 3 ∧
      h.deleted.countP (fun e => e.seq ≤ e.cursor) = 2 ∧
      (h.buf.frames.rows.length : Int) = 3 + h.buf.written - 2 - 1 := by
  obtain ⟨h₀, h, f, hinit, hrun, hopen, hsent, hlost⟩ :
      ∃ h₀ h f, History.init 3 = .ok h₀ ∧
        Run History.Steps h₀ [.write f true, .write f true, .write f true, .write f true,
          .advance 3 true, .closeAndOpen 1, .write f true] h ∧
        h.rowsAtOpen = 3 ∧ h.buf.evictedSent = 2 ∧ h.buf.lostUnsent = 1 :=
    ⟨_, _, sampleFrame, rfl, Run.of_foldlM rfl, rfl, rfl, rfl⟩
  obtain ⟨-, hs, -, hb, -⟩ := ring_contents_and_counters_exact hinit hrun
  refine ⟨h₀, h, f, hinit, hrun, hsent, hlost, hopen, ?_, ?_⟩
  · rw [← hs, hsent]
  · rw [hopen, hsent, hlost] at hb
    exact hb

end NexusGateway.StoreForward
