/-
`internal/logging/recorder.go`: the ring of the most recent log lines behind
the Admin API's gateway-log source.

The recorder's buffer and every slice that `Lines` returns are arrays of one
heap (`NexusGateway.Lib.Slices`), so that "a later write does not change a
returned slice" is a statement about references and not about values.  Each
method runs under the recorder's mutex, so any use of it is a sequence of
`Write` and `Lines` calls.
-/

import NexusGateway.Lib.Ring
import NexusGateway.Lib.Slices

namespace NexusGateway.Logging

open Lib

abbrev Line := List UInt8

/-- `strings.TrimRight(s, "\n")`. -/
def trimNewlines (p : Line) : Line := p.rdropWhile (· == 10)

/-- `Recorder`: `buf` is a reference to the array of `cap` lines. -/
structure Recorder where
  buf : Nat
  cap : Nat
  next : Nat
  full : Bool
deriving DecidableEq, Repr

structure State where
  heap : Heap Line
  recorder : Recorder

def effectiveCap (capacity : Int) : Nat := if capacity ≤ 0 then 500 else capacity.toNat

def newRecorder (heap : Heap Line) (capacity : Int) : State :=
  let cap := effectiveCap capacity
  let (heap, buf) := heap.alloc (List.replicate cap [])
  { heap := heap, recorder := { buf := buf.ref, cap := cap, next := 0, full := false } }

namespace State

def add (s : State) (line : Line) : State :=
  let r := s.recorder
  let next := (r.next + 1) % r.cap
  { heap := s.heap.write r.buf r.next line
    recorder := { r with next := next, full := if next = 0 then true else r.full } }

def write (s : State) (p : Line) : State :=
  if trimNewlines p ≠ [] then s.add (trimNewlines p) else s

def buf (s : State) : List Line := s.heap.read s.recorder.buf

/-- The first half of `Lines`: the buffered lines, appended to a new array. -/
def orderedLines (s : State) : Heap Line × Slice :=
  if s.recorder.full then
    s.heap.alloc (s.buf.drop s.recorder.next ++ s.buf.take s.recorder.next)
  else s.heap.alloc (s.buf.take s.recorder.next)

/-- `ordered[len(ordered)-tail:]`, if that is shorter. -/
def lastOf (ordered : Slice) (tail : Int) : Slice :=
  if 0 < tail ∧ tail < ordered.len then ordered.drop (ordered.len - tail.toNat) else ordered

/-- `Lines`: the state afterwards and the returned slice, a copy in an array of
    its own. -/
def lines (s : State) (tail : Int) : State × Slice :=
  let ordered := s.orderedLines
  let out := ordered.1.alloc (ordered.1.elems (lastOf ordered.2 tail))
  ({ s with heap := out.1 }, out.2)

end State

inductive Call where
  | write (p : Line)
  | lines (tail : Int)
deriving DecidableEq, Repr

def State.step (s : State) : Call → State
  | .write p => s.write p
  | .lines tail => (s.lines tail).1

def State.run (s : State) (calls : List Call) : State := calls.foldl State.step s

def written (calls : List Call) : List Line :=
  calls.filterMap fun c =>
    match c with
    | .write p => if trimNewlines p ≠ [] then some (trimNewlines p) else none
    | .lines _ => none

/-! ## The ring in memory -/

def State.ring (s : State) : Lib.Ring Line :=
  { cells := s.buf, next := s.recorder.next, full := s.recorder.full }

structure Records (cap : Nat) (s : State) (past : List Line) : Prop where
  live : s.heap.Live s.recorder.buf
  cap_eq : s.recorder.cap = cap
  holds : s.ring.Holds cap past

theorem effectiveCap_pos (capacity : Int) : 0 < effectiveCap capacity := by
  unfold effectiveCap
  split
  · decide
  · omega

theorem records_new (heap : Heap Line) (capacity : Int) :
    Records (effectiveCap capacity) (newRecorder heap capacity) [] := by
  refine ⟨Heap.live_alloc _ _, rfl, ?_⟩
  have hcells : (newRecorder heap capacity).ring
      = { cells := List.replicate (effectiveCap capacity) [], next := 0, full := false } := by
    simp [State.ring, State.buf, newRecorder, Heap.alloc, Heap.read]
  rw [hcells]
  exact Lib.Ring.holds_new _ (effectiveCap_pos capacity) []

variable {cap : Nat} {s : State} {past : List Line}

theorem Records.ring_add (h : Records cap s past) (line : Line) :
    (s.add line).ring = s.ring.push line := by
  have hlength : s.recorder.cap = s.buf.length := h.cap_eq.trans h.holds.length.symm
  have hread : (s.add line).buf = s.buf.set s.recorder.next line :=
    Heap.read_write h.live s.recorder.next line
  have hfull : (s.add line).recorder.full
      = (s.recorder.full || (s.recorder.next + 1) % s.buf.length == 0) := by
    simp only [State.add, hlength]
    by_cases hnext : (s.recorder.next + 1) % s.buf.length = 0
    · simp [hnext]
    · simp [hnext]
  have hnext : (s.add line).recorder.next = (s.recorder.next + 1) % s.buf.length := by
    simp only [State.add, hlength]
  rw [State.ring, hread, hfull, hnext]
  rfl

theorem Records.add (h : Records cap s past) (line : Line) :
    Records cap (s.add line) (past ++ [line]) where
  live := h.live.write _ _ _
  cap_eq := h.cap_eq
  holds := by
    rw [h.ring_add]
    exact h.holds.push line

theorem Records.elems_orderedLines (h : Records cap s past) :
    s.orderedLines.1.elems s.orderedLines.2 = past.rtake cap ∧
      s.orderedLines.2.len = (past.rtake cap).length := by
  have hordered : s.orderedLines = s.heap.alloc s.ring.ordered := by
    unfold State.orderedLines Lib.Ring.ordered State.ring
    split <;> rfl
  rw [hordered, h.holds.ordered]
  exact ⟨Heap.elems_alloc _ _, rfl⟩

theorem lines_frame (s : State) (tail : Int) :
    (s.lines tail).1.recorder = s.recorder ∧
      ∀ ref, s.heap.Live ref → (s.lines tail).1.heap.Live ref ∧
        (s.lines tail).1.heap.read ref = s.heap.read ref ∧ (s.lines tail).2.ref ≠ ref := by
  refine ⟨rfl, ?_⟩
  intro ref hlive
  obtain ⟨xs, hxs⟩ : ∃ xs, s.orderedLines = s.heap.alloc xs := by
    unfold State.orderedLines
    split
    · exact ⟨_, rfl⟩
    · exact ⟨_, rfl⟩
  have hlive' : s.orderedLines.1.Live ref := hxs ▸ hlive.alloc xs
  have hread : s.orderedLines.1.read ref = s.heap.read ref := hxs ▸ Heap.read_alloc hlive xs
  exact ⟨hlive'.alloc _, (Heap.read_alloc hlive' _).trans hread, hlive'.ne_alloc _⟩

theorem Records.lines (h : Records cap s past) (tail : Int) :
    Records cap (s.lines tail).1 past := by
  obtain ⟨hrec, hframe⟩ := lines_frame s tail
  obtain ⟨hlive, hread, -⟩ := hframe _ h.live
  refine ⟨hrec ▸ hlive, h.cap_eq, ?_⟩
  have hring : (s.lines tail).1.ring = s.ring := by
    simp only [State.ring, State.buf, hrec, hread]
  rw [hring]
  exact h.holds

theorem Records.step (h : Records cap s past) (c : Call) :
    Records cap (s.step c) (past ++ written [c]) := by
  cases c with
  | write p =>
    show Records cap (s.write p) _
    unfold State.write
    by_cases hline : trimNewlines p ≠ []
    · simp only [if_pos hline, written, List.filterMap_cons, List.filterMap_nil]
      exact h.add _
    · simp only [if_neg hline, written, List.filterMap_cons, List.filterMap_nil,
        List.append_nil]
      exact h
  | lines tail =>
    have hnone : written [.lines tail] = [] := rfl
    rw [hnone, List.append_nil]
    exact h.lines tail

theorem Records.run (h : Records cap s past) (calls : List Call) :
    Records cap (s.run calls) (past ++ written calls) := by
  induction calls generalizing s past with
  | nil =>
    have hnone : written [] = [] := rfl
    rw [hnone, List.append_nil]
    exact h
  | cons c calls ih =>
    have hsplit : written (c :: calls) = written [c] ++ written calls :=
      List.filterMap_append (l := [c])
    rw [hsplit, ← List.append_assoc]
    exact ih (h.step c)

/-! ## A returned slice stays as it is -/

theorem step_frame (s : State) (c : Call) {ref : Nat} (hlive : s.heap.Live ref)
    (hne : s.recorder.buf ≠ ref) :
    (s.step c).heap.Live ref ∧ (s.step c).heap.read ref = s.heap.read ref ∧
      (s.step c).recorder.buf = s.recorder.buf := by
  cases c with
  | write p =>
    show (s.write p).heap.Live ref ∧ (s.write p).heap.read ref = _ ∧
      (s.write p).recorder.buf = _
    unfold State.write
    split
    · exact ⟨hlive.write _ _ _, Heap.read_write_ne hne _ _, rfl⟩
    · exact ⟨hlive, rfl, rfl⟩
  | lines tail =>
    obtain ⟨hlive', hread, -⟩ := (lines_frame s tail).2 ref hlive
    exact ⟨hlive', hread, rfl⟩

theorem run_frame (s : State) (calls : List Call) {ref : Nat} (hlive : s.heap.Live ref)
    (hne : s.recorder.buf ≠ ref) : (s.run calls).heap.read ref = s.heap.read ref := by
  induction calls generalizing s with
  | nil => rfl
  | cons c calls ih =>
    obtain ⟨hlive', hread, hbuf⟩ := step_frame s c hlive hne
    exact (ih (s.step c) hlive' (by rw [hbuf]; exact hne)).trans hread

/-! ## The bounded queue -/

def lineCount (cap : Nat) (tail : Int) (n : Nat) : Nat :=
  if 0 < tail then min (min n cap) tail.toNat else min n cap

theorem rtake_of_le {l : List Line} {k cap : Nat} (hk : k ≤ min l.length cap) :
    (l.rtake cap).drop ((l.rtake cap).length - k) = l.rtake k := by
  have hlength := length_rtake cap l
  rw [hlength, List.rtake, List.rtake, List.drop_drop]
  congr 1
  omega

theorem elems_lastOf {heap : Heap Line} {ordered : Slice}
    (helems : heap.elems ordered = past.rtake cap)
    (hlen : ordered.len = (past.rtake cap).length) (tail : Int) :
    heap.elems (State.lastOf ordered tail) = past.rtake (lineCount cap tail past.length) := by
  have hlength := length_rtake cap past
  have hall : past.rtake cap = past.rtake (min past.length cap) := by
    have hzero : (past.rtake cap).length - min past.length cap = 0 := by omega
    rw [← rtake_of_le (Nat.le_refl (min past.length cap)), hzero, List.drop_zero]
  unfold State.lastOf lineCount
  by_cases htail : 0 < tail
  · by_cases hshort : tail < ordered.len
    · have hcount : min (min past.length cap) tail.toNat = tail.toNat := by omega
      rw [if_pos ⟨htail, hshort⟩, if_pos htail, Heap.elems_drop, helems, hlen, hcount]
      exact rtake_of_le (by omega)
    · have hcount : min (min past.length cap) tail.toNat = min past.length cap := by omega
      rw [if_neg (fun hboth => hshort hboth.2), if_pos htail, helems, hcount, hall]
  · rw [if_neg (fun hboth => htail hboth.1), if_neg htail, helems, hall]

theorem Records.elems_lines (h : Records cap s past) (tail : Int) :
    (s.lines tail).1.heap.elems (s.lines tail).2
      = past.rtake (lineCount cap tail past.length) := by
  obtain ⟨helems, hlen⟩ := h.elems_orderedLines
  have hcopy : (s.lines tail).1.heap.elems (s.lines tail).2
      = s.orderedLines.1.elems (State.lastOf s.orderedLines.2 tail) := Heap.elems_alloc _ _
  rw [hcopy]
  exact elems_lastOf helems hlen tail

/-- **The log recorder is a bounded queue.**  After any sequence of calls,
    `Lines(tail)` returns the last lines written that are not empty without
    their trailing newlines, oldest first — as many as there are, as the
    capacity allows and, for a positive `tail`, as asked for — and whatever is
    called afterwards, the returned slice keeps showing them. -/
theorem lines_eq_last (heap : Heap Line) (capacity : Int) (calls : List Call) (tail : Int) :
    let s := (newRecorder heap capacity).run calls
    let m := lineCount (effectiveCap capacity) tail (written calls).length
    (s.lines tail).1.heap.elems (s.lines tail).2 = (written calls).rtake m ∧
      ((written calls).rtake m).length = m ∧
      ∀ later : List Call,
        ((s.lines tail).1.run later).heap.elems (s.lines tail).2 = (written calls).rtake m := by
  intro s m
  have hrec : Records (effectiveCap capacity) s (written calls) :=
    (records_new heap capacity).run calls
  have hnow := hrec.elems_lines tail
  refine ⟨hnow, ?_, ?_⟩
  · have hm : m ≤ (written calls).length := by
      show lineCount _ _ _ ≤ _
      unfold lineCount
      split <;> omega
    rw [length_rtake]
    omega
  · intro later
    have hown : s.recorder.buf ≠ (s.lines tail).2.ref :=
      ((lines_frame s tail).2 _ hrec.live).2.2.symm
    have hframe := run_frame (s.lines tail).1 later (Heap.live_alloc _ _) hown
    exact (Heap.elems_congr hframe).trans hnow

end NexusGateway.Logging
