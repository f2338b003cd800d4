/-
`internal/storeforward/pump.go`: the loop that writes normalized frames to the
Buffer and answers their source messages.  Each delivery is a frame, the
acknowledgement controls of its message and its stream sequence; whether the
durable write succeeds is up to the disk.

The log records how every delivery was handled.  `Disciplined` states, for
each of them, what its handling may depend on; it is kept by every step, and
`ack_discipline` reads off it that nothing is acknowledged that was not
written, that a failed write leaves no mark, and that a sequence is written
once while the window still covers it.
-/

import NexusGateway.Lib.Run
import NexusGateway.StoreForward.SeqWindow
import NexusGateway.StoreForward.Buffer

namespace NexusGateway.StoreForward

open Lib

/-- `writeErrorNakDelay`, in seconds. -/
def writeErrorNakDelay : Nat := 5

def dedupWindowSeqs : Nat := 1 <<< 21

/-- `FrameMsg`; `msg` identifies the source message, when there is one. -/
structure FrameMsg where
  frame : TelemetryFrame
  msg : Option Nat
  seq : Nat

inductive Reply where
  | ack
  | nakWithDelay (seconds : Nat)
deriving DecidableEq, Repr

inductive Disposition where
  | duplicate
  | writeFailed
  | written
deriving DecidableEq, Repr

/-- One delivery and the outcome its durable write has, should it be tried. -/
structure Delivery where
  fm : FrameMsg
  writeOk : Bool

structure Handled where
  delivery : Delivery
  disposition : Disposition
  reply : Option Reply

def Handled.seq (h : Handled) : Nat := h.delivery.fm.seq

/-- The state of the Pump: its window, the Buffer and the log, oldest first. -/
structure Pump where
  written : SeqWindow
  buf : Buffer
  log : List Handled

namespace Pump

def start (buf : Buffer) : Pump :=
  { written := .new dedupWindowSeqs, buf := buf, log := [] }

def step (p : Pump) (d : Delivery) : Pump :=
  if d.fm.seq ≠ 0 ∧ p.written.contains d.fm.seq then
    { p with
      buf := p.buf.recordDuplicate
      log := p.log ++ [⟨d, .duplicate, d.fm.msg.map fun _ => .ack⟩] }
  else if d.writeOk = false then
    { p with
      buf := p.buf.recordWriteError
      log := p.log ++ [⟨d, .writeFailed, d.fm.msg.map fun _ => .nakWithDelay writeErrorNakDelay⟩] }
  else
    { written := if d.fm.seq ≠ 0 then p.written.add d.fm.seq else p.written
      buf := p.buf.write d.fm.frame
      log := p.log ++ [⟨d, .written, d.fm.msg.map fun _ => .ack⟩] }

def lastReply (p : Pump) : Option Reply := p.log.getLast?.bind Handled.reply

def run (p : Pump) (ds : List Delivery) : Pump := ds.foldl step p

theorem run_snoc (p : Pump) (ds : List Delivery) (d : Delivery) :
    p.run (ds ++ [d]) = (p.run ds).step d := by
  rw [run, List.foldl_append]
  rfl

/-! ## What the log records -/

def writtenSeqs (log : List Handled) : List Nat :=
  ((log.filter fun h => h.disposition = .written ∧ h.seq ≠ 0).map Handled.seq).reverse

theorem mem_writtenSeqs {log : List Handled} {s : Nat} :
    s ∈ writtenSeqs log ↔ s ≠ 0 ∧ ∃ h ∈ log, h.disposition = .written ∧ h.seq = s := by
  simp only [writtenSeqs, List.mem_reverse, List.mem_map, List.mem_filter, decide_eq_true_eq]
  constructor
  · rintro ⟨h, ⟨hmem, hw, hne⟩, rfl⟩
    exact ⟨hne, h, hmem, hw, rfl⟩
  · rintro ⟨hne, h, hmem, hw, rfl⟩
    exact ⟨h, ⟨hmem, hw, hne⟩, rfl⟩

/-- How delivery `h` may be handled after the deliveries `before`. -/
structure Follows (before : List Handled) (h : Handled) : Prop where
  duplicate : h.disposition = .duplicate →
    h.seq ∈ writtenSeqs before ∧ h.reply = h.delivery.fm.msg.map fun _ => .ack
  writeFailed : h.disposition = .writeFailed → h.delivery.writeOk = false ∧
    h.reply = h.delivery.fm.msg.map fun _ => .nakWithDelay writeErrorNakDelay
  written : h.disposition = .written → h.delivery.writeOk = true ∧
    (h.seq ∈ writtenSeqs before → ∃ m ∈ writtenSeqs before, h.seq + dedupWindowSeqs ≤ m)

def Disciplined (log : List Handled) : Prop :=
  ∀ before h after, log = before ++ h :: after → Follows before h

theorem Disciplined.snoc {log : List Handled} {h : Handled} (hlog : Disciplined log)
    (hh : Follows log h) : Disciplined (log ++ [h]) := by
  intro before x after heq
  rcases snoc_eq_split heq with ⟨-, rfl, rfl⟩ | ⟨after', -, hsplit⟩
  · exact hh
  · exact hlog before x after' hsplit

theorem Disciplined.init {log : List Handled} {h : Handled} (hlog : Disciplined (log ++ [h])) :
    Disciplined log := by
  intro before x after heq
  exact hlog before x (after ++ [h]) (by rw [heq, List.append_assoc, List.cons_append])

/-- What every iteration keeps: the window tracks the sequences the log records
    as written, and the log is disciplined. -/
structure Inv (p : Pump) : Prop where
  n_eq : p.written.n = dedupWindowSeqs
  tracks : p.written.Tracks (writtenSeqs p.log)
  disciplined : Disciplined p.log

theorem inv_start (buf : Buffer) : Inv (start buf) where
  n_eq := doubleUntil_pow (n := 64) (by decide) 15
  tracks := SeqWindow.tracks_new _
  disciplined := by
    intro before h after heq
    exact absurd heq.symm (List.append_ne_nil_of_right_ne_nil _ (List.cons_ne_nil _ _))

theorem writtenSeqs_snoc (log : List Handled) (h : Handled) :
    writtenSeqs (log ++ [h])
      = if h.disposition = .written ∧ h.seq ≠ 0 then h.seq :: writtenSeqs log
        else writtenSeqs log := by
  unfold writtenSeqs
  rw [List.filter_append, List.map_append, List.reverse_append]
  split
  · next hw =>
    rw [List.filter_cons_of_pos (by simpa using hw)]
    rfl
  · next hw =>
    rw [List.filter_cons_of_neg (by simpa using hw)]
    rfl

theorem Inv.covered {p : Pump} (hI : Inv p) {s : Nat} (hs : s ∈ writtenSeqs p.log)
    (hnot : p.written.contains s = false) :
    ∃ m ∈ writtenSeqs p.log, s + dedupWindowSeqs ≤ m := by
  have hold : s < p.written.base := by
    by_contra hge
    have hcontains := (hI.tracks.contains_iff s).mpr ⟨hs, by omega⟩
    rw [hnot] at hcontains
    cases hcontains
  rcases hI.tracks.base with hzero | ⟨m, hm, heq⟩
  · omega
  · refine ⟨m, hm, ?_⟩
    have hn := hI.n_eq
    omega

theorem Inv.step {p : Pump} (hI : Inv p) (d : Delivery) : Inv (p.step d) := by
  unfold Pump.step
  split
  · next hdup =>
    have hmem := ((hI.tracks.contains_iff d.fm.seq).mp hdup.2).1
    refine ⟨hI.n_eq, ?_, hI.disciplined.snoc ⟨?_, ?_, ?_⟩⟩
    · rw [writtenSeqs_snoc, if_neg (by simp)]
      exact hI.tracks
    · exact fun _ => ⟨hmem, rfl⟩
    · exact fun h => by cases h
    · exact fun h => by cases h
  · next hnew =>
    split
    · next hfail =>
      refine ⟨hI.n_eq, ?_, hI.disciplined.snoc ⟨?_, ?_, ?_⟩⟩
      · rw [writtenSeqs_snoc, if_neg (by simp)]
        exact hI.tracks
      · exact fun h => by cases h
      · exact fun _ => ⟨hfail, rfl⟩
      · exact fun h => by cases h
    · next hok =>
      refine ⟨?_, ?_, hI.disciplined.snoc ⟨?_, ?_, ?_⟩⟩
      · split
        · exact (SeqWindow.n_add _ _).trans hI.n_eq
        · exact hI.n_eq
      · rw [writtenSeqs_snoc]
        by_cases hseq : d.fm.seq = 0
        · rw [if_neg (by simp [hseq]), if_neg (by simp [Handled.seq, hseq])]
          exact hI.tracks
        · rw [if_pos hseq, if_pos ⟨rfl, hseq⟩]
          exact hI.tracks.add d.fm.seq
      · exact fun h => by cases h
      · exact fun h => by cases h
      · refine fun _ => ⟨by simpa using hok, fun hmem => hI.covered hmem ?_⟩
        have hne := (mem_writtenSeqs.mp hmem).1
        by_contra hc
        exact hnew ⟨hne, Bool.eq_true_of_not_eq_false hc⟩

theorem inv_run (buf : Buffer) (ds : List Delivery) : Inv ((start buf).run ds) := by
  induction ds using List.reverseRecOn with
  | nil => exact inv_start buf
  | append_singleton ds d ih =>
    rw [run_snoc]
    exact ih.step d

/-! ## Deliveries and the table behind the log -/

theorem exists_handled_step (p : Pump) (d : Delivery) :
    ∃ h, h.delivery = d ∧ (p.step d).log = p.log ++ [h] ∧
      (p.step d).buf.capacity = p.buf.capacity ∧
      (p.step d).buf.frames = if h.disposition = .written
        then p.buf.frames.push p.buf.capacity d.fm.frame else p.buf.frames := by
  unfold Pump.step
  split
  · exact ⟨_, rfl, rfl, rfl, rfl⟩
  · split
    · exact ⟨_, rfl, rfl, rfl, rfl⟩
    · exact ⟨_, rfl, rfl, rfl, rfl⟩

theorem log_run_delivery (buf : Buffer) (ds : List Delivery) :
    ((start buf).run ds).log.map Handled.delivery = ds := by
  induction ds using List.reverseRecOn with
  | nil => rfl
  | append_singleton ds d ih =>
    obtain ⟨h, rfl, hlog, -⟩ := exists_handled_step ((start buf).run ds) d
    rw [run_snoc, hlog, List.map_append, ih]
    rfl

theorem frames_run (buf : Buffer) (ds : List Delivery) :
    ((start buf).run ds).buf.frames
      = (((start buf).run ds).log.filter fun h => h.disposition = .written).foldl
          (fun t h => t.push buf.capacity h.delivery.fm.frame) buf.frames ∧
      ((start buf).run ds).buf.capacity = buf.capacity := by
  induction ds using List.reverseRecOn with
  | nil => exact ⟨rfl, rfl⟩
  | append_singleton ds d ih =>
    obtain ⟨h, rfl, hlog, hcap, hframes⟩ := exists_handled_step ((start buf).run ds) d
    rw [run_snoc, hlog, hcap, hframes, List.filter_append, List.foldl_append, ← ih.1, ih.2]
    refine ⟨?_, rfl⟩
    split
    · next hw => rw [List.filter_cons_of_pos (by simpa using hw)]; rfl
    · next hw => rw [List.filter_cons_of_neg (by simpa using hw)]; rfl

/-! ## Ack discipline -/

theorem Follows.of_ack {before : List Handled} {h : Handled} (hf : Follows before h)
    (hack : h.reply = some .ack) :
    h.disposition = .written ∨ h.seq ≠ 0 ∧
      ∃ h' ∈ before, h'.disposition = .written ∧ h'.seq = h.seq := by
  cases hd : h.disposition with
  | written => exact Or.inl rfl
  | duplicate => exact Or.inr (mem_writtenSeqs.mp (hf.duplicate hd).1)
  | writeFailed =>
    have hreply := (hf.writeFailed hd).2
    rw [hack] at hreply
    cases hmsg : h.delivery.fm.msg with
    | none | some m => simp [hmsg] at hreply

theorem Disciplined.countP_written_le_one {log : List Handled} (hlog : Disciplined log) {s : Nat}
    (hs : s ≠ 0)
    (hcover : ∀ before h after, log = before ++ h :: after → h.seq = s →
      ∀ h' ∈ before, h'.disposition = .written → h'.seq < s + dedupWindowSeqs) :
    log.countP (fun h => h.disposition = .written ∧ h.seq = s) ≤ 1 := by
  induction log using List.reverseRecOn with
  | nil => simp
  | append_singleton log h ih =>
    have hprev := ih hlog.init fun before x after heq =>
      hcover before x (after ++ [h]) (by rw [heq, List.append_assoc, List.cons_append])
    rw [List.countP_append, List.countP_singleton]
    split
    · next hw =>
      obtain ⟨hwritten, rfl⟩ := of_decide_eq_true hw
      -- an earlier write of `s` would have been recognised
      have hfirst : log.countP (fun x => x.disposition = .written ∧ x.seq = h.seq) = 0 := by
        rw [List.countP_eq_zero]
        intro x hx hxw
        obtain ⟨hxwritten, hxs⟩ := of_decide_eq_true hxw
        have hmem := mem_writtenSeqs.mpr ⟨hs, x, hx, hxwritten, hxs⟩
        obtain ⟨m, hm, hle⟩ := ((hlog log h [] rfl).written hwritten).2 hmem
        obtain ⟨-, y, hy, hyw, rfl⟩ := mem_writtenSeqs.mp hm
        have hlt := hcover log h [] rfl rfl y hy hyw
        omega
      omega
    · omega

/-- For every sequence of deliveries and every pattern of write failures:
    every delivery is handled once and in order, and the table got the frames of
    those recorded as written; an acknowledged one was written
    itself, or (for a nonzero sequence) one with its sequence was written before;
    one whose write failed gets a NAK with the fixed delay, and only an earlier
    successful write makes a delivery a duplicate; and a nonzero sequence whose
    deliveries all arrive while the largest written sequence is less than one
    window ahead is written at most once. -/
theorem ack_discipline (buf : Buffer) (ds : List Delivery) :
    ((start buf).run ds).log.map Handled.delivery = ds ∧
    ((start buf).run ds).buf.frames
      = (((start buf).run ds).log.filter fun h => h.disposition = .written).foldl
          (fun t h => t.push buf.capacity h.delivery.fm.frame) buf.frames ∧
    (∀ before h after, ((start buf).run ds).log = before ++ h :: after →
      (h.reply = some .ack → h.disposition = .written ∨ h.seq ≠ 0 ∧
        ∃ h' ∈ before, h'.disposition = .written ∧ h'.seq = h.seq) ∧
      (h.disposition = .written → h.delivery.writeOk = true) ∧
      (h.disposition = .writeFailed → h.delivery.writeOk = false ∧
        h.reply = h.delivery.fm.msg.map fun _ => .nakWithDelay writeErrorNakDelay) ∧
      (h.disposition = .duplicate →
        h.seq ≠ 0 ∧ ∃ h' ∈ before, h'.disposition = .written ∧ h'.seq = h.seq)) ∧
    (∀ s, s ≠ 0 →
      (∀ before h after, ((start buf).run ds).log = before ++ h :: after → h.seq = s →
        ∀ h' ∈ before, h'.disposition = .written → h'.seq < s + 2 ^ 21) →
      ((start buf).run ds).log.countP (fun h => h.disposition = .written ∧ h.seq = s) ≤ 1) := by
  have hlog := (inv_run buf ds).disciplined
  refine ⟨log_run_delivery buf ds, (frames_run buf ds).1, fun before h after heq => ?_,
    fun s hs hcover => hlog.countP_written_le_one hs hcover⟩
  have hf := hlog before h after heq
  exact ⟨hf.of_ack, fun hd => (hf.written hd).1, hf.writeFailed,
    fun hd => mem_writtenSeqs.mp (hf.duplicate hd).1⟩

def emptyBuffer : Buffer :=
  { capacity := 2, capacity_pos := by decide, frames := .empty, cursorRow := none }

/-- A message of sequence 7 whose first write fails and that comes back twice. -/
def redelivered : List Delivery :=
  [false, true, true].map fun ok => ⟨⟨sampleFrame, some 1, 7⟩, ok⟩

/-- It is written once, by the second delivery, and stands in the table. -/
theorem ack_discipline_redelivered :
    ((start emptyBuffer).run redelivered).log.map Handled.disposition
        = [.writeFailed, .written, .duplicate] ∧
      ((start emptyBuffer).run redelivered).log.countP
        (fun h => h.disposition = .written ∧ h.seq = 7) = 1 ∧
      ((start emptyBuffer).run redelivered).buf.frames.rows = [⟨1, sampleFrame⟩] := by
  obtain ⟨hlog, hframes, hhandled, honce⟩ := ack_discipline emptyBuffer redelivered
  rw [hframes]
  generalize ((start emptyBuffer).run redelivered).log = log at hlog hhandled honce ⊢
  simp only [redelivered, List.map_cons, List.map_nil, List.map_eq_cons_iff, List.map_eq_nil_iff]
    at hlog
  obtain ⟨h₁, _, rfl, hd₁, h₂, _, rfl, hd₂, h₃, _, rfl, hd₃, rfl⟩ := hlog
  have hseq : h₁.seq = 7 ∧ h₂.seq = 7 ∧ h₃.seq = 7 := by
    simp only [Handled.seq, hd₁, hd₂, hd₃, and_self]
  have honce := honce 7 (by decide) (by
    intro before h after heq _ h' hmem _
    have hmem : h' ∈ [h₁, h₂, h₃] := by
      rw [heq]
      exact List.mem_append_left _ hmem
    simp only [List.mem_cons, List.not_mem_nil, or_false] at hmem
    rcases hmem with rfl | rfl | rfl <;> omega)
  obtain ⟨-, hwritten₁, -, hduplicate₁⟩ := hhandled [] h₁ [h₂, h₃] rfl
  obtain ⟨-, -, hfailed₂, hduplicate₂⟩ := hhandled [h₁] h₂ [h₃] rfl
  obtain ⟨-, -, hfailed₃, -⟩ := hhandled [h₁, h₂] h₃ [] rfl
  rw [hd₁] at hwritten₁
  rw [hd₂] at hfailed₂
  rw [hd₃] at hfailed₃
  have h₁failed : h₁.disposition = .writeFailed := by
    cases hd : h₁.disposition <;> simp [hd] at hwritten₁ hduplicate₁ ⊢
  have h₂written : h₂.disposition = .written := by
    cases hd : h₂.disposition <;> simp [hd, h₁failed] at hfailed₂ hduplicate₂ ⊢
  have h₃duplicate : h₃.disposition = .duplicate := by
    cases hd : h₃.disposition <;> simp [hd, h₂written, h₁failed, hseq] at hfailed₃ honce ⊢
  refine ⟨by simp [h₁failed, h₂written, h₃duplicate], ?_, ?_⟩
  · simp [h₁failed, h₂written, h₃duplicate, hseq]
  · have hfilter : [h₁, h₂, h₃].filter (fun h => h.disposition = .written) = [h₂] := by
      simp [h₁failed, h₂written, h₃duplicate]
    rw [hfilter, List.foldl_cons, hd₂]
    rfl

end Pump

end NexusGateway.StoreForward
