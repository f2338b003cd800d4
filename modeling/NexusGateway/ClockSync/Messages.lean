/-
What `process` does with a message.

It touches no file of the journal.  What it writes to the Buffer is a frame
that no run clock classifies, the frame of the message's receipt, or the frame
of its first classification (`Classification`), whose receipt is written before
it.
-/

import NexusGateway.ClockSync.Operations
import NexusGateway.RunContext.History

namespace NexusGateway.RunContext

open Lib Lib.Prog

variable {decode : List UInt8 → Except String Context}

theorem decode_of_openLedger {d : State} {scope : Scope} {l : Ledger} {context : Context}
    {envelope : Envelope} (h : openLedger decode d scope = .ok l) (hc : l.current = .ok context)
    (he : l.currentEnvelope = .ok envelope) : decode envelope.payload = .ok context := by
  unfold openLedger at h
  split at h
  · cases h
  cases hpersisted : d.envelope with
  | none =>
    -- without an envelope there is no context
    simp only [hpersisted] at h
    split_ifs at h
    rw [← Except.ok.inj h] at hc
    cases hc
  | some persisted =>
    simp only [hpersisted] at h
    cases hverified : verify decode d.scope persisted with
    | error err =>
      rw [hverified] at h
      cases h
    | ok verified =>
      simp only [hverified] at h
      split_ifs at h
      rw [← Except.ok.inj h] at hc he
      have hcontext : verified = context := Except.ok.inj hc
      simp only [Ledger.currentEnvelope, hpersisted] at he
      rw [← hcontext, ← Except.ok.inj he]
      exact (admitted_of_verify hverified).1

theorem Store.persist_data (next : State) (fault : Fault) :
    Triple (fun _ => True) (fun _ => True) (Store.persist next fault)
      (fun _ s => s.ledger.data = next) fun _ _ => True := by
  cases fault with
  | none => exact Triple.modify fun s _ => ⟨trivial, rfl⟩
  | staging err | beforeRename err =>
    refine Triple.bind (Q := fun _ _ => True) (Triple.modify fun s _ => ⟨trivial, trivial⟩) ?_
    exact fun _ => Triple.fail fun s _ => trivial
  | afterRename err =>
    refine Triple.bind (Q := fun _ _ => True) (Triple.modify fun s _ => ⟨trivial, trivial⟩) ?_
    refine fun _ => Triple.bind (Q := fun _ _ => True) ?_ fun _ => Triple.fail fun s _ => trivial
    exact Triple.modify fun s _ => ⟨trivial, trivial⟩

theorem Store.invalidateContext_marks (envelope : Envelope) (fault : Fault) :
    Triple (fun _ => True) (fun _ => True) (Store.invalidateContext decode envelope fault)
      (fun _ s => ∃ context, decode envelope.payload = .ok context ∧
        s.ledger.data.invalidated context.runID = true) fun _ _ => True := by
  refine Triple.get_bind fun s => ?_
  refine Triple.check_bind (fun _ _ => trivial) fun _ => ?_
  refine Triple.ofExcept_bind (fun _ _ _ _ => trivial) fun context hverified => ?_
  refine Triple.check_bind (fun _ _ => trivial) fun _ => ?_
  refine (Store.persist_data _ fault).conseq (fun _ _ => trivial) ?_ fun _ _ _ => trivial
  intro _ t ht
  refine ⟨context, (admitted_of_verify hverified).1, ?_⟩
  rw [ht, State.invalidated, State.mark, AList.lookup_insert]
  rfl

end NexusGateway.RunContext

namespace NexusGateway.ClockSync

open Lib Lib.Prog PointList Provisioning StoreForward
open RunContext (Time Context Ledger Result Fault Envelope)

/-! ## Outcomes -/

/-- The first classification of a message, in the state it begins in. -/
structure Classification (c : Codec) (scope : Scope) (g : Gateway) (msg : Message) (now : Time)
    where
  record : SessionRecord
  frame : TelemetryFrame
  interval : Time × Time
  archive : Ledger
  context : Context
  binding : RunBinding
  invalidated : Bool
  current : Context
  times : Time × Option Time
  admitted : Gateway.admittedFrame c scope g.process msg = some (record, some frame)
  bound : record.runClockID ≠ ""
  clock : attr frame.attributes "sim_clock_id" = record.runClockID
  polled : pollInterval c msg frame now = some interval
  /-- no receipt was written for the message -/
  fresh : g.disk.runFrames.lookup (c.digest msg.identity) = none
  opened : Gateway.openArchive c scope g record = .ok archive
  archived : archive.current = .ok context
  running : g.process.run = some binding
  /-- the live ledger is the one of this state, unless a reset is recorded first -/
  live : attr frame.attributes "sim_time_quality" ≠ "reset" →
    binding.ledger.invalidated context.runID = .ok invalidated ∧
      binding.ledger.current = .ok current
  reset : attr frame.attributes "sim_time_quality" = "reset" → invalidated = true

namespace Classification

variable {c : Codec} {scope : Scope} {g : Gateway} {msg : Message} {now : Time}

def result (k : Classification c scope g msg now) : Result :=
  verdict (k.archive.evaluate k.record.snapshot.revision k.interval.1 k.interval.2) k.invalidated
    k.current k.context

def out (k : Classification c scope g msg now) : TelemetryFrame :=
  classified c msg k.frame k.times k.result

end Classification

/-- Where the frame of a message comes from, with the receipts at that time. -/
inductive Source (c : Codec) (scope : Scope) (g : Gateway) (msg : Message) (now : Time) :
    TelemetryFrame → Dict String TelemetryFrame → Prop
  /-- no run clock classifies it -/
  | unbound {r : SessionRecord} {frame : TelemetryFrame}
      (admitted : Gateway.admittedFrame c scope g.process msg = some (r, some frame))
      (clock : r.runClockID = "" ∨ attr frame.attributes "sim_clock_id" ≠ r.runClockID) :
      Source c scope g msg now frame g.disk.runFrames
  /-- it has a receipt -/
  | replayed {frame : TelemetryFrame}
      (receipt : g.disk.runFrames.lookup (c.digest msg.identity) = some frame) :
      Source c scope g msg now frame g.disk.runFrames
  | classified (k : Classification c scope g msg now) :
      Source c scope g msg now k.out (g.disk.runFrames.insert (c.digest msg.identity) k.out)

inductive Processed (c : Codec) (scope : Scope) (g₀ : Gateway) (msg : Message) (now : Time)
    (g : Gateway) : Prop
  | untouched (same : Gateway.SameFiles g₀ g)
  | receipt (k : Classification c scope g₀ msg now) (same : Gateway.SameJournal g₀ g)
      (frames : g.disk.runFrames = g₀.disk.runFrames.insert (c.digest msg.identity) k.out)
      (written : g.history.written = g₀.history.written)
  | buffered (out : TelemetryFrame) (same : Gateway.SameJournal g₀ g)
      (source : Source c scope g₀ msg now out g.disk.runFrames)
      (written : g.history.written = g₀.history.written ++ [(msg, out)])

theorem Processed.same {c : Codec} {scope : Scope} {g₀ g : Gateway} {msg : Message} {now : Time}
    (h : Processed c scope g₀ msg now g) : Gateway.SameJournal g₀ g := by
  cases h with
  | untouched same => exact same.toSameJournal
  | receipt k same | buffered out same => exact same

theorem Processed.frames {c : Codec} {scope : Scope} {g₀ g : Gateway} {msg : Message} {now : Time}
    (h : Processed c scope g₀ msg now g) : g.disk.runFrames = g₀.disk.runFrames ∨
      ∃ k : Classification c scope g₀ msg now,
        g.disk.runFrames = g₀.disk.runFrames.insert (c.digest msg.identity) k.out := by
  cases h with
  | untouched same => exact .inl same.frames
  | receipt k same frames => exact .inr ⟨k, frames⟩
  | buffered out same source =>
    generalize hframes : g.disk.runFrames = frames at source
    cases source with
    | unbound _ _ | replayed _ => exact .inl rfl
    | classified k => exact .inr ⟨k, rfl⟩

variable {frame : TelemetryFrame} {record : SessionRecord}

namespace Gateway

variable {c : Codec} {scope : Scope} {g₀ : Gateway} {msg : Message} {now : Time}

theorem SameJournal.refl (g : Gateway) : SameJournal g g := by
  constructor <;> rfl

theorem SameJournal.trans {g₁ g₂ g₃ : Gateway} (h : SameJournal g₁ g₂) (h' : SameJournal g₂ g₃) :
    SameJournal g₁ g₃ where
  native := h'.native.trans h.native
  sessions := h'.sessions.trans h.sessions
  verified := h'.verified.trans h.verified
  runContext := h'.runContext.trans h.runContext
  active := h'.active.trans h.active
  records := h'.records.trans h.records
  record := h'.record.trans h.record
  stage := h'.stage.trans h.stage
  run := h'.run.trans h.run
  issued := h'.issued.trans h.issued
  created := h'.created.trans h.created
  receipts := h'.receipts.trans h.receipts
  commits := h'.commits.trans h.commits

theorem SameFiles.refl (g : Gateway) : SameFiles g g := ⟨.refl g, rfl, rfl⟩

/-! ## The reset of a run -/

theorem ledgerCall_ok {op : RunContext.Op} {g : Gateway}
    (h : (ledgerCall c op g).result = .ok ()) :
    ∃ b l, g.process.run = some b ∧ (ledgerCall c op g).state.process.run = some l ∧
      (op.prog c.decodeContext { disk := g.disk.ledger, ledger := b.ledger }).result = .ok () ∧
      l.ledger =
        (op.prog c.decodeContext { disk := g.disk.ledger, ledger := b.ledger }).state.ledger := by
  simp only [ledgerCall, Prog.act] at h ⊢
  split at h
  · cases h
  · rename_i b hrun
    rw [hrun]
    exact ⟨b, _, rfl, rfl, h, rfl⟩

/-- After `recordReset`: the run of a reset frame is invalidated in the live ledger, and the
    state is unchanged for another frame. -/
structure Live (g₀ : Gateway) (frame : TelemetryFrame) (context : Context) (g : Gateway) : Prop
    where
  same : SameFiles g₀ g
  unchanged : attr frame.attributes "sim_time_quality" ≠ "reset" → g = g₀
  marked : attr frame.attributes "sim_time_quality" = "reset" →
    ∃ b, g.process.run = some b ∧ b.ledger.data.invalidated context.runID = true

theorem Live.processed {context : Context} {g : Gateway} (h : Live g₀ frame context g) :
    Processed c scope g₀ msg now g :=
  .untouched h.same

theorem recordReset_triple {archive : Ledger} {context : Context} (frame : TelemetryFrame)
    (fault : Fault)
    (hdecode : ∀ envelope, archive.currentEnvelope = .ok envelope →
      c.decodeContext envelope.payload = .ok context) :
    Triple (SameFiles g₀) (· = g₀) (recordReset c archive frame fault)
      (fun _ => Live g₀ frame context) fun _ => SameFiles g₀ := by
  refine Triple.when (fun hreset => ?_) fun hother => ?_
  · have hreset := of_decide_eq_true hreset
    refine Triple.ofExcept_bind ?_ fun envelope henvelope => ?_
    · rintro e - g rfl
      exact .refl g
    intro g hg
    obtain rfl : g = g₀ := hg
    have hsame := ledgerCall_same (c := c) (.invalidateContext envelope fault) g
    refine ⟨fun t ht => ?_, ?_⟩
    · rw [List.mem_singleton.mp ht]
      exact hsame
    cases hres : (ledgerCall c (.invalidateContext envelope fault) g).result with
    | error e => exact hsame
    | ok u =>
      obtain ⟨b, l, -, hrun, hok, hledger⟩ := ledgerCall_ok hres
      obtain ⟨context', hcontext, hmarked⟩ :=
        (RunContext.Store.invalidateContext_marks envelope fault).of_ok trivial hok
      rw [hdecode envelope henvelope] at hcontext
      refine ⟨hsame, fun hne => absurd hreset hne, fun _ => ⟨l, hrun, ?_⟩⟩
      rw [hledger, Except.ok.inj hcontext]
      exact hmarked
  · have hother := of_decide_eq_false hother
    rintro g rfl
    exact ⟨.refl g, fun _ => rfl, fun hreset => absurd hreset hother⟩

/-! ## Classification -/

theorem openArchive_eq_ok {g : Gateway} {archive : Ledger}
    (h : openArchive c scope g record = .ok archive) :
    ∃ state, g.disk.runContext.lookup record.session = some (some state) ∧
      RunContext.openLedger c.decodeContext state
        { gatewayID := scope.gatewayID, clockID := record.runClockID } = .ok archive := by
  unfold openArchive at h
  split at h
  · cases h
  · cases h
  · rename_i state hstate
    exact ⟨state, hstate, h⟩

theorem liveLedger_triple {I P : Gateway → Prop} :
    Triple I P liveLedger
      (fun live g => P g ∧ ∃ b, g.process.run = some b ∧ b.ledger = live) fun _ => P := by
  refine Triple.get_bind fun g => ?_
  cases hrun : g.process.run with
  | none => exact Triple.fail fun t ht => ht.2
  | some b =>
    refine Triple.pure ?_
    rintro t ⟨rfl, ht⟩
    exact ⟨ht, b, hrun, rfl⟩

structure Classified (c : Codec) (scope : Scope) (g₀ : Gateway) (msg : Message) (now : Time)
    (out : TelemetryFrame) (g : Gateway) : Prop where
  same : SameJournal g₀ g
  written : g.history.written = g₀.history.written
  receipt : ∃ k : Classification c scope g₀ msg now, out = k.out ∧
    g.disk.runFrames = g₀.disk.runFrames.insert (c.digest msg.identity) k.out

theorem Classified.processed {out : TelemetryFrame} {g : Gateway}
    (h : Classified c scope g₀ msg now out g) : Processed c scope g₀ msg now g := by
  obtain ⟨k, -, hframes⟩ := h.receipt
  exact .receipt k h.same hframes h.written

theorem classifyFrame_triple {interval : Time × Time} {binding : RunBinding}
    (resetFault receiptFault : Fault)
    (hadmitted : admittedFrame c scope g₀.process msg = some (record, some frame))
    (hbound : record.runClockID ≠ "")
    (hclock : attr frame.attributes "sim_clock_id" = record.runClockID)
    (hpolled : pollInterval c msg frame now = some interval)
    (hfresh : g₀.disk.runFrames.lookup (c.digest msg.identity) = none)
    (hrunning : g₀.process.run = some binding) :
    Triple (Processed c scope g₀ msg now) (· = g₀)
      (classifyFrame c scope msg record frame interval resetFault receiptFault)
      (Classified c scope g₀ msg now) fun _ => Processed c scope g₀ msg now := by
  have huntouched : ∀ g, g = g₀ → Processed c scope g₀ msg now g := by
    rintro g rfl
    exact .untouched (.refl g)
  refine Triple.get_bind_eq ?_
  refine Triple.ofExcept_bind (fun e _ => huntouched) fun archive hopened => ?_
  refine Triple.ofExcept_bind (fun e _ => huntouched) fun context harchived => ?_
  obtain ⟨state, -, hledger⟩ := openArchive_eq_ok hopened
  refine Triple.bind (Q := fun _ => Live g₀ frame context) ?_ fun _ => ?_
  · refine ((recordReset_triple frame resetFault fun envelope he =>
      RunContext.decode_of_openLedger hledger harchived he).inv fun g hg => .untouched hg).conseq
      (fun g hg => hg) (fun _ g hg => hg) fun _ g hg => .untouched hg
  refine Triple.bind (Q := fun live g => Live g₀ frame context g ∧
    ∃ b, g.process.run = some b ∧ b.ledger = live) ?_ fun live => ?_
  · exact liveLedger_triple.conseq (fun g hg => hg) (fun _ g hg => hg) fun _ g hg => hg.processed
  refine Triple.ofExcept_bind (fun e _ g hg => hg.1.processed) fun invalidated hinvalidated => ?_
  refine Triple.ofExcept_bind (fun e _ g hg => hg.1.processed) fun current hcurrent => ?_
  refine Triple.ofExcept_bind (fun e _ g hg => hg.1.processed) fun times _ => ?_
  refine Triple.bind (Q := fun _ => Classified c scope g₀ msg now _) ?_ fun _ =>
    Triple.pure fun g hg => hg
  refine atomicFile_triple receiptFault ?_ fun _ g _ hg => hg.1.processed
  rintro g ⟨⟨hsame, hother, hreset⟩, b, hrun, rfl⟩
  let k : Classification c scope g₀ msg now :=
    { record, frame, interval, archive, context, binding, invalidated, current, times
      admitted := hadmitted, bound := hbound, clock := hclock, polled := hpolled, fresh := hfresh
      opened := hopened, archived := harchived, running := hrunning
      live := by
        intro hne
        rw [hother hne, hrunning] at hrun
        rw [Option.some.inj hrun]
        exact ⟨hinvalidated, hcurrent⟩
      reset := by
        intro heq
        obtain ⟨b', hrun', hmarked⟩ := hreset heq
        rw [hrun] at hrun'
        rw [← Option.some.inj hrun'] at hmarked
        rw [RunContext.Ledger.invalidated] at hinvalidated
        split_ifs at hinvalidated
        rw [← Except.ok.inj hinvalidated]
        exact hmarked }
  have hclassified : Classified c scope g₀ msg now k.out { g with
      disk := { g.disk with
        runFrames := g.disk.runFrames.insert (c.digest msg.identity) k.out } } := by
    refine ⟨hsame.toSameJournal.trans ?_, hsame.written, k, rfl, ?_⟩
    · constructor <;> rfl
    · rw [hsame.frames]
  exact ⟨hclassified.processed, hclassified, fun _ => hclassified.processed⟩

theorem bindRunFrame_triple (resetFault receiptFault : Fault)
    (hadmitted : admittedFrame c scope g₀.process msg = some (record, some frame)) :
    Triple (Processed c scope g₀ msg now) (· = g₀)
      (bindRunFrame c scope msg record frame now resetFault receiptFault)
      (fun bound g => SameJournal g₀ g ∧ g.history.written = g₀.history.written ∧
        bound.elim (g.disk.runFrames = g₀.disk.runFrames) fun out =>
          Source c scope g₀ msg now out g.disk.runFrames)
      fun _ => Processed c scope g₀ msg now := by
  unfold bindRunFrame
  split
  · rename_i hunbound
    refine Triple.pure ?_
    rintro g rfl
    exact ⟨.refl g, rfl, .unbound hadmitted hunbound⟩
  · rename_i hbound
    obtain ⟨hbound, hclock⟩ := not_or.mp hbound
    refine Triple.get_bind_eq ?_
    refine Triple.check_bind ?_ fun hchecked => ?_
    · rintro g rfl
      exact .untouched (.refl g)
    have hrunning : ∃ b, g₀.process.run = some b := by
      cases hrun : g₀.process.run with
      | none =>
        rw [hrun] at hchecked
        cases hchecked
      | some b => exact ⟨b, rfl⟩
    obtain ⟨binding, hrunning⟩ := hrunning
    cases hpolled : pollInterval c msg frame now with
    | none =>
      refine Triple.pure ?_
      rintro g rfl
      exact ⟨.refl g, rfl, rfl⟩
    | some interval =>
      cases hreceipt : g₀.disk.runFrames.lookup (c.digest msg.identity) with
      | some original =>
        refine Triple.pure ?_
        rintro g rfl
        exact ⟨.refl g, rfl, .replayed hreceipt⟩
      | none =>
        refine Triple.bind (classifyFrame_triple resetFault receiptFault hadmitted hbound
          (not_not.mp hclock) hpolled hreceipt hrunning) fun out => Triple.pure fun g hg => ?_
        obtain ⟨k, rfl, hframes⟩ := hg.receipt
        refine ⟨hg.same, hg.written, ?_⟩
        rw [Option.elim_some, hframes]
        exact .classified k

/-- Processing a message: every state it goes through, and the one it ends in. -/
theorem processMessage_triple (faults : ProcessFaults) :
    Triple (Processed c scope g₀ msg now) (· = g₀) (processMessage c scope msg now faults)
      (fun _ => Processed c scope g₀ msg now) fun _ => Processed c scope g₀ msg now := by
  have huntouched : ∀ g, g = g₀ → Processed c scope g₀ msg now g := by
    rintro g rfl
    exact .untouched (.refl g)
  refine Triple.get_bind_eq ?_
  refine Triple.check_bind huntouched fun _ => ?_
  cases hadmitted : admittedFrame c scope g₀.process msg with
  | none => exact Triple.pure huntouched
  | some admitted =>
    obtain ⟨r, bound⟩ := admitted
    cases bound with
    | none => exact Triple.pure huntouched
    | some frame =>
      refine Triple.bind (bindRunFrame_triple faults.reset faults.receipt hadmitted) ?_
      intro bound
      cases bound with
      | none =>
        refine Triple.pure ?_
        rintro g ⟨hsame, hwritten, hframes⟩
        exact .untouched ⟨hsame, hframes, hwritten⟩
      | some out =>
        have hunwritten : ∀ g, SameJournal g₀ g ∧ g.history.written = g₀.history.written ∧
            Source c scope g₀ msg now out g.disk.runFrames →
            Processed c scope g₀ msg now g := by
          rintro g ⟨hsame, hwritten, hsource⟩
          generalize hframes : g.disk.runFrames = frames at hsource
          cases hsource with
          | unbound _ _ | replayed _ => exact .untouched ⟨hsame, hframes, hwritten⟩
          | classified k => exact .receipt k hsame hframes hwritten
        refine Triple.check_bind hunwritten fun _ => Triple.modify ?_
        rintro g ⟨hsame, hwritten, hsource⟩
        have hbuffered : Processed c scope g₀ msg now { g with
            history := { g.history with written := g.history.written ++ [(msg, out)] } } := by
          refine .buffered out (hsame.trans ?_) hsource ?_
          · constructor <;> rfl
          · rw [hwritten]
        exact ⟨hbuffered, hbuffered⟩

end Gateway

end NexusGateway.ClockSync
