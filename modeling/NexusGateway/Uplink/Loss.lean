/-
What `LostUnsent` counts against what the sink took.  The uplink is run next
to two lists: the rows its writes counted as lost, and the rows of batches
that the sink acknowledged in full.

A frame is copied into a session when `ReadBatch` returns it, and from then on
its row no longer matters to its delivery: the session sends and checkpoints
the copy.  So the two lists stay apart as long as no write deletes a row above
the cursor that the session still holds, or that the cursor should have passed
already because an acknowledged batch went past it.
-/

import NexusGateway.StoreForward.Accounting
import NexusGateway.Uplink.Outcome

namespace NexusGateway.Uplink

open Lib
open StoreForward

/-! ## Lost and delivered rows -/

/-- The rows a write counts in `LostUnsent`: those it evicts above the cursor. -/
def lostBy (b : Buffer) (f : TelemetryFrame) : List Nat :=
  (b.frames.evicted b.capacity f).filter fun seq => b.cursor < seq

/-- The uplink, the rows its writes counted as lost, and the rows of batches that
    the sink acknowledged in full. -/
structure Audit where
  state : State
  lost : List Nat
  delivered : List Nat

namespace Audit

def init (capacity : Nat) (hcap : 0 < capacity) (checkpointSize : Int) : Audit :=
  ⟨State.init capacity hcap checkpointSize, [], []⟩

def lostNow (u : State) : Action → List Nat
  | .write f true => lostBy u.buf f
  | _ => []

/-- The rows a step delivers: the sink's `Checkpoint` returned at least the size of
    the batch. -/
def deliveredNow (u : State) : Action → List Nat
  | .sinkCheckpoint (some accepted) =>
    match u.session with
    | some ses =>
      if (ses.batch.length : Int) ≤ accepted.toInt then ses.batch.map SentFrame.seq else []
    | none => []
  | _ => []

def step (a : Audit) (act : Action) : Option Audit :=
  (a.state.step act).map fun v =>
    ⟨v, a.lost ++ lostNow a.state act, a.delivered ++ deliveredNow a.state act⟩

def Steps (a : Audit) (act : Action) (b : Audit) : Prop := a.step act = some b

end Audit

def Session.Holds (ses : Session) (s : Nat) : Prop :=
  s ∈ ses.batch.map SentFrame.seq ∨ s ∈ ses.pc.pending.map StoredFrame.seq

instance (ses : Session) (s : Nat) : Decidable (ses.Holds s) :=
  inferInstanceAs (Decidable (_ ∨ _))

def State.Holds (u : State) (s : Nat) : Prop := ∃ ses ∈ u.session, ses.Holds s

instance (u : State) (s : Nat) : Decidable (u.Holds s) :=
  match hses : u.session with
  | none => isFalse fun ⟨_, h, _⟩ => by rw [hses] at h; cases h
  | some ses =>
    if h : ses.Holds s then isTrue ⟨ses, hses, h⟩
    else isFalse fun ⟨_, h', hs⟩ => by
      rw [hses, Option.mem_some_iff] at h'
      subst h'
      exact h hs

def Event.ackedRows : Event → List Nat
  | .acked _ batch => batch
  | _ => []

def AckedPast (s : Nat) (log : List Event) : Prop := ∃ g ∈ log.flatMap Event.ackedRows, s ≤ g

instance (s : Nat) (log : List Event) : Decidable (AckedPast s log) :=
  inferInstanceAs (Decidable (∃ g ∈ _, _))

theorem AckedPast.of_mem {s n : Nat} {batch : List Nat} {log : List Event} (hs : s ∈ batch)
    (hmem : .acked n batch ∈ log) : AckedPast s log :=
  ⟨s, List.mem_flatMap.mpr ⟨_, hmem, hs⟩, Nat.le_refl s⟩

theorem AckedPast.mono {s : Nat} {log log' : List Event} (h : AckedPast s log)
    (hlog : log <+: log') : AckedPast s log' := by
  obtain ⟨g, hg, hle⟩ := h
  obtain ⟨e, he, hge⟩ := List.mem_flatMap.mp hg
  exact ⟨g, List.mem_flatMap.mpr ⟨e, hlog.subset he, hge⟩, hle⟩

/-- The condition on a write: above the persisted cursor it evicts no row that the
    running session holds, and none that the acknowledgements have gone past. -/
def LosesNoCopy (u : State) : Action → Prop
  | .write f true => ∀ s ∈ lostBy u.buf f, ¬ u.Holds s ∧ ¬ AckedPast s u.log
  | _ => True

instance (u : State) : ∀ act, Decidable (LosesNoCopy u act)
  | .write f true =>
    inferInstanceAs (Decidable (∀ s ∈ lostBy u.buf f, ¬ u.Holds s ∧ ¬ AckedPast s u.log))
  | .write _ false | .start .. | .cancel | .tick | .wake | .readBatch _ | .send _
  | .sinkCheckpoint _ | .advance _ | .restart => isTrue trivial

/-! ## What a session can come to hold -/

section Holds

variable {u v : State} {s : Nat}

theorem holds_of_leaves {batch : List SentFrame} {cursor : Nat} {pending : List StoredFrame}
    (h : Leaves v.session batch cursor pending) (hs : v.Holds s) :
    s ∈ batch.map SentFrame.seq ∨ s ∈ pending.map StoredFrame.seq := by
  obtain ⟨ses, hses, hholds⟩ := hs
  obtain ⟨hbatch, -, hpending⟩ := h ses hses
  rw [Session.Holds, hbatch, hpending] at hholds
  exact hholds

theorem Outcome.holds {ses : Session} {a : Action} (h : Outcome u ses v a)
    (hses : u.session = some ses) (hs : v.Holds s) :
    u.Holds s ∨ ∃ f ∈ u.buf.frames.rows, f.seq = s := by
  cases h with
  | stays _ _ hleaves => exact Or.inl ⟨ses, hses, holds_of_leaves hleaves hs⟩
  | read _ hleaves =>
    rcases holds_of_leaves hleaves hs with hbatch | hread
    · exact Or.inl ⟨ses, hses, Or.inl hbatch⟩
    · obtain ⟨f, hf, rfl⟩ := List.mem_map.mp hread
      exact Or.inr ⟨f, (FrameTable.mem_of_mem_select hf).1, rfl⟩
  | sent sf rest hpc hleaves =>
    -- the frame moves from the ones to be sent to the batch
    refine Or.inl ⟨ses, hses, ?_⟩
    rw [Session.Holds, hpc]
    rcases holds_of_leaves hleaves hs with hbatch | hrest
    · simp only [Session.addSent, List.map_append, List.mem_append, List.map_cons, List.map_nil,
        List.mem_singleton] at hbatch
      rcases hbatch with hbatch | rfl
      · exact Or.inl hbatch
      · exact Or.inr (List.mem_cons_self ..)
    · exact Or.inr (List.mem_cons_of_mem _ hrest)
  | acked accepted ret hpc hleaves => exact Or.inl ⟨ses, hses, holds_of_leaves hleaves hs⟩
  | advanced newCursor ret hpc hleaves =>
    rcases holds_of_leaves hleaves hs with hnil | hpending
    · cases hnil
    · exact Or.inl ⟨ses, hses, Or.inr hpending⟩

end Holds

/-! ## Runs -/

/-- What was delivered is acknowledged in the log.  A row counted as lost was not
    delivered, is not held, and can be read no more. -/
structure Apart (a : Audit) : Prop where
  acked : ∀ s ∈ a.delivered, AckedPast s a.state.log
  delivered : ∀ s ∈ a.lost, s ∉ a.delivered
  held : ∀ s ∈ a.lost, ¬ a.state.Holds s
  gone : ∀ s ∈ a.lost, s ≤ a.state.buf.frames.lastSeq ∧ ∀ f ∈ a.state.buf.frames.rows, f.seq ≠ s

theorem apart_init (capacity : Nat) (hcap : 0 < capacity) (checkpointSize : Int) :
    Apart (Audit.init capacity hcap checkpointSize) := ⟨nofun, nofun, nofun, nofun⟩

section Steps

variable {a b : Audit}

theorem Apart.write (hA : Apart a) {v : State} {f : TelemetryFrame}
    (hok : LosesNoCopy a.state (.write f true)) (hses : v.session = a.state.session)
    (hframes : v.buf.frames = a.state.buf.frames.push a.state.buf.capacity f)
    (hlog : a.state.log <+: v.log) :
    Apart ⟨v, a.lost ++ lostBy a.state.buf f, a.delivered ++ []⟩ := by
  have hholds : ∀ s, State.Holds v s → a.state.Holds s := by
    rintro s ⟨ses, hmem, hs⟩
    rw [hses] at hmem
    exact ⟨ses, hmem, hs⟩
  have hevicted : ∀ s ∈ lostBy a.state.buf f,
      s ∈ a.state.buf.frames.evicted a.state.buf.capacity f := fun s hs =>
    (List.mem_filter.mp hs).1
  rw [List.append_nil]
  refine ⟨fun s hs => (hA.acked s hs).mono hlog, ?_, ?_, ?_⟩
  · intro s hs
    rcases List.mem_append.mp hs with hs | hs
    · exact hA.delivered s hs
    · exact fun hdelivered => (hok s hs).2 (hA.acked s hdelivered)
  · intro s hs hv
    rcases List.mem_append.mp hs with hs | hs
    · exact hA.held s hs (hholds s hv)
    · exact (hok s hs).1 (hholds s hv)
  · intro s hs
    show s ≤ v.buf.frames.lastSeq ∧ ∀ g ∈ v.buf.frames.rows, g.seq ≠ s
    rw [hframes]
    have hlast : (a.state.buf.frames.push a.state.buf.capacity f).lastSeq =
        a.state.buf.frames.lastSeq + 1 := rfl
    rw [hlast]
    rcases List.mem_append.mp hs with hs | hs
    · obtain ⟨hle, hgone⟩ := hA.gone s hs
      refine ⟨by omega, ?_⟩
      intro g hg heq
      rcases FrameTable.mem_of_mem_push hg with hg | hg
      · exact hgone g hg heq
      · omega
    · refine ⟨?_, FrameTable.not_mem_push_of_evicted (hevicted s hs)⟩
      exact FrameTable.le_of_mem_evicted (hevicted s hs)

theorem Apart.other (hA : Apart a) {v : State} {delivered : List Nat}
    (hframes : v.buf.frames = a.state.buf.frames)
    (hholds : ∀ s, State.Holds v s → a.state.Holds s ∨ ∃ f ∈ a.state.buf.frames.rows, f.seq = s)
    (hdelivered : ∀ s ∈ delivered, a.state.Holds s ∧ AckedPast s v.log)
    (hlog : a.state.log <+: v.log) :
    Apart ⟨v, a.lost ++ [], a.delivered ++ delivered⟩ := by
  rw [List.append_nil]
  refine ⟨?_, ?_, ?_, ?_⟩
  · intro s hs
    rcases List.mem_append.mp hs with hs | hs
    · exact (hA.acked s hs).mono hlog
    · exact (hdelivered s hs).2
  · intro s hs hmem
    rcases List.mem_append.mp hmem with hmem | hmem
    · exact hA.delivered s hs hmem
    · exact hA.held s hs (hdelivered s hmem).1
  · intro s hs hv
    rcases hholds s hv with hold | ⟨f, hf, heq⟩
    · exact hA.held s hs hold
    · exact (hA.gone s hs).2 f hf heq
  · intro s hs
    show s ≤ v.buf.frames.lastSeq ∧ ∀ f ∈ v.buf.frames.rows, f.seq ≠ s
    rw [hframes]
    exact hA.gone s hs

theorem Outcome.delivered {u v : State} {ses : Session} {act : Action} (h : Outcome u ses v act)
    (hses : u.session = some ses) {s : Nat} (hs : s ∈ Audit.deliveredNow u act) :
    u.Holds s ∧ AckedPast s v.log := by
  cases h with
  | stays _ hact =>
    unfold Audit.deliveredNow at hs
    split at hs
    · next accepted => exact absurd rfl (hact accepted)
    · cases hs
  | read | sent | advanced => cases hs
  | acked accepted ret hpc hleaves hsame hmem =>
    simp only [Audit.deliveredNow, hses] at hs
    split at hs
    · exact ⟨⟨ses, hses, Or.inl hs⟩, .of_mem hs hmem⟩
    · cases hs

theorem Apart.step (hA : Apart a) {act : Action}
    (hstep : Meeting Audit.Steps (fun a => LosesNoCopy a.state) a act b) : Apart b := by
  obtain ⟨hstep, hok⟩ := hstep
  rw [Audit.Steps, Audit.step, Option.map_eq_some_iff] at hstep
  obtain ⟨v, hv, rfl⟩ := hstep
  have hnone : ∀ {s : Nat}, v.session = none → ¬ State.Holds v s := by
    rintro s hses ⟨ses, hmem, -⟩
    rw [hses] at hmem
    cases hmem
  cases outcome_of_step hv with
  | wrote f hses hframes _ hlog => exact hA.write hok hses hframes hlog
  | failed f heq =>
    subst heq
    exact hA.other rfl (fun s hs => Or.inl hs) nofun (List.prefix_refl _)
  | started mode cursorOk hleaves hsame =>
    refine hA.other hsame.frames (fun s hs => ?_) nofun hsame.log
    rcases holds_of_leaves hleaves hs with h | h <;> cases h
  | restarted hses hsame =>
    exact hA.other hsame.frames (fun s hs => absurd hs (hnone hses)) nofun hsame.log
  | session act ses hwrite hses hout =>
    have hlost : Audit.lostNow a.state act = [] := by
      unfold Audit.lostNow
      split
      · next f => exact absurd rfl (hwrite f true)
      · rfl
    rw [hlost]
    exact hA.other hout.frames (fun s hs => hout.holds hses hs)
      (fun s hs => hout.delivered hses hs) hout.log

end Steps

/-! ## Lost frames are lost -/

/-- In every run of the uplink in which no write evicts, above the persisted
    cursor, a row that the running session holds or that the acknowledgements
    have gone past, no row counted in `LostUnsent` is ever part of a batch
    acknowledged in full. -/
theorem lost_never_delivered {capacity : Nat} {hcap : 0 < capacity} {checkpointSize : Int}
    {as : List Action} {a : Audit}
    (hrun : Run (Meeting Audit.Steps fun a => LosesNoCopy a.state)
      (Audit.init capacity hcap checkpointSize) as a) :
    ∀ s ∈ a.lost, s ∉ a.delivered := by
  have hA : Apart a :=
    hrun.invariant (apart_init capacity hcap checkpointSize) fun _ _ _ hA hstep => hA.step hstep
  exact hA.delivered

/-- Row 1 is evicted with no session running, row 2 is delivered. -/
theorem lost_never_delivered_idle :
    ∃ a f, Run (Meeting Audit.Steps fun a => LosesNoCopy a.state) (Audit.init 1 (by decide) 1000)
        [.write f true, .write f true, .start .run true, .wake, .readBatch true, .send true,
          .readBatch true, .tick, .sinkCheckpoint (some 1), .advance true] a ∧
      a.lost = [1] ∧ a.delivered = [2] ∧ a.state.buf.lostUnsent = 1 ∧ 1 ∉ a.delivered := by
  obtain ⟨a, f, hrun, hlost, hdelivered, hcount⟩ :
      ∃ a f, Run (Meeting Audit.Steps fun a => LosesNoCopy a.state) (Audit.init 1 (by decide) 1000)
          [.write f true, .write f true, .start .run true, .wake, .readBatch true, .send true,
            .readBatch true, .tick, .sinkCheckpoint (some 1), .advance true] a ∧
        a.lost = [1] ∧ a.delivered = [2] ∧ a.state.buf.lostUnsent = 1 :=
    ⟨_, sampleFrame, Run.meeting_of_foldlM rfl, rfl, rfl, rfl⟩
  have hapart := lost_never_delivered hrun 1 (by rw [hlost]; exact List.mem_singleton_self 1)
  exact ⟨a, f, hrun, hlost, hdelivered, hcount, hapart⟩

/-- A Buffer of one row: row 1 is read and sent, and while its batch waits for the
    checkpoint the next write evicts it and counts it as lost.  Then the sink
    acknowledges the batch in full. -/
theorem lost_while_in_flight :
    ∃ a f, Run Audit.Steps (Audit.init 1 (by decide) 1000)
        [.write f true, .start .run true, .wake, .readBatch true, .send true, .readBatch true,
          .write f true, .tick, .sinkCheckpoint (some 1)] a ∧
      a.state.buf.lostUnsent = 1 ∧ a.lost = [1] ∧ a.delivered = [1] :=
  ⟨_, sampleFrame, Run.of_foldlM rfl, rfl, rfl, rfl⟩

end NexusGateway.Uplink
