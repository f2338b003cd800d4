/-
What one step of the uplink can do, read off `State.step` once: to the rows a
session holds (its batch and the frames it still has to send), to its cursor,
and to the two tables of the database.  The invariants about lost frames and
about the persisted cursor are derived from here.
-/

import NexusGateway.Uplink.NoSkip

namespace NexusGateway.Uplink

open Lib
open StoreForward

/-! ## What a session is left with -/

/-- If the session goes on, it does so with this batch, cursor and frames to
    send. -/
def Leaves (o : Option Session) (batch : List SentFrame) (cursor : Nat)
    (pending : List StoredFrame) : Prop :=
  ∀ ses, o = some ses → ses.batch = batch ∧ ses.cursor = cursor ∧ ses.pc.pending = pending

section Leaves

variable {ses : Session} {batch : List SentFrame} {cursor : Nat} {pending : List StoredFrame}

theorem leaves_none : Leaves none batch cursor pending := nofun

theorem leaves_some (ses : Session) : Leaves (some ses) ses.batch ses.cursor ses.pc.pending := by
  intro ses' h
  rw [Option.some.injEq] at h
  subst h
  exact ⟨rfl, rfl, rfl⟩

theorem leaves_loop (ses : Session) (rest : List StoredFrame) :
    Leaves (some (ses.loop rest)) ses.batch ses.cursor rest := by
  have h := leaves_some (ses.loop rest)
  rw [pending_loop] at h
  exact h

theorem leaves_resume (ses : Session) (ret : Return) :
    Leaves (ses.resume ret) ses.batch ses.cursor ret.pending := by
  cases ret with
  | select => exact leaves_some { ses with pc := .select }
  | sending rest => exact leaves_loop ses rest
  | done => exact leaves_none

theorem leaves_checkpoint (ses : Session) (ret : Return) :
    Leaves (ses.checkpoint ret) ses.batch ses.cursor ret.pending := by
  rw [Session.checkpoint]
  split
  · exact leaves_resume ses ret
  · exact leaves_some { ses with pc := .sinkCheckpoint ret }

theorem leaves_drained (ses : Session) : Leaves ses.drained ses.batch ses.cursor [] := by
  rw [Session.drained]
  split
  · exact leaves_some { ses with pc := .select }
  · exact leaves_checkpoint ses .done

theorem leaves_sent (u : State) (ses : Session) (sf : StoredFrame) (rest : List StoredFrame) :
    Leaves (u.sent ses sf rest) (ses.addSent sf).batch sf.seq rest := by
  rw [State.sent]
  split
  · exact leaves_checkpoint (ses.addSent sf) (.sending rest)
  · exact leaves_loop (ses.addSent sf) rest

end Leaves

/-! ## Steps of a session -/

/-- The tables of the database are as they were, and the log goes on. -/
structure SameTables (u v : State) : Prop where
  frames : v.buf.frames = u.buf.frames
  cursorRow : v.buf.cursorRow = u.buf.cursorRow
  log : u.log <+: v.log

inductive Outcome (u : State) (ses : Session) (v : State) : Action → Prop
  /-- it goes on with what it held, or ends -/
  | stays (a : Action) : (∀ accepted, a ≠ .sinkCheckpoint (some accepted)) →
      Leaves v.session ses.batch ses.cursor ses.pc.pending → SameTables u v → Outcome u ses v a
  | read : ses.pc.pending = [] →
      Leaves v.session ses.batch ses.cursor (u.buf.readBatch ses.cursor 32) → SameTables u v →
      Outcome u ses v (.readBatch true)
  | sent (sf : StoredFrame) (rest : List StoredFrame) : ses.pc = .sending (sf :: rest) →
      Leaves v.session (ses.addSent sf).batch sf.seq rest → SameTables u v →
      Outcome u ses v (.send true)
  /-- the sink's `Checkpoint` returned without error -/
  | acked (accepted : Int64) (ret : Return) : ses.pc = .sinkCheckpoint ret →
      Leaves v.session ses.batch (applyAck ses.batch accepted).1 ses.pc.pending → SameTables u v →
      .acked ses.id (ses.batch.map SentFrame.seq) ∈ v.log →
      Outcome u ses v (.sinkCheckpoint (some accepted))
  | advanced (newCursor : Nat) (ret : Return) : ses.pc = .advance newCursor ret →
      Leaves v.session [] ses.cursor ses.pc.pending → v.buf.frames = u.buf.frames →
      v.buf.cursorRow = some newCursor → u.log <+: v.log → Outcome u ses v (.advance true)

theorem outcome_of_sessionStep {u v : State} {ses : Session} {a : Action}
    (hstep : u.sessionStep ses a = some v) : Outcome u ses v a := by
  have hsame : ∀ {o : Option Session}, SameTables u { u with session := o } :=
    ⟨rfl, rfl, List.prefix_refl _⟩
  revert hstep
  fun_cases State.sessionStep with
  | case1 | case17 =>
    -- the session ends
    rintro ⟨⟩
    exact .stays _ (by simp) leaves_none hsame
  | case3 hpc =>
    -- the checkpoint ticker
    rintro ⟨⟩
    refine .stays _ (by simp) ?_ hsame
    rw [hpc]
    exact leaves_checkpoint ses .select
  | case5 hpc =>
    -- woken up
    rintro ⟨⟩
    refine .stays _ (by simp) ?_ hsame
    rw [hpc]
    exact leaves_some { ses with pc := .readBatch }
  | case7 hpc =>
    rintro ⟨⟩
    refine .read (by rw [hpc]; rfl) ?_ ⟨rfl, rfl, List.prefix_append ..⟩
    show Leaves (if (u.buf.readBatch ses.cursor 32).isEmpty then _ else _) _ _ _
    split
    · next hempty =>
      rw [List.isEmpty_iff.mp hempty]
      exact leaves_drained ses
    · exact leaves_loop ses _
  | case8 ok hpc =>
    -- `ReadBatch` fails
    rintro ⟨⟩
    refine .stays _ (by simp) ?_ hsame
    rw [hpc]
    exact leaves_drained ses
  | case10 sf rest hpc =>
    rintro ⟨⟩
    exact .sent sf rest hpc (leaves_sent u ses sf rest) hsame
  | case11 | case13 =>
    -- a call of the stream or of the Buffer fails
    rintro ⟨⟩
    exact .stays _ (by simp) leaves_none ⟨rfl, rfl, List.prefix_refl _⟩
  | case14 ret hpc accepted =>
    rintro ⟨⟩
    obtain ⟨hframes, hrow⟩ := recordAck_frames u.buf ses.batch accepted
    refine .acked accepted ret hpc ?_ ⟨hframes, hrow, List.prefix_append ..⟩
      (List.mem_append_right _ (List.mem_singleton_self _))
    rw [hpc]
    exact leaves_some
      { ses with cursor := _, pc := .advance (applyAck ses.batch accepted).1 ret }
  | case16 newCursor ret hpc =>
    rintro ⟨⟩
    refine .advanced newCursor ret hpc ?_ rfl rfl (List.prefix_append ..)
    rw [hpc]
    exact leaves_resume { ses with batch := [] } ret
  | case2 | case4 | case6 | case9 | case12 | case15 | case18 | case19 => rintro ⟨⟩

theorem Outcome.log {u v : State} {ses : Session} {a : Action} (h : Outcome u ses v a) :
    u.log <+: v.log := by
  cases h with
  | stays _ _ _ hsame | read _ _ hsame | sent _ _ _ _ hsame | acked _ _ _ _ hsame => exact hsame.log
  | advanced _ _ _ _ _ _ hlog => exact hlog

theorem Outcome.frames {u v : State} {ses : Session} {a : Action} (h : Outcome u ses v a) :
    v.buf.frames = u.buf.frames := by
  cases h with
  | stays _ _ _ hsame => exact hsame.frames
  | read _ _ hsame => exact hsame.frames
  | sent _ _ _ _ hsame => exact hsame.frames
  | acked _ _ _ _ hsame => exact hsame.frames
  | advanced _ _ _ _ hframes => exact hframes

/-! ## Steps of the uplink -/

inductive StepOutcome (u v : State) : Action → Prop
  | wrote (f : TelemetryFrame) : v.session = u.session →
      v.buf.frames = u.buf.frames.push u.buf.capacity f → v.buf.cursorRow = u.buf.cursorRow →
      u.log <+: v.log → StepOutcome u v (.write f true)
  | failed (f : TelemetryFrame) : v = u → StepOutcome u v (.write f false)
  | started (mode : Mode) (cursorOk : Bool) :
      Leaves v.session [] (if cursorOk then u.buf.cursor else 0) [] → SameTables u v →
      StepOutcome u v (.start mode cursorOk)
  | restarted : v.session = none → SameTables u v → StepOutcome u v .restart
  | session (a : Action) (ses : Session) : (∀ f ok, a ≠ .write f ok) →
      u.session = some ses → Outcome u ses v a → StepOutcome u v a

theorem outcome_of_step {u v : State} {a : Action} (hstep : State.Steps u a v) :
    StepOutcome u v a := by
  unfold State.Steps at hstep
  revert hstep
  fun_cases State.step with
  | case1 f =>
    rintro ⟨⟩
    exact .wrote f rfl rfl rfl (List.prefix_append ..)
  | case2 f ok hok =>
    rintro ⟨⟩
    rw [Bool.eq_false_iff.mpr hok]
    exact .failed f rfl
  | case4 mode cursorOk =>
    rintro ⟨⟩
    refine .started mode cursorOk ?_ ⟨rfl, rfl, List.prefix_refl _⟩
    have hpending : (u.newSession mode cursorOk).pc.pending = [] := by cases mode <;> rfl
    have h := leaves_some (u.newSession mode cursorOk)
    rw [hpending] at h
    exact h
  | case5 =>
    rintro ⟨⟩
    exact .restarted rfl ⟨rfl, rfl, List.prefix_refl _⟩
  | case7 a hwrite hstart hrestart ses hses =>
    exact fun hstep => .session a ses (fun f ok heq => hwrite f ok heq) hses
      (outcome_of_sessionStep hstep)
  | case3 | case6 => rintro ⟨⟩

end NexusGateway.Uplink
