/-
The delivery guarantee of the uplink over whole runs: what the persisted
cursor has passed is accounted for, and what it has not passed comes back in
the next session.

For the second half a session whose calls succeed is followed to the end of
its drain: every round of `ReadBatch` and `Send` moves its cursor to a row
that is in the table, so only finitely many rounds find anything.
-/

import NexusGateway.Uplink.NoSkip

namespace NexusGateway.Uplink

open Lib
open StoreForward

/-! ## A drain whose calls succeed -/

structure SameDrain (u : State) (ses : Session) (v : State) (ses' : Session) : Prop where
  frames : v.buf.frames = u.buf.frames
  id : ses'.id = ses.id
  persisted : ses'.persisted = ses.persisted

theorem SameDrain.trans {u v w : State} {ses ses' ses'' : Session}
    (h : SameDrain u ses v ses') (h' : SameDrain v ses' w ses'') : SameDrain u ses w ses'' :=
  ⟨h'.frames.trans h.frames, h'.id.trans h.id, h'.persisted.trans h.persisted⟩

section Drain

variable {u : State} {ses : Session}

theorem exists_acked {rest : List StoredFrame} {last : SentFrame} (hses : u.session = some ses)
    (hpc : ses.pc = .sinkCheckpoint (.sending rest)) (hlast : ses.batch.getLast? = some last) :
    ∃ bs v ses', Run State.Steps u bs v ∧ v.session = some (ses'.loop rest) ∧
      ses'.cursor = last.seq ∧ SameDrain u ses v ses' := by
  have hnew : (applyAck ses.batch 0).1 = last.seq := by
    rw [applyAck_fst, hlast]
    rfl
  let acked : Session :=
    { ses with cursor := last.seq, pc := .advance last.seq (.sending rest) }
  let v : State :=
    { u with
      buf := State.recordAck u.buf ses.batch 0
      session := some acked
      log := u.log ++ [.acked ses.id (ses.batch.map SentFrame.seq)] }
  have hack : State.Steps u (.sinkCheckpoint (some 0)) v := by
    simp only [State.Steps, State.step, State.sessionStep, hses, hpc, hnew, v, acked]
  have hadv : State.Steps v (.advance true)
      { v with
        buf := v.buf.advance last.seq
        session := some ({ acked with batch := [] }.loop rest)
        log := v.log ++ [.advanced acked.id last.seq] } := by
    simp only [State.Steps, State.step, State.sessionStep, v, acked, Session.resume, if_true]
  exact ⟨_, _, { acked with batch := [] }, (Run.single hack).trans (Run.single hadv), rfl, rfl,
    (recordAck_frames u.buf ses.batch 0).1, rfl, rfl⟩

theorem exists_sent {sf : StoredFrame} {rest : List StoredFrame} (hses : u.session = some ses)
    (hpc : ses.pc = .sending (sf :: rest)) :
    ∃ bs v ses', Run State.Steps u bs v ∧ v.session = some (ses'.loop rest) ∧
      ses'.cursor = sf.seq ∧ SameDrain u ses v ses' := by
  have hsend : State.Steps u (.send true) { u with session := u.sent ses sf rest } := by
    simp only [State.Steps, State.step, State.sessionStep, hses, hpc, if_true]
  by_cases hsize : u.checkpointSize ≤ (ses.addSent sf).batch.length
  · let full : Session := { ses.addSent sf with pc := .sinkCheckpoint (.sending rest) }
    have hfull : u.sent ses sf rest = some full := by
      simp only [State.sent, hsize, if_true, Session.checkpoint]
      rw [if_neg (by simp [Session.addSent])]
    have hlast : full.batch.getLast? = some ⟨sf.seq, sf.frame.pointId⟩ := List.getLast?_concat
    rw [hfull] at hsend
    obtain ⟨bs, v, ses', hrun, hv, hcur, hsame⟩ :=
      exists_acked (u := { u with session := some full }) rfl rfl hlast
    exact ⟨_, v, ses', (Run.single hsend).trans hrun, hv, hcur, hsame.frames, hsame.id,
      hsame.persisted⟩
  · have hmore : u.sent ses sf rest = some ((ses.addSent sf).loop rest) := by
      simp [State.sent, if_neg hsize]
    rw [hmore] at hsend
    exact ⟨_, _, ses.addSent sf, Run.single hsend, rfl, rfl, rfl, rfl, rfl⟩

theorem exists_sentAll {sf : StoredFrame} {rest : List StoredFrame} (hses : u.session = some ses)
    (hpc : ses.pc = .sending (sf :: rest)) :
    ∃ bs v ses', Run State.Steps u bs v ∧ v.session = some ses' ∧ ses'.pc = .readBatch ∧
      ses'.cursor = horizon sf.seq rest ∧ SameDrain u ses v ses' := by
  induction rest generalizing u ses sf with
  | nil =>
    obtain ⟨bs, v, ses', hrun, hv, hcur, hsame⟩ := exists_sent hses hpc
    exact ⟨bs, v, ses'.loop [], hrun, hv, rfl, hcur, hsame.frames, hsame.id, hsame.persisted⟩
  | cons x rest ih =>
    obtain ⟨bs, v, ses', hrun, hv, -, hsame⟩ := exists_sent hses hpc
    obtain ⟨cs, w, ses'', hrun', hw, hpc', hcur, hsame'⟩ := ih hv rfl
    refine ⟨_, w, ses'', hrun.trans hrun', hw, hpc', ?_, ?_⟩
    · rw [hcur, horizon_cons]
    · exact ⟨hsame'.frames.trans hsame.frames, hsame'.id.trans hsame.id,
        hsame'.persisted.trans hsame.persisted⟩

theorem exists_drained (hses : u.session = some ses) (hpc : ses.pc = .readBatch) :
    ∃ bs v ses', Run State.Steps u bs v ∧ v.session = some ses' ∧ ses'.pc = .readBatch ∧
      v.buf.readBatch ses'.cursor 32 = [] ∧ SameDrain u ses v ses' := by
  -- by induction on the sequences left: each round moves the cursor to a row of the table
  induction hleft : u.buf.frames.lastSeq - ses.cursor using Nat.strongRecOn
    generalizing u ses with
  | ind left ih =>
    cases hbatch : u.buf.readBatch ses.cursor 32 with
    | nil => exact ⟨[], u, ses, .nil u, hses, hpc, hbatch, rfl, rfl, rfl⟩
    | cons sf rest =>
      let t : State :=
        { u with
          session := some { ses with pc := .sending (sf :: rest) }
          log := u.log ++ [.read ses.id ses.cursor ((sf :: rest).map StoredFrame.seq)] }
      have hread : State.Steps u (.readBatch true) t := by
        simp [State.Steps, State.step, State.sessionStep, hses, hpc, hbatch, Session.loop, t]
      obtain ⟨bs, v, ses', hrun, hv, hpc', hcur, hsame⟩ := exists_sentAll (u := t) rfl rfl
      have hlt : ses.cursor < ses'.cursor ∧ ses'.cursor ≤ u.buf.frames.lastSeq := by
        have hrow : ∀ g ∈ sf :: rest, g ∈ u.buf.frames.rows ∧ ses.cursor < g.seq :=
          fun g hg => FrameTable.mem_of_mem_select (hbatch ▸ hg)
        have hsf := (hrow sf (List.mem_cons_self ..)).2
        have hle : sf.seq ≤ ses'.cursor := by
          rw [hcur, ← horizon_cons ses.cursor]
          refine le_horizon ses.cursor ?_ (List.mem_cons_self ..)
          exact hbatch ▸ u.buf.frames.sorted_select ses.cursor 32
        obtain ⟨g, hg, hcg⟩ := exists_le_of_le_horizon (Nat.lt_of_lt_of_le hsf hle)
          (Nat.le_of_eq (hcur.trans (horizon_cons ses.cursor sf rest).symm))
        exact ⟨by omega, Nat.le_trans hcg (u.buf.frames.le_last g (hrow g hg).1)⟩
      have hframes : v.buf.frames = u.buf.frames := hsame.frames
      obtain ⟨cs, w, ses'', hrun', hw, hpc'', hempty, hsame'⟩ :=
        ih (v.buf.frames.lastSeq - ses'.cursor) (by rw [hframes]; omega) hv hpc' rfl
      exact ⟨_, w, ses'', ((Run.single hread).trans hrun).trans hrun', hw, hpc'', hempty,
        hsame'.frames.trans hframes, hsame'.id.trans hsame.id,
        hsame'.persisted.trans hsame.persisted⟩

theorem exists_next_session (hI : Inv u) (hidle : u.session = none) (mode : Mode)
    (cursorOk : Bool) :
    ∃ bs v, Run State.Steps u (.start mode cursorOk :: bs) v ∧ v.buf.frames = u.buf.frames ∧
      ∀ f ∈ u.buf.frames.rows, u.buf.cursor < f.seq → Returned u.next f.seq v.log := by
  let ses : Session := u.newSession mode cursorOk
  let t : State := { u with session := some ses, next := u.next + 1 }
  have hstart : State.Steps u (.start mode cursorOk) t := by
    simp only [State.Steps, State.step, hidle, t, ses]
  -- `DrainOnce` drains at once, `Run` on the first wake-up
  have hwake : ∃ bs t' ses', Run State.Steps t bs t' ∧ t'.session = some ses' ∧
      ses'.pc = .readBatch ∧ SameDrain t ses t' ses' := by
    cases mode with
    | drainOnce => exact ⟨[], t, ses, .nil t, rfl, rfl, rfl, rfl, rfl⟩
    | run =>
      have hstep : State.Steps t .wake { t with session := some { ses with pc := .readBatch } } :=
        rfl
      exact ⟨[.wake], _, _, Run.single hstep, rfl, rfl, rfl, rfl, rfl⟩
  obtain ⟨bs, t', ses', hrun, ht', hpc, hsame⟩ := hwake
  obtain ⟨cs, v, ses'', hrun', hv, hpc', hempty, hsame'⟩ := exists_drained ht' hpc
  have hall := hrun.trans hrun'
  have hIv : Inv v := hall.invariant (hI.step hstart) fun _ _ _ h hstep => h.step hstep
  have hsame'' := hsame.trans hsame'
  refine ⟨bs ++ cs, v, .cons hstart hall, hsame''.frames, fun f hf hlt => ?_⟩
  have hf' : f ∈ v.buf.frames.rows := by
    rw [hsame''.frames]
    exact hf
  have hid : ses''.id = u.next := hsame''.id
  have hpersisted : ses''.persisted = u.buf.cursor := hsame''.persisted
  rw [← hid]
  exact hIv.returned_of_drained hv hpc' hempty hf' (hpersisted ▸ hlt)

end Drain

/-! ## The guarantee -/

/-- In every run of the uplink, for every capacity and checkpoint size: a written
    row at or below the persisted cursor was in an acknowledged batch, or was
    evicted before any `ReadBatch` that ran past it of a session whose checkpoint
    moved the cursor past it.  When a session's `ReadBatch` finds nothing more,
    the session has returned every row of the table past the cursor persisted at
    its start, and the next session of either kind, when its calls succeed, gets
    there. -/
theorem no_frame_skipped {capacity : Nat} {hcap : 0 < capacity} {checkpointSize : Int}
    {as : List Action} {u : State}
    (hrun : Run State.Steps (State.init capacity hcap checkpointSize) as u) :
    (∀ s, Wrote s u.log → s ≤ u.buf.cursor → Accounted s u.log) ∧
    (∀ ses, u.session = some ses → ses.pc = .readBatch → u.buf.readBatch ses.cursor 32 = [] →
      ∀ f ∈ u.buf.frames.rows, ses.persisted < f.seq → Returned ses.id f.seq u.log) ∧
    (u.session = none → ∀ mode cursorOk, ∃ bs v,
      Run State.Steps u (.start mode cursorOk :: bs) v ∧ v.buf.frames = u.buf.frames ∧
        ∀ f ∈ u.buf.frames.rows, u.buf.cursor < f.seq → Returned u.next f.seq v.log) := by
  have hI := inv_of_run hrun
  exact ⟨fun s hw hs => hI.accounted s hs hw,
    fun ses hses hpc hempty f hf hlt => hI.returned_of_drained hses hpc hempty hf hlt,
    fun hidle mode cursorOk => exists_next_session hI hidle mode cursorOk⟩

/-- Two rows are read and sent by a session whose checkpoint fails; a third row
    evicts the first; the next session reads and acknowledges what is left. -/
def failedSession : List Action :=
  [.write sampleFrame true, .write sampleFrame true,
    .start .run true, .wake, .readBatch true, .send true, .send true, .readBatch true,
    .tick, .sinkCheckpoint none,
    .write sampleFrame true,
    .start .run true, .wake, .readBatch true, .send true, .send true, .readBatch true,
    .tick, .sinkCheckpoint (some 2), .advance true]

def failedSessionLog : List Event :=
  [.wrote 1 [], .wrote 2 [], .read 0 0 [1, 2], .read 0 2 [], .wrote 3 [1],
    .read 1 0 [2, 3], .read 1 3 [], .acked 1 [2, 3], .advanced 1 3]

/-- Row 1 is at or below the persisted cursor, was in no acknowledged batch, and a
    `ReadBatch` had run past it, and returned it, before it was evicted. -/
theorem evicted_after_failed_session :
    ∃ u, Run State.Steps (State.init 2 (by decide) 1000) failedSession u ∧
      u.log = failedSessionLog ∧ Wrote 1 u.log ∧ 1 ≤ u.buf.cursor ∧
      ¬ (Acked 1 u.log ∨ EvictedUnread (fun _ => true) 1 u.log) := by
  obtain ⟨u, hrun, hlog, hcursor⟩ :
      ∃ u, Run State.Steps (State.init 2 (by decide) 1000) failedSession u ∧
        u.log = failedSessionLog ∧ u.buf.cursor = 3 := ⟨_, Run.of_foldlM rfl, rfl, rfl⟩
  refine ⟨u, hrun, hlog, ?_⟩
  rw [hlog, hcursor]
  refine ⟨⟨[], by decide⟩, by decide, ?_⟩
  rintro (⟨n, batch, hmem, h1⟩ | hev)
  · have hbatch : batch = [2, 3] := by
      simp only [failedSessionLog, List.mem_cons, reduceCtorEq, Event.acked.injEq, List.not_mem_nil,
        false_or, or_false] at hmem
      exact hmem.2
    exact absurd (hbatch ▸ h1) (by decide)
  · exact absurd hev (by decide)

def flushed : List Action :=
  [.write sampleFrame true, .write sampleFrame true,
    .start .drainOnce true, .readBatch true, .send true, .send true, .readBatch true,
    .sinkCheckpoint (some 2), .advance true, .write sampleFrame true]

/-- After `flushed` the first two rows are accounted for, one of them evicted by
    now, and the next session returns the third. -/
theorem no_frame_skipped_flushed :
    ∃ u, Run State.Steps (State.init 2 (by decide) 1000) flushed u ∧
      Accounted 1 u.log ∧ Accounted 2 u.log ∧
      ∃ bs v, Run State.Steps u (.start .run true :: bs) v ∧ Returned 1 3 v.log := by
  obtain ⟨u, hrun, hcursor, hnext, hses, hlog, hrows⟩ :
      ∃ u, Run State.Steps (State.init 2 (by decide) 1000) flushed u ∧
        u.buf.cursor = 2 ∧ u.next = 1 ∧ u.session = none ∧
        u.log = [.wrote 1 [], .wrote 2 [], .read 0 0 [1, 2], .read 0 2 [], .acked 0 [1, 2],
          .advanced 0 2, .wrote 3 [1]] ∧
        u.buf.frames.rows = [⟨2, sampleFrame⟩, ⟨3, sampleFrame⟩] :=
    ⟨_, Run.of_foldlM rfl, rfl, rfl, rfl, rfl, rfl⟩
  obtain ⟨hacc, -, hreturned⟩ := no_frame_skipped hrun
  obtain ⟨bs, v, hrun', -, hret⟩ := hreturned hses .run true
  have h1 : Wrote 1 u.log := ⟨[], by simp [hlog]⟩
  have h2 : Wrote 2 u.log := ⟨[], by simp [hlog]⟩
  have h3 : Returned u.next 3 v.log :=
    hret ⟨3, sampleFrame⟩ (by simp [hrows]) (by rw [hcursor]; decide)
  rw [hnext] at h3
  exact ⟨u, hrun, hacc 1 h1 (by omega), hacc 2 h2 (by omega), bs, v, hrun', h3⟩

end NexusGateway.Uplink
