/-
The row of the cursor table over whole runs.  `Advance` replaces it without
looking at it, so that it only grows rests on what each session starts from:
a session that read the persisted cursor stays at or above it, and one whose
query failed starts again from 0.
-/

import NexusGateway.Uplink.Outcome

namespace NexusGateway.Uplink

open Lib
open StoreForward

/-- The condition on the start of a session: the cursor query succeeds, unless
    there is nothing to lose by reading 0. -/
def ReadsCursor (u : State) : Action → Prop
  | .start _ cursorOk => cursorOk = true ∨ u.buf.cursor = 0
  | _ => True

instance (u : State) : ∀ act, Decidable (ReadsCursor u act)
  | .start _ cursorOk => inferInstanceAs (Decidable (cursorOk = true ∨ u.buf.cursor = 0))
  | .write .. | .cancel | .tick | .wake | .readBatch _ | .send _ | .sinkCheckpoint _
  | .advance _ | .restart => isTrue trivial

def RowLe (b b' : Buffer) : Prop :=
  ∀ c, b.cursorRow = some c → ∃ c', b'.cursorRow = some c' ∧ c ≤ c'

theorem RowLe.refl (b : Buffer) : RowLe b b := fun c h => ⟨c, h, Nat.le_refl c⟩

theorem RowLe.trans {b b' b'' : Buffer} (h : RowLe b b') (h' : RowLe b' b'') : RowLe b b'' := by
  intro c hc
  obtain ⟨c', hc', hle⟩ := h c hc
  obtain ⟨c'', hc'', hle'⟩ := h' c' hc'
  exact ⟨c'', hc'', Nat.le_trans hle hle'⟩

theorem RowLe.of_eq {b b' : Buffer} (h : b'.cursorRow = b.cursorRow) : RowLe b b' := by
  intro c hc
  exact ⟨c, h.trans hc, Nat.le_refl c⟩

theorem RowLe.of_cursor_le {b b' : Buffer} {c : Nat} (hrow : b'.cursorRow = some c)
    (hle : b.cursor ≤ c) : RowLe b b' := by
  intro c' hc'
  have hcursor : b.cursor = c' := by rw [Buffer.cursor, hc']; rfl
  exact ⟨c, hrow, by omega⟩

structure Ahead (u : State) : Prop where
  inv : Inv u
  session : ∀ ses, u.session = some ses → u.buf.cursor ≤ ses.cursor

section Steps

variable {u v : State}

theorem cursor_eq (h : v.buf.cursorRow = u.buf.cursorRow) : v.buf.cursor = u.buf.cursor := by
  rw [Buffer.cursor, h]
  rfl

theorem ahead_of_leaves {batch : List SentFrame} {cursor : Nat} {pending : List StoredFrame}
    (hIv : Inv v) (hleaves : Leaves v.session batch cursor pending)
    (hrow : v.buf.cursorRow = u.buf.cursorRow) (hle : u.buf.cursor ≤ cursor) :
    Ahead v ∧ RowLe u.buf v.buf := by
  refine ⟨⟨hIv, ?_⟩, .of_eq hrow⟩
  intro ses hses
  rw [cursor_eq hrow, (hleaves ses hses).2.1]
  exact hle

theorem Ahead.sessionStep (hA : Ahead u) (hIv : Inv v) {ses : Session} {a : Action}
    (hses : u.session = some ses) (h : Outcome u ses v a) : Ahead v ∧ RowLe u.buf v.buf := by
  have hle := hA.session ses hses
  have hS := hA.inv.session ses hses
  cases h with
  | stays _ _ hleaves hsame => exact ahead_of_leaves hIv hleaves hsame.cursorRow hle
  | read _ hleaves hsame => exact ahead_of_leaves hIv hleaves hsame.cursorRow hle
  | sent sf rest hpc hleaves hsame =>
    have hahead := hS.progress.ahead
    rw [hpc] at hahead
    have hlt := hahead sf (List.mem_cons_self ..)
    exact ahead_of_leaves hIv hleaves hsame.cursorRow (by omega)
  | acked accepted ret hpc hleaves hsame =>
    rw [hS.newCursor_eq hpc accepted] at hleaves
    exact ahead_of_leaves hIv hleaves hsame.cursorRow hle
  | advanced newCursor ret hpc hleaves _ hrow =>
    -- `Advance` persists the cursor the session stands at
    have hpcok := hS.pc
    rw [PcOk, hpc] at hpcok
    rw [hpcok.1] at hrow
    refine ⟨⟨hIv, ?_⟩, .of_cursor_le hrow hle⟩
    intro ses' hses'
    rw [Buffer.cursor, hrow, (hleaves ses' hses').2.1]
    exact Nat.le_refl _

theorem Ahead.step (hA : Ahead u) {a : Action} (hstep : Meeting State.Steps ReadsCursor u a v) :
    Ahead v ∧ RowLe u.buf v.buf := by
  obtain ⟨hstep, hok⟩ := hstep
  have hIv := hA.inv.step hstep
  cases outcome_of_step hstep with
  | wrote f hses _ hrow =>
    refine ⟨⟨hIv, ?_⟩, .of_eq hrow⟩
    rw [hses, cursor_eq hrow]
    exact hA.session
  | failed f heq =>
    subst heq
    exact ⟨hA, .refl _⟩
  | started mode cursorOk hleaves hsame =>
    refine ahead_of_leaves hIv hleaves hsame.cursorRow ?_
    rcases hok with rfl | hzero
    · exact Nat.le_refl _
    · rw [hzero]
      exact Nat.zero_le _
  | restarted hses hsame =>
    refine ⟨⟨hIv, ?_⟩, .of_eq hsame.cursorRow⟩
    rw [hses]
    exact nofun
  | session _ ses _ hses hout => exact hA.sessionStep hIv hses hout

theorem ahead_of_run {capacity : Nat} {hcap : 0 < capacity} {checkpointSize : Int}
    {as : List Action}
    (hrun : Run (Meeting State.Steps ReadsCursor) (State.init capacity hcap checkpointSize) as u) :
    Ahead u :=
  hrun.invariant ⟨inv_init capacity hcap checkpointSize, nofun⟩
    fun _ _ _ hA hstep => (hA.step hstep).1

end Steps

/-- In every run of the uplink in which the cursor query of a starting session
    succeeds whenever the persisted cursor is not 0, the row of the cursor table
    never decreases and never goes away. -/
theorem cursor_never_decreases {capacity : Nat} {hcap : 0 < capacity} {checkpointSize : Int}
    {as bs : List Action} {u v : State}
    (hrun : Run (Meeting State.Steps ReadsCursor) (State.init capacity hcap checkpointSize) as u)
    (hmore : Run (Meeting State.Steps ReadsCursor) u bs v) :
    ∀ c, u.buf.cursorRow = some c → ∃ c', v.buf.cursorRow = some c' ∧ c ≤ c' := by
  have hle : Ahead v ∧ RowLe u.buf v.buf := by
    refine hmore.invariant (I := fun w => Ahead w ∧ RowLe u.buf w.buf)
      ⟨ahead_of_run hrun, .refl u.buf⟩ ?_
    intro s a t ⟨hA, hle⟩ hstep
    obtain ⟨hA', hle'⟩ := hA.step hstep
    exact ⟨hA', hle.trans hle'⟩
  exact hle.2

def deliverOne (cursorOk : Bool) : List Action :=
  [.start .run cursorOk, .wake, .readBatch true, .send true, .sinkCheckpoint (some 1),
    .advance true]

/-- Two sessions, the second after a restart, move the cursor to 1 and to 2. -/
theorem cursor_never_decreases_two_sessions :
    ∃ u v, Run (Meeting State.Steps ReadsCursor) (State.init 3 (by decide) 1)
        (.write sampleFrame true :: deliverOne true) u ∧
      Run (Meeting State.Steps ReadsCursor) u
        ([.write sampleFrame true, .restart] ++ deliverOne true) v ∧
      u.buf.cursorRow = some 1 ∧ v.buf.cursorRow = some 2 ∧
      ∃ c', v.buf.cursorRow = some c' ∧ 1 ≤ c' := by
  obtain ⟨u, v, hrun, hmore, hu, hv⟩ :
      ∃ u v, Run (Meeting State.Steps ReadsCursor) (State.init 3 (by decide) 1)
          (.write sampleFrame true :: deliverOne true) u ∧
        Run (Meeting State.Steps ReadsCursor) u
          ([.write sampleFrame true, .restart] ++ deliverOne true) v ∧
        u.buf.cursorRow = some 1 ∧ v.buf.cursorRow = some 2 :=
    ⟨_, _, Run.meeting_of_foldlM rfl, Run.meeting_of_foldlM rfl, rfl, rfl⟩
  exact ⟨u, v, hrun, hmore, hu, hv, cursor_never_decreases hrun hmore 1 hu⟩

/-- Two delivered rows, then a session whose cursor query fails: it starts from 0,
    sends row 1 again, and its checkpoint moves the cursor from 2 back to 1. -/
theorem cursor_decreases_after_failed_query :
    ∃ u v, Run State.Steps (State.init 3 (by decide) 1)
        ([.write sampleFrame true, .write sampleFrame true] ++ deliverOne true ++
          [.send true, .sinkCheckpoint (some 1), .advance true, .restart]) u ∧
      Run State.Steps u (deliverOne false) v ∧
      u.buf.cursorRow = some 2 ∧ v.buf.cursorRow = some 1 :=
  ⟨_, _, Run.of_foldlM rfl, Run.of_foldlM rfl, rfl, rfl⟩

end NexusGateway.Uplink
