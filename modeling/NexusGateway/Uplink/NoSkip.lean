/-
What the persisted cursor stands for.  A frame at or below it was part of an
acknowledged batch, or capacity eviction deleted it before the session that
moved the cursor past it came to read it.

The argument follows one session.  `Progress` accounts for every sequence
between where the session started and what it has read (its horizon): sent
and waiting in the batch, acknowledged, still to be sent, or evicted before
this session read past it.  Each call of the session keeps it, and so does
every write in between; when `Advance` succeeds the account is closed.
-/

import NexusGateway.Uplink.Forwarder

namespace NexusGateway.Uplink

open Lib
open StoreForward

/-! ## Reading the log -/

def Wrote (s : Nat) (log : List Event) : Prop := ∃ ev, .wrote s ev ∈ log

def Evicted (s : Nat) (log : List Event) : Prop := ∃ q ev, .wrote q ev ∈ log ∧ s ∈ ev

def Acked (s : Nat) (log : List Event) : Prop := ∃ n batch, .acked n batch ∈ log ∧ s ∈ batch

def Returned (n s : Nat) (log : List Event) : Prop :=
  ∃ after got, .read n after got ∈ log ∧ s ∈ got

def RanPast (after : Nat) (got : List Nat) (s : Nat) : Prop := after < s ∧ ∃ g ∈ got, s ≤ g

instance (after : Nat) (got : List Nat) (s : Nat) : Decidable (RanPast after got s) :=
  inferInstanceAs (Decidable (_ ∧ _))

/-- A write evicted row `s` before any `ReadBatch` of the sessions `who` that ran
    past it. -/
def EvictedUnread (who : Nat → Bool) (s : Nat) : List Event → Prop
  | [] => False
  | .wrote _ ev :: log => s ∈ ev ∨ EvictedUnread who s log
  | .read n after got :: log =>
    ¬ (who n = true ∧ RanPast after got s) ∧ EvictedUnread who s log
  | .acked .. :: log => EvictedUnread who s log
  | .advanced .. :: log => EvictedUnread who s log

instance (who : Nat → Bool) (s : Nat) : ∀ log, Decidable (EvictedUnread who s log)
  | [] => inferInstanceAs (Decidable False)
  | .wrote _ _ :: log =>
    have := instDecidableEvictedUnread who s log
    inferInstanceAs (Decidable (_ ∨ _))
  | .read .. :: log =>
    have := instDecidableEvictedUnread who s log
    inferInstanceAs (Decidable (_ ∧ _))
  | .acked .. :: log => instDecidableEvictedUnread who s log
  | .advanced .. :: log => instDecidableEvictedUnread who s log

/-- What the persisted cursor promises about row `s`: it was in an acknowledged
    batch, or it was evicted before any `ReadBatch` that ran past it of a session
    whose checkpoint moved the cursor past it. -/
def Accounted (s : Nat) (log : List Event) : Prop :=
  Acked s log ∨ ∃ n c, .advanced n c ∈ log ∧ s ≤ c ∧ EvictedUnread (· == n) s log

section Log

variable {s n : Nat} {log more : List Event}

theorem Wrote.append (h : Wrote s log) : Wrote s (log ++ more) :=
  h.imp fun _ hev => List.mem_append_left _ hev

theorem Wrote.of_append (h : Wrote s (log ++ more)) (hmore : ∀ ev, .wrote s ev ∉ more) :
    Wrote s log :=
  h.imp fun ev hev => (List.mem_append.mp hev).resolve_right (hmore ev)

theorem Evicted.append (h : Evicted s log) : Evicted s (log ++ more) :=
  h.imp fun _ h => h.imp fun _ h => ⟨List.mem_append_left _ h.1, h.2⟩

theorem Acked.append (h : Acked s log) : Acked s (log ++ more) :=
  h.imp fun _ h => h.imp fun _ h => ⟨List.mem_append_left _ h.1, h.2⟩

theorem Returned.append (h : Returned n s log) : Returned n s (log ++ more) :=
  h.imp fun _ h => h.imp fun _ h => ⟨List.mem_append_left _ h.1, h.2⟩

theorem EvictedUnread.append {who : Nat → Bool} (h : EvictedUnread who s log) :
    EvictedUnread who s (log ++ more) := by
  induction log with
  | nil => exact h.elim
  | cons e log ih =>
    cases e with
    | wrote q ev => exact h.imp_right ih
    | read m after got => exact ⟨h.1, ih h.2⟩
    | acked m batch | advanced m c => exact ih h

theorem Accounted.append (h : Accounted s log) : Accounted s (log ++ more) :=
  h.imp Acked.append fun ⟨m, c, hmem, hle, hev⟩ =>
    ⟨m, c, List.mem_append_left _ hmem, hle, hev.append⟩

theorem evictedUnread_of_evicted {who : Nat → Bool} (hev : Evicted s log)
    (hread : ∀ m after got, .read m after got ∈ log → who m = true → ¬ RanPast after got s) :
    EvictedUnread who s log := by
  induction log with
  | nil =>
    obtain ⟨q, ev, hmem, -⟩ := hev
    cases hmem
  | cons e log ih =>
    have hrest : ∀ m after got, Event.read m after got ∈ log → who m = true →
        ¬ RanPast after got s :=
      fun m after got h => hread m after got (List.mem_cons_of_mem e h)
    obtain ⟨q, ev, hmem, hs⟩ := hev
    rcases List.mem_cons.mp hmem with rfl | hmem
    · exact Or.inl hs
    · have hunread := ih ⟨q, ev, hmem, hs⟩ hrest
      cases e with
      | wrote q' ev' => exact Or.inr hunread
      | read m after got =>
        exact ⟨fun h => hread m after got (List.mem_cons_self ..) h.1 h.2, hunread⟩
      | acked m batch | advanced m c => exact hunread

end Log

/-! ## The account of a session -/

/-- How far a session has read: the last frame it still has to send, or its
    cursor. -/
def horizon (cursor : Nat) (pending : List StoredFrame) : Nat :=
  (pending.getLast?.map StoredFrame.seq).getD cursor

theorem horizon_cons (cursor : Nat) (sf : StoredFrame) (rest : List StoredFrame) :
    horizon cursor (sf :: rest) = horizon sf.seq rest := by
  cases rest with
  | nil | cons x rest => rfl

theorem le_horizon (cursor : Nat) {pending : List StoredFrame}
    (hsorted : pending.Pairwise fun f g => f.seq < g.seq) {f : StoredFrame} (hf : f ∈ pending) :
    f.seq ≤ horizon cursor pending := by
  induction pending generalizing cursor f with
  | nil => cases hf
  | cons sf rest ih =>
    obtain ⟨hhead, htail⟩ := List.pairwise_cons.mp hsorted
    rw [horizon_cons]
    cases rest with
    | nil => rw [List.mem_singleton.mp hf]; exact Nat.le_refl _
    | cons x rest =>
      rcases List.mem_cons.mp hf with rfl | hf
      · have hx := ih f.seq htail (List.mem_cons_self ..)
        have hlt := hhead x (List.mem_cons_self ..)
        omega
      · exact ih sf.seq htail hf

theorem cursor_le_horizon {cursor : Nat} {pending : List StoredFrame}
    (hahead : ∀ f ∈ pending, cursor < f.seq) : cursor ≤ horizon cursor pending := by
  unfold horizon
  cases hlast : pending.getLast? with
  | none => exact Nat.le_refl _
  | some g => exact Nat.le_of_lt (hahead g (List.mem_of_getLast? hlast))

theorem exists_le_of_le_horizon {cursor s : Nat} {pending : List StoredFrame} (hs : cursor < s)
    (hle : s ≤ horizon cursor pending) : ∃ g ∈ pending, s ≤ g.seq := by
  unfold horizon at hle
  cases hlast : pending.getLast? with
  | none =>
    rw [hlast] at hle
    simp only [Option.map_none, Option.getD_none] at hle
    omega
  | some g =>
    rw [hlast] at hle
    exact ⟨g, List.mem_of_getLast? hlast, hle⟩

/-- What is known about the sequences session `n` has gone over, from `start` to
    its horizon. -/
structure Progress (log : List Event) (table : FrameTable) (n start cursor : Nat)
    (batch : List Nat) (pending : List StoredFrame) : Prop where
  start_le : start ≤ cursor
  horizon_le : horizon cursor pending ≤ table.lastSeq
  base : ∀ s, s ≤ start → Wrote s log → Accounted s log
  sent : ∀ s, start < s → s ≤ cursor → Wrote s log →
    Acked s log ∨ s ∈ batch ∨ EvictedUnread (· == n) s log
  sorted : pending.Pairwise fun f g => f.seq < g.seq
  ahead : ∀ f ∈ pending, cursor < f.seq
  unsent : ∀ s, cursor < s → s ≤ horizon cursor pending → Wrote s log →
    s ∈ pending.map StoredFrame.seq ∨ EvictedUnread (· == n) s log
  reads : ∀ after got, .read n after got ∈ log → ∀ g ∈ got, g ≤ horizon cursor pending
  returned : ∀ f ∈ table.rows, start < f.seq → f.seq ≤ horizon cursor pending →
    Returned n f.seq log
  last : batch ≠ [] → batch.getLast? = some cursor

def TableAccount (log : List Event) (table : FrameTable) : Prop :=
  ∀ s, Wrote s log → s ≤ table.lastSeq ∧ ((∃ f ∈ table.rows, f.seq = s) ∨ Evicted s log)

section Progress

variable {log : List Event} {table : FrameTable} {n start cursor : Nat} {batch : List Nat}
  {pending : List StoredFrame}

theorem Progress.new (hle : start ≤ table.lastSeq)
    (hbase : ∀ s, s ≤ start → Wrote s log → Accounted s log)
    (hreads : ∀ after got, .read n after got ∉ log) :
    Progress log table n start start [] [] where
  start_le := Nat.le_refl _
  horizon_le := hle
  base := hbase
  sent s hlo hhi _ := by omega
  sorted := .nil
  ahead f hf := by cases hf
  unsent s hlo hhi _ := by
    have hhi' : s ≤ start := hhi
    omega
  reads after got hmem := absurd hmem (hreads after got)
  returned f _ hlo hhi := by
    have hhi' : f.seq ≤ start := hhi
    omega
  last h := absurd rfl h

theorem Progress.read (h : Progress log table n start cursor batch [])
    (htable : TableAccount log table) (limit : Nat) :
    Progress (log ++ [.read n cursor ((table.select cursor limit).map StoredFrame.seq)]) table n
      start cursor batch (table.select cursor limit) := by
  have hsorted := table.sorted_select cursor limit
  have hwrote : ∀ s, Wrote s (log ++ [.read n cursor ((table.select cursor limit).map
      StoredFrame.seq)]) → Wrote s log := by
    intro s hs
    exact hs.of_append (by simp)
  have hselect : ∀ f ∈ table.rows, cursor < f.seq →
      f.seq ≤ horizon cursor (table.select cursor limit) → f ∈ table.select cursor limit := by
    intro f hf hlo hhi
    obtain ⟨g, hg, hle⟩ := exists_le_of_le_horizon hlo hhi
    exact FrameTable.mem_select_of_le hf hlo hg hle
  refine ⟨h.start_le, ?_, fun s hs hw => (h.base s hs (hwrote s hw)).append, ?_, hsorted,
    fun f hf => (FrameTable.mem_of_mem_select hf).2, ?_, ?_, ?_, h.last⟩
  · cases hlast : (table.select cursor limit).getLast? with
    | none =>
      rw [horizon, hlast]
      exact h.horizon_le
    | some g =>
      rw [horizon, hlast]
      exact table.le_last g (FrameTable.mem_of_mem_select (List.mem_of_getLast? hlast)).1
  · intro s hlo hhi hw
    exact (h.sent s hlo hhi (hwrote s hw)).imp Acked.append (Or.imp_right EvictedUnread.append)
  · intro s hlo hhi hw
    rcases (htable s (hwrote s hw)).2 with ⟨f, hf, rfl⟩ | hev
    · exact Or.inl (List.mem_map_of_mem (hselect f hf hlo hhi))
    · refine Or.inr (EvictedUnread.append (evictedUnread_of_evicted hev ?_))
      intro m after got hmem hm hpast
      obtain ⟨-, g, hg, hle⟩ := hpast
      have hgot : g ≤ cursor := h.reads after got (eq_of_beq hm ▸ hmem) g hg
      omega
  · intro after got hmem g hg
    rcases List.mem_append.mp hmem with hmem | hmem
    · have hgot : g ≤ cursor := h.reads after got hmem g hg
      exact Nat.le_trans hgot (cursor_le_horizon fun f hf => (FrameTable.mem_of_mem_select hf).2)
    · cases List.mem_singleton.mp hmem
      obtain ⟨f, hf, rfl⟩ := List.mem_map.mp hg
      exact le_horizon cursor hsorted hf
  · intro f hf hlo hhi
    by_cases hc : f.seq ≤ cursor
    · exact (h.returned f hf hlo hc).append
    · exact ⟨cursor, _, List.mem_append_right _ (List.mem_singleton_self _),
        List.mem_map_of_mem (hselect f hf (by omega) hhi)⟩

theorem Progress.send {sf : StoredFrame} {rest : List StoredFrame}
    (h : Progress log table n start cursor batch (sf :: rest)) :
    Progress log table n start sf.seq (batch ++ [sf.seq]) rest := by
  obtain ⟨hhead, htail⟩ := List.pairwise_cons.mp h.sorted
  have hsf := h.ahead sf (List.mem_cons_self ..)
  have hhor := horizon_cons cursor sf rest
  have hsfhor : sf.seq ≤ horizon sf.seq rest := cursor_le_horizon hhead
  have hstart := h.start_le
  refine ⟨by omega, hhor ▸ h.horizon_le, h.base, ?_, htail, hhead, ?_, hhor ▸ h.reads,
    hhor ▸ h.returned, fun _ => List.getLast?_concat⟩
  · intro s hlo hhi hw
    by_cases hc : s ≤ cursor
    · exact (h.sent s hlo hc hw).imp_right (Or.imp_left (List.mem_append_left _))
    · -- between the old cursor and the frame: the frame itself, or evicted
      refine Or.inr ?_
      rcases h.unsent s (by omega) (by omega) hw with hmem | hev
      · obtain ⟨f, hf, rfl⟩ := List.mem_map.mp hmem
        rcases List.mem_cons.mp hf with rfl | hf
        · exact Or.inl (List.mem_append_right _ (List.mem_singleton_self _))
        · have hlt := hhead f hf
          omega
      · exact Or.inr hev
  · intro s hlo hhi hw
    rcases h.unsent s (by omega) (hhor ▸ hhi) hw with hmem | hev
    · rcases List.mem_cons.mp hmem with rfl | hmem
      · omega
      · exact Or.inl hmem
    · exact Or.inr hev

theorem Progress.append (h : Progress log table n start cursor batch pending)
    {more : List Event} (hwrote : ∀ q ev, .wrote q ev ∉ more)
    (hread : ∀ after got, .read n after got ∉ more) :
    Progress (log ++ more) table n start cursor batch pending := by
  have hw : ∀ s, Wrote s (log ++ more) → Wrote s log := by
    intro s hs
    exact hs.of_append (hwrote s)
  refine ⟨h.start_le, h.horizon_le, fun s hs hs' => (h.base s hs (hw s hs')).append, ?_, h.sorted,
    h.ahead, ?_, ?_, fun f hf hlo hhi => (h.returned f hf hlo hhi).append, h.last⟩
  · intro s hlo hhi hs
    exact (h.sent s hlo hhi (hw s hs)).imp Acked.append (Or.imp_right EvictedUnread.append)
  · intro s hlo hhi hs
    exact (h.unsent s hlo hhi (hw s hs)).imp_right EvictedUnread.append
  · intro after got hmem
    exact h.reads after got ((List.mem_append.mp hmem).resolve_right (hread after got))

theorem Progress.write (h : Progress log table n start cursor batch pending)
    (capacity : Nat) (f : TelemetryFrame) :
    Progress (log ++ [.wrote (table.lastSeq + 1) (table.evicted capacity f)])
      (table.push capacity f) n start cursor batch pending := by
  have hhor := h.horizon_le
  have hcur := cursor_le_horizon h.ahead
  have hstart := h.start_le
  have hw : ∀ s, s ≤ table.lastSeq →
      Wrote s (log ++ [.wrote (table.lastSeq + 1) (table.evicted capacity f)]) → Wrote s log := by
    intro s hs hw
    refine hw.of_append fun ev hev => ?_
    rw [List.mem_singleton, Event.wrote.injEq] at hev
    omega
  refine ⟨h.start_le, Nat.le_succ_of_le hhor,
    fun s hs hs' => (h.base s hs (hw s (by omega) hs')).append, ?_, h.sorted, h.ahead, ?_, ?_, ?_,
    h.last⟩
  · intro s hlo hhi hs
    exact (h.sent s hlo hhi (hw s (by omega) hs)).imp Acked.append
      (Or.imp_right EvictedUnread.append)
  · intro s hlo hhi hs
    exact (h.unsent s hlo hhi (hw s (by omega) hs)).imp_right EvictedUnread.append
  · intro after got hmem
    refine h.reads after got ((List.mem_append.mp hmem).resolve_right fun hmem => ?_)
    cases List.mem_singleton.mp hmem
  · intro g hg hlo hhi
    rcases FrameTable.mem_of_mem_push hg with hg | hg
    · exact (h.returned g hg hlo hhi).append
    · omega

theorem Progress.accounted (h : Progress log table n start cursor batch pending)
    (hack : .acked n batch ∈ log) (hadv : .advanced n cursor ∈ log) {s : Nat} (hs : s ≤ cursor)
    (hw : Wrote s log) : Accounted s log := by
  by_cases hstart : s ≤ start
  · exact h.base s hstart hw
  · rcases h.sent s (by omega) hs hw with hacked | hbatch | hev
    · exact Or.inl hacked
    · exact Or.inl ⟨n, batch, hack, hbatch⟩
    · exact Or.inr ⟨n, cursor, hadv, hs, hev⟩

theorem Progress.clearBatch (h : Progress log table n start cursor batch pending)
    (hack : .acked n batch ∈ log) : Progress log table n start cursor [] pending := by
  refine { h with sent := fun s hlo hhi hw => ?_, last := fun hne => absurd rfl hne }
  rcases h.sent s hlo hhi hw with hacked | hbatch | hev
  · exact Or.inl hacked
  · exact Or.inl ⟨n, batch, hack, hbatch⟩
  · exact Or.inr (Or.inr hev)

end Progress

/-! ## The invariant of the uplink -/

def Return.pending : Return → List StoredFrame
  | .sending rest => rest
  | _ => []

def PC.pending : PC → List StoredFrame
  | .sending frames => frames
  | .sinkCheckpoint ret => ret.pending
  | .advance _ ret => ret.pending
  | _ => []

/-- Inside `checkpoint` the batch is not empty, and at `Advance` it has been
    acknowledged up to the cursor. -/
def PcOk (log : List Event) (ses : Session) : Prop :=
  match ses.pc with
  | .sinkCheckpoint _ => ses.batch ≠ []
  | .advance newCursor _ =>
    newCursor = ses.cursor ∧ .acked ses.id (ses.batch.map SentFrame.seq) ∈ log
  | _ => True

structure Account (u : State) (ses : Session) (pending : List StoredFrame) : Prop where
  progress : Progress u.log u.buf.frames ses.id ses.start ses.cursor
    (ses.batch.map SentFrame.seq) pending
  fixed : ses.start ≤ ses.persisted ∧ ses.id < u.next

structure SessionInv (u : State) (ses : Session) : Prop extends Account u ses ses.pc.pending where
  pc : PcOk u.log ses

structure Inv (u : State) : Prop where
  table : TableAccount u.log u.buf.frames
  cursor_le : u.buf.cursor ≤ u.buf.frames.lastSeq
  accounted : ∀ s, s ≤ u.buf.cursor → Wrote s u.log → Accounted s u.log
  reads_lt : ∀ n after got, .read n after got ∈ u.log → n < u.next
  session : ∀ ses, u.session = some ses → SessionInv u ses

theorem inv_init (capacity : Nat) (hcap : 0 < capacity) (checkpointSize : Int) :
    Inv (State.init capacity hcap checkpointSize) where
  table := by
    rintro s ⟨ev, hev⟩
    cases hev
  cursor_le := Nat.le_refl 0
  accounted := by
    rintro s - ⟨ev, hev⟩
    cases hev
  reads_lt n after got hmem := by cases hmem
  session ses hses := by cases hses

section Resume

variable {u : State} {ses ses' : Session} {ret : Return}

theorem pending_loop (ses : Session) (rest : List StoredFrame) :
    (ses.loop rest).pc.pending = rest := by
  cases rest <;> rfl

theorem Account.loop {rest : List StoredFrame} (h : Account u ses rest) :
    SessionInv u (ses.loop rest) := by
  refine ⟨?_, ?_⟩
  · rw [pending_loop]
    exact { h with }
  · cases rest <;> trivial

theorem Account.resume (h : Account u ses ret.pending) (hses : ses.resume ret = some ses') :
    SessionInv u ses' := by
  cases ret with
  | select =>
    cases hses
    exact ⟨{ h with }, trivial⟩
  | sending rest =>
    cases hses
    exact h.loop
  | done => cases hses

theorem Account.checkpoint (h : Account u ses ret.pending)
    (hses : ses.checkpoint ret = some ses') : SessionInv u ses' := by
  rw [Session.checkpoint] at hses
  split at hses
  · exact h.resume hses
  · next hne =>
    cases hses
    exact ⟨{ h with }, by simpa [PcOk] using hne⟩

theorem Account.drained (h : Account u ses []) (hses : ses.drained = some ses') :
    SessionInv u ses' := by
  rw [Session.drained] at hses
  split at hses
  · cases hses
    exact ⟨{ h with }, trivial⟩
  · exact h.checkpoint hses

end Resume

theorem recordAck_frames (b : Buffer) (batch : List SentFrame) (accepted : Int64) :
    (State.recordAck b batch accepted).frames = b.frames ∧
      (State.recordAck b batch accepted).cursorRow = b.cursorRow := by
  have hfold : ∀ (es : List (Sigma fun _ : String => Nat)) (b : Buffer),
      (es.foldl (fun b e => b.recordDrift e.1 e.2) b).frames = b.frames ∧
        (es.foldl (fun b e => b.recordDrift e.1 e.2) b).cursorRow = b.cursorRow := by
    intro es
    induction es with
    | nil => exact fun _ => ⟨rfl, rfl⟩
    | cons e es ih => exact fun b => ih (b.recordDrift e.1 e.2)
  exact hfold _ _

/-! ## Steps -/

section Steps

variable {u v : State} {ses : Session}

theorem Inv.setSession (hI : Inv u) {b : Buffer} {o : Option Session}
    (hf : b.frames = u.buf.frames) (hc : b.cursorRow = u.buf.cursorRow)
    (ho : ∀ ses, o = some ses → SessionInv u ses) : Inv { u with buf := b, session := o } where
  table := by
    rw [hf]
    exact hI.table
  cursor_le := by
    rw [hf, Buffer.cursor, hc]
    exact hI.cursor_le
  accounted := by
    rw [Buffer.cursor, hc]
    exact hI.accounted
  reads_lt := hI.reads_lt
  session ses hses := by
    have hS := ho ses hses
    exact ⟨⟨by rw [hf]; exact hS.progress, hS.fixed⟩, hS.pc⟩

theorem PcOk.append {log more : List Event} (h : PcOk log ses) : PcOk (log ++ more) ses := by
  unfold PcOk at h ⊢
  split
  · next hpc => rwa [hpc] at h
  · next hpc =>
    rw [hpc] at h
    exact ⟨h.1, List.mem_append_left _ h.2⟩
  · trivial

theorem TableAccount.write {log : List Event} {table : FrameTable}
    (h : TableAccount log table) (capacity : Nat) (f : TelemetryFrame) :
    TableAccount (log ++ [.wrote (table.lastSeq + 1) (table.evicted capacity f)])
      (table.push capacity f) := by
  have hrow : ∀ g ∈ (table.insert f).rows, (∃ g' ∈ (table.push capacity f).rows, g'.seq = g.seq) ∨
      Evicted g.seq (log ++ [.wrote (table.lastSeq + 1) (table.evicted capacity f)]) := by
    intro g hg
    rcases FrameTable.mem_push_or_evicted hg with hg | hg
    · exact Or.inl ⟨g, hg, rfl⟩
    · exact Or.inr ⟨_, _, List.mem_append_right _ (List.mem_singleton_self _), hg⟩
  rintro s ⟨ev, hev⟩
  rcases List.mem_append.mp hev with hev | hev
  · obtain ⟨hle, hplace⟩ := h s ⟨ev, hev⟩
    refine ⟨Nat.le_succ_of_le hle, ?_⟩
    rcases hplace with ⟨g, hg, rfl⟩ | hgone
    · exact hrow g (List.mem_append_left _ hg)
    · exact Or.inr hgone.append
  · rw [List.mem_singleton, Event.wrote.injEq] at hev
    obtain ⟨rfl, -⟩ := hev
    exact ⟨Nat.le_refl _, hrow ⟨table.lastSeq + 1, f⟩
      (List.mem_append_right _ (List.mem_singleton_self _))⟩

theorem Inv.write (hI : Inv u) (f : TelemetryFrame) :
    Inv { u with
      buf := u.buf.write f
      log := u.log ++ [.wrote (u.buf.frames.lastSeq + 1)
        (u.buf.frames.evicted u.buf.capacity f)] } where
  table := hI.table.write u.buf.capacity f
  cursor_le := Nat.le_succ_of_le hI.cursor_le
  accounted s hs hw := by
    obtain ⟨ev, hev⟩ := hw
    rcases List.mem_append.mp hev with hev | hev
    · exact (hI.accounted s hs ⟨ev, hev⟩).append
    · rw [List.mem_singleton, Event.wrote.injEq] at hev
      have hle : s ≤ u.buf.frames.lastSeq := Nat.le_trans hs hI.cursor_le
      omega
  reads_lt n after got hmem := by
    rcases List.mem_append.mp hmem with hmem | hmem
    · exact hI.reads_lt n after got hmem
    · cases List.mem_singleton.mp hmem
  session ses hses := by
    have hS := hI.session ses hses
    exact ⟨⟨hS.progress.write u.buf.capacity f, hS.fixed⟩, hS.pc.append⟩

theorem Inv.start (hI : Inv u) (mode : Mode) (cursorOk : Bool) :
    Inv { u with session := some (u.newSession mode cursorOk), next := u.next + 1 } where
  table := hI.table
  cursor_le := hI.cursor_le
  accounted := hI.accounted
  reads_lt n after got hmem := Nat.lt_succ_of_lt (hI.reads_lt n after got hmem)
  session ses hses := by
    rw [Option.some.injEq] at hses
    subst hses
    have hstart : (u.newSession mode cursorOk).start ≤ u.buf.cursor := by
      cases cursorOk with
      | true => exact Nat.le_refl _
      | false => exact Nat.zero_le _
    have hpending : (u.newSession mode cursorOk).pc.pending = [] := by cases mode <;> rfl
    refine ⟨⟨?_, hstart, Nat.lt_succ_self _⟩, by cases mode <;> trivial⟩
    rw [hpending]
    refine Progress.new (Nat.le_trans hstart hI.cursor_le)
      (fun s hs => hI.accounted s (Nat.le_trans hs hstart)) fun after got hmem => ?_
    exact Nat.lt_irrefl _ (hI.reads_lt _ after got hmem)

theorem Inv.setLog (hI : Inv u) {b : Buffer} {o : Option Session} {e : Event}
    (hf : b.frames = u.buf.frames) (hcur : b.cursor ≤ b.frames.lastSeq)
    (hwrote : ∀ q ev, .wrote q ev ≠ e) (hread : ∀ n after got, .read n after got = e → n < u.next)
    (hacc : ∀ s, s ≤ b.cursor → Wrote s u.log → Accounted s (u.log ++ [e]))
    (ho : ∀ ses, o = some ses →
      SessionInv { u with buf := b, session := o, log := u.log ++ [e] } ses) :
    Inv { u with buf := b, session := o, log := u.log ++ [e] } := by
  have hw : ∀ s, Wrote s (u.log ++ [e]) → Wrote s u.log := by
    intro s hs
    exact hs.of_append fun ev hev => hwrote s ev (List.mem_singleton.mp hev)
  refine ⟨fun s hs => ?_, hcur, fun s hs hs' => hacc s hs (hw s hs'),
    fun n after got hmem => ?_, ho⟩
  · rw [hf]
    obtain ⟨hle, hplace⟩ := hI.table s (hw s hs)
    exact ⟨hle, hplace.imp_right Evicted.append⟩
  · rcases List.mem_append.mp hmem with hmem | hmem
    · exact hI.reads_lt n after got hmem
    · exact hread n after got (List.mem_singleton.mp hmem)

theorem Inv.read (hI : Inv u) (hses : u.session = some ses) (hpc : ses.pc = .readBatch) :
    Inv { u with
      session := if (u.buf.readBatch ses.cursor 32).isEmpty then ses.drained
        else some (ses.loop (u.buf.readBatch ses.cursor 32))
      log := u.log ++ [.read ses.id ses.cursor
        ((u.buf.readBatch ses.cursor 32).map StoredFrame.seq)] } := by
  have hS := (hI.session ses hses).toAccount
  rw [hpc] at hS
  have hread := hS.progress.read hI.table 32
  refine hI.setLog (b := u.buf) rfl hI.cursor_le nofun ?_ ?_ fun ses' hses' => ?_
  · rintro _ _ _ ⟨⟩
    exact hS.fixed.2
  · exact fun s hs hw => (hI.accounted s hs hw).append
  · split at hses'
    · next hempty =>
      have hnil : u.buf.frames.select ses.cursor 32 = [] := List.isEmpty_iff.mp hempty
      rw [hnil] at hread
      exact Account.drained ⟨hnil ▸ hread, hS.fixed⟩ hses'
    · cases hses'
      exact Account.loop ⟨hread, hS.fixed⟩

theorem Inv.sent (hI : Inv u) (hses : u.session = some ses) {sf : StoredFrame}
    {rest : List StoredFrame} (hpc : ses.pc = .sending (sf :: rest)) :
    Inv { u with session := u.sent ses sf rest } := by
  have hS := (hI.session ses hses).toAccount
  rw [hpc] at hS
  have hbatch : (ses.addSent sf).batch.map SentFrame.seq
      = ses.batch.map SentFrame.seq ++ [sf.seq] := List.map_append
  have hsend : Account u (ses.addSent sf) rest := ⟨hbatch ▸ hS.progress.send, hS.fixed⟩
  refine hI.setSession rfl rfl fun ses' hses' => ?_
  rw [State.sent] at hses'
  split at hses'
  · exact hsend.checkpoint hses'
  · cases hses'
    exact hsend.loop

theorem SessionInv.newCursor_eq (hS : SessionInv u ses) {ret : Return}
    (hpc : ses.pc = .sinkCheckpoint ret) (accepted : Int64) :
    (applyAck ses.batch accepted).1 = ses.cursor := by
  have hne := hS.pc
  rw [PcOk, hpc] at hne
  have hlast := hS.progress.last (by simpa using hne)
  rw [List.getLast?_map] at hlast
  rw [applyAck_fst, hlast]
  rfl

theorem Inv.sinkCheckpoint (hI : Inv u) (hses : u.session = some ses) {ret : Return}
    (hpc : ses.pc = .sinkCheckpoint ret) (accepted : Int64) :
    Inv { u with
      buf := State.recordAck u.buf ses.batch accepted
      session := some { ses with
        cursor := (applyAck ses.batch accepted).1
        pc := .advance (applyAck ses.batch accepted).1 ret }
      log := u.log ++ [.acked ses.id (ses.batch.map SentFrame.seq)] } := by
  have hS := hI.session ses hses
  have hprog := hS.progress
  rw [hpc] at hprog
  obtain ⟨hframes, hrow⟩ := recordAck_frames u.buf ses.batch accepted
  have hcur : (State.recordAck u.buf ses.batch accepted).cursor = u.buf.cursor := by
    rw [Buffer.cursor, hrow]
    rfl
  have hnew := hS.newCursor_eq hpc accepted
  refine hI.setLog hframes ?_ nofun nofun ?_ fun ses' hses' => ?_
  · rw [hcur, hframes]
    exact hI.cursor_le
  · rw [hcur]
    exact fun s hs hw => (hI.accounted s hs hw).append
  · rw [Option.some.injEq] at hses'
    subst hses'
    refine ⟨⟨?_, hS.fixed⟩, rfl, List.mem_append_right _ (List.mem_singleton_self _)⟩
    rw [hframes, hnew]
    exact hprog.append (by simp) (by simp)

theorem Inv.advance (hI : Inv u) (hses : u.session = some ses) {newCursor : Nat} {ret : Return}
    (hpc : ses.pc = .advance newCursor ret) :
    Inv { u with
      buf := u.buf.advance newCursor
      session := { ses with batch := [] }.resume ret
      log := u.log ++ [.advanced ses.id newCursor] } := by
  have hS := hI.session ses hses
  have hprog := hS.progress
  have hok := hS.pc
  rw [PcOk, hpc] at hok
  rw [hpc] at hprog
  obtain ⟨rfl, hack⟩ := hok
  have hprog' : Progress (u.log ++ [.advanced ses.id ses.cursor]) _ _ _ _ _ _ :=
    hprog.append (by simp) (by simp)
  have hack' := List.mem_append_left [Event.advanced ses.id ses.cursor] hack
  refine hI.setLog rfl ?_ nofun nofun ?_ fun ses' hses' => ?_
  · exact Nat.le_trans (cursor_le_horizon hprog.ahead) hprog.horizon_le
  · intro s hs hw
    exact hprog'.accounted hack' (List.mem_append_right _ (List.mem_singleton_self _)) hs hw.append
  · refine Account.resume ?_ hses'
    exact ⟨hprog'.clearBatch hack', hS.fixed⟩

theorem Inv.sessionStep (hI : Inv u) (hses : u.session = some ses) {a : Action}
    (hstep : u.sessionStep ses a = some v) : Inv v := by
  have hS := (hI.session ses hses).toAccount
  revert hstep
  fun_cases State.sessionStep with
  | case1 hpc =>
    rintro ⟨⟩
    exact hI.setSession rfl rfl (by simp)
  | case3 hpc =>
    -- the checkpoint ticker
    rintro ⟨⟩
    rw [hpc] at hS
    exact hI.setSession rfl rfl fun ses' h => hS.checkpoint h
  | case5 hpc =>
    -- woken up
    rintro ⟨⟩
    rw [hpc] at hS
    refine hI.setSession rfl rfl ?_
    rintro _ ⟨⟩
    exact ⟨{ hS with }, trivial⟩
  | case7 hpc =>
    rintro ⟨⟩
    exact hI.read hses hpc
  | case8 ok hpc =>
    -- `ReadBatch` fails
    rintro ⟨⟩
    rw [hpc] at hS
    exact hI.setSession rfl rfl fun ses' h => hS.drained h
  | case10 sf rest hpc =>
    rintro ⟨⟩
    exact hI.sent hses hpc
  | case11 | case13 | case17 =>
    -- a call of the stream or of the Buffer fails
    rintro ⟨⟩
    exact hI.setSession rfl rfl (by simp)
  | case14 ret hpc accepted =>
    rintro ⟨⟩
    exact hI.sinkCheckpoint hses hpc accepted
  | case16 newCursor ret hpc =>
    rintro ⟨⟩
    exact hI.advance hses hpc
  | case2 | case4 | case6 | case9 | case12 | case15 | case18 | case19 => rintro ⟨⟩

theorem Inv.step (hI : Inv u) {a : Action} (hstep : State.Steps u a v) : Inv v := by
  unfold State.Steps at hstep
  revert hstep
  fun_cases State.step with
  | case1 f =>
    rintro ⟨⟩
    exact hI.write f
  | case2 =>
    -- the write fails
    rintro ⟨⟩
    exact hI
  | case4 mode cursorOk =>
    rintro ⟨⟩
    exact hI.start mode cursorOk
  | case5 =>
    -- the process restarts
    rintro ⟨⟩
    exact hI.setSession rfl rfl (by simp)
  | case7 a hwrite hstart hrestart ses hses => exact hI.sessionStep hses
  | case3 | case6 => rintro ⟨⟩

theorem inv_of_run {capacity : Nat} {hcap : 0 < capacity} {checkpointSize : Int}
    {as : List Action} (hrun : Run State.Steps (State.init capacity hcap checkpointSize) as u) :
    Inv u :=
  hrun.invariant (inv_init capacity hcap checkpointSize) fun _ _ _ hI hstep => hI.step hstep

/-- When `ReadBatch` finds nothing more, this session has returned every row past
    the cursor that was persisted when it started. -/
theorem Inv.returned_of_drained (hI : Inv u) (hses : u.session = some ses)
    (hpc : ses.pc = .readBatch) (hempty : u.buf.readBatch ses.cursor 32 = []) {f : StoredFrame}
    (hf : f ∈ u.buf.frames.rows) (hlt : ses.persisted < f.seq) : Returned ses.id f.seq u.log := by
  have hS := hI.session ses hses
  have hprog := hS.progress
  rw [hpc] at hprog
  have hle := FrameTable.le_of_select_eq_nil (by decide) hempty hf
  exact hprog.returned f hf (Nat.lt_of_le_of_lt hS.fixed.1 hlt) hle

end Steps

end NexusGateway.Uplink
