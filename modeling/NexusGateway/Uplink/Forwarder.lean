/-
`internal/uplink/forwarder.go`: the store-and-forward delivery policy.  A
session reads frames past its own cursor, sends them one at a time, and on
every `CheckpointSize` frames or on a tick half-closes the batch; an
acknowledged batch moves the persisted cursor past all of it.

The session's code is cut at the calls that leave it — `ReadBatch`, `Send`,
the sink's `Checkpoint`, `Advance` — because each of them can fail and the
Pump can write between any two of them.  `PC` is the call the session makes
next.  Sessions follow one another (`Ingress.Run` starts the next when one
ends, and a `DrainOnce` on shutdown); a process restart ends one anywhere.

The log records the calls that matter for what was delivered.  Left out is
the connection-state metric.
-/

import NexusGateway.Lib.Run
import NexusGateway.StoreForward.Buffer

namespace NexusGateway.Uplink

open Lib
open StoreForward

/-! ## Sessions -/

/-- Where `checkpoint` was called from, with the frames the sending loop still
    has to send. -/
inductive Return where
  | select
  | sending (rest : List StoredFrame)
  | done

inductive PC where
  /-- `Run` waits in its `select` -/
  | select
  | readBatch
  /-- `drain` is about to send the first of these frames -/
  | sending (frames : List StoredFrame)
  | sinkCheckpoint (ret : Return)
  | advance (newCursor : Nat) (ret : Return)

inductive Mode where
  | run
  | drainOnce
deriving DecidableEq, Repr

/-- `forwardSession` and where it stands.  `id` numbers the sessions; `start` is
    what `newSession` read, and `persisted` what was persisted then. -/
structure Session where
  id : Nat
  mode : Mode
  start : Nat
  persisted : Nat
  cursor : Nat
  batch : List SentFrame
  pc : PC

namespace Session

def addSent (ses : Session) (sf : StoredFrame) : Session :=
  { ses with batch := ses.batch ++ [⟨sf.seq, sf.frame.pointId⟩], cursor := sf.seq }

/-- The next turn of the sending loop, or of `drain` when the loop is done. -/
def loop (ses : Session) (rest : List StoredFrame) : Session :=
  { ses with pc := if rest.isEmpty then .readBatch else .sending rest }

/-- `checkpoint` returned nil; `none` when the session is over. -/
def resume (ses : Session) : Return → Option Session
  | .select => some { ses with pc := .select }
  | .sending rest => some (ses.loop rest)
  | .done => none

/-- Entering `checkpoint`: nothing to do for an empty batch. -/
def checkpoint (ses : Session) (ret : Return) : Option Session :=
  if ses.batch.isEmpty then ses.resume ret else some { ses with pc := .sinkCheckpoint ret }

/-- `drain` returned nil: `Run` selects again, `DrainOnce` checkpoints. -/
def drained (ses : Session) : Option Session :=
  match ses.mode with
  | .run => some { ses with pc := .select }
  | .drainOnce => ses.checkpoint .done

end Session

/-! ## The uplink -/

inductive Event where
  /-- `Write` committed row `seq` and evicted these -/
  | wrote (seq : Nat) (evicted : List Nat)
  | read (session after : Nat) (got : List Nat)
  /-- the sink's `Checkpoint` returned without error for this batch -/
  | acked (session : Nat) (batch : List Nat)
  | advanced (session cursor : Nat)
deriving DecidableEq, Repr

/-- The clamped configuration, the Buffer, the session if one is running, the
    number of the next session, and the log, oldest first. -/
structure State where
  checkpointSize : Nat
  buf : Buffer
  session : Option Session
  next : Nat
  log : List Event

inductive Action where
  | write (f : TelemetryFrame) (ok : Bool)
  | start (mode : Mode) (cursorOk : Bool)
  /-- `ctx` is cancelled while `Run` selects -/
  | cancel
  /-- the checkpoint ticker fires -/
  | tick
  /-- a write signal or the backstop ticker -/
  | wake
  | readBatch (ok : Bool)
  | send (ok : Bool)
  | sinkCheckpoint (accepted : Option Int64)
  | advance (ok : Bool)
  | restart

namespace State

/-- `NewForwarder`'s clamp of `CheckpointSize`. -/
def clampCheckpointSize (size : Int) : Nat := if size ≤ 0 then 1000 else size.toNat

def init (capacity : Nat) (hcap : 0 < capacity) (checkpointSize : Int) : State :=
  { checkpointSize := clampCheckpointSize checkpointSize
    buf := { capacity := capacity, capacity_pos := hcap, frames := .empty, cursorRow := none }
    session := none
    next := 0
    log := [] }

/-- `newSession`; the cursor reads as 0 when the query fails. -/
def newSession (u : State) (mode : Mode) (cursorOk : Bool) : Session :=
  { id := u.next
    mode := mode
    start := if cursorOk then u.buf.cursor else 0
    persisted := u.buf.cursor
    cursor := if cursorOk then u.buf.cursor else 0
    batch := []
    pc := match mode with
      | .run => .select
      | .drainOnce => .readBatch }

def sent (u : State) (ses : Session) (sf : StoredFrame) (rest : List StoredFrame) :
    Option Session :=
  let ses := ses.addSent sf
  if u.checkpointSize ≤ ses.batch.length then ses.checkpoint (.sending rest)
  else some (ses.loop rest)

def recordAck (b : Buffer) (batch : List SentFrame) (accepted : Int64) : Buffer :=
  let b := ((b.recordSent batch.length).recordAccepted accepted).recordCheckpoint
  (applyAck batch accepted).2.entries.foldl (fun b e => b.recordDrift e.1 e.2) b

/-- One step of a running session; `none` when the action is not its next call. -/
def sessionStep (u : State) (ses : Session) : Action → Option State
  | .cancel =>
    match ses.pc with
    | .select => some { u with session := none }
    | _ => none
  | .tick =>
    match ses.pc with
    | .select => some { u with session := ses.checkpoint .select }
    | _ => none
  | .wake =>
    match ses.pc with
    | .select => some { u with session := some { ses with pc := .readBatch } }
    | _ => none
  | .readBatch ok =>
    match ses.pc with
    | .readBatch =>
      if ok then
        let frames := u.buf.readBatch ses.cursor 32
        some { u with
          session := if frames.isEmpty then ses.drained else some (ses.loop frames)
          log := u.log ++ [.read ses.id ses.cursor (frames.map StoredFrame.seq)] }
      else some { u with session := ses.drained }
    | _ => none
  | .send ok =>
    match ses.pc with
    | .sending (sf :: rest) =>
      if ok then some { u with session := u.sent ses sf rest }
      else some { u with buf := u.buf.recordSendError, session := none }
    | _ => none
  | .sinkCheckpoint result =>
    match ses.pc with
    | .sinkCheckpoint ret =>
      match result with
      | none => some { u with buf := u.buf.recordSendError, session := none }
      | some accepted =>
        let newCursor := (applyAck ses.batch accepted).1
        some { u with
          buf := recordAck u.buf ses.batch accepted
          session := some { ses with cursor := newCursor, pc := .advance newCursor ret }
          log := u.log ++ [.acked ses.id (ses.batch.map SentFrame.seq)] }
    | _ => none
  | .advance ok =>
    match ses.pc with
    | .advance newCursor ret =>
      if ok then some { u with
        buf := u.buf.advance newCursor
        session := { ses with batch := [] }.resume ret
        log := u.log ++ [.advanced ses.id newCursor] }
      else some { u with session := none }
    | _ => none
  | _ => none

def step (u : State) : Action → Option State
  | .write f ok =>
    if ok then some { u with
      buf := u.buf.write f
      log := u.log ++ [.wrote (u.buf.frames.lastSeq + 1)
        (u.buf.frames.evicted u.buf.capacity f)] }
    else some u
  | .start mode cursorOk =>
    match u.session with
    | some _ => none
    | none => some { u with session := some (u.newSession mode cursorOk), next := u.next + 1 }
  | .restart => some { u with buf := u.buf.reopen, session := none }
  | a =>
    match u.session with
    | none => none
    | some ses => u.sessionStep ses a

def Steps (u : State) (a : Action) (v : State) : Prop := u.step a = some v

end State

/-! ## The counters of the Buffer -/

/-- The four counters are the same. -/
structure SameCounters (b b' : Buffer) : Prop where
  sent : b'.sent = b.sent
  accepted : b'.accepted = b.accepted
  driftTotal : b'.driftTotal = b.driftTotal
  drifts : b'.drifts = b.drifts

theorem sessionStep_counters {u v : State} {ses : Session} {a : Action}
    (h : u.sessionStep ses a = some v) :
    SameCounters u.buf v.buf ∨ ∃ accepted, a = .sinkCheckpoint (some accepted) ∧
      v.buf = State.recordAck u.buf ses.batch accepted := by
  revert h
  fun_cases State.sessionStep with
  | case14 ret hpc accepted =>
    -- a number comes back from the server
    rintro ⟨⟩
    exact Or.inr ⟨accepted, rfl, rfl⟩
  | case1 | case3 | case5 | case7 | case8 | case10 | case11 | case13 | case16 | case17 =>
    -- every other step leaves the counters alone
    rintro ⟨⟩
    exact Or.inl ⟨rfl, rfl, rfl, rfl⟩
  | case2 | case4 | case6 | case9 | case12 | case15 | case18 | case19 => rintro ⟨⟩

/-- A step leaves the counters alone, starts them again with the process, or
    records the number a checkpoint of the session came back with. -/
theorem step_counters {u v : State} {a : Action} (h : u.step a = some v) :
    SameCounters u.buf v.buf ∨ v.buf = u.buf.reopen ∨ ∃ ses accepted, u.session = some ses ∧
      a = .sinkCheckpoint (some accepted) ∧ v.buf = State.recordAck u.buf ses.batch accepted := by
  revert h
  fun_cases State.step with
  | case1 | case2 | case4 =>
    -- a write or a start
    rintro ⟨⟩
    exact Or.inl ⟨rfl, rfl, rfl, rfl⟩
  | case5 =>
    -- the process restarts
    rintro ⟨⟩
    exact Or.inr (Or.inl rfl)
  | case7 a hwrite hstart hrestart ses hses =>
    -- a step of the session
    intro hstep
    rcases sessionStep_counters hstep with hsame | ⟨accepted, hack⟩
    · exact Or.inl hsame
    · exact Or.inr (Or.inr ⟨ses, accepted, hses, hack⟩)
  | case3 | case6 => rintro ⟨⟩

end NexusGateway.Uplink
