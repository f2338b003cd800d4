/-
`Manager.Watch` beside the operations on one connector, step by step.

An operation holds the connector's lock for its whole length.  `Watch` lists
the registry and inspects the container before it tries the lock, and does
not look again once it has it.  What it knows then may be out of date: an
operation that took the lock in between and gave it back is not noticed.

Only calls that succeed are followed, so a call to the daemon that fails ends
neither an operation nor the model; what `Watch` asks for may fail.  Outside
the manager a running container may exit and a stopped one may be removed.
-/

import NexusGateway.Lib.Run
import NexusGateway.Lifecycle.Manager

namespace NexusGateway.Lifecycle

open Lib Catalog

def Daemon.runs (d : Daemon) (k : Nat) : Bool := d.containers.any fun c => c.id = k && c.running

namespace Watch

/-! ## Operations -/

/-- The operations; the soak window of an update is given by its number of polls, `none` if it
    is not positive. -/
inductive Operation where
  | start
  | stop
  | restart
  | update (manifest : Manifest) (polls : Option Nat)

/-- What an operation does under the lock, one call to the registry or the daemon at a time. -/
inductive Instr where
  | stop (k : Nat)
  | clear
  | remove (k : Nat)
  /-- `ContainerRemove`, whose error is only logged. -/
  | tryRemove (k : Nat)
  | register (spec : ConnectorSpec)
  | create
  | start
  /-- `SetRunning(id, containerID, true)` with the container created. -/
  | record
  /-- A poll of `soakCheck`. -/
  | soak

def doStart : List Instr := [.create, .start, .record]

def ifRecorded (s : ConnectorStatus) (instrs : Nat → List Instr) : List Instr :=
  s.containerID.elim [] instrs

/-- What an operation does, from the status it gets under the lock. -/
def Operation.instrs (s : ConnectorStatus) : Operation → List Instr
  | .start => doStart
  | .stop => ifRecorded s fun k => [.stop k, .clear]
  | .restart => (ifRecorded s fun k => [.stop k, .remove k, .clear]) ++ doStart
  | .update manifest polls =>
    if Host.digestFromRef s.spec.image = manifest.digest then []
    else
      (ifRecorded s fun k => [.stop k, .clear, .tryRemove k])
        ++ .register (Host.updateSpec s.spec.id manifest s)
        :: (doStart ++ List.replicate (polls.elim 0 (· + 1)) .soak)

/-- An operation that holds the lock: what is left to do, and the container it has created. -/
structure Call where
  op : Operation
  rest : List Instr
  created : Option Nat := none

/-- Where a tick of `Watch` stands with the connector.  From `locked` to `leaving` it holds the
    lock. -/
inductive Tick where
  | idle
  | listed (k : Nat)
  | stopped (k : Nat)
  | locked
  | cleared
  | created (k : Nat)
  | started (k : Nat)
  | leaving

def Tick.inside : Tick → Bool
  | .idle | .listed _ | .stopped _ => false
  | _ => true

/-- What is seen of a run: when an operation begins and returns, and what `Watch` does: the
    container it creates, the one it marks running, and the one recorded when it writes the
    registry, with whether that one runs. -/
inductive Event where
  | began (op : Operation)
  | returned (op : Operation)
  | created (k : Nat)
  | marked (k : Nat)
  | replaced (old : Option Nat) (running : Bool)

/-- The connector's entry in the registry, the daemon, the operation that holds the lock, where
    `Watch` stands, and what has been seen so far. -/
structure World where
  status : ConnectorStatus
  daemon : Daemon := {}
  call : Option Call := none
  tick : Tick := .idle
  log : List Event := []

namespace World

def setRunning (w : World) (k : Option Nat) (running : Bool) : World :=
  { w with status := { w.status with containerID := k, running := running } }

def name (w : World) : String := containerName w.status.spec.id

def replacing (w : World) : Event :=
  .replaced w.status.containerID (w.status.containerID.any w.daemon.runs)

/-! ## Steps -/

variable (cfg : ManagerConfig)

def create (w : World) : Option Daemon :=
  if hname : w.daemon.Uses w.name then none
  else some (w.daemon.add w.name (Host.containerConfig cfg w.status.spec []) hname)

/-- One instruction of an operation, which succeeds; `ok` is the fate of a call whose error is
    only logged. -/
def exec (w : World) (c : Call) (ok : Bool) : Instr → Option (World × Option Nat)
  | .stop k => some ({ w with daemon := w.daemon.mark k false }, c.created)
  | .clear => some (w.setRunning none false, c.created)
  | .remove k =>
    if w.daemon.runs k then none else some ({ w with daemon := w.daemon.drop k }, c.created)
  | .tryRemove k =>
    if !ok then some (w, c.created)
    else if w.daemon.runs k then none
    else some ({ w with daemon := w.daemon.drop k }, c.created)
  | .register spec => some ({ w with status := { w.status with spec := spec } }, c.created)
  | .create => (w.create cfg).map fun d => ({ w with daemon := d }, some w.daemon.nextID)
  | .start => c.created.map fun k => ({ w with daemon := w.daemon.mark k true }, some k)
  | .record => c.created.map fun k => (w.setRunning (some k) true, some k)
  | .soak => c.created.bind fun k => if w.daemon.runs k then some (w, some k) else none

end World

/-- What happens next: a step of an operation, a container that exits or is removed, or a step
    of `Watch`. -/
inductive Action where
  | begin (op : Operation)
  | exec (ok : Bool)
  | finish
  | exit (k : Nat)
  | prune (k : Nat)
  | list
  | inspect (ok : Bool)
  | tryLock
  | clear
  | create (ok : Bool)
  | start (ok : Bool)
  | mark
  | leave

namespace World

def step (cfg : ManagerConfig) (w : World) : Action → Option World
  | .begin op =>
    if w.call.isSome || w.tick.inside then none
    else some { w with
      call := some { op := op, rest := op.instrs w.status }
      log := w.log ++ [.began op] }
  | .exec ok =>
    w.call.bind fun c =>
      match c.rest with
      | [] => none
      | i :: rest =>
        (w.exec cfg c ok i).map fun p =>
          { p.1 with call := some { c with rest := rest, created := p.2 } }
  | .finish =>
    w.call.bind fun c =>
      if c.rest.isEmpty then some { w with call := none, log := w.log ++ [.returned c.op] }
      else none
  | .exit k => some { w with daemon := w.daemon.mark k false }
  | .prune k => if w.daemon.runs k then none else some { w with daemon := w.daemon.drop k }
  | .list =>
    match w.tick with
    | .idle =>
      match w.status.containerID with
      | some k => some (if w.status.running then { w with tick := .listed k } else w)
      | none => some w
    | _ => none
  | .inspect ok =>
    match w.tick with
    | .listed k =>
      if ok && (w.daemon.find k).isSome && !w.daemon.runs k then
        some { w with tick := .stopped k }
      else some { w with tick := .idle }
    | _ => none
  | .tryLock =>
    match w.tick with
    | .stopped _ => some { w with tick := if w.call.isSome then .idle else .locked }
    | _ => none
  | .clear =>
    match w.tick with
    | .locked =>
      some { w.setRunning none false with tick := .cleared, log := w.log ++ [w.replacing] }
    | _ => none
  | .create ok =>
    match w.tick with
    | .cleared =>
      match if ok then w.create cfg else none with
      | some d =>
        some { w with
          daemon := d
          tick := .created w.daemon.nextID
          log := w.log ++ [.created w.daemon.nextID] }
      | none => some { w with tick := .leaving }
    | _ => none
  | .start ok =>
    match w.tick with
    | .created k =>
      if ok then some { w with daemon := w.daemon.mark k true, tick := .started k }
      else some { w with tick := .leaving }
    | _ => none
  | .mark =>
    match w.tick with
    | .started k =>
      some { w.setRunning (some k) true with
        tick := .leaving
        log := w.log ++ [w.replacing, .marked k] }
    | _ => none
  | .leave =>
    match w.tick with
    | .leaving => some { w with tick := .idle }
    | _ => none

end World

/-! ## What is to be respected -/

/-- The last operation that returned and was not followed by one that starts the connector is
    a stop. -/
def stopped (log : List Event) : Bool :=
  log.foldl
    (fun b e =>
      match e with
      | .returned .stop => true
      | .began .stop => b
      | .began _ => false
      | _ => b)
    false

/-- After a stop `Watch` creates nothing and marks nothing running, and it never replaces a
    container that runs. -/
def Admissible (past : List Event) : Event → Prop
  | .created _ | .marked _ => stopped past = false
  | .replaced (some _) running => running = false
  | _ => True

def Respects (log : List Event) : Prop := EachAfter Admissible log

/-- When `Watch` gets the lock, the container recorded is still the one it has inspected. -/
def UpToDate (w : World) : Action → Prop
  | .tryLock =>
    match w.tick with
    | .stopped k => w.call.isNone = true → w.status.containerID = some k
    | _ => True
  | _ => True

instance (w : World) (a : Action) : Decidable (UpToDate w a) := by
  unfold UpToDate
  split
  · split
    · infer_instance
    · infer_instance
  · infer_instance

end Watch

end NexusGateway.Lifecycle
