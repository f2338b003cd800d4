/-
`internal/clocksync/controller.go`: one `Sync` fetches, stages and applies a
snapshot, and rolls back to the last good one when the apply fails.

`Sync` holds the `serial` lock for its whole length and a second call
returns at once, so calls follow one another; what runs beside them only
reads the status and the gate, in any of the states written on the way.
-/

import NexusGateway.ClockSync.Runtime

namespace NexusGateway.ClockSync

open Lib Lib.Prog PointList Provisioning
open ResolverRuntime (call hold stop drain start verify resume)

inductive Phase where
  | uninitialized
  | holding
  | waitingSnapshot
  | staged
  | stopping
  | draining
  | configuring
  | starting
  | verifying
  | resuming
  | active
  | rollingBack
  | retryPending
  | halted
deriving DecidableEq

def Phase.text : Phase → String
  | uninitialized => "uninitialized"
  | holding => "holding"
  | waitingSnapshot => "waiting_snapshot"
  | staged => "staged"
  | stopping => "stopping"
  | draining => "draining"
  | configuring => "configuring"
  | starting => "starting"
  | verifying => "verifying"
  | resuming => "resuming"
  | active => "active"
  | rollingBack => "rolling_back"
  | retryPending => "retry_pending"
  | halted => "halted"

structure Status where
  phase : Phase := .uninitialized
  desiredRevision : String := ""
  appliedRevision : String := ""
  lastGoodRevision : String := ""
  lastError : String := ""

/-- `Controller` with its runtime. -/
structure Controller (E : Type) where
  runtime : ResolverRuntime E
  status : Status := {}
  desired : Option ClockSnapshot := none
  good : Option ClockSnapshot := none
  initialized : Bool := false

namespace Controller

variable {E α : Type} (a : Adapters E) (stageClock : List UInt8 → Except String ClockSnapshot)

def onRuntime (p : Prog (ResolverRuntime E) String α) : Prog (Controller E) String α :=
  zoom runtime (fun r c => { c with runtime := r }) p

def update (fn : Status → Status) : Prog (Controller E) String Unit :=
  modify fun c => { c with status := fn c.status }

def phase (p : Phase) : Prog (Controller E) String Unit := update fun s => { s with phase := p }

def recordError (err : String) : Prog (Controller E) String α := do
  update fun s => { s with lastError := err }
  Prog.fail err

/-- `step`: the context is checked before the operation runs. -/
def step (p : Phase) (fn : Prog (Controller E) String Unit) : Prog (Controller E) String Unit := do
  phase p
  recover
    (do
      onRuntime (call a.ctxErr)
      fn)
    fun err => Prog.fail ("clocksync " ++ p.text ++ ": " ++ err)

def configure (s : ClockSnapshot) : Prog (Controller E) String Unit := do
  onRuntime (call (a.prepare s))
  onRuntime (ResolverRuntime.configure a s.native s.entries)

def apply (s : ClockSnapshot) : Prog (Controller E) String Unit := do
  update fun status => { status with appliedRevision := "" }
  runAll
    [step a .holding (onRuntime (hold a)),
      step a .stopping (onRuntime (stop a)),
      step a .draining (onRuntime (drain a)),
      step a .configuring (configure a s),
      step a .starting (onRuntime (start a)),
      step a .verifying (onRuntime (verify a s.revision)),
      step a .resuming (onRuntime (resume a))]

/-- The `fail` of `rollback`: hold and stop once more, whatever they return. -/
def rollbackFail (err : String) : Prog (Controller E) String Unit := do
  let _ ← attempt (onRuntime (hold a))
  let _ ← attempt (onRuntime (stop a))
  update fun s => { s with phase := .halted, appliedRevision := "" }
  Prog.fail ("clocksync rollback: " ++ err)

def rollback : Prog (Controller E) String Unit := do
  phase .rollingBack
  recover (runAll [onRuntime (hold a), onRuntime (stop a), onRuntime (drain a)]) (rollbackFail a)
  match (← get).good with
  | none => phase .halted
  | some good => do
      recover (configure a good) (rollbackFail a)
      recover
        (runAll [onRuntime (start a), onRuntime (verify a good.revision), onRuntime (resume a)])
        (rollbackFail a)
      update fun s => { s with phase := .retryPending, appliedRevision := good.revision }

def joinErrors (err : String) : Except String Unit → String
  | .ok () => err
  | .error rollbackErr => err ++ "\n" ++ rollbackErr

/-- The first part of `Sync`: before anything else admission is held once. -/
def initialHold : Prog (Controller E) String Unit := do
  if (← get).initialized then
    pure ()
  else do
    recover (step a .holding (onRuntime (hold a))) fun err => do
      update fun s => { s with phase := .halted, lastError := err }
      Prog.fail err
    phase .waitingSnapshot
    modify fun c => { c with initialized := true }

def stageFetched : Option ClockSnapshot → Prog (Controller E) String Unit
  | none => pure ()
  | some fetched =>
    match stageClock fetched.raw with
    | .error err => recordError err
    | .ok snapshot => do
        modify fun c => { c with desired := some snapshot }
        update fun s => { s with desiredRevision := snapshot.revision }

def fetchDesired : Prog (Controller E) String Unit := do
  let c ← get
  let known := (c.desired.map ClockSnapshot.revision).getD ""
  let fetched ← recover
    (do
      let fetched ← onRuntime (call (a.fetch known))
      onRuntime (call a.ctxErr)
      pure fetched)
    recordError
  stageFetched stageClock fetched

def applyDesired (d : ClockSnapshot) : Prog (Controller E) String Unit := do
  phase .staged
  match ← attempt (apply a d) with
  | .ok () => do
      modify fun c => { c with good := some d }
      update fun s =>
        { s with
          phase := .active
          appliedRevision := d.revision
          lastGoodRevision := d.revision
          lastError := "" }
  | .error err => do
      let rolledBack ← attempt (rollback a)
      recordError (joinErrors err rolledBack)

def sync : Prog (Controller E) String Unit := do
  initialHold a
  fetchDesired a stageClock
  let c ← get
  match c.desired with
  | none => recordError "clocksync: 304 without staged snapshot"
  | some d =>
    if c.status.appliedRevision = d.revision then
      update fun s => { s with lastError := "" }
    else
      applyDesired a d

def restoreLastGood (s : Option ClockSnapshot) : Prog (Controller E) String Unit := do
  if (← get).initialized then
    Prog.fail "clocksync: recovery already started"
  else
    match s with
    | none => pure ()
    | some s =>
      match stageClock s.raw with
      | .error err => Prog.fail err
      | .ok copy => do
          modify fun c => { c with good := some copy }
          update fun status => { status with lastGoodRevision := copy.revision }

inductive Op where
  | sync
  | restoreLastGood (s : Option ClockSnapshot)

def Op.prog : Op → Prog (Controller E) String Unit
  | .sync => Controller.sync a stageClock
  | .restoreLastGood s => Controller.restoreLastGood stageClock s

def history : List Op → Prog (Controller E) String Unit
  | [] => pure ()
  | op :: ops => do
      let _ ← attempt (op.prog a stageClock)
      history ops

end Controller

end NexusGateway.ClockSync
