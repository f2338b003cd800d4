/-
`internal/clocksync/gateway.go` and `run_context.go`: the gateway process on
its files.

Every operation is a program on the files and the memory of the process; the
states it writes are the points where a crash can find it.  An atomic file is
written in one step; the run-context archive is written in two, since its
file exists before it is complete.  Each file operation carries how it ends.

Pointers: the record that the producer holds is the one in the store, so what
`activateRunSession` sets is seen by every later message, before the journal
file has it.
-/

import NexusGateway.ClockSync.Sessions
import NexusGateway.Normalizer.Normalize

namespace NexusGateway.ClockSync

open Lib Lib.Prog PointList Provisioning StoreForward
open Normalizer (Event)
open RunContext (Time Context Ledger Result Fault Envelope)

/-! ## Messages -/

/-- What `process` reads of a message: the stream sequence, the four headers and the
    body. -/
structure Message where
  sequence : Nat
  session : String
  revision : String
  pollStartedAt : String
  pollEndedAt : String
  data : List UInt8
deriving DecidableEq

structure Identity where
  session : String
  start : String
  stop : String
  raw : List UInt8
deriving DecidableEq

def Message.identity (msg : Message) : Identity :=
  { session := msg.session, start := msg.pollStartedAt, stop := msg.pollEndedAt, raw := msg.data }

/-- The codecs of the process: the hexadecimal digest of a text, the JSON decoding of an
    event and of a run context, the RFC 3339 form of a time, and the digest of an identity. -/
structure Codec where
  sha256 : List Char → String
  unmarshal : List UInt8 → Option Event
  decodeContext : List UInt8 → Except String Context
  parseTime : String → Option Time
  formatTime : Time → String
  digest : Identity → String

/-- A map of strings at a key; a missing key is the empty string. -/
def attr (attributes : Dict String String) (key : String) : String :=
  (attributes.lookup key).getD ""

/-! ## boundFrame -/

/-- The attributes of an event of a clocked point name the clock and the revision, and
    make no claim about a run. -/
def clockMatches (snapshot : ClockSnapshot) (evt : Event) (clock : NativeClock) : Bool :=
  attr evt.attributes "sim_clock_id" = clock.clockID &&
    attr evt.attributes "sim_config_revision" = snapshot.revision &&
    attr evt.attributes "sim_run_status" = "absent"

def forgedClaims : List String := ["sim_run_id", "sim_step_id", "sim_context_generation"]

/-- `boundFrame`.  Marshalling an event that was unmarshalled and unmarshalling it again
    gives it back; one without a value is refused by both. -/
def boundFrame (c : Codec) (scope : Scope) (snapshot : ClockSnapshot) (evt : Event) :
    Option TelemetryFrame :=
  if evt.protocol ≠ "bacnet" || evt.connectorID ≠ scope.connectorID || evt.timestamp = "" ||
      (c.parseTime evt.timestamp).isNone ||
      forgedClaims.any (fun key => (evt.attributes.lookup key).isSome) ||
      (attr evt.attributes "sim_run_status" ≠ "" &&
        attr evt.attributes "sim_run_status" ≠ "absent") then
    none
  else
    match snapshot.entries.find? fun e => e.releaseOf = "" && e.localID = evt.localID with
    | none => none
    | some point =>
      let clocks := snapshot.native.clocks.filter fun k => evt.localID ∈ k.pointLocalIDs
      if point.deviceRef ≠ evt.deviceRef || !clocks.all (clockMatches snapshot evt) ||
          (clocks.isEmpty && evt.attributes.keys.any fun key =>
            key.toList.take 4 = ['s', 'i', 'm', '_']) then
        none
      else
        match Normalizer.normalize
            { unmarshal := some, resolver := SyncedResolver.new.update snapshot.entries,
              gatewayID := scope.gatewayID } "" evt with
        | .ok frame => some frame
        | .poison => none
        | .miss => none

/-! ## Classification -/

/-- The poll interval of a message, where it is valid evidence: both headers are times in
    order and not in the future, and the frame was observed between them. -/
def pollInterval (c : Codec) (msg : Message) (frame : TelemetryFrame) (now : Time) :
    Option (Time × Time) := do
  let start ← c.parseTime msg.pollStartedAt
  let stop ← c.parseTime msg.pollEndedAt
  let observed ← c.parseTime frame.timestamp
  if stop.before start || observed.before start || observed.after stop || stop.after now then none
  else some (start, stop)

def verdict (archived : Result) (invalidated : Bool) (current context : Context) : Result :=
  if invalidated then .invalid "reset_detected"
  else if current.runID ≠ context.runID then .unverified "generation_history_unavailable"
  else archived

/-- The attributes that state a verdict: a run is named only by a valid one. -/
def stateVerdict (attributes : Dict String String) (result : Result) : Dict String String :=
  let bare (status : String) : Dict String String :=
    (((attributes.insert "sim_run_status" status).erase "sim_run_reason").erase "sim_run_id").erase
      "sim_context_generation"
  match result with
  | .absent => bare "absent"
  | .unverified reason => (bare "unverified").insert "sim_run_reason" reason
  | .invalid reason => (bare "invalid").insert "sim_run_reason" reason
  | .valid runID generation =>
    ((bare "valid").insert "sim_run_id" runID).insert "sim_context_generation"
      (toString generation)

def classified (c : Codec) (msg : Message) (frame : TelemetryFrame)
    (times : Time × Option Time) (result : Result) : TelemetryFrame :=
  let attributes := frame.attributes.insert "sim_context_committed_at" (c.formatTime times.1)
  let attributes := times.2.elim attributes fun applied =>
    attributes.insert "sim_context_applied_at" (c.formatTime applied)
  let attributes := (attributes.insert "sim_poll_started_at" msg.pollStartedAt).insert
    "sim_poll_ended_at" msg.pollEndedAt
  { frame with attributes := stateVerdict attributes result }

/-! ## The process -/

structure RunBinding where
  clockID : String
  ledger : Ledger

inductive Stage where
  | created
  | verified
  | activated
deriving DecidableEq

structure Process where
  records : Dict String SessionRecord
  run : Option RunBinding := none
  /-- `producer.record`, by its session -/
  record : Option String := none
  /-- what the runtime has done with that record -/
  stage : Stage := .created
  held : Bool := true
  draining : Bool := false

structure History where
  /-- the session ids drawn so far -/
  issued : List String := []
  /-- the sessions whose `create` returned, with their snapshots -/
  created : List (String × ClockSnapshot) := []
  /-- the sessions whose verified receipt was written -/
  receipts : List String := []
  /-- the sessions that `active.json` was replaced for, oldest first -/
  commits : List String := []
  /-- what `process` wrote to the Buffer, with the message, oldest first -/
  written : List (Message × TelemetryFrame) := []

structure Gateway where
  disk : Disk
  process : Process
  history : History := {}

/-- How the write of a new file that is not staged ends: it succeeds, the file is not
    created, is left incomplete, or is complete but an error is returned. -/
inductive WriteFault where
  | none
  | opening (err : String)
  | writing (err : String)
  | syncing (err : String)

namespace Gateway

variable (c : Codec) (scope : Scope)

/-- `atomicFile`: the file is the old one or the new one. -/
def atomicFile (write : Gateway → Gateway) : Fault → Prog Gateway String Unit
  | .none => modify write
  | .staging err => Prog.fail err
  | .beforeRename err => Prog.fail err
  | .afterRename err => do
      modify write
      Prog.fail err

def setProcess (f : Process → Process) : Prog Gateway String Unit :=
  modify fun g => { g with process := f g.process }

def ledgerCall (op : RunContext.Op) : Prog Gateway String Unit := act fun g =>
  match g.process.run with
  | none => (.error "run context not configured", g)
  | some b =>
    let o := op.prog c.decodeContext { disk := g.disk.ledger, ledger := b.ledger }
    (o.result,
      { g with
        disk := { g.disk with ledger := o.state.disk }
        process := { g.process with run := some { b with ledger := o.state.ledger } } })

/-- `EnableRunContextFile`, after the configuration has been read. -/
def enableRunContext (clockID : String) (envelope : Envelope) (now : Time) (fault : Fault) :
    Prog Gateway String Unit := do
  let g ← get
  check (g.process.held && g.process.record.isNone && g.process.run.isNone)
    "run context must be selected before provisioning"
  check (clockID ≠ "") "invalid run context configuration"
  let ledger ← ofExcept (RunContext.openLedger c.decodeContext g.disk.ledger
    { gatewayID := scope.gatewayID, clockID := clockID })
  let o := RunContext.Store.commit c.decodeContext envelope now fault
    { disk := g.disk.ledger, ledger := ledger }
  act fun g => (o.result, { g with disk := { g.disk with ledger := o.state.disk } })
  setProcess fun p => { p with run := some { clockID := clockID, ledger := o.state.ledger } }

def validateRunSnapshot (p : Process) (snapshot : ClockSnapshot) : Except String Unit :=
  match p.run with
  | none => .ok ()
  | some b => do
      let context ← b.ledger.current
      refuse (context.provisioningRevision ≠ snapshot.revision)
        "run context revision does not match snapshot"
      refuse (snapshot.native.clocks.all fun k => k.clockID ≠ b.clockID)
        "run clock is absent from snapshot"

/-- `sessions.create`, which draws the session id. -/
def create (random : Vector UInt8 16) (snapshot : ClockSnapshot)
    (nativeFault sessionFault : Fault) : Prog Gateway String SessionRecord := do
  let id := hexEncode random.toList
  modify fun g => { g with history := { g.history with issued := id :: g.history.issued } }
  let native := snapshot.native.marshal
  let r : SessionRecord :=
    { session := id, raw := snapshot.raw, snapshot := snapshot, nativeHash := c.sha256 native }
  let data ← ofExcept r.marshal
  atomicFile (fun g => { g with
    disk := { g.disk with native := g.disk.native.insert id native } }) nativeFault
  atomicFile (fun g => { g with
    disk := { g.disk with sessions := g.disk.sessions.insert id data } }) sessionFault
  modify fun g => { g with
    process := { g.process with records := g.process.records.insert id r }
    history := { g.history with created := (id, snapshot) :: g.history.created } }
  return r

/-- `ConfigureSnapshot`, up to the configuration of the connector. -/
def configureSnapshot (random : Vector UInt8 16) (snapshot : ClockSnapshot)
    (nativeFault sessionFault : Fault) : Prog Gateway String Unit := do
  let g ← get
  ofExcept (validateRunSnapshot g.process snapshot)
  let r ← create c random snapshot nativeFault sessionFault
  setProcess fun p => { p with record := some r.session, stage := .created }

def producerRecord : Prog Gateway String SessionRecord := do
  let g ← get
  match g.process.record.bind fun id => g.process.records.lookup id with
  | some r => return r
  | none => Prog.fail "missing producer session"

/-- `sessions.verify`, when the running connector has confirmed the producer's record. -/
def verify (fault : Fault) : Prog Gateway String Unit := do
  let r ← producerRecord
  atomicFile (fun g => { g with
    disk := { g.disk with verified := g.disk.verified.insert r.session r.nativeHash }
    history := { g.history with receipts := r.session :: g.history.receipts } }) fault
  setProcess fun p => { p with
    records := Dict.adjust r.session (fun r => { r with verified := true }) p.records
    stage := if p.stage = .activated then .activated else .verified }

/-- The write of `Ledger.Archive`: a new file, which is there before it is complete. -/
def writeArchive (session : String) (archive : RunContext.State) (fault : WriteFault) :
    Prog Gateway String Unit := do
  let g ← get
  check (g.disk.runContext.lookup session).isNone "file exists"
  let put (value : Option RunContext.State) : Prog Gateway String Unit := modify fun g =>
    { g with disk := { g.disk with runContext := g.disk.runContext.insert session value } }
  match fault with
  | .opening err => Prog.fail err
  | .writing err => do
      put none
      Prog.fail err
  | .syncing err => do
      put none
      put (some archive)
      Prog.fail err
  | .none => do
      put none
      put (some archive)

def liveLedger : Prog Gateway String Ledger := do
  let g ← get
  match g.process.run with
  | some b => return b.ledger
  | none => Prog.fail "run context not configured"

/-- `activateRunSession`, where a run context is configured for the clock.  The record is
    changed in memory before its journal file is. -/
def bindSession (r : SessionRecord) (clockID : String) (now : Time) (applyFault : Fault)
    (archiveFault : WriteFault) (journalFault : Fault) : Prog Gateway String Unit := do
  ledgerCall c (.apply now applyFault)
  let ledger ← liveLedger
  let archive ← ofExcept (ledger.archive now)
  writeArchive r.session archive archiveFault
  let bound := { r with runClockID := clockID }
  setProcess fun p => { p with records := p.records.insert r.session bound }
  let data ← ofExcept bound.marshal
  atomicFile (fun g => { g with
    disk := { g.disk with sessions := g.disk.sessions.insert r.session data } }) journalFault

/-- `activateRunSession` on the producer's record; the runtime calls it only after
    `Verify`. -/
def activateRunSession (now : Time) (applyFault : Fault) (archiveFault : WriteFault)
    (journalFault : Fault) : Prog Gateway String Unit := do
  let r ← producerRecord
  let g ← get
  check (g.process.stage ≠ .created) "clocksync: resume requires running connector"
  (g.process.run.elim (pure ()) fun b =>
    bindSession c r b.clockID now applyFault archiveFault journalFault)
  setProcess fun p => { p with stage := .activated }

/-- `sessions.commit`, at the end of `Resume`. -/
def commit (fault : Fault) : Prog Gateway String Unit := do
  let r ← producerRecord
  let g ← get
  check (g.process.stage = .activated) "clocksync: resume requires running connector"
  atomicFile (fun g => { g with
    disk := { g.disk with active := some r.session }
    history := { g.history with commits := g.history.commits ++ [r.session] } }) fault

/-! ## Events -/

/-- `rc.Open` of the archive of a session. -/
def openArchive (g : Gateway) (record : SessionRecord) : Except String Ledger :=
  match g.disk.runContext.lookup record.session with
  | none => .error "no such file"
  | some none => .error "unexpected end of JSON input"
  | some (some state) => RunContext.openLedger c.decodeContext state
      { gatewayID := scope.gatewayID, clockID := record.runClockID }

/-- The reset of a run, seen in the quality of a frame, is recorded before the frame is
    classified. -/
def recordReset (archive : Ledger) (frame : TelemetryFrame) (fault : Fault) :
    Prog Gateway String Unit :=
  when (attr frame.attributes "sim_time_quality" = "reset") do
    let envelope ← ofExcept archive.currentEnvelope
    ledgerCall c (.invalidateContext envelope fault)

/-- The classification of a message that has no receipt: its receipt is written before
    the frame is returned. -/
def classifyFrame (msg : Message) (record : SessionRecord) (frame : TelemetryFrame)
    (interval : Time × Time) (resetFault receiptFault : Fault) :
    Prog Gateway String TelemetryFrame := do
  let g ← get
  let archive ← ofExcept (openArchive c scope g record)
  let context ← ofExcept archive.current
  recordReset c archive frame resetFault
  let live ← liveLedger
  let invalidated ← ofExcept (live.invalidated context.runID)
  let current ← ofExcept live.current
  let times ← ofExcept archive.receiverTimes
  let result := verdict (archive.evaluate record.snapshot.revision interval.1 interval.2)
    invalidated current context
  let out := classified c msg frame times result
  atomicFile (fun g => { g with
    disk := { g.disk with runFrames := g.disk.runFrames.insert (c.digest msg.identity) out } })
    receiptFault
  return out

/-- `bindRunFrame`; `none` is the error for invalid poll evidence. -/
def bindRunFrame (msg : Message) (record : SessionRecord) (frame : TelemetryFrame) (now : Time)
    (resetFault receiptFault : Fault) : Prog Gateway String (Option TelemetryFrame) :=
  if record.runClockID = "" ∨ attr frame.attributes "sim_clock_id" ≠ record.runClockID then
    pure (some frame)
  else do
    let g ← get
    check (g.process.run.any fun b => b.clockID = record.runClockID)
      "historical run verifier unavailable"
    match pollInterval c msg frame now with
    | none => pure none
    | some interval =>
      match g.disk.runFrames.lookup (c.digest msg.identity) with
      | some original => pure (some original)
      | none => do
          let out ← classifyFrame c scope msg record frame interval resetFault receiptFault
          return some out

def admittedFrame (p : Process) (msg : Message) : Option (SessionRecord × Option TelemetryFrame) :=
  match p.records.lookup msg.session with
  | none => none
  | some r =>
    if r.verified && msg.revision = r.snapshot.revision then
      (c.unmarshal msg.data).map fun evt => (r, boundFrame c scope r.snapshot evt)
    else none

/-- How the calls that `process` makes end. -/
structure ProcessFaults where
  reset : Fault := .none
  receipt : Fault := .none
  buffer : Option String := none

/-- `process`.  A message that is not bound is quarantined, which no function here
    reads. -/
def processMessage (msg : Message) (now : Time) (faults : ProcessFaults) :
    Prog Gateway String Unit := do
  let g ← get
  check (!g.process.held || g.process.draining) "admission is held"
  match admittedFrame c scope g.process msg with
  | some (r, some frame) => do
      let bound ← bindRunFrame c scope msg r frame now faults.reset faults.receipt
      match bound with
      | none => pure ()
      | some out => do
          check faults.buffer.isNone (faults.buffer.getD "")
          modify fun g => { g with
            history := { g.history with written := g.history.written ++ [(msg, out)] } }
  | _ => pure ()

end Gateway

/-! ## Runs -/

inductive Op where
  | enableRunContext (clockID : String) (envelope : Envelope) (now : Time) (fault : Fault)
  | ledger (op : RunContext.Op)
  | configureSnapshot (random : Vector UInt8 16) (snapshot : ClockSnapshot)
      (nativeFault sessionFault : Fault)
  | verify (fault : Fault)
  | activateRunSession (now : Time) (applyFault : Fault) (archiveFault : WriteFault)
      (journalFault : Fault)
  | commit (fault : Fault)
  | admission (held draining : Bool)
  | process (msg : Message) (now : Time) (faults : Gateway.ProcessFaults)

def Op.prog (c : Codec) (scope : Scope) : Op → Prog Gateway String Unit
  | .enableRunContext clockID envelope now fault =>
    Gateway.enableRunContext c scope clockID envelope now fault
  | .ledger op => Gateway.ledgerCall c op
  | .configureSnapshot random snapshot nativeFault sessionFault =>
    Gateway.configureSnapshot c random snapshot nativeFault sessionFault
  | .verify fault => Gateway.verify fault
  | .activateRunSession now applyFault archiveFault journalFault =>
    Gateway.activateRunSession c now applyFault archiveFault journalFault
  | .commit fault => Gateway.commit fault
  | .admission held draining => Gateway.setProcess fun p => { p with held, draining }
  | .process msg now faults => Gateway.processMessage c scope msg now faults

structure System where
  disk : Disk
  process : Option Process := none
  history : History := {}

/-- What happens to the system: the process is started, a call runs to its end, the
    process dies inside a call after some of the states it writes, or between calls. -/
inductive Action where
  | start
  | call (op : Op)
  | crashIn (op : Op) (after : Nat)
  | crash

namespace System

variable (c : Codec) (scope : Scope)

def init (ledger : RunContext.State) : System := { disk := { ledger := ledger } }

/-- The call may be made: the snapshot was staged in this scope, and the random session id
    was not drawn before. -/
def admits (u : System) : Op → Bool
  | .configureSnapshot random snapshot _ _ =>
    match stageClock c.sha256 snapshot.raw scope with
    | .ok staged => staged = snapshot && hexEncode random.toList ∉ u.history.issued
    | .error _ => false
  | _ => true

def step (u : System) : Action → Option System
  | .start =>
    match u.process, openSessions c.sha256 scope u.disk with
    | none, .ok records => some { u with process := some { records := records } }
    | none, .error _ => some u
    | some _, _ => none
  | .crash => some { u with process := none }
  | .call op => do
      let p ← u.process
      if admits c scope u op then
        let o := op.prog c scope { disk := u.disk, process := p, history := u.history }
        some { disk := o.state.disk, process := some o.state.process, history := o.state.history }
      else none
  | .crashIn op after => do
      let p ← u.process
      if admits c scope u op then
        let o := op.prog c scope { disk := u.disk, process := p, history := u.history }
        let g ← o.trace[after]?
        some { disk := g.disk, history := g.history }
      else none

def Steps (u : System) (a : Action) (v : System) : Prop := u.step c scope a = some v

end System

end NexusGateway.ClockSync
