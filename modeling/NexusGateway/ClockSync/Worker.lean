/-
One message in the worker loop (`internal/clocksync/gateway.go`: `process` and
the body of the loop in `Run`), with the calls it makes on the message, the
Buffer and the quarantine directory.

`processMessage` says what `process` does to the state of the gateway.  Here
the rest is added: how the message is disposed of, and every way in which a
call on the way may fail.  `process_gateway` says that the two agree.
-/

import NexusGateway.ClockSync.Messages

namespace NexusGateway.ClockSync

open Lib Lib.Prog PointList Provisioning StoreForward
open RunContext (Time Fault)

/-! ## Messages and calls -/

/-- A delivered message; `metadata` is the stream sequence, where it can be read. -/
structure Delivery where
  subject : String
  headers : Dict String (List String)
  data : List UInt8
  metadata : Except String Nat

/-- `Headers().Get`: the first value, under the exact name. -/
def Delivery.header (d : Delivery) (key : String) : String :=
  ((d.headers.lookup key).bind List.head?).getD ""

def Delivery.message (d : Delivery) (sequence : Nat) : Message where
  sequence := sequence
  session := d.header "Nexus-Session"
  revision := d.header "Nexus-Config-Revision"
  pollStartedAt := d.header "Nexus-Poll-Started-At"
  pollEndedAt := d.header "Nexus-Poll-Ended-At"
  data := d.data

structure Quarantined where
  reason : String
  subject : String
  headers : Dict String (List String)
  data : List UInt8

def Delivery.quarantined (d : Delivery) (reason : String) : Quarantined :=
  { reason, subject := d.subject, headers := d.headers, data := d.data }

/-- A call of the worker, with the error it returned; delays are in milliseconds. -/
inductive MessageCall where
  | bufferWrite (frame : TelemetryFrame) (err : Option String)
  | quarantine (sequence : Nat) (file : Quarantined) (err : Option String)
  | doubleAck (err : Option String)
  | term (err : Option String)
  | nakWithDelay (delay : Nat)

/-- The gateway, the quarantine directory and the calls so far, oldest first. -/
structure Worker where
  gateway : Gateway
  quarantine : Dict Nat Quarantined := ∅
  calls : List MessageCall := []

structure WorkerFaults extends Gateway.ProcessFaults where
  /-- reading the receipt of a run frame -/
  read : Option String := none
  marshal : Option String := none
  quarantine : Fault := .none
  ack : Option String := none
  term : Option String := none

variable {sequence : Nat} {record : SessionRecord} {frame : TelemetryFrame} {faults : WorkerFaults}

namespace Worker

variable (c : Codec) (scope : Scope)

def log (w : Worker) (call : MessageCall) : Worker := { w with calls := w.calls ++ [call] }

def outcome (err : Option String) : Except String Unit := err.elim (.ok ()) .error

def bufferWrite (msg : Message) (frame : TelemetryFrame) (err : Option String) :
    Prog Worker String Unit := act fun w =>
  let g := w.gateway
  let written := if err.isNone then g.history.written ++ [(msg, frame)] else g.history.written
  (outcome err, { w with gateway := { g with history := { g.history with written } } }.log
    (.bufferWrite frame err))

/-- `atomicFile` in the quarantine directory. -/
def writeQuarantine (sequence : Nat) (file : Quarantined) (fault : Fault) :
    Prog Worker String Unit := act fun w =>
  let stored : Worker := { w with quarantine := w.quarantine.insert sequence file }
  match fault with
  | .none => (.ok (), stored.log (.quarantine sequence file none))
  | .staging err | .beforeRename err => (.error err, w.log (.quarantine sequence file (some err)))
  | .afterRename err => (.error err, stored.log (.quarantine sequence file (some err)))

def doubleAck (err : Option String) : Prog Worker String Unit :=
  act fun w => (outcome err, w.log (.doubleAck err))

def term (err : Option String) : Prog Worker String Unit :=
  act fun w => (outcome err, w.log (.term err))

/-- `msg.NakWithDelay`, whose error is ignored. -/
def nakWithDelay (delay : Nat) : Prog Worker String Unit := modify (·.log (.nakWithDelay delay))

def readsReceipt (g : Gateway) (msg : Message) (record : SessionRecord) (frame : TelemetryFrame)
    (now : Time) : Bool :=
  record.runClockID ≠ "" && attr frame.attributes "sim_clock_id" = record.runClockID &&
    (g.process.run.any fun b => b.clockID = record.runClockID) &&
    (pollInterval c msg frame now).isSome

/-- `bindRunFrame`, where reading the receipt may fail. -/
def bindRunFrame (msg : Message) (record : SessionRecord) (frame : TelemetryFrame) (now : Time)
    (faults : WorkerFaults) : Prog Gateway String (Option TelemetryFrame) := do
  let g ← get
  check (!readsReceipt c g msg record frame now || faults.read.isNone) (faults.read.getD "")
  Gateway.bindRunFrame c scope msg record frame now faults.reset faults.receipt

/-- A message that is not bound: its bytes are kept before it is terminated. -/
def quarantineMessage (d : Delivery) (sequence : Nat) (reason : String) (faults : WorkerFaults) :
    Prog Worker String Unit := do
  check faults.marshal.isNone (faults.marshal.getD "")
  writeQuarantine sequence (d.quarantined reason) faults.quarantine
  term faults.term

/-- The frame of an admitted message: stored and acknowledged, or quarantined if its poll
    evidence is invalid. -/
def storeFrame (d : Delivery) (sequence : Nat) (record : SessionRecord) (frame : TelemetryFrame)
    (now : Time) (faults : WorkerFaults) : Prog Worker String Unit := do
  let bound ← zoom Worker.gateway (fun g w => { w with gateway := g })
    (bindRunFrame c scope (d.message sequence) record frame now faults)
  match bound with
  | some out => do
      bufferWrite (d.message sequence) out faults.buffer
      doubleAck faults.ack
  | none => quarantineMessage d sequence "event does not match its archived session" faults

def process (d : Delivery) (now : Time) (faults : WorkerFaults) : Prog Worker String Unit := do
  let sequence ← ofExcept d.metadata
  let w ← get
  match Gateway.admittedFrame c scope w.gateway.process (d.message sequence) with
  | none => quarantineMessage d sequence "unknown or unverified session" faults
  | some (_, none) =>
    quarantineMessage d sequence "event does not match its archived session" faults
  | some (r, some frame) => storeFrame c scope d sequence r frame now faults

def allowed (p : Process) : Bool := !p.held || p.draining

def handle (d : Delivery) (now : Time) (faults : WorkerFaults) : Prog Worker String Unit := do
  let w ← get
  if allowed w.gateway.process then
    recover (process c scope d now faults) fun _ => nakWithDelay 1000
  else nakWithDelay 100

/-! ## How a message is disposed of -/

def Vouched (w : Worker) (d : Delivery) : Prop :=
  ∃ r, w.gateway.process.records.lookup (d.header "Nexus-Session") = some r ∧
    r.verified = true ∧ d.header "Nexus-Config-Revision" = r.snapshot.revision

/-- What `process` has done when it returns, with an error or without. -/
inductive Disposed (w : Worker) (d : Delivery) (now : Time) (w' : Worker) : Option String → Prop
  | untouched (e : String) (calls : w'.calls = w.calls) : Disposed w d now w' (some e)
  | unbuffered (frame : TelemetryFrame) (e : String) (vouched : Vouched w d)
      (calls : w'.calls = w.calls ++ [.bufferWrite frame (some e)]) : Disposed w d now w' (some e)
  | acked (sequence : Nat) (frame : TelemetryFrame) (receipts : Dict String TelemetryFrame)
      (err : Option String) (read : d.metadata = .ok sequence) (vouched : Vouched w d)
      (source : Source c scope w.gateway (d.message sequence) now frame receipts)
      (calls : w'.calls = w.calls ++ [.bufferWrite frame none, .doubleAck err]) :
      Disposed w d now w' err
  | unrecorded (sequence : Nat) (file : Quarantined) (e : String)
      (calls : w'.calls = w.calls ++ [.quarantine sequence file (some e)]) :
      Disposed w d now w' (some e)
  | terminated (sequence : Nat) (reason : String) (err : Option String)
      (read : d.metadata = .ok sequence)
      (calls : w'.calls =
        w.calls ++ [.quarantine sequence (d.quarantined reason) none, .term err])
      (stored : w'.quarantine.lookup sequence = some (d.quarantined reason)) :
      Disposed w d now w' err

section Steps

variable {c scope} {w : Worker} {d : Delivery} {now : Time}

theorem vouched_of_admitted {bound : SessionRecord × Option TelemetryFrame}
    (h : Gateway.admittedFrame c scope w.gateway.process (d.message sequence) = some bound) :
    Vouched w d := by
  unfold Gateway.admittedFrame at h
  split at h
  · cases h
  · rename_i r hr
    split_ifs at h with hverified
    rw [Bool.and_eq_true, decide_eq_true_eq] at hverified
    exact ⟨r, hr, hverified⟩

theorem log_triple {P : Worker → Prop} {Q : Option String → Worker → Prop}
    {call : Option String → MessageCall} (err : Option String)
    (h : ∀ u, P u → Q err (u.log (call err))) :
    Triple (fun _ => True) P (act fun u => (outcome err, u.log (call err)))
      (fun _ => Q none) fun e => Q (some e) := by
  refine Triple.act fun u hu => ⟨trivial, ?_⟩
  have hQ := h u hu
  cases err with
  | none | some e => exact hQ

theorem writeQuarantine_triple (sequence : Nat) (file : Quarantined) (fault : Fault) :
    Triple (fun _ => True) (·.calls = w.calls) (writeQuarantine sequence file fault)
      (fun _ u => u.calls = w.calls ++ [.quarantine sequence file none] ∧
        u.quarantine.lookup sequence = some file)
      fun e u => u.calls = w.calls ++ [.quarantine sequence file (some e)] := by
  refine Triple.act fun u hu => ⟨trivial, ?_⟩
  have hlog : ∀ call, w.calls ++ [call] = u.calls ++ [call] := fun call => by rw [hu]
  cases fault with
  | none => exact ⟨(hlog _).symm, AList.lookup_insert _⟩
  | staging e | beforeRename e | afterRename e => exact (hlog _).symm

theorem quarantineMessage_triple (reason : String) (faults : WorkerFaults)
    (hread : d.metadata = .ok sequence) :
    Triple (fun _ => True) (·.calls = w.calls) (quarantineMessage d sequence reason faults)
      (fun _ u => Disposed c scope w d now u none)
      fun e u => Disposed c scope w d now u (some e) := by
  refine Triple.check_bind (fun u hu => .untouched _ hu) fun _ => ?_
  have hwritten := writeQuarantine_triple (w := w) sequence (d.quarantined reason)
    faults.quarantine
  have hunrecorded : ∀ e u, u.calls = w.calls ++
      [.quarantine sequence (d.quarantined reason) (some e)] →
      Disposed c scope w d now u (some e) := by
    intro e u hu
    exact .unrecorded sequence _ e hu
  refine (hwritten.post_error hunrecorded).bind fun _ => ?_
  apply log_triple (Q := fun err u => Disposed c scope w d now u err)
  rintro u ⟨hcalls, hstored⟩
  refine .terminated sequence reason _ hread ?_ hstored
  rw [log, hcalls, List.append_assoc]
  rfl

theorem bindRunFrame_source (faults : WorkerFaults)
    (hadmitted : Gateway.admittedFrame c scope w.gateway.process
      (d.message sequence) = some (record, some frame)) :
    Triple (fun _ => True) (· = w.gateway)
      (bindRunFrame c scope (d.message sequence) record frame now faults)
      (fun bound _ => ∀ out, bound = some out →
        ∃ receipts, Source c scope w.gateway (d.message sequence) now out receipts)
      fun _ _ => True := by
  refine Triple.get_bind_eq ?_
  refine Triple.check_bind (fun _ _ => trivial) fun _ => ?_
  refine ((Gateway.bindRunFrame_triple faults.reset faults.receipt hadmitted).inv
    fun _ _ => trivial).post ?_ fun _ _ _ => trivial
  rintro bound g ⟨-, -, hsource⟩ out rfl
  exact ⟨_, hsource⟩

theorem storeFrame_triple (faults : WorkerFaults) (hread : d.metadata = .ok sequence)
    (hadmitted : Gateway.admittedFrame c scope w.gateway.process (d.message sequence) =
      some (record, some frame)) :
    Triple (fun _ => True) (· = w) (storeFrame c scope d sequence record frame now faults)
      (fun _ u => Disposed c scope w d now u none)
      fun e u => Disposed c scope w d now u (some e) := by
  have hvouched := vouched_of_admitted hadmitted
  refine Triple.bind (Q := fun bound u => u.calls = w.calls ∧ ∀ out, bound = some out →
    ∃ receipts, Source c scope w.gateway (d.message sequence) now out receipts) ?_ fun bound => ?_
  · refine Triple.zoom fun u hu => ?_
    rw [hu]
    refine (bindRunFrame_source faults hadmitted).post ?_ ?_
    · exact fun bound g hsource => ⟨rfl, hsource⟩
    · exact fun e g _ => .untouched e rfl
  cases bound with
  | none =>
    refine (quarantineMessage_triple _ faults hread).pre ?_
    exact fun u hu => hu.1
  | some out =>
    refine Triple.bind (Q := fun _ u => u.calls = w.calls ++ [.bufferWrite out none] ∧
      ∃ receipts, Source c scope w.gateway (d.message sequence) now out receipts) ?_ fun _ => ?_
    · refine Triple.act fun u hu => ⟨trivial, ?_⟩
      obtain ⟨hcalls, hsource⟩ := hu
      have hlog : ∀ call, u.calls ++ [call] = w.calls ++ [call] := fun call => by rw [hcalls]
      cases faults.buffer with
      | none => exact ⟨hlog _, hsource out rfl⟩
      | some e => exact .unbuffered out e hvouched (hlog _)
    · apply log_triple (Q := fun err u => Disposed c scope w d now u err)
      rintro u ⟨hcalls, receipts, hsource⟩
      refine .acked sequence out receipts _ hread hvouched hsource ?_
      rw [log, hcalls, List.append_assoc]
      rfl

theorem process_triple (faults : WorkerFaults) :
    Triple (fun _ => True) (· = w) (process c scope d now faults)
      (fun _ u => Disposed c scope w d now u none)
      fun e u => Disposed c scope w d now u (some e) := by
  have hcalls : ∀ u, u = w → u.calls = w.calls := by
    rintro u rfl
    rfl
  refine Triple.ofExcept_bind (fun e _ u hu => .untouched e (hcalls u hu)) fun sequence hread => ?_
  refine Triple.get_bind_eq ?_
  cases hadmitted : Gateway.admittedFrame c scope w.gateway.process (d.message sequence) with
  | none => exact (quarantineMessage_triple _ faults hread).pre hcalls
  | some admitted =>
    obtain ⟨r, bound⟩ := admitted
    cases bound with
    | none => exact (quarantineMessage_triple _ faults hread).pre hcalls
    | some frame => exact storeFrame_triple faults hread hadmitted

end Steps

/-! ## The state of the gateway -/

section Gateway

variable {c scope} {w : Worker} {d : Delivery} {now : Time}

theorem quarantineMessage_gateway (sequence : Nat) (reason : String) (faults : WorkerFaults) :
    (quarantineMessage d sequence reason faults w).state.gateway = w.gateway := by
  have hkept : Triple (fun _ => True) (·.gateway = w.gateway)
      (quarantineMessage d sequence reason faults) (fun _ => (·.gateway = w.gateway))
      fun _ => (·.gateway = w.gateway) := by
    refine Triple.check_bind (fun _ h => h) fun _ => ?_
    refine Triple.bind (Q := fun _ => (·.gateway = w.gateway)) ?_ fun _ => ?_
    · refine Triple.act fun u hu => ⟨trivial, ?_⟩
      cases faults.quarantine with
      | none | staging e | beforeRename e | afterRename e => exact hu
    · exact log_triple (Q := fun _ u => u.gateway = w.gateway) _ fun _ hu => hu
  exact hkept.state rfl

theorem bindRunFrame_apply (hfile : faults.read = none) (msg : Message) (record : SessionRecord)
    (frame : TelemetryFrame) (g : Gateway) :
    bindRunFrame c scope msg record frame now faults g =
      Gateway.bindRunFrame c scope msg record frame now faults.reset faults.receipt g := by
  unfold bindRunFrame
  rw [get_bind_apply, hfile, Option.isNone_none, Bool.or_true]
  rfl

theorem bufferWrite_doubleAck_gateway (msg : Message) (out : TelemetryFrame)
    (faults : WorkerFaults) : ((do
      bufferWrite msg out faults.buffer
      doubleAck faults.ack : Prog Worker String Unit) w).state.gateway =
    ((do
      check faults.buffer.isNone (faults.buffer.getD "")
      modify fun g => { g with
        history := { g.history with written := g.history.written ++ [(msg, out)] } } :
      Prog Gateway String Unit) w.gateway).state := by
  cases hbuffer : faults.buffer with
  | none | some e => rfl

theorem storeFrame_gateway (hfile : faults.read = none) :
    (storeFrame c scope d sequence record frame now faults w).state.gateway =
      ((do
        let bound ← Gateway.bindRunFrame c scope (d.message sequence) record frame now faults.reset
          faults.receipt
        match bound with
        | none => pure ()
        | some out => do
            check faults.buffer.isNone (faults.buffer.getD "")
            modify fun g => { g with history := { g.history with
              written := g.history.written ++ [(d.message sequence, out)] } } :
        Prog Gateway String Unit) w.gateway).state := by
  have hbind : bindRunFrame c scope (d.message sequence) record frame now faults w.gateway = _ :=
    bindRunFrame_apply hfile _ _ _ _
  have hzoom : ∀ r, (bindRunFrame c scope (d.message sequence) record frame now faults
      w.gateway).result = r → (zoom Worker.gateway (fun g w => { w with gateway := g })
        (bindRunFrame c scope (d.message sequence) record frame now faults) w).result = r :=
    fun _ h => h
  unfold storeFrame
  cases hr :
      (bindRunFrame c scope (d.message sequence) record frame now faults w.gateway).result with
  | error e =>
    rw [bind_state_of_error (hzoom _ hr), bind_state_of_error (hbind ▸ hr), ← hbind]
    rfl
  | ok bound =>
    rw [bind_state_of_ok (hzoom _ hr), bind_state_of_ok (hbind ▸ hr), ← hbind]
    cases bound with
    | none => exact quarantineMessage_gateway ..
    | some out => exact bufferWrite_doubleAck_gateway ..

/-- Where the receipt can be read, `process` leaves the gateway as `processMessage` does. -/
theorem process_gateway (hread : d.metadata = .ok sequence) (hfile : faults.read = none)
    (hallowed : allowed w.gateway.process = true) :
    (process c scope d now faults w).state.gateway =
      (Gateway.processMessage c scope (d.message sequence) now faults.toProcessFaults
        w.gateway).state := by
  unfold allowed at hallowed
  unfold process Gateway.processMessage
  rw [hread, ofExcept_ok_bind_apply, get_bind_apply, get_bind_apply, hallowed,
    check_true_bind_apply]
  cases hadmitted : Gateway.admittedFrame c scope w.gateway.process (d.message sequence) with
  | none => exact quarantineMessage_gateway ..
  | some admitted =>
    obtain ⟨r, bound⟩ := admitted
    cases bound with
    | none => exact quarantineMessage_gateway ..
    | some frame => exact storeFrame_gateway hfile

end Gateway

/-! ## No disposal without a record -/

/-- The calls of an iteration, with the quarantine files they leave. -/
structure Justified (w : Worker) (d : Delivery) (now : Time) (files : Dict Nat Quarantined)
    (calls : List MessageCall) : Prop where
  /-- an acknowledged message has its frame in the Buffer -/
  ack : ∀ pre err post, calls = pre ++ .doubleAck err :: post →
    ∃ sequence frame receipts, d.metadata = .ok sequence ∧ .bufferWrite frame none ∈ pre ∧
      Source c scope w.gateway (d.message sequence) now frame receipts
  /-- a terminated message has a file -/
  term : ∀ pre err post, calls = pre ++ .term err :: post →
    ∃ sequence file, d.metadata = .ok sequence ∧ .quarantine sequence file none ∈ pre ∧
      files.lookup sequence = some file ∧ file.subject = d.subject ∧ file.headers = d.headers ∧
      file.data = d.data
  once : ∀ err err', .doubleAck err ∈ calls → .term err' ∉ calls
  /-- what is offered to the Buffer is of a known and verified session -/
  vouched : ∀ frame err, .bufferWrite frame err ∈ calls → Vouched w d

section Iterations

variable {c scope} {w : Worker} {d : Delivery} {now : Time} {files : Dict Nat Quarantined}
  {calls : List MessageCall}

theorem Justified.nil : Justified c scope w d now files [] where
  ack pre err post h := by simp at h
  term pre err post h := by simp at h
  once err err' h := absurd h List.not_mem_nil
  vouched frame err h := absurd h List.not_mem_nil

theorem Justified.snoc (h : Justified c scope w d now files calls) (call : MessageCall)
    (hack : ∀ err, call = .doubleAck err → (∃ sequence frame receipts,
      d.metadata = .ok sequence ∧ .bufferWrite frame none ∈ calls ∧
      Source c scope w.gateway (d.message sequence) now frame receipts) ∧
      ∀ err', .term err' ∉ calls)
    (hterm : ∀ err, call = .term err → (∃ sequence reason, d.metadata = .ok sequence ∧
      .quarantine sequence (d.quarantined reason) none ∈ calls ∧
      files.lookup sequence = some (d.quarantined reason)) ∧ ∀ err', .doubleAck err' ∉ calls)
    (hwrite : ∀ frame err, call = .bufferWrite frame err → Vouched w d) :
    Justified c scope w d now files (calls ++ [call]) where
  ack pre err post hsplit := by
    rcases snoc_eq_split hsplit with ⟨-, rfl, hcall⟩ | ⟨post', -, hbefore⟩
    · exact (hack err hcall.symm).1
    · exact h.ack pre err post' hbefore
  term pre err post hsplit := by
    rcases snoc_eq_split hsplit with ⟨-, rfl, hcall⟩ | ⟨post', -, hbefore⟩
    · obtain ⟨sequence, reason, hread, hlogged, hstored⟩ := (hterm err hcall.symm).1
      exact ⟨sequence, _, hread, hlogged, hstored, rfl, rfl, rfl⟩
    · exact h.term pre err post' hbefore
  once err err' hacked htermed := by
    rw [List.mem_append, List.mem_singleton] at hacked htermed
    rcases hacked with hacked | hacked
    · rcases htermed with htermed | htermed
      · exact h.once err err' hacked htermed
      · exact (hterm err' htermed.symm).2 err hacked
    · rcases htermed with htermed | htermed
      · exact (hack err hacked.symm).2 err' htermed
      · rw [← hacked] at htermed
        cases htermed
  vouched frame err hwritten := by
    rcases List.mem_append.mp hwritten with hwritten | hwritten
    · exact h.vouched frame err hwritten
    · exact hwrite frame err (List.mem_singleton.mp hwritten).symm

theorem Justified.quarantine (sequence : Nat) (file : Quarantined) (err : Option String) :
    Justified c scope w d now files [.quarantine sequence file err] :=
  Justified.nil.snoc _ nofun nofun nofun

theorem Justified.bufferWrite (hvouched : Vouched w d) (frame : TelemetryFrame)
    (err : Option String) : Justified c scope w d now files [.bufferWrite frame err] :=
  Justified.nil.snoc _ nofun nofun fun _ _ _ => hvouched

theorem Justified.nakWithDelay (h : Justified c scope w d now files calls) (delay : Nat) :
    Justified c scope w d now files (calls ++ [.nakWithDelay delay]) :=
  h.snoc _ nofun nofun nofun

theorem Disposed.justified {w' : Worker} {err : Option String}
    (h : Disposed c scope w d now w' err) :
    ∃ calls, w'.calls = w.calls ++ calls ∧ Justified c scope w d now w'.quarantine calls := by
  cases h with
  | untouched e hcalls => exact ⟨[], by rw [hcalls, List.append_nil], .nil⟩
  | unbuffered frame e hvouched hcalls => exact ⟨_, hcalls, .bufferWrite hvouched frame _⟩
  | acked sequence frame receipts err hread hvouched hsource hcalls =>
    refine ⟨_, hcalls, (Justified.bufferWrite hvouched frame none).snoc _ ?_ nofun nofun⟩
    rintro err' -
    refine ⟨⟨sequence, frame, receipts, hread, List.mem_singleton_self _, hsource⟩, ?_⟩
    simp
  | unrecorded sequence file e hcalls => exact ⟨_, hcalls, .quarantine sequence file _⟩
  | terminated sequence reason err hread hcalls hstored =>
    refine ⟨_, hcalls, (Justified.quarantine sequence _ none).snoc _ nofun ?_ nofun⟩
    rintro err' -
    refine ⟨⟨sequence, reason, hread, List.mem_singleton_self _, hstored⟩, ?_⟩
    simp

theorem handle_apply (faults : WorkerFaults) : handle c scope d now faults w =
    (if allowed w.gateway.process then
      recover (process c scope d now faults) fun _ => nakWithDelay 1000
    else nakWithDelay 100) w :=
  get_bind_apply _ w

end Iterations

/-- Whatever fails in an iteration: a message is acknowledged only after its frame was
    written to the Buffer, terminated only after its bytes were written to quarantine,
    and never both; an error of `process` ends in a NAK; and a message of no verified
    session never gets to the Buffer. -/
theorem disposed_with_record (w : Worker) (d : Delivery) (now : Time) (faults : WorkerFaults) :
    ∃ calls, (handle c scope d now faults w).state.calls = w.calls ++ calls ∧
      Justified c scope w d now (handle c scope d now faults w).state.quarantine calls ∧
      ∀ e, allowed w.gateway.process = true → (process c scope d now faults w).result = .error e →
        .nakWithDelay 1000 ∈ calls := by
  rw [handle_apply]
  cases hallowed : allowed w.gateway.process with
  | false => exact ⟨_, rfl, Justified.nil.nakWithDelay 100, nofun⟩
  | true =>
    rw [if_pos rfl]
    cases hr : (process c scope d now faults w).result with
    | ok _ =>
      obtain ⟨calls, hcalls, hjustified⟩ := ((process_triple faults).of_ok rfl hr).justified
      rw [recover_state_of_ok _ hr]
      exact ⟨calls, hcalls, hjustified, nofun⟩
    | error e =>
      obtain ⟨calls, hcalls, hjustified⟩ := ((process_triple faults).of_error rfl hr).justified
      rw [recover_state_of_error _ hr]
      refine ⟨calls ++ [MessageCall.nakWithDelay 1000], ?_, hjustified.nakWithDelay 1000, ?_⟩
      · rw [← List.append_assoc, ← hcalls]
        rfl
      · intro _ _ _
        exact List.mem_append_right _ (List.mem_singleton_self _)

end Worker

end NexusGateway.ClockSync
