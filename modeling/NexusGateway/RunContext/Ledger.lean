/-
`internal/runcontext`: the durable receiver ledger of run leases.

The ledger file is the value last renamed into place.  A `persist` either
succeeds, or fails before the rename (the file is the old one), or after it
(the file is already the new one): memory and file then disagree, and the
ledger refuses everything until it is opened again.  Rename is atomic and a
renamed file, synced before the rename, survives a crash.
-/

import NexusGateway.Lib.Dict
import NexusGateway.Lib.Prog
import NexusGateway.Lib.Run

namespace NexusGateway.RunContext

open Lib Lib.Prog

/-! ## Contexts -/

/-- `time.Time`: nanoseconds since the zero time, and the zone's offset in seconds. -/
structure Time where
  instant : Int := 0
  offset : Int := 0
deriving DecidableEq

namespace Time

def before (t u : Time) : Bool := t.instant < u.instant

def after (t u : Time) : Bool := u.instant < t.instant

def isZero (t : Time) : Bool := t.instant = 0

end Time

structure Scope where
  gatewayID : String
  clockID : String
deriving DecidableEq

structure Context where
  schemaVersion : String
  gatewayID : String
  clockID : String
  provisioningRevision : String
  runID : String
  generation : Nat
  status : String
  issuedAt : Time
  validFrom : Time
  expiresAt : Time
deriving DecidableEq

inductive Json where
  | str (s : String)
  | num (n : Nat)
  | time (t : Time)
deriving DecidableEq

/-- `json.Marshal` of a context: its members in order. -/
def Context.marshal (c : Context) : List (String × Json) :=
  [("schemaVersion", .str c.schemaVersion), ("gatewayId", .str c.gatewayID),
    ("clockId", .str c.clockID), ("provisioningRevision", .str c.provisioningRevision),
    ("runId", .str c.runID), ("generation", .num c.generation), ("status", .str c.status),
    ("issuedAt", .time c.issuedAt), ("validFrom", .time c.validFrom),
    ("expiresAt", .time c.expiresAt)]

theorem Context.marshal_injective {c c' : Context} (h : c.marshal = c'.marshal) : c = c' := by
  cases c
  cases c'
  simpa [marshal] using h

structure Envelope where
  payload : List UInt8
deriving DecidableEq

def schema : String := "clock-run-context/2-draft"

def ledgerVersion : Int := 2

section Verify

variable (decode : List UInt8 → Except String Context)

/-- The contract `verify` checks, times' zones apart. -/
def Context.meetsContract (c : Context) (scope : Scope) : Bool :=
  c.schemaVersion == schema && c.gatewayID == scope.gatewayID && c.clockID == scope.clockID &&
    c.runID != "" && c.provisioningRevision != "" && 1 ≤ c.generation &&
    c.generation ≤ 9007199254740991 && (c.status == "active" || c.status == "revoked") &&
    !c.issuedAt.isZero && !c.issuedAt.after c.validFrom && c.validFrom.before c.expiresAt

/-- `verify`.  `decode` is the strict JSON decoder of contexts. -/
def verify (scope : Scope) (envelope : Envelope) : Except String Context :=
  if 65536 < envelope.payload.length then
    .error "run context payload too large"
  else
    match decode envelope.payload with
    | .error err => .error err
    | .ok c =>
      if !c.meetsContract scope then
        .error "invalid run context contract"
      else if [c.issuedAt, c.validFrom, c.expiresAt].any fun t => t.offset != 0 then
        .error "context times must be UTC"
      else
        .ok c

structure Admitted (scope : Scope) (c : Context) : Prop where
  schemaVersion : c.schemaVersion = schema
  gatewayID : c.gatewayID = scope.gatewayID
  clockID : c.clockID = scope.clockID
  runID : c.runID ≠ ""
  provisioningRevision : c.provisioningRevision ≠ ""
  generation : 1 ≤ c.generation ∧ c.generation ≤ 9007199254740991
  status : c.status = "active" ∨ c.status = "revoked"
  issuedAt : c.issuedAt.instant ≠ 0
  validFrom : c.issuedAt.instant ≤ c.validFrom.instant
  expiresAt : c.validFrom.instant < c.expiresAt.instant
  offsets : c.issuedAt.offset = 0 ∧ c.validFrom.offset = 0 ∧ c.expiresAt.offset = 0

variable {decode} {scope : Scope} {envelope : Envelope} {c : Context}

/-- What `verify` accepts is what the payload decodes to, and has passed the checks. -/
theorem admitted_of_verify (h : verify decode scope envelope = .ok c) :
    decode envelope.payload = .ok c ∧ Admitted scope c := by
  rw [verify] at h
  split at h
  · cases h
  split at h
  · cases h
  next c' hdecode =>
    split at h
    · cases h
    next hcontract =>
      split at h
      · cases h
      next hutc =>
        cases h
        simp only [Context.meetsContract, Time.isZero, Time.after, Time.before,
          Bool.not_eq_true', Bool.not_eq_false, Bool.and_eq_true, Bool.or_eq_true, beq_iff_eq,
          bne_iff_ne, ne_eq, decide_eq_true_eq, decide_eq_false_iff_not] at hcontract
        obtain ⟨⟨⟨⟨⟨⟨⟨⟨⟨⟨hschema, hgateway⟩, hclock⟩, hrun⟩, hrevision⟩, hlow⟩, hhigh⟩, hstatus⟩,
          hissued⟩, hvalid⟩, hexpires⟩ := hcontract
        simp only [List.any_cons, List.any_nil, Bool.or_false, Bool.or_eq_true, bne_iff_ne, ne_eq,
          not_or, not_not] at hutc
        exact ⟨hdecode, hschema, hgateway, hclock, hrun, hrevision, ⟨hlow, hhigh⟩, hstatus,
          hissued, Int.not_lt.mp hvalid, hexpires, hutc⟩

end Verify

/-! ## The ledger -/

/-- `state`: what the file holds.  A nil `InvalidRuns` is never written. -/
structure State where
  invalidRuns : Dict String Bool := ∅
  version : Int := ledgerVersion
  scope : Scope
  envelope : Option Envelope := none
  committedAt : Time := {}
  appliedAt : Option Time := none

structure Ledger where
  failed : Bool := false
  data : State
  context : Option Context := none

/-- `Result`: `absent`, `unverified` and `invalid` with their reason, or `valid`. -/
inductive Result where
  | absent
  | unverified (reason : String)
  | invalid (reason : String)
  | valid (runID : String) (generation : Nat)
deriving DecidableEq

def State.invalidated (d : State) (runID : String) : Bool := (d.invalidRuns.lookup runID).getD false

/-- `InvalidRuns` copied, and `runID` marked. -/
def State.mark (d : State) (runID : String) : Dict String Bool := d.invalidRuns.insert runID true

def State.commit (d : State) (envelope : Envelope) (t : Time) (c : Context) : State :=
  { d with
    envelope := some envelope
    committedAt := t
    appliedAt := none
    invalidRuns := if c.status = "revoked" then d.mark c.runID else d.invalidRuns }

def initializeLedger (scope : Scope) : Except String Ledger :=
  if scope.gatewayID = "" ∨ scope.clockID = "" then
    .error "invalid scope"
  else
    .ok { data := { scope := scope } }

/-- `Open`, on what the file holds. -/
def openLedger (decode : List UInt8 → Except String Context) (disk : State) (scope : Scope) :
    Except String Ledger :=
  if disk.version ≠ ledgerVersion ∨ disk.scope ≠ scope then
    .error "ledger scope/version mismatch"
  else
    match disk.envelope with
    | none =>
      if !disk.committedAt.isZero || disk.appliedAt.isSome then
        .error "orphan ledger receipts"
      else
        .ok { data := disk }
    | some envelope =>
      match verify decode disk.scope envelope with
      | .error err => .error err
      | .ok context =>
        if disk.committedAt.before context.issuedAt ||
            !disk.committedAt.before context.expiresAt then
          .error "invalid persisted commit"
        else if disk.appliedAt.any fun applied =>
            applied.before disk.committedAt || !applied.before context.expiresAt then
          .error "invalid persisted apply"
        else
          .ok { data := disk, context := some context }

namespace Ledger

def current (l : Ledger) : Except String Context :=
  if l.failed then
    .error "run history unavailable"
  else
    match l.context with
    | none => .error "run history unavailable"
    | some c => .ok c

def invalidated (l : Ledger) (runID : String) : Except String Bool :=
  if l.failed then .error "run ledger requires recovery" else .ok (l.data.invalidated runID)

def currentEnvelope (l : Ledger) : Except String Envelope :=
  if l.failed then
    .error "run history unavailable"
  else
    match l.data.envelope with
    | none => .error "run history unavailable"
    | some envelope => .ok envelope

def receiverTimes (l : Ledger) : Except String (Time × Option Time) :=
  if l.failed || l.context.isNone then
    .error "run history unavailable"
  else
    .ok (l.data.committedAt, l.data.appliedAt)

/-- `Archive`: what it writes, a new activation boundary for the session. -/
def archive (l : Ledger) (appliedAt : Time) : Except String State :=
  if l.failed || l.data.appliedAt.isNone || appliedAt.before l.data.committedAt ||
      !l.context.any fun c => appliedAt.before c.expiresAt then
    .error "run context not ready for session archive"
  else
    .ok { l.data with appliedAt := some appliedAt }

def evaluate (l : Ledger) (revision : String) (start stop : Time) : Result :=
  if l.failed then
    .unverified "generation_history_unavailable"
  else
    match l.context with
    | none => .absent
    | some c =>
      if stop.before start then .invalid "invalid_acquisition_interval"
      else if c.provisioningRevision ≠ revision then .invalid "revision_mismatch"
      else if c.status = "revoked" then .invalid "revoked"
      else if start.before c.validFrom then .invalid "not_yet_valid"
      else if !stop.before c.expiresAt then .invalid "expired"
      else
        match l.data.appliedAt with
        | none => .unverified "context_not_applied"
        | some applied =>
          if start.before applied then .invalid "context_not_active_at_start"
          else if l.data.invalidated c.runID then .invalid "reset_detected"
          else .valid c.runID c.generation

end Ledger

/-! ## Operations -/

/-- How a `persist` ends: it succeeds, `json.Marshal` or `os.CreateTemp` fails, or a
    later call fails before or after the rename. -/
inductive Fault where
  | none
  | staging (err : String)
  | beforeRename (err : String)
  | afterRename (err : String)

def Fault.renames : Fault → Bool
  | .none => true
  | .staging _ => false
  | .beforeRename _ => false
  | .afterRename _ => true

structure Store where
  disk : State
  ledger : Ledger

namespace Store

variable (decode : List UInt8 → Except String Context)

def failPersist (err : String) : Prog Store String Unit := do
  modify fun s => { s with ledger := { s.ledger with failed := true } }
  Prog.fail err

def persist (next : State) : Fault → Prog Store String Unit
  | .none => modify fun s => { s with disk := next, ledger := { s.ledger with data := next } }
  | .staging err => failPersist err
  | .beforeRename err => failPersist ("run ledger persistence: " ++ err)
  | .afterRename err => do
      modify fun s => { s with disk := next }
      failPersist ("run ledger persistence: " ++ err)

/-- The end of `Commit`: the new state is persisted, then the context replaced. -/
def commitNext (l : Ledger) (envelope : Envelope) (at' : Time) (context : Context)
    (fault : Fault) : Prog Store String Unit := do
  persist (l.data.commit envelope at' context) fault
  modify fun s => { s with ledger := { s.ledger with context := some context } }

def commit (envelope : Envelope) (at' : Time) (fault : Fault) : Prog Store String Unit := do
  let l := (← get).ledger
  check (!l.failed) "run ledger requires recovery"
  let context ← ofExcept (verify decode l.data.scope envelope)
  check (!at'.before context.issuedAt && at'.before context.expiresAt)
    "context outside commit lifetime"
  match l.context with
  | none => do
      check (context.generation == 1) "new domain requires generation one"
      commitNext l envelope at' context fault
  | some current =>
    if context.generation < current.generation then
      Prog.fail "generation rollback"
    else if context.generation = current.generation then
      check (current.marshal == context.marshal) "generation conflict"
    else
      commitNext l envelope at' context fault

def apply (at' : Time) (fault : Fault) : Prog Store String Unit := do
  let l := (← get).ledger
  check (!l.failed) "run ledger requires recovery"
  check (l.context.any fun c => !at'.before l.data.committedAt && at'.before c.expiresAt)
    "invalid apply boundary"
  if l.data.appliedAt.isSome then
    pure ()
  else
    persist { l.data with appliedAt := some at' } fault

def invalidateRun (runID : String) (fault : Fault) : Prog Store String Unit := do
  let l := (← get).ledger
  check (!l.failed) "run ledger requires recovery"
  check (l.context.any fun c => runID == c.runID) "unknown current run"
  persist { l.data with invalidRuns := l.data.mark runID } fault

def invalidateContext (envelope : Envelope) (fault : Fault) : Prog Store String Unit := do
  let l := (← get).ledger
  check (!l.failed && l.context.isSome) "run history unavailable"
  let context ← ofExcept (verify decode l.data.scope envelope)
  check (l.context.any fun c => context.generation ≤ c.generation) "uncommitted reset context"
  persist { l.data with invalidRuns := l.data.mark context.runID } fault

end Store

inductive Op where
  | commit (envelope : Envelope) (at' : Time) (fault : Fault)
  | apply (at' : Time) (fault : Fault)
  | invalidateRun (runID : String) (fault : Fault)
  | invalidateContext (envelope : Envelope) (fault : Fault)

def Op.prog (decode : List UInt8 → Except String Context) : Op → Prog Store String Unit
  | .commit envelope at' fault => Store.commit decode envelope at' fault
  | .apply at' fault => Store.apply at' fault
  | .invalidateRun runID fault => Store.invalidateRun runID fault
  | .invalidateContext envelope fault => Store.invalidateContext decode envelope fault

/-! ## Runs -/

structure System where
  disk : State
  ledger : Option Ledger

/-- What happens to the system: a call, the file opened again in place of the ledger,
    a crash. -/
inductive Action where
  | call (op : Op)
  | reopen (scope : Scope)
  | crash

namespace System

variable (decode : List UInt8 → Except String Context)

def init (scope : Scope) : Except String System :=
  (initializeLedger scope).map fun l => { disk := l.data, ledger := some l }

def step (u : System) : Action → Option (Except String Unit × System)
  | .crash => some (.ok (), { u with ledger := none })
  | .reopen scope =>
    match openLedger decode u.disk scope with
    | .ok l => some (.ok (), { u with ledger := some l })
    | .error err => some (.error err, u)
  | .call op =>
    u.ledger.map fun l =>
      let o := op.prog decode { disk := u.disk, ledger := l }
      (o.result, { disk := o.state.disk, ledger := some o.state.ledger })

def Steps (u : System) (a : Action) (v : System) : Prop := ∃ res, u.step decode a = some (res, v)

end System

end NexusGateway.RunContext
