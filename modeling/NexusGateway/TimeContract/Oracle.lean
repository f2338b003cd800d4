/-
`test/contracts/ri-clock-v2/time_contract.py`: the offline oracle of the
clock contract.  It judges one acquisition (`acquisitionQuality`) and the
run context an acquisition is attributed to (`contextState`); the receiver's
evidence is an argument.

A context is a Python dict, here its members.  What the checks ask of their
values is a `Reading` of them.  In this module a time is kept as the instant
and the offset that its text says; `Document` reads the texts.  The value of
a clock is of any linearly ordered type with a zero: `Decimal` in the source.
-/

import NexusGateway.Lib.JsonLiteral
import NexusGateway.RunContext.Ledger
import Mathlib.Order.Lattice

namespace NexusGateway.TimeContract

open RunContext (Time Json)

def require (condition : Bool) (reason : String) : Except String Unit :=
  if condition then .ok () else .error reason

@[simp] theorem require_true (reason : String) : require true reason = .ok () := rfl

@[simp] theorem require_eq_ok {condition : Bool} {reason : String} {x : Unit} :
    require condition reason = .ok x ↔ condition = true := by
  cases condition <;> simp [require]

/-! ## Contexts -/

def runSchema : String := "clock-run-context/2-draft"

def runFields : List String :=
  ["schemaVersion", "gatewayId", "clockId", "provisioningRevision", "runId", "generation",
    "status", "issuedAt", "validFrom", "expiresAt"]

def identityFields : List String := ["gatewayId", "clockId", "provisioningRevision", "runId"]

/-- `context[key]`, of the items in document order: a later one replaces an earlier one of
    its name. -/
def item {α : Type} (context : List (String × α)) (key : String) : Except String α :=
  match Lib.Json.lastOf context key with
  | some value => .ok value
  | none => .error ("KeyError: " ++ key)

/-- `str.isspace` of one character. -/
def isSpace (c : Char) : Bool :=
  let n := c.toNat
  (0x09 ≤ n && n ≤ 0x0d) || (0x1c ≤ n && n ≤ 0x20) || n = 0x85 || n = 0xa0 || n = 0x1680 ||
    (0x2000 ≤ n && n ≤ 0x200a) || n = 0x2028 || n = 0x2029 || n = 0x202f || n = 0x205f ||
    n = 0x3000

/-- An `int` from 1 to the largest integer a double holds exactly. -/
def inGenerations (n : Int) : Bool := 0 < n && n ≤ 9007199254740991

/-- What the checks ask of a value: the value of a text, whether `strip` leaves something of
    a string, whether it is a generation, and its time. -/
structure Reading (α T : Type) where
  text : String → α
  isIdentity : α → Bool
  isGeneration : α → Bool
  utc : α → Except String T

def Reading.validateContext {α T : Type} [DecidableEq α] [LinearOrder T] (r : Reading α T)
    (context : List (String × α)) : Except String Unit := do
  let keys := context.map Prod.fst
  require (keys.all runFields.contains && runFields.all keys.contains) "invalid_context_fields"
  require ((← item context "schemaVersion") = r.text runSchema) "unknown_context_schema"
  identityFields.forM fun key => do
    require (r.isIdentity (← item context key)) "invalid_context_identity"
  require (r.isGeneration (← item context "generation")) "invalid_generation"
  let status ← item context "status"
  require (status = r.text "active" || status = r.text "revoked") "invalid_context_status"
  let issued ← r.utc (← item context "issuedAt")
  let start ← r.utc (← item context "validFrom")
  let stop ← r.utc (← item context "expiresAt")
  require (issued ≤ start && start < stop) "invalid_context_interval"

abbrev Members : Type := List (String × Json)

/-- `utc`: seconds since the epoch in the source, an instant here. -/
def utc : Json → Except String Int
  | .time t => do
      require (t.offset == 0) "invalid_utc"
      pure t.instant
  | _ => .error "invalid_utc"

/-- Values whose times have been read. -/
def timed : Reading Json Int where
  text := .str
  isIdentity
    | .str s => s.toList.any fun c => !isSpace c
    | .num _ => false
    | .time _ => true
  isGeneration
    | .num n => inGenerations n
    | _ => false
  utc := utc

def validateContext (context : Members) : Except String Unit := timed.validateContext context

/-- `context['generation']` of a validated context. -/
def generation (context : Members) : Except String Nat := do
  match ← item context "generation" with
  | .num n => pure n
  | _ => .error "TypeError"

def sameContext (context other : Members) : Bool :=
  let keys := context.map Prod.fst ++ other.map Prod.fst
  keys.all fun key => Lib.Json.lastOf context key == Lib.Json.lastOf other key

/-! ## Acquisitions -/

inductive Quality where
  | reset
  | missing
  | changed
  | stableUnfenced
deriving DecidableEq

def Quality.text : Quality → String
  | .reset => "reset"
  | .missing => "missing"
  | .changed => "changed"
  | .stableUnfenced => "stable_unfenced"

theorem Quality.text_injective {q q' : Quality} (h : q.text = q'.text) : q = q' := by
  cases q <;> cases q' <;> simp [Quality.text] at h ⊢

/-- An acquisition; a sample is `none` for a read that failed. -/
structure Acquisition (V : Type) where
  startedAt : Json
  endedAt : Json
  chunkCount : Int
  clockSamples : List (Option V)
  resetLatched : Bool
  contextChanged : Bool
  previousClockValue : Option V := none

section Quality

variable {V : Type} [LinearOrder V]

/-- One turn of the loop over the samples: the latch and the last value. -/
def follow (latch : Bool × Option V) : Option V → Bool × Option V
  | none => latch
  | some value => (latch.1 || latch.2.any fun previous => value < previous, some value)

/-- The verdict on the samples, from the latch and the value before them. -/
def judge (resetLatched : Bool) (previous : Option V) (values : List (Option V)) :
    Quality × Option V :=
  if (values.foldl follow (resetLatched, previous)).1 then (.reset, none)
  else if values.any Option.isNone then (.missing, none)
  else if values.any fun v => v != values.head?.join then (.changed, none)
  else (.stableUnfenced, values.head?.join)

theorem follow_value {latch : Bool × Option V} {values : List (Option V)} {v : V}
    (h : (values.foldl follow latch).2 = some v) : latch.2 = some v ∨ some v ∈ values := by
  induction values generalizing latch with
  | nil => exact Or.inl h
  | cons value values ih =>
    rcases ih h with hhead | htail
    · cases value with
      | none => exact Or.inl hhead
      | some w =>
        right
        rw [← (show some w = some v from hhead)]
        exact List.mem_cons_self ..
    · exact Or.inr (List.mem_cons_of_mem _ htail)

theorem follow_latched {latch : Bool × Option V} (h : latch.1 = true)
    (values : List (Option V)) : (values.foldl follow latch).1 = true := by
  induction values generalizing latch with
  | nil => exact h
  | cons value values ih =>
    apply ih
    cases value with
    | none => exact h
    | some v => simp [follow, h]

variable [Zero V]

def seconds (value : V) : Except String V := do
  require (0 ≤ value) "invalid_sim_time"
  pure value

def acquisitionQuality (acquisition : Acquisition V) : Except String (Quality × Option V) := do
  let start ← utc acquisition.startedAt
  let stop ← utc acquisition.endedAt
  require (start ≤ stop) "invalid_acquisition_interval"
  require (0 < acquisition.chunkCount) "invalid_chunk_count"
  require ((acquisition.clockSamples.length : Int) == acquisition.chunkCount + 1)
    "incomplete_clock_boundaries"
  let values ← acquisition.clockSamples.mapM fun v => v.mapM seconds
  let previous ← acquisition.previousClockValue.mapM seconds
  pure (judge acquisition.resetLatched previous values)

theorem mapM_seconds {values : List (Option V)} (h : ∀ v, some v ∈ values → 0 ≤ v) :
    values.mapM (fun v => v.mapM seconds) = Except.ok values := by
  induction values with
  | nil => rfl
  | cons value values ih =>
    have hvalue : value.mapM seconds = Except.ok value := by
      cases value with
      | none => rfl
      | some v =>
        have hv := h v (List.mem_cons_self ..)
        simp [seconds, hv]
    have hrest := ih fun v hv => h v (List.mem_cons_of_mem _ hv)
    rw [List.mapM_cons, hvalue, hrest]
    rfl

theorem acquisitionQuality_eq_judge {acquisition : Acquisition V} {start stop : Int}
    (hstart : utc acquisition.startedAt = .ok start) (hstop : utc acquisition.endedAt = .ok stop)
    (hinterval : start ≤ stop) (hchunks : 0 < acquisition.chunkCount)
    (hsamples : (acquisition.clockSamples.length : Int) = acquisition.chunkCount + 1)
    (hvalues : ∀ v, some v ∈ acquisition.clockSamples → 0 ≤ v)
    (hprevious : ∀ v, acquisition.previousClockValue = some v → 0 ≤ v) :
    acquisitionQuality acquisition = .ok (judge acquisition.resetLatched
      acquisition.previousClockValue acquisition.clockSamples) := by
  have hpreviousValue : acquisition.previousClockValue.mapM seconds =
      Except.ok acquisition.previousClockValue := by
    cases hprev : acquisition.previousClockValue with
    | none => rfl
    | some v =>
      have hv := hprevious v hprev
      simp [seconds, hv]
  simp only [acquisitionQuality, hstart, hstop, hinterval, hchunks, hsamples, beq_self_eq_true,
    decide_true, require_true, mapM_seconds hvalues, hpreviousValue, Lib.ok_bind]
  rfl

end Quality

/-! ## The state of a context -/

structure Receiver where
  authenticated : Bool
  issuerAuthorized : Bool
  historyRecovered : Bool
  committedContext : Option Members
  committedAt : Json
  appliedAt : Option Json
  invalidatedRunIds : List String

structure Snapshot where
  gatewayId : String
  revision : String

inductive Status where
  | absent
  | unverified
  | invalid
  | valid
deriving DecidableEq

abbrev Verdict : Type := Status × Option String

section ContextState

variable {V : Type} [LinearOrder V] [Zero V]

/-- The end of `context_state`, for a context that is the committed one. -/
def receiptState (context : Members) (acquisition : Acquisition V) (receiver : Receiver) :
    Except String Verdict := do
  match receiver.appliedAt with
  | none => pure (.unverified, some "context_not_applied")
  | some appliedAt =>
    let committed ← utc receiver.committedAt
    let applied ← utc appliedAt
    let start ← utc acquisition.startedAt
    if start < max committed applied then
      pure (.invalid, some "context_not_active_at_start")
    else
      let (quality, _) ← acquisitionQuality acquisition
      let runId ← item context "runId"
      if quality = .reset ∨ runId ∈ receiver.invalidatedRunIds.map Json.str then
        pure (.invalid, some "reset_detected")
      else
        pure (.valid, none)

/-- The middle of `context_state`: what the receiver has committed. -/
def committedState (snapshot : Snapshot) (clockId : String) (context : Members)
    (acquisition : Acquisition V) (receiver : Receiver) : Except String Verdict := do
  match receiver.committedContext with
  | none => pure (.unverified, some "context_not_committed")
  | some committed =>
    validateContext committed
    require ((← item committed "gatewayId") == .str snapshot.gatewayId &&
      (← item committed "clockId") == .str clockId) "invalid_receiver_scope"
    let mine ← generation context
    let theirs ← generation committed
    if mine < theirs then pure (.invalid, some "stale_generation")
    else if mine = theirs ∧ !sameContext context committed then
      pure (.invalid, some "generation_conflict")
    else if mine > theirs then pure (.unverified, some "context_not_committed")
    else receiptState context acquisition receiver

def contextState (snapshot : Snapshot) (clockId : String) (context : Option Members)
    (acquisition : Acquisition V) (receiver : Receiver) : Except String Verdict := do
  match context with
  | none => pure (.absent, none)
  | some context =>
    validateContext context
    if !receiver.authenticated then pure (.unverified, some "unauthenticated_context")
    else if !receiver.issuerAuthorized then pure (.unverified, some "issuer_not_authorized")
    else if (← item context "gatewayId") ≠ .str snapshot.gatewayId ∨
        (← item context "clockId") ≠ .str clockId then
      pure (.invalid, some "scope_mismatch")
    else if (← item context "provisioningRevision") ≠ .str snapshot.revision then
      pure (.invalid, some "revision_mismatch")
    else if (← item context "status") = .str "revoked" then pure (.invalid, some "revoked")
    else if (← utc acquisition.startedAt) < (← utc (← item context "validFrom")) then
      pure (.invalid, some "not_yet_valid")
    else if (← utc (← item context "expiresAt")) ≤ (← utc acquisition.endedAt) then
      pure (.invalid, some "expired")
    else if acquisition.contextChanged then pure (.invalid, some "context_changed")
    else if !receiver.historyRecovered then
      pure (.unverified, some "generation_history_unavailable")
    else committedState snapshot clockId context acquisition receiver

end ContextState

end NexusGateway.TimeContract
