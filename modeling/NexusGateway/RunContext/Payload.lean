/-
`decode` of a run context from the bytes of a payload, with unknown fields
disallowed.

A member fills the field whose name it has, else the one whose name it has up
to case, over what an earlier member left; `null` leaves a field as it is.  A
time is parsed from the text between its quotes.  `Decoded` says what a
successful run has read, field by field.
-/

import NexusGateway.Lib.JsonLiteral
import NexusGateway.Lib.Rfc3339
import NexusGateway.RunContext.Ledger

namespace NexusGateway.RunContext

open Lib Lib.Json

/-! ## Fields -/

/-- `UnmarshalJSON` of a `string`. -/
def unmarshalString (old : String) : Literal → Except String String
  | .null => .ok old
  | .string l => .ok l.text
  | v => .error (mismatch v.tree "string")

/-- `strconv.ParseUint` to base 10 and 64 bits. -/
def parseUint64 (cs : List Char) : Option Nat :=
  if cs ≠ [] ∧ cs.all Char.isDigit ∧ decimal cs < 2 ^ 64 then some (decimal cs) else none

/-- `UnmarshalJSON` of a `uint64`. -/
def unmarshalUint (old : Nat) : Literal → Except String Nat
  | .null => .ok old
  | .number l =>
    match parseUint64 l.toList with
    | some n => .ok n
    | none => .error ("json: cannot unmarshal number " ++ l ++ " into Go value of type uint64")
  | v => .error (mismatch v.tree "uint64")

/-- `time.parseStrictRFC3339`, whose own checks are disabled, so that it accepts what
    `time.Parse` does; the text of its errors is left out. -/
def parseStrictRFC3339 (cs : List Char) : Except String Time :=
  match Rfc3339.parse cs with
  | some (instant, offset) => .ok { instant, offset }
  | none => .error "parsing time"

/-- `UnmarshalJSON` of a `time.Time`, which takes no escapes. -/
def unmarshalTime (old : Time) : Literal → Except String Time
  | .null => .ok old
  | .string l => parseStrictRFC3339 l.raw
  | _ => .error "Time.UnmarshalJSON: input is not a JSON string"

/-! ## Contexts -/

def contextFields : List String :=
  ["schemaVersion", "gatewayId", "clockId", "provisioningRevision", "runId", "generation",
    "status", "issuedAt", "validFrom", "expiresAt"]

def Context.zero : Context where
  schemaVersion := ""
  gatewayID := ""
  clockID := ""
  provisioningRevision := ""
  runID := ""
  generation := 0
  status := ""
  issuedAt := {}
  validFrom := {}
  expiresAt := {}

def refuseUnknown (ms : List (String × Literal)) : Except String Unit :=
  match ms.find? fun m => resolve contextFields m.1 = none with
  | some m => .error ("json: unknown field \"" ++ m.1 ++ "\"")
  | none => .ok ()

def decodeMembers (ms : List (String × Literal)) : Except String Context := do
  refuseUnknown ms
  let schemaVersion ← literalField contextFields "schemaVersion" unmarshalString "" ms
  let gatewayID ← literalField contextFields "gatewayId" unmarshalString "" ms
  let clockID ← literalField contextFields "clockId" unmarshalString "" ms
  let provisioningRevision ←
    literalField contextFields "provisioningRevision" unmarshalString "" ms
  let runID ← literalField contextFields "runId" unmarshalString "" ms
  let generation ← literalField contextFields "generation" unmarshalUint 0 ms
  let status ← literalField contextFields "status" unmarshalString "" ms
  let issuedAt ← literalField contextFields "issuedAt" unmarshalTime {} ms
  let validFrom ← literalField contextFields "validFrom" unmarshalTime {} ms
  let expiresAt ← literalField contextFields "expiresAt" unmarshalTime {} ms
  return { schemaVersion, gatewayID, clockID, provisioningRevision, runID, generation, status,
           issuedAt, validFrom, expiresAt }

/-- A document into a context; `null` leaves the zero value. -/
def decodeDocument : Document → Except String Context
  | .object ms => decodeMembers ms
  | .other .null => .ok .zero
  | .other j => .error (mismatch j "runcontext.Context")

/-- `decode` into a context.  The text of a syntax error is left out. -/
def decodeContext (raw : List UInt8) : Except String Context := do
  let (document, rest) ← (readDocument raw).elim (.error "invalid JSON") .ok
  let c ← decodeDocument document
  refuse (rest.dropWhile isSpace ≠ []) "trailing JSON"
  return c

/-! ## What was read -/

def Context.texts (c : Context) : List (String × String) :=
  [("schemaVersion", c.schemaVersion), ("gatewayId", c.gatewayID), ("clockId", c.clockID),
    ("provisioningRevision", c.provisioningRevision), ("runId", c.runID), ("status", c.status)]

def Context.times (c : Context) : List (String × Time) :=
  [("issuedAt", c.issuedAt), ("validFrom", c.validFrom), ("expiresAt", c.expiresAt)]

structure Decoded (ms : List (String × Literal)) (c : Context) : Prop where
  texts : ∀ f ∈ c.texts, literalField contextFields f.1 unmarshalString "" ms = .ok f.2
  generation : literalField contextFields "generation" unmarshalUint 0 ms = .ok c.generation
  times : ∀ f ∈ c.times, literalField contextFields f.1 unmarshalTime {} ms = .ok f.2

theorem decoded_of_decodeMembers {ms : List (String × Literal)} {c : Context}
    (h : decodeMembers ms = .ok c) : Decoded ms c := by
  obtain ⟨_, -, h⟩ := bind_eq_ok.mp h
  obtain ⟨schemaVersion, hschema, h⟩ := bind_eq_ok.mp h
  obtain ⟨gatewayID, hgateway, h⟩ := bind_eq_ok.mp h
  obtain ⟨clockID, hclock, h⟩ := bind_eq_ok.mp h
  obtain ⟨provisioningRevision, hrevision, h⟩ := bind_eq_ok.mp h
  obtain ⟨runID, hrun, h⟩ := bind_eq_ok.mp h
  obtain ⟨generation, hgeneration, h⟩ := bind_eq_ok.mp h
  obtain ⟨status, hstatus, h⟩ := bind_eq_ok.mp h
  obtain ⟨issuedAt, hissued, h⟩ := bind_eq_ok.mp h
  obtain ⟨validFrom, hvalid, h⟩ := bind_eq_ok.mp h
  obtain ⟨expiresAt, hexpires, h⟩ := bind_eq_ok.mp h
  cases h
  refine ⟨?_, hgeneration, ?_⟩
  · simp only [Context.texts, List.forall_mem_cons, List.not_mem_nil, false_implies,
      implies_true, and_true]
    exact ⟨hschema, hgateway, hclock, hrevision, hrun, hstatus⟩
  · simp only [Context.times, List.forall_mem_cons, List.not_mem_nil, false_implies,
      implies_true, and_true]
    exact ⟨hissued, hvalid, hexpires⟩

theorem parseStrictRFC3339_eq_ok {cs : List Char} {t : Time} :
    parseStrictRFC3339 cs = .ok t ↔ Rfc3339.parse cs = some (t.instant, t.offset) := by
  rw [parseStrictRFC3339]
  split
  · next instant offset hparse =>
    rw [hparse]
    constructor
    · intro h
      cases h
      rfl
    · intro h
      cases h
      rfl
  · next hparse => simp [hparse]

-- What a field holds was left there, or the literal says it.

theorem unmarshalString_eq_ok {old s : String} {v : Literal} :
    unmarshalString old v = .ok s ↔
      v = .null ∧ s = old ∨ ∃ l, v = .string l ∧ s = l.text := by
  cases v <;> simp [unmarshalString, eq_comm]

theorem unmarshalUint_eq_ok {old n : Nat} {v : Literal} :
    unmarshalUint old v = .ok n ↔
      v = .null ∧ n = old ∨ ∃ l, v = .number l ∧ parseUint64 l.toList = some n := by
  cases v with
  | null | string _ | other _ => simp [unmarshalUint, eq_comm]
  | number l =>
    rw [unmarshalUint]
    cases hparse : parseUint64 l.toList <;> simp [hparse]

theorem unmarshalTime_eq_ok {old t : Time} {v : Literal} :
    unmarshalTime old v = .ok t ↔
      v = .null ∧ t = old ∨ ∃ l, v = .string l ∧ parseStrictRFC3339 l.raw = .ok t := by
  cases v <;> simp [unmarshalTime, eq_comm]

end NexusGateway.RunContext
