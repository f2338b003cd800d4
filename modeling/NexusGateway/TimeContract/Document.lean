/-
`validate_context` of `time_contract.py` on the dict that `json.loads` makes
of a document.

A string of Python is its code points, of which some may be halves of
surrogate pairs.  `utc` keeps every digit of a fraction, so a time is a
rational number of seconds.  Where a value other than a string or an integer
stands the checks only see that it is neither.
-/

import NexusGateway.Lib.Rfc3339
import NexusGateway.TimeContract.Oracle

namespace NexusGateway.TimeContract.Document

open Lib Lib.Json

/-! ## Documents -/

inductive Value where
  | int (n : Int)
  | str (points : List Nat)
  | other
deriving DecidableEq

def integer (cs : List Char) : Option Int :=
  if (dropSign ['-'] cs).all Char.isDigit then
    let magnitude : Int := decimal (dropSign ['-'] cs)
    some (if cs.head? = some '-' then -magnitude else magnitude)
  else none

def Value.ofLiteral : Literal → Value
  | .number l =>
    match integer l.toList with
    | some n => .int n
    | none => .other
  | .string l => .str l.points
  | .null => .other
  | .other _ => .other

abbrev Members : Type := List (String × Value)

def dict (ms : List (String × Literal)) : Members := ms.map fun m => (m.1, .ofLiteral m.2)

/-- `json.loads`, where it makes a dict; the data is UTF-8 if its characters are written
    back as it. -/
def loads (data : List UInt8) : Option Members :=
  if utf8 (runes data) = data then
    match readDocument data with
    | some (.object ms, rest) => if rest.dropWhile Json.isSpace = [] then some (dict ms) else none
    | _ => none
  else none

def codePoints (s : String) : List Nat := s.toList.map Char.toNat

/-! ## The checks -/

/-- `datetime(1970, 1, 1, tzinfo=timezone.utc)`. -/
def epoch : Rfc3339.Stamp where
  year := 1970
  month := 1
  day := 1
  hour := 0
  minute := 0
  second := 0
  fraction := []
  zone := .utc

def isUTC (zone : Rfc3339.Zone) : Bool := zone = .utc || zone = .offset false 0 0

/-- `utc`.  A `datetime` starts with the year 1; the digits of the pattern are those of
    ASCII here. -/
def utc : Value → Except String ℚ
  | .str points =>
    match Rfc3339.read false (points.map scalar) with
    | none => .error "invalid_utc"
    | some s => do
        require (isUTC s.zone) "invalid_utc"
        require (1 ≤ s.year && s.inRange) "invalid_utc"
        pure ((s.clock - epoch.clock : Int) + Rfc3339.fraction s.fraction)
  | _ => .error "invalid_utc"

/-- A string that `strip` leaves something of. -/
def isIdentity : Value → Bool
  | .str points => points.any fun p => !TimeContract.isSpace (scalar p)
  | _ => false

def isGeneration : Value → Bool
  | .int n => inGenerations n
  | _ => false

/-- Values as `json.loads` leaves them. -/
abbrev loaded : Reading Value ℚ where
  text s := .str (codePoints s)
  isIdentity := isIdentity
  isGeneration := isGeneration
  utc := utc

def validateContext (context : Members) : Except String Unit := loaded.validateContext context

/-! ## What the checks ask for -/

theorem item_eq_ok {context : Members} {key : String} {v : Value} :
    item context key = .ok v ↔ lastOf context key = some v := by
  rw [item]
  cases lastOf context key with
  | none | some w => simp

theorem item_dict {ms : List (String × Literal)} {key : String} {w : Value} :
    item (dict ms) key = .ok w ↔ ∃ v, lastOf ms key = some v ∧ .ofLiteral v = w := by
  rw [item_eq_ok, dict, lastOf_map, Option.map_eq_some_iff]

theorem loads_object {data : List UInt8} {ms : List (String × Literal)} {rest : List Char}
    (hread : readDocument data = some (.object ms, rest))
    (hrest : rest.dropWhile Json.isSpace = []) {context : Members} :
    loads data = some context ↔ utf8 (runes data) = data ∧ dict ms = context := by
  rw [loads, hread]
  simp [hrest]

theorem forM_eq_ok {α : Type} {f : α → Except String Unit} {xs : List α} :
    xs.forM f = .ok () ↔ ∀ x ∈ xs, f x = .ok () := by
  induction xs with
  | nil => simp [pure, Except.pure]
  | cons x xs ih =>
    show (f x >>= fun _ => xs.forM f) = .ok () ↔ _
    rw [bind_eq_ok, List.forall_mem_cons, ← ih]
    constructor
    · rintro ⟨_, hx, hxs⟩
      exact ⟨hx, hxs⟩
    · rintro ⟨hx, hxs⟩
      exact ⟨(), hx, hxs⟩

structure Valid (context : Members) : Prop where
  known : ∀ m ∈ context, m.1 ∈ runFields
  complete : ∀ key ∈ runFields, key ∈ context.map Prod.fst
  schemaVersion : item context "schemaVersion" = .ok (.str (codePoints runSchema))
  identity : ∀ key ∈ identityFields, ∃ v, item context key = .ok v ∧ isIdentity v = true
  generation : ∃ v, item context "generation" = .ok v ∧ isGeneration v = true
  status : item context "status" = .ok (.str (codePoints "active")) ∨
    item context "status" = .ok (.str (codePoints "revoked"))
  interval : ∃ issued start stop, (item context "issuedAt" >>= utc) = .ok issued ∧
    (item context "validFrom" >>= utc) = .ok start ∧
    (item context "expiresAt" >>= utc) = .ok stop ∧ issued ≤ start ∧ start < stop

theorem require_bind_eq_ok {condition : Bool} {reason : String} {α : Type}
    {f : Unit → Except String α} {a : α} :
    (require condition reason >>= f) = .ok a ↔ condition = true ∧ f () = .ok a := by
  rw [bind_eq_ok]
  constructor
  · rintro ⟨_, hcondition, h⟩
    exact ⟨require_eq_ok.mp hcondition, h⟩
  · rintro ⟨hcondition, h⟩
    exact ⟨(), require_eq_ok.mpr hcondition, h⟩

theorem validateContext_eq_ok {context : Members} :
    validateContext context = .ok () ↔ Valid context := by
  have hidentity (u : Unit) : (identityFields.forM fun key => do
      require (isIdentity (← item context key)) "invalid_context_identity") = .ok u ↔
      ∀ key ∈ identityFields, ∃ v, item context key = .ok v ∧ isIdentity v = true := by
    rw [forM_eq_ok]
    simp only [bind_eq_ok, require_eq_ok]
  simp only [validateContext, Reading.validateContext, bind_eq_ok, require_eq_ok,
    hidentity, Bool.and_eq_true, Bool.or_eq_true, decide_eq_true_eq, List.all_eq_true,
    List.contains_iff_mem, List.forall_mem_map]
  constructor
  · rintro ⟨-, ⟨hknown, hcomplete⟩, _, hschema, -, rfl, -, hidentities, generation, hgeneration, -,
      hgeneration', status, hstatus, -, hstatus', issuedAt, hissuedAt, issued, hissued, validFrom,
      hvalidFrom, start, hstart, expiresAt, hexpiresAt, stop, hstop, hinterval⟩
    refine ⟨hknown, hcomplete, hschema, hidentities, ⟨generation, hgeneration, hgeneration'⟩, ?_,
      ?_⟩
    · rw [hstatus, Except.ok.injEq, Except.ok.injEq]
      exact hstatus'
    · exact ⟨issued, start, stop, bind_eq_ok.mpr ⟨_, hissuedAt, hissued⟩,
        bind_eq_ok.mpr ⟨_, hvalidFrom, hstart⟩, bind_eq_ok.mpr ⟨_, hexpiresAt, hstop⟩, hinterval⟩
  · intro h
    obtain ⟨generation, hgeneration, hgeneration'⟩ := h.generation
    obtain ⟨issued, start, stop, hissued, hstart, hstop, hinterval⟩ := h.interval
    obtain ⟨issuedAt, hissuedAt, hissued⟩ := bind_eq_ok.mp hissued
    obtain ⟨validFrom, hvalidFrom, hstart⟩ := bind_eq_ok.mp hstart
    obtain ⟨expiresAt, hexpiresAt, hstop⟩ := bind_eq_ok.mp hstop
    obtain ⟨status, hstatus, hstatus'⟩ : ∃ v, item context "status" = .ok v ∧
        (v = .str (codePoints "active") ∨ v = .str (codePoints "revoked")) := by
      rcases h.status with h | h
      · exact ⟨_, h, Or.inl rfl⟩
      · exact ⟨_, h, Or.inr rfl⟩
    exact ⟨(), ⟨h.known, h.complete⟩, _, h.schemaVersion, (), rfl, (), h.identity, generation,
      hgeneration, (), hgeneration', status, hstatus, (), hstatus', issuedAt, hissuedAt, issued,
      hissued, validFrom, hvalidFrom, start, hstart, expiresAt, hexpiresAt, stop, hstop, hinterval⟩

theorem utc_eq_ok {points : List Nat} {q : ℚ} :
    utc (.str points) = .ok q ↔ ∃ s, Rfc3339.read false (points.map scalar) = some s ∧
      isUTC s.zone = true ∧ 1 ≤ s.year ∧ s.inRange = true ∧
      q = (s.clock - epoch.clock : Int) + Rfc3339.fraction s.fraction := by
  rw [utc]
  cases Rfc3339.read false (points.map scalar) with
  | none => simp
  | some s =>
    simp only [Option.some.injEq]
    rw [require_bind_eq_ok, require_bind_eq_ok, Bool.and_eq_true, decide_eq_true_eq]
    constructor
    · rintro ⟨hzone, ⟨hyear, hrange⟩, h⟩
      exact ⟨s, rfl, hzone, hyear, hrange, (Except.ok.inj h).symm⟩
    · rintro ⟨s, rfl, hzone, hyear, hrange, rfl⟩
      exact ⟨hzone, ⟨hyear, hrange⟩, rfl⟩

end NexusGateway.TimeContract.Document
