/-
A payload that `verify` accepts in front of the contract oracle: which of
them does `validate_context` accept too, with the values the ledger has?

Both sides read one document.  They part where a name is only up to case the
name of a field, where a string is blank or not what both sides read in it,
where `null` leaves a field to an earlier member, and where a time is written
with an hour of one digit or a comma, is not in UTC's own form, before the
year 1 or finer than nanoseconds.  `Plain` says that none of this is the
case, and is all it takes (`conforms_iff_plain`).
-/

import NexusGateway.RunContext.Payload
import NexusGateway.TimeContract.Document
import Mathlib.Tactic.Linarith

namespace NexusGateway.RunContext

open Lib Lib.Json TimeContract.Document
open TimeContract (runFields identityFields item inGenerations)

/-! ## The contract -/

def members (payload : List UInt8) : List (String × Literal) :=
  match readDocument payload with
  | some (.object ms, _) => ms
  | _ => []

/-- The instant, in nanoseconds from the year 1, is that of the seconds from 1970. -/
def SameTime (t : Time) (q : ℚ) : Prop := (t.instant : ℚ) = (q + epoch.clock) * 10 ^ 9

section SameTime

variable {t t' : Time} {q q' : ℚ}

theorem SameTime.le_iff (h : SameTime t q) (h' : SameTime t' q') :
    t.instant ≤ t'.instant ↔ q ≤ q' := by
  rw [SameTime] at h h'
  rw [← Int.cast_le (R := ℚ), h, h']
  constructor
  · intro hle
    linarith
  · intro hle
    linarith

theorem SameTime.lt_iff (h : SameTime t q) (h' : SameTime t' q') :
    t.instant < t'.instant ↔ q < q' := by
  rw [← not_le, ← not_le, h'.le_iff h]

end SameTime

structure Agrees (c : Context) (context : Members) : Prop where
  texts : ∀ f ∈ c.texts, item context f.1 = .ok (.str (codePoints f.2))
  generation : item context "generation" = .ok (.int c.generation)
  times : ∀ f ∈ c.times, ∃ q, (item context f.1 >>= utc) = .ok q ∧ SameTime f.2 q

/-- The oracle accepts the payload as the context that the ledger has read. -/
def Conforms (payload : List UInt8) (c : Context) : Prop :=
  ∃ context, loads payload = some context ∧ validateContext context = .ok () ∧ Agrees c context

/-! ## Payloads with one reading -/

def textFields : List String :=
  ["schemaVersion", "gatewayId", "clockId", "provisioningRevision", "runId", "status"]

def timeFields : List String := ["issuedAt", "validFrom", "expiresAt"]

def isText : Literal → Bool
  | .string l => l.Legible
  | _ => false

def isNonblank : Literal → Bool
  | .string l => l.points.any fun p => !TimeContract.isSpace (scalar p)
  | _ => false

def isNull : Literal → Bool
  | .null => true
  | _ => false

/-- A date-time of the strict grammar that ends in `Z` or `+00:00`, is not in the year 0 and
    has no digits but zeros behind the ninth of its fraction. -/
def isUtcTime : Literal → Bool
  | .string l => (Rfc3339.read false l.raw).any fun s =>
    isUTC s.zone && 1 ≤ s.year && (s.fraction.drop 9).all (· = '0')
  | _ => false

/-- The payload is UTF-8, every member has the name of a field, and the last one of each
    name has a value that both sides read. -/
@[mk_iff] structure Plain (payload : List UInt8) : Prop where
  encoded : utf8 (runes payload) = payload
  named : ∀ m ∈ members payload, m.1 ∈ contextFields
  texts : ∀ name ∈ textFields, ∀ v ∈ lastOf (members payload) name, isText v = true
  identities : ∀ name ∈ identityFields, ∀ v ∈ lastOf (members payload) name, isNonblank v = true
  generation : ∀ v ∈ lastOf (members payload) "generation", isNull v = false
  times : ∀ name ∈ timeFields, ∀ v ∈ lastOf (members payload) name, isUtcTime v = true

instance (payload : List UInt8) : Decidable (Plain payload) :=
  decidable_of_iff' _ (plain_iff payload)

/-! ## What `verify` accepts -/

theorem Admitted.offset_eq_zero {scope : Scope} {c : Context} (h : Admitted scope c) :
    ∀ f ∈ c.times, f.2.offset = 0 := by
  simp only [Context.times, List.forall_mem_cons, List.not_mem_nil, false_implies, implies_true,
    and_true]
  exact h.offsets

theorem Admitted.texts_ne_empty {scope : Scope} {c : Context} (h : Admitted scope c)
    (hgateway : scope.gatewayID ≠ "") (hclock : scope.clockID ≠ "") :
    ∀ f ∈ c.texts, f.2 ≠ "" := by
  have hstatus : c.status ≠ "" := by
    rcases h.status with hactive | hrevoked
    · rw [hactive]
      decide
    · rw [hrevoked]
      decide
  simp only [Context.texts, List.forall_mem_cons, List.not_mem_nil, false_implies, implies_true,
    and_true]
  refine ⟨?_, h.gatewayID ▸ hgateway, h.clockID ▸ hclock, h.provisioningRevision, h.runID,
    hstatus⟩
  rw [h.schemaVersion]
  decide

theorem object_of_decodeContext {scope : Scope} {payload : List UInt8} {c : Context}
    (h : decodeContext payload = .ok c) (hadmitted : Admitted scope c) :
    ∃ rest, readDocument payload = some (.object (members payload), rest) ∧
      rest.dropWhile isSpace = [] ∧ Decoded (members payload) c := by
  obtain ⟨⟨document, rest⟩, hread, h⟩ := bind_eq_ok.mp h
  have hread := elim_eq_ok.mp hread
  obtain ⟨c', hdocument, h⟩ := bind_eq_ok.mp h
  obtain ⟨hrest, h⟩ := refuse_bind_eq_ok.mp h
  cases h
  cases document with
  | object ms =>
    have hms : members payload = ms := by
      rw [members, hread]
    rw [hms]
    exact ⟨rest, hread, not_not.mp (of_decide_eq_false hrest), decoded_of_decodeMembers hdocument⟩
  | other j =>
    cases j with
    | null =>
      cases hdocument
      have hschema := hadmitted.schemaVersion
      exact absurd hschema (by decide)
    | bool b | num l | str s | arr xs | obj ms => cases hdocument

/-! ## One literal in front of both sides -/

theorem foreign_backslash : Rfc3339.Foreign '\\' := ⟨rfl, by decide⟩

theorem map_scalar_points {l : StringLiteral} {s : Rfc3339.Stamp}
    (h : Rfc3339.read true l.raw = some s) : l.points.map scalar = l.raw := by
  rw [l.plain (Rfc3339.notMem_of_read foreign_backslash h), List.map_map]
  calc l.raw.map (scalar ∘ Char.toNat) = l.raw.map id :=
        List.map_congr_left fun c _ => scalar_toNat c
    _ = l.raw := List.map_id _

/-- What Go reads, the oracle reads alike exactly if it keeps to the strict grammar. -/
theorem isUtcTime_string {l : StringLiteral} {s : Rfc3339.Stamp}
    (h : Rfc3339.read true l.raw = some s) :
    isUtcTime (.string l) = true ↔ Rfc3339.read false l.raw = some s ∧
      isUTC s.zone = true ∧ 1 ≤ s.year ∧ ∀ c ∈ s.fraction.drop 9, c = '0' := by
  rw [isUtcTime]
  cases hstrict : Rfc3339.read false l.raw with
  | none => simp
  | some s' =>
    cases h.symm.trans (Rfc3339.read_lenient hstrict)
    simp [and_assoc]

theorem utc_same_iff {l : StringLiteral} {t : Time} (h : parseStrictRFC3339 l.raw = .ok t)
    (hoffset : t.offset = 0) :
    (∃ q, utc (.str l.points) = .ok q ∧ SameTime t q) ↔ isUtcTime (.string l) = true := by
  obtain ⟨s, hread, hrange, -, hzone, hinstant⟩ :=
    Rfc3339.parse_eq_some.mp (parseStrictRFC3339_eq_ok.mp h)
  rw [hoffset] at hzone
  have hsame : SameTime t ((s.clock - epoch.clock : Int) + Rfc3339.fraction s.fraction) ↔
      ∀ c ∈ s.fraction.drop 9, c = '0' := by
    rw [← Rfc3339.nanoseconds_eq_iff (Rfc3339.digits_of_read hread), SameTime, hinstant, ← hzone]
    push_cast
    constructor
    · intro heq
      linarith
    · intro heq
      linarith
  rw [isUtcTime_string hread, ← hsame]
  constructor
  · rintro ⟨q, hq, htime⟩
    obtain ⟨s', hread', hutc, hyear, -, rfl⟩ := utc_eq_ok.mp hq
    rw [map_scalar_points hread] at hread'
    cases hread.symm.trans (Rfc3339.read_lenient hread')
    exact ⟨hread', hutc, hyear, htime⟩
  · rintro ⟨hstrict, hutc, hyear, htime⟩
    refine ⟨_, utc_eq_ok.mpr ⟨s, ?_, hutc, hyear, hrange, rfl⟩, htime⟩
    rw [map_scalar_points hread, hstrict]

theorem instant_nonneg {l : StringLiteral} {t : Time} (h : parseStrictRFC3339 l.raw = .ok t)
    (hoffset : t.offset = 0) (hutc : isUtcTime (.string l) = true) : 0 ≤ t.instant := by
  obtain ⟨s, hread, hrange, -, hzone, hinstant⟩ :=
    Rfc3339.parse_eq_some.mp (parseStrictRFC3339_eq_ok.mp h)
  rw [hoffset] at hzone
  obtain ⟨-, -, hyear, -⟩ := (isUtcTime_string hread).mp hutc
  have hday : 1 ≤ s.day := by
    simp only [Rfc3339.Stamp.inRange, Bool.and_eq_true, decide_eq_true_eq] at hrange
    omega
  have hclock := Rfc3339.Stamp.clock_nonneg hyear hday
  rw [hinstant, ← hzone]
  omega

theorem isIdentity_ofLiteral (v : Literal) : isIdentity (.ofLiteral v) = isNonblank v := by
  cases v with
  | null | string _ | other _ => rfl
  | number l =>
    rw [Value.ofLiteral]
    cases integer l.toList <;> rfl

theorem string_of_ofLiteral {v : Literal} {points : List Nat}
    (h : Value.ofLiteral v = .str points) : ∃ l, v = .string l ∧ l.points = points := by
  cases v with
  | null | other _ => cases h
  | string l => exact ⟨l, rfl, Value.str.inj h⟩
  | number l =>
    rw [Value.ofLiteral] at h
    cases hint : integer l.toList with
    | none | some n =>
      rw [hint] at h
      cases h

theorem ofLiteral_number {l : String} {n : Nat} (h : parseUint64 l.toList = some n) :
    Value.ofLiteral (.number l) = .int n := by
  rw [parseUint64] at h
  split_ifs at h with hdigits
  cases h
  obtain ⟨hne, hall, -⟩ := hdigits
  have hhead : l.toList.head? ≠ some '-' := by
    intro hhead
    have hdigit := List.all_eq_true.mp hall '-' (List.mem_of_mem_head? hhead)
    cases hdigit
  have hdrop : dropSign ['-'] l.toList = l.toList := by
    cases hl : l.toList with
    | nil => rfl
    | cons c cs =>
      rw [hl] at hhead
      have hc : c ∉ ['-'] := by
        intro hmem
        rw [List.mem_singleton.mp hmem] at hhead
        exact hhead rfl
      rw [dropSign, if_neg hc]
  have hint : integer l.toList = some (decimal l.toList : Int) := by
    rw [integer, hdrop, if_pos hall]
    show some (if l.toList.head? = some '-' then _ else _) = _
    rw [if_neg hhead]
  rw [Value.ofLiteral, hint]

/-! ## A payload in front of both sides -/

section Payload

variable {scope : Scope} {payload : List UInt8} {c : Context}

theorem Agrees.exists_item {context : Members} (h : Agrees c context) :
    ∀ key ∈ runFields, ∃ v, item context key = .ok v := by
  have hcover : ∀ key ∈ runFields,
      key ∈ textFields ∨ key = "generation" ∨ key ∈ timeFields := by decide
  intro key hkey
  rcases hcover key hkey with htext | rfl | htime
  · obtain ⟨f, hf, rfl⟩ := List.mem_map.mp (show key ∈ c.texts.map Prod.fst from htext)
    exact ⟨_, h.texts f hf⟩
  · exact ⟨_, h.generation⟩
  · obtain ⟨f, hf, rfl⟩ := List.mem_map.mp (show key ∈ c.times.map Prod.fst from htime)
    obtain ⟨q, hq, -⟩ := h.times f hf
    obtain ⟨v, hv, -⟩ := bind_eq_ok.mp hq
    exact ⟨v, hv⟩

theorem valid_of_agrees {context : Members} (hagrees : Agrees c context)
    (hadmitted : Admitted scope c) (hknown : ∀ m ∈ context, m.1 ∈ runFields)
    (hidentity : ∀ key ∈ identityFields, ∀ v, item context key = .ok v → isIdentity v = true) :
    Valid context := by
  obtain ⟨issued, hissued, hissued'⟩ :=
    hagrees.times ("issuedAt", c.issuedAt) (by simp [Context.times])
  obtain ⟨start, hstart, hstart'⟩ :=
    hagrees.times ("validFrom", c.validFrom) (by simp [Context.times])
  obtain ⟨stop, hstop, hstop'⟩ :=
    hagrees.times ("expiresAt", c.expiresAt) (by simp [Context.times])
  have hschema := hagrees.texts ("schemaVersion", c.schemaVersion) (by simp [Context.texts])
  have hstatus := hagrees.texts ("status", c.status) (by simp [Context.texts])
  refine ⟨hknown, ?_, ?_, ?_, ⟨_, hagrees.generation, ?_⟩, ?_,
    ⟨issued, start, stop, hissued, hstart, hstop, ?_, ?_⟩⟩
  · intro key hkey
    obtain ⟨v, hv⟩ := hagrees.exists_item key hkey
    rw [← lastOf_isSome_iff, item_eq_ok.mp hv]
    rfl
  · rw [hadmitted.schemaVersion] at hschema
    exact hschema
  · intro key hkey
    have hsub : ∀ key ∈ identityFields, key ∈ runFields := by decide
    obtain ⟨v, hv⟩ := hagrees.exists_item key (hsub key hkey)
    exact ⟨v, hv, hidentity key hkey v hv⟩
  · have hgeneration := hadmitted.generation
    rw [isGeneration, inGenerations, Bool.and_eq_true, decide_eq_true_eq, decide_eq_true_eq]
    omega
  · rcases hadmitted.status with hactive | hrevoked
    · rw [hactive] at hstatus
      exact Or.inl hstatus
    · rw [hrevoked] at hstatus
      exact Or.inr hstatus
  · exact (hissued'.le_iff hstart').mp hadmitted.validFrom
  · exact (hstart'.lt_iff hstop').mp hadmitted.expiresAt

theorem plain_of_agrees (hencoded : utf8 (runes payload) = payload)
    (hdecoded : Decoded (members payload) c) (hadmitted : Admitted scope c)
    (hvalid : Valid (dict (members payload))) (hagrees : Agrees c (dict (members payload))) :
    Plain payload := by
  have hnamed : ∀ m ∈ members payload, m.1 ∈ contextFields := by
    intro m hm
    exact hvalid.known _ (List.mem_map_of_mem hm)
  refine ⟨hencoded, hnamed, ?_, ?_, ?_, ?_⟩
  · intro name hname v hv
    obtain ⟨f, hf, rfl⟩ := List.mem_map.mp (show name ∈ c.texts.map Prod.fst from hname)
    obtain ⟨v', hv', hvalue⟩ := item_dict.mp (hagrees.texts f hf)
    cases hv.symm.trans hv'
    obtain ⟨l, rfl, hpoints⟩ := string_of_ofLiteral hvalue
    rcases literalField_last hnamed (hdecoded.texts f hf) with ⟨hnone, -⟩ | ⟨w, old, hlast, hread⟩
    · cases hv.symm.trans hnone
    · cases hv.symm.trans hlast
      rw [← (Except.ok.inj hread : l.text = f.2)] at hpoints
      exact decide_eq_true (l.points_eq_iff.mp hpoints)
  · intro name hname v hv
    obtain ⟨w, hw, hidentity⟩ := hvalid.identity name hname
    obtain ⟨v', hv', rfl⟩ := item_dict.mp hw
    cases hv.symm.trans hv'
    rwa [isIdentity_ofLiteral] at hidentity
  · intro v hv
    obtain ⟨v', hv', hint⟩ := item_dict.mp hagrees.generation
    cases hv.symm.trans hv'
    cases v with
    | null => cases hint
    | number _ | string _ | other _ => rfl
  · intro name hname v hv
    obtain ⟨f, hf, rfl⟩ := List.mem_map.mp (show name ∈ c.times.map Prod.fst from hname)
    obtain ⟨q, hq, hsame⟩ := hagrees.times f hf
    obtain ⟨w, hw, hq⟩ := bind_eq_ok.mp hq
    obtain ⟨v', hv', rfl⟩ := item_dict.mp hw
    cases hv.symm.trans hv'
    rcases literalField_last hnamed (hdecoded.times f hf) with ⟨hnone, -⟩ | ⟨w, old, hlast, hread⟩
    · cases hv.symm.trans hnone
    · cases hv.symm.trans hlast
      rcases unmarshalTime_eq_ok.mp hread with ⟨rfl, -⟩ | ⟨l, rfl, hparse⟩
      · cases hq
      · exact (utc_same_iff hparse (hadmitted.offset_eq_zero f hf)).mp ⟨q, hq, hsame⟩

theorem Plain.time (hplain : Plain payload) (hdecoded : Decoded (members payload) c) :
    ∀ f ∈ c.times, f.2.instant = 0 ∨ ∃ l,
      lastOf (members payload) f.1 = some (.string l) ∧ parseStrictRFC3339 l.raw = .ok f.2 ∧
        isUtcTime (.string l) = true := by
  intro f hf
  have hname : f.1 ∈ timeFields := (List.mem_map_of_mem hf : f.1 ∈ c.times.map Prod.fst)
  rcases literalField_last hplain.named (hdecoded.times f hf) with
    ⟨-, hzero⟩ | ⟨v, old, hlast, hread⟩
  · left
    rw [hzero]
  · have hutc := hplain.times f.1 hname v hlast
    rcases unmarshalTime_eq_ok.mp hread with ⟨rfl, -⟩ | ⟨l, rfl, hparse⟩
    · cases hutc
    · exact Or.inr ⟨l, hlast, hparse, hutc⟩

theorem Plain.instant_ne_zero (hplain : Plain payload) (hdecoded : Decoded (members payload) c)
    (hadmitted : Admitted scope c) : ∀ f ∈ c.times, f.2.instant ≠ 0 := by
  have hissued : 0 < c.issuedAt.instant := by
    have hmem : ("issuedAt", c.issuedAt) ∈ c.times := by simp [Context.times]
    have hne := hadmitted.issuedAt
    rcases hplain.time hdecoded _ hmem with hzero | ⟨l, -, hparse, hutc⟩
    · exact absurd hzero hne
    · have hnonneg : 0 ≤ c.issuedAt.instant :=
        instant_nonneg hparse (hadmitted.offset_eq_zero _ hmem) hutc
      omega
  have hvalid := hadmitted.validFrom
  have hexpires := hadmitted.expiresAt
  simp only [Context.times, List.forall_mem_cons, List.not_mem_nil, false_implies, implies_true,
    and_true]
  omega

theorem agrees_of_plain (hplain : Plain payload) (hdecoded : Decoded (members payload) c)
    (hadmitted : Admitted scope c) (hgateway : scope.gatewayID ≠ "") (hclock : scope.clockID ≠ "") :
    Agrees c (dict (members payload)) := by
  refine ⟨?_, ?_, ?_⟩
  · intro f hf
    have hname : f.1 ∈ textFields := (List.mem_map_of_mem hf : f.1 ∈ c.texts.map Prod.fst)
    rcases literalField_last hplain.named (hdecoded.texts f hf) with
      ⟨-, hempty⟩ | ⟨v, old, hlast, hread⟩
    · exact absurd hempty (hadmitted.texts_ne_empty hgateway hclock f hf)
    · have htext := hplain.texts f.1 hname v hlast
      rcases unmarshalString_eq_ok.mp hread with ⟨rfl, -⟩ | ⟨l, rfl, hl⟩
      · cases htext
      · refine item_dict.mpr ⟨_, hlast, congrArg Value.str ?_⟩
        rw [hl]
        exact l.points_eq_iff.mpr (of_decide_eq_true htext)
  · rcases literalField_last hplain.named hdecoded.generation with
      ⟨-, hzero⟩ | ⟨v, old, hlast, hread⟩
    · have hlow := hadmitted.generation.1
      omega
    · have hnull := hplain.generation v hlast
      rcases unmarshalUint_eq_ok.mp hread with ⟨rfl, -⟩ | ⟨l, rfl, hl⟩
      · cases hnull
      · exact item_dict.mpr ⟨_, hlast, ofLiteral_number hl⟩
  · intro f hf
    rcases hplain.time hdecoded f hf with hzero | ⟨l, hlast, hparse, hutc⟩
    · exact absurd hzero (hplain.instant_ne_zero hdecoded hadmitted f hf)
    · obtain ⟨q, hq, hsame⟩ := (utc_same_iff hparse (hadmitted.offset_eq_zero f hf)).mpr hutc
      exact ⟨q, bind_eq_ok.mpr ⟨_, item_dict.mpr ⟨_, hlast, rfl⟩, hq⟩, hsame⟩

/-- What the ledger accepts, for a scope with ids, is accepted by the oracle as the same
    context exactly if it is plain. -/
theorem conforms_iff_plain (hgateway : scope.gatewayID ≠ "") (hclock : scope.clockID ≠ "")
    (h : verify decodeContext scope ⟨payload⟩ = .ok c) : Conforms payload c ↔ Plain payload := by
  obtain ⟨hdecode, hadmitted⟩ := admitted_of_verify h
  obtain ⟨rest, hread, hrest, hdecoded⟩ := object_of_decodeContext hdecode hadmitted
  constructor
  · rintro ⟨context, hloads, hvalid, hagrees⟩
    obtain ⟨hencoded, rfl⟩ := (loads_object hread hrest).mp hloads
    exact plain_of_agrees hencoded hdecoded hadmitted (validateContext_eq_ok.mp hvalid) hagrees
  · intro hplain
    have hagrees := agrees_of_plain hplain hdecoded hadmitted hgateway hclock
    refine ⟨_, (loads_object hread hrest).mpr ⟨hplain.encoded, rfl⟩, ?_, hagrees⟩
    refine validateContext_eq_ok.mpr (valid_of_agrees hagrees hadmitted ?_ ?_)
    · intro m hm
      obtain ⟨m', hm', rfl⟩ := List.mem_map.mp hm
      exact hplain.named m' hm'
    · intro key hkey w hw
      obtain ⟨v, hv, rfl⟩ := item_dict.mp hw
      rw [isIdentity_ofLiteral]
      exact hplain.identities key hkey v hv

end Payload

def lease (runID : String) : List UInt8 :=
  utf8 (text false (.obj [("schemaVersion", .str schema), ("gatewayId", .str "gw"),
    ("clockId", .str "clk"), ("provisioningRevision", .str "rev-a"), ("runId", .str runID),
    ("generation", .num "1"), ("status", .str "active"),
    ("issuedAt", .str "2026-01-01T00:00:00Z"), ("validFrom", .str "2026-01-01T00:00:00Z"),
    ("expiresAt", .str "2026-01-01T01:00:00Z")]))

def leased (runID : String) : Context where
  schemaVersion := schema
  gatewayID := "gw"
  clockID := "clk"
  provisioningRevision := "rev-a"
  runID := runID
  generation := 1
  status := "active"
  issuedAt := { instant := 63902822400 * 10 ^ 9 }
  validFrom := { instant := 63902822400 * 10 ^ 9 }
  expiresAt := { instant := 63902826000 * 10 ^ 9 }

theorem conforms_run_a :
    verify decodeContext ⟨"gw", "clk"⟩ ⟨lease "run-a"⟩ = .ok (leased "run-a") ∧
      Conforms (lease "run-a") (leased "run-a") := by
  have hverify : verify decodeContext ⟨"gw", "clk"⟩ ⟨lease "run-a"⟩ = .ok (leased "run-a") := by
    decide +kernel
  have hplain : Plain (lease "run-a") := by decide +kernel
  exact ⟨hverify, (conforms_iff_plain (by decide) (by decide) hverify).mpr hplain⟩

/-- The ledger accepts a run whose id is a space, the oracle does not. -/
theorem not_conforms_blank_run :
    verify decodeContext ⟨"gw", "clk"⟩ ⟨lease " "⟩ = .ok (leased " ") ∧
      ¬ Conforms (lease " ") (leased " ") := by
  have hverdict : (loads (lease " ")).map validateContext
      = some (.error "invalid_context_identity") := by
    decide +kernel
  refine ⟨by decide +kernel, ?_⟩
  rintro ⟨context, hloads, hvalid, -⟩
  rw [hloads, Option.map_some, hvalid] at hverdict
  cases hverdict

end NexusGateway.RunContext
