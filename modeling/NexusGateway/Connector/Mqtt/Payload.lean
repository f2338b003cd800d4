/-
`connector/mqtt/payload.go`: from the bytes of a message to a value and a
time.  A payload is an object with a value, or a plain value.

A plain value is tried as a number by a `Decoder`, which takes the first
value and leaves the rest unread, before it is read as a whole.  So a text
that only starts with a number is taken for that number.  Where nothing
follows the first value, the payload is one JSON text, and the number is the
double nearest to the decimal in it (`decodePayload_whole_iff`).
-/

import NexusGateway.Lib.Float64
import NexusGateway.Lib.JsonDecode
import NexusGateway.Lib.JsonStream
import NexusGateway.Lib.Rfc3339
import NexusGateway.StoreForward.Buffer

namespace NexusGateway.Connector.Mqtt

open Lib Lib.Json StoreForward

/-! ## Values -/

/-- `decodedPayload` with its `payloadOutcome`; times are in nanoseconds. -/
inductive Decoded where
  | telemetry (value : FrameValue) (timestamp : Int)
  | ignored
  | invalid
deriving DecidableEq

/-- `finite`: the exponent is not all ones. -/
def finite (bits : UInt64) : Bool := bits >>> 52 &&& 0x7ff ≠ 0x7ff

/-- `Decode` into a `json.Number`: the text of the first value, whatever follows it.  A
    `null` leaves the number empty; a bracket or a brace starts no number. -/
def decodeNumber (cs : List Char) : Option (List Char) :=
  match nextScalar cs with
  | some (.num l, _) => some l.toList
  | some (.str s, _) => if validNumber s.toList then some s.toList else none
  | some (.null, _) => some []
  | _ => none

/-- `json.Unmarshal` into a `string`, which has to be the whole text. -/
def unmarshalString (cs : List Char) : Option String :=
  match readValue cs.length cs with
  | some (.str s, rest) => if rest.all isSpace then some s else none
  | some (.null, rest) => if rest.all isSpace then some "" else none
  | _ => none

def finiteFloat (cs : List Char) : Option UInt64 := (Float64.parseFloat cs).filter finite

def numericValue (raw : List Char) : Option UInt64 :=
  let raw := trimSpace raw
  ((decodeNumber raw).bind finiteFloat).or
    ((unmarshalString raw).bind fun s => finiteFloat (trimSpace s.toList))

def scalarValue (raw : List Char) : Option FrameValue :=
  let trimmed := trimSpace raw
  if trimmed = "null".toList then none
  else if trimmed = "true".toList then some (.valueBool true)
  else if trimmed = "false".toList then some (.valueBool false)
  else match numericValue trimmed with
    | some number => some (.valueNum number)
    | none =>
      match unmarshalString trimmed with
      | some text => some ((numericValue trimmed).elim (.valueStr text) .valueNum)
      | none => none

/-! ## The envelope -/

/-- `wirePayload`; a raw message is the value whose text it is. -/
structure WirePayload where
  datetime : String := ""
  snapshotAt : String := ""
  value : Option Json := none
  valueUpper : Option Json := none
  v : Option Json := none
  status : Option Json := none

namespace WirePayload

def names : List String := ["datetime", "snapshot_at", "value", "Value", "v", "status"]

/-- A `json.RawMessage`, which takes a `null` as well. -/
def raw : Decoder (Option Json) := fun _ j => .ok (some j)

def decode : Decoder WirePayload :=
  .openStruct "mqtt.wirePayload" fun old ms => do
    let datetime ← field names "datetime" .string old.datetime ms
    let snapshotAt ← field names "snapshot_at" .string old.snapshotAt ms
    let value ← field names "value" raw old.value ms
    let valueUpper ← field names "Value" raw old.valueUpper ms
    let v ← field names "v" raw old.v ms
    let status ← field names "status" raw old.status ms
    .ok { datetime, snapshotAt, value, valueUpper, v, status }

/-- `json.Unmarshal` into a `wirePayload`. -/
def unmarshal (data : List UInt8) : Except String WirePayload := do
  let (document, rest) ← (read data).elim (.error "invalid JSON") .ok
  refuse (rest.dropWhile isSpace ≠ []) "invalid character after top-level value"
  decode {} document

def valueRaw (p : WirePayload) : Option Json := (p.value.or p.valueUpper).or p.v

def timestamp (p : WirePayload) (receivedAt : Int) : Int :=
  (([p.datetime, p.snapshotAt].filter (· ≠ "")).findSome? fun candidate =>
    (Rfc3339.parse candidate.toList).map Prod.fst).getD receivedAt

end WirePayload

/-- `decodePayload`.  The bytes are trimmed as the characters they stand for: a space is
    never part of an invalid sequence. -/
def decodePayload (data : List UInt8) (receivedAt : Int) : Decoded :=
  let trimmed := trimSpace (runes data)
  if trimmed ≠ [] ∧ trimmed.head? ≠ some '{' then
    (scalarValue trimmed).elim .invalid fun value => .telemetry value receivedAt
  else match WirePayload.unmarshal data with
    | .error _ => .invalid
    | .ok p =>
      match p.valueRaw with
      | none => if p.status.isSome then .ignored else .invalid
      | some raw => (scalarValue (text false raw)).elim .invalid fun value =>
        .telemetry value (p.timestamp receivedAt)

/-! ## Texts -/

def IsText (cs : List Char) (v : Json) : Prop := readValue cs.length cs = some (v, [])

structure Plain (cs : List Char) : Prop where
  trimmed : Trimmed cs
  ne_nil : cs ≠ []
  brace : cs.head? ≠ some '{'

section Texts

variable {cs : List Char} {v : Json}

theorem isUnicodeSpace_of_isSpace {c : Char} (h : isSpace c = true) : isUnicodeSpace c = true := by
  simp only [isSpace, Bool.or_eq_true, decide_eq_true_eq] at h
  rcases h with ((rfl | rfl) | rfl) | rfl
  · rfl
  · rfl
  · rfl
  · rfl

theorem readValue_bracket_arr {n : Nat} {r : List Char}
    (h : readValue n ('[' :: cs) = some (v, r)) : ∃ xs, v = .arr xs := by
  cases n with
  | zero =>
    rw [readValue] at h
    cases h
  | succ n =>
    rw [readValue_bracket] at h
    cases hempty : expect ']' cs with
    | some rest =>
      rw [hempty] at h
      cases h
      exact ⟨[], rfl⟩
    | none =>
      rw [hempty] at h
      obtain ⟨⟨xs, rest⟩, -, heq⟩ := Option.map_eq_some_iff.mp h
      cases heq
      exact ⟨xs, rfl⟩

theorem nextScalar_bracket (cs : List Char) : nextScalar ('[' :: cs) = none := rfl

theorem Plain.isText_iff (h : Plain cs) (hv : ∀ xs, v ≠ .arr xs) :
    IsText cs v ↔ nextScalar cs = some (v, []) := by
  obtain ⟨htrimmed, hne, hbrace⟩ := h
  cases cs with
  | nil => exact absurd rfl hne
  | cons c cs =>
    by_cases hbracket : c = '['
    · subst hbracket
      rw [nextScalar_bracket]
      constructor
      · intro htext
        obtain ⟨xs, hxs⟩ := readValue_bracket_arr htext
        exact absurd hxs (hv xs)
      · intro hnext
        cases hnext
    · have hspace : isSpace c = false := by
        by_contra hc
        have hhead := htrimmed.head c rfl
        rw [isUnicodeSpace_of_isSpace (Bool.not_eq_false _ ▸ hc)] at hhead
        cases hhead
      have hb : c ≠ '{' := by
        rintro rfl
        exact hbrace rfl
      exact (nextScalar_eq_iff hspace hbracket hb).symm

theorem isText_of_readValue (h : Trimmed cs) {rest : List Char}
    (hread : readValue cs.length cs = some (v, rest)) (hrest : rest.all isSpace = true) :
    IsText cs v := by
  obtain ⟨pre, hpre, -⟩ := (reads_balanced cs.length).1 cs v rest hread
  rw [hpre] at h
  have hnil : rest = [] := h.eq_nil_of_append fun c hc =>
    isUnicodeSpace_of_isSpace (List.all_eq_true.mp hrest c hc)
  rwa [hnil] at hread

theorem IsText.wellFormed (h : IsText cs v) : WellFormed v := (reads_wellFormed _).1 _ _ _ h

theorem unmarshalString_of_isText_str {s : String} (h : IsText cs (.str s)) :
    unmarshalString cs = some s := by
  rw [unmarshalString, h]
  rfl

theorem unmarshalString_of_isText_num {l : String} (h : IsText cs (.num l)) :
    unmarshalString cs = none := by
  rw [unmarshalString, h]

theorem isText_of_unmarshalString (h : Trimmed cs) {s : String} (hs : unmarshalString cs = some s) :
    IsText cs (.str s) ∨ IsText cs .null := by
  rw [unmarshalString] at hs
  split at hs
  · next hread =>
    split_ifs at hs with hrest
    cases hs
    exact Or.inl (isText_of_readValue h hread hrest)
  · next hread =>
    split_ifs at hs with hrest
    exact Or.inr (isText_of_readValue h hread hrest)
  · cases hs

theorem nextScalar_scalar {rest : List Char} (h : nextScalar cs = some (v, rest)) :
    (∀ xs, v ≠ .arr xs) ∧ ∀ ms, v ≠ .obj ms := by
  unfold nextScalar at h
  split at h
  · obtain ⟨p, -, heq⟩ := Option.map_eq_some_iff.mp h
    cases heq
    exact ⟨nofun, nofun⟩
  · cases h
    exact ⟨nofun, nofun⟩
  · cases h
    exact ⟨nofun, nofun⟩
  · cases h
    exact ⟨nofun, nofun⟩
  · obtain ⟨p, -, heq⟩ := Option.map_eq_some_iff.mp h
    cases heq
    exact ⟨nofun, nofun⟩

theorem eq_of_nextScalar_null (h : nextScalar cs = some (.null, [])) : cs = "null".toList := by
  unfold nextScalar at h
  split at h
  · simp at h
  · cases h
    rfl
  · cases h
  · cases h
  · simp at h

theorem eq_of_nextScalar_bool {b : Bool} (h : nextScalar cs = some (.bool b, [])) :
    cs = if b then "true".toList else "false".toList := by
  unfold nextScalar at h
  split at h
  · simp at h
  · cases h
  · cases h
    rfl
  · cases h
    rfl
  · simp at h

end Texts

/-! ## What a text denotes -/

def HoldsNumber (cs : List Char) (bits : UInt64) : Prop :=
  ∃ d : Decimal, d.Writes cs ∧ Float64.Rounds d.neg |d.value| bits

inductive Denotes : Json → FrameValue → Prop
  | number {l : String} {bits : UInt64} : HoldsNumber l.toList bits →
      Denotes (.num l) (.valueNum bits)
  | numeric {s : String} {bits : UInt64} : HoldsNumber (trimSpace s.toList) bits →
      Denotes (.str s) (.valueNum bits)
  | string {s : String} : (∀ bits, ¬ HoldsNumber (trimSpace s.toList) bits) →
      Denotes (.str s) (.valueStr s)
  | bool (b : Bool) : Denotes (.bool b) (.valueBool b)

def numberText : Json → List Char
  | .num l => l.toList
  | .str s => trimSpace s.toList
  | _ => []

/-- The exponent of a decimal is within what `ParseFloat` reads to its end. -/
def ShortExponent (v : Json) : Prop :=
  ∀ d : Decimal, d.Writes (numberText v) → d.exponent.natAbs < 100000

/-- A number that `ParseFloat` takes is written without underscores, and is not hexadecimal. -/
def DecimalOnly (v : Json) : Prop :=
  (finiteFloat (numberText v)).isSome = true →
    '_' ∉ numberText v ∧ ∀ c ∈ numberText v, c.toLower ≠ 'x'

def valueOf : Json → Option FrameValue
  | .num l => (finiteFloat l.toList).map .valueNum
  | .str s => some ((finiteFloat (trimSpace s.toList)).elim (.valueStr s) .valueNum)
  | .bool b => some (.valueBool b)
  | _ => none

section Denotes

variable {cs : List Char} {bits : UInt64} {v : Json} {value : FrameValue}

theorem Denotes.ne_arr (h : Denotes v value) (xs : List Json) : v ≠ .arr xs := by
  rintro rfl
  cases h

theorem finite_of_rounds {neg : Bool} {x : ℚ} (h : Float64.Rounds neg x bits) :
    finite bits = true := by
  obtain ⟨p, hp, -, hbits⟩ := h
  have hexponent : (bits >>> 52 &&& 0x7ff).toNat = bits.toNat / 2 ^ 52 % 2 ^ 11 := by
    rw [UInt64.toNat_and, UInt64.toNat_shiftRight, ← Nat.and_two_pow_sub_one_eq_mod,
      ← Nat.shiftRight_eq_div_pow]
    rfl
  rw [finite, decide_eq_true_eq]
  intro heq
  rw [heq, hbits, show (0x7ff : UInt64).toNat = 0x7ff from rfl] at hexponent
  cases neg with
  | true | false => simp only [if_true, Bool.false_eq_true, if_false] at hexponent; omega

theorem not_finite_special (h : Float64.special cs = some bits) : finite bits = false := by
  rw [Float64.special] at h
  split_ifs at h <;> cases h <;> decide

theorem finiteFloat_iff {d : Decimal} (h : d.Writes cs) (hshort : d.exponent.natAbs < 100000) :
    finiteFloat cs = some bits ↔ Float64.Rounds d.neg |d.value| bits := by
  rw [finiteFloat, Option.filter_eq_some_iff, Float64.parseFloat_writes_iff h hshort]
  exact and_iff_left_of_imp finite_of_rounds

theorem exists_writes_of_finiteFloat (h : (finiteFloat cs).isSome = true)
    (hunderscore : '_' ∉ cs) (hx : ∀ c ∈ cs, c.toLower ≠ 'x') : ∃ d : Decimal, d.Writes cs := by
  obtain ⟨bits, hbits⟩ := Option.isSome_iff_exists.mp h
  rw [finiteFloat, Option.filter_eq_some_iff, Float64.parseFloat, Option.or_eq_some_iff,
    Option.bind_eq_some_iff] at hbits
  obtain ⟨hspecial | ⟨-, r, hr, -⟩, hfinite⟩ := hbits
  · rw [not_finite_special hspecial] at hfinite
    cases hfinite
  · exact Float64.exists_writes hr hunderscore hx

/-- What is read from a text that is short and decimal is the number in it. -/
theorem finiteFloat_eq_some_iff (hshort : ∀ d : Decimal, d.Writes cs → d.exponent.natAbs < 100000)
    (hplain : (finiteFloat cs).isSome = true → '_' ∉ cs ∧ ∀ c ∈ cs, c.toLower ≠ 'x') :
    finiteFloat cs = some bits ↔ HoldsNumber cs bits := by
  constructor
  · intro h
    have hsome : (finiteFloat cs).isSome = true := by rw [h]; rfl
    obtain ⟨d, hd⟩ := exists_writes_of_finiteFloat hsome (hplain hsome).1 (hplain hsome).2
    exact ⟨d, hd, (finiteFloat_iff hd (hshort d hd)).mp h⟩
  · rintro ⟨d, hd, hrounds⟩
    exact (finiteFloat_iff hd (hshort d hd)).mpr hrounds

theorem mem_of_isNumberChar {c : Char} (h : isNumberChar c = true) :
    c ∈ "0123456789+-.eE".toList := by
  simp only [isNumberChar, Bool.or_eq_true, decide_eq_true_eq] at h
  rcases h with ((((hdigit | rfl) | rfl) | rfl) | rfl) | rfl
  · exact List.mem_append_left "+-.eE".toList (mem_digits hdigit)
  · decide
  · decide
  · decide
  · decide
  · decide

theorem HoldsNumber.plain (h : HoldsNumber cs bits) : '_' ∉ cs ∧ ∀ c ∈ cs, c.toLower ≠ 'x' := by
  obtain ⟨d, hd, -⟩ := h
  exact ⟨fun hmem => (Float64.not_special _ (hd.chars _ hmem)).1 rfl,
    fun c hc => (Float64.not_special c (hd.chars c hc)).2.1⟩

theorem denotes_iff (hwf : WellFormed v) (hshort : ShortExponent v)
    (hvalue : valueOf v = some value) : Denotes v value ↔ DecimalOnly v := by
  cases v with
  | null | arr xs | obj ms => cases hvalue
  | bool b =>
    cases hvalue
    exact iff_of_true (.bool b) fun _ => ⟨nofun, nofun⟩
  | num l =>
    obtain ⟨bits, hbits, rfl⟩ := Option.map_eq_some_iff.mp hvalue
    have hchars : ∀ c ∈ l.toList, c ≠ '_' ∧ c.toLower ≠ 'x' ∧ c.toLower ≠ 'n' := fun c hc =>
      Float64.not_special c (mem_of_isNumberChar (validNumber_chars hwf c hc))
    have hplain : DecimalOnly (.num l) := fun _ =>
      ⟨fun hmem => (hchars _ hmem).1 rfl, fun c hc => (hchars c hc).2.1⟩
    exact iff_of_true (.number ((finiteFloat_eq_some_iff hshort hplain).mp hbits)) hplain
  | str s =>
    rw [valueOf, Option.some.injEq] at hvalue
    constructor
    · intro h hsome
      cases h with
      | numeric hbits => exact hbits.plain
      | string hnone =>
        obtain ⟨bits, hbits⟩ := Option.isSome_iff_exists.mp hsome
        rw [show finiteFloat (trimSpace s.toList) = some bits from hbits] at hvalue
        cases hvalue
    · intro hplain
      cases hfloat : finiteFloat (trimSpace s.toList) with
      | none =>
        rw [hfloat] at hvalue
        cases hvalue
        refine .string fun bits hbits => ?_
        cases hfloat.symm.trans ((finiteFloat_eq_some_iff hshort hplain).mpr hbits)
      | some bits =>
        rw [hfloat] at hvalue
        cases hvalue
        exact .numeric ((finiteFloat_eq_some_iff hshort hplain).mp hfloat)

end Denotes

/-! ## Plain values -/

section PlainValues

variable {cs : List Char} {v : Json}

theorem isUnicodeSpace_of_isNumberChar {c : Char} (h : isNumberChar c = true) :
    isUnicodeSpace c = false := by
  have hall : ∀ c ∈ "0123456789+-.eE".toList, isUnicodeSpace c = false :=
    List.all_iff_forall_prop.mp (by decide)
  exact hall c (mem_of_isNumberChar h)

theorem trimSpace_of_validNumber (h : validNumber cs = true) : trimSpace cs = cs :=
  (trimmed_of_forall fun c hc =>
    isUnicodeSpace_of_isNumberChar (validNumber_chars h c hc)).trimSpace_eq

theorem numericValue_of_str (h : Plain cs) {s : String} (hs : nextScalar cs = some (.str s, [])) :
    numericValue cs = finiteFloat (trimSpace s.toList) := by
  have htext : IsText cs (.str s) := (h.isText_iff (v := .str s) nofun).mpr hs
  simp only [numericValue, h.trimmed.trimSpace_eq, decodeNumber, hs,
    unmarshalString_of_isText_str htext, Option.bind_some]
  split_ifs with hvalid
  · rw [Option.bind_some, trimSpace_of_validNumber hvalid, Option.or_self]
  · rw [Option.bind_none, Option.none_or]

theorem numericValue_of_num (h : Plain cs) {l : String} (hl : nextScalar cs = some (.num l, [])) :
    numericValue cs = finiteFloat l.toList := by
  have htext : IsText cs (.num l) := (h.isText_iff (v := .num l) nofun).mpr hl
  simp only [numericValue, h.trimmed.trimSpace_eq, decodeNumber, hl,
    unmarshalString_of_isText_num htext, Option.bind_some, Option.bind_none, Option.or_none]

theorem scalarValue_of_no_name (h : Trimmed cs) (hnull : cs ≠ "null".toList)
    (htrue : cs ≠ "true".toList) (hfalse : cs ≠ "false".toList) :
    scalarValue cs = ((numericValue cs).map FrameValue.valueNum).or
      ((unmarshalString cs).map .valueStr) := by
  simp only [scalarValue, h.trimSpace_eq, if_neg hnull, if_neg htrue, if_neg hfalse]
  cases numericValue cs with
  | some number => rfl
  | none => cases unmarshalString cs <;> rfl

theorem scalarValue_of_nextScalar (h : Plain cs) (hnext : nextScalar cs = some (v, [])) :
    scalarValue cs = valueOf v := by
  -- a literal name is not read as anything else
  have hname : ∀ {name : List Char} {w : Json}, nextScalar name = some (w, []) → v ≠ w →
      cs ≠ name := by
    rintro name w hw hne rfl
    rw [hw] at hnext
    cases hnext
    exact hne rfl
  have hnull : nextScalar "null".toList = some (.null, []) := rfl
  have htrue : nextScalar "true".toList = some (.bool true, []) := rfl
  have hfalse : nextScalar "false".toList = some (.bool false, []) := rfl
  cases v with
  | null =>
    rw [eq_of_nextScalar_null hnext]
    rfl
  | bool b =>
    rw [eq_of_nextScalar_bool hnext]
    cases b with
    | true | false => rfl
  | num l =>
    have htext : IsText cs (.num l) := (h.isText_iff (v := .num l) nofun).mpr hnext
    rw [scalarValue_of_no_name h.trimmed (hname hnull nofun) (hname htrue nofun)
      (hname hfalse nofun), numericValue_of_num h hnext, unmarshalString_of_isText_num htext,
      Option.map_none, Option.or_none]
    rfl
  | str s =>
    have htext : IsText cs (.str s) := (h.isText_iff (v := .str s) nofun).mpr hnext
    rw [scalarValue_of_no_name h.trimmed (hname hnull nofun) (hname htrue nofun)
      (hname hfalse nofun), numericValue_of_str h hnext, unmarshalString_of_isText_str htext]
    cases hfloat : finiteFloat (trimSpace s.toList) with
    | some bits | none => simp [valueOf, hfloat]
  | arr xs => exact absurd rfl ((nextScalar_scalar hnext).1 xs)
  | obj ms => exact absurd rfl ((nextScalar_scalar hnext).2 ms)

theorem exists_nextScalar (h : Plain cs) {value : FrameValue}
    (hvalue : scalarValue cs = some value) : ∃ v rest, nextScalar cs = some (v, rest) := by
  have hstring : ∀ {s : String}, unmarshalString cs = some s →
      ∃ v rest, nextScalar cs = some (v, rest) := by
    intro s hs
    rcases isText_of_unmarshalString h.trimmed hs with htext | htext
    · exact ⟨_, _, (h.isText_iff (v := .str s) nofun).mp htext⟩
    · exact ⟨_, _, (h.isText_iff (v := .null) nofun).mp htext⟩
  have hnumber : ∀ {n : List Char}, decodeNumber cs = some n →
      ∃ v rest, nextScalar cs = some (v, rest) := by
    intro n hn
    rw [decodeNumber] at hn
    split at hn
    · next heq => exact ⟨_, _, heq⟩
    · next heq => exact ⟨_, _, heq⟩
    · next heq => exact ⟨_, _, heq⟩
    · cases hn
  by_cases hnull : cs = "null".toList
  · exact ⟨.null, [], by rw [hnull]; rfl⟩
  by_cases htrue : cs = "true".toList
  · exact ⟨.bool true, [], by rw [htrue]; rfl⟩
  by_cases hfalse : cs = "false".toList
  · exact ⟨.bool false, [], by rw [hfalse]; rfl⟩
  rw [scalarValue_of_no_name h.trimmed hnull htrue hfalse, Option.or_eq_some_iff] at hvalue
  rcases hvalue with hnum | ⟨-, htext⟩
  · obtain ⟨bits, hbits, -⟩ := Option.map_eq_some_iff.mp hnum
    rw [numericValue] at hbits
    simp only [h.trimmed.trimSpace_eq, Option.or_eq_some_iff, Option.bind_eq_some_iff] at hbits
    rcases hbits with ⟨n, hn, -⟩ | ⟨-, s, hs, -⟩
    · exact hnumber hn
    · exact hstring hs
  · obtain ⟨s, hs, -⟩ := Option.map_eq_some_iff.mp htext
    exact hstring hs

/-- A plain payload that is accepted starts with a value.  Unless that has an exponent of
    100000 or more, the payload is one JSON text, and gives what this text denotes, exactly if
    nothing follows the value, and it is no string with a number in it that has underscores
    or is hexadecimal. -/
theorem decodePayload_whole_iff {data : List UInt8} {receivedAt ts : Int} {value : FrameValue}
    (hne : trimSpace (runes data) ≠ [])
    (hbrace : (trimSpace (runes data)).head? ≠ some '{')
    (haccepted : decodePayload data receivedAt = .telemetry value ts) :
    ∃ v rest, nextScalar (trimSpace (runes data)) = some (v, rest) ∧
      (ShortExponent v → ((∃ w, IsText (trimSpace (runes data)) w ∧ Denotes w value) ↔
        rest = [] ∧ DecimalOnly v)) := by
  have hplain : Plain (trimSpace (runes data)) := ⟨trimmed_trimSpace _, hne, hbrace⟩
  have hvalue : scalarValue (trimSpace (runes data)) = some value := by
    simp only [decodePayload, if_pos (And.intro hne hbrace)] at haccepted
    cases hscalar : scalarValue (trimSpace (runes data)) with
    | none =>
      rw [hscalar] at haccepted
      cases haccepted
    | some w =>
      rw [hscalar] at haccepted
      cases haccepted
      rfl
  obtain ⟨v, rest, hnext⟩ := exists_nextScalar hplain hvalue
  refine ⟨v, rest, hnext, fun hshort => ?_⟩
  constructor
  · rintro ⟨w, htext, hdenotes⟩
    have hwhole := (hplain.isText_iff hdenotes.ne_arr).mp htext
    rw [hnext] at hwhole
    cases hwhole
    rw [scalarValue_of_nextScalar hplain hnext] at hvalue
    exact ⟨rfl, (denotes_iff htext.wellFormed hshort hvalue).mp hdenotes⟩
  · rintro ⟨rfl, hdecimal⟩
    have htext : IsText (trimSpace (runes data)) v :=
      (hplain.isText_iff (nextScalar_scalar hnext).1).mpr hnext
    rw [scalarValue_of_nextScalar hplain hnext] at hvalue
    exact ⟨v, htext, (denotes_iff htext.wellFormed hshort hvalue).mpr hdecimal⟩

end PlainValues

/-- The payload `"12"`, with space around it. -/
theorem decodePayload_whole_quoted :
    decodePayload [0x20, 0x22, 0x31, 0x32, 0x22, 0x0a] 7 =
        .telemetry (.valueNum 0x4028000000000000) 7 ∧
      ∃ w, IsText ['"', '1', '2', '"'] w ∧ Denotes w (.valueNum 0x4028000000000000) := by
  have haccepted : decodePayload [0x20, 0x22, 0x31, 0x32, 0x22, 0x0a] 7 =
      .telemetry (.valueNum 0x4028000000000000) 7 := by decide +kernel
  obtain ⟨v, rest, hnext, hiff⟩ := decodePayload_whole_iff (by decide) (by decide) haccepted
  have hquoted : nextScalar ['"', '1', '2', '"'] = some (.str "12", []) := rfl
  cases hquoted.symm.trans hnext
  refine ⟨haccepted, (hiff fun d hd => ?_).mpr ⟨rfl, fun _ => ?_⟩⟩
  · rw [hd.exponent_eq_zero (by decide) (by decide)]
    decide
  · exact ⟨by decide, List.all_iff_forall_prop.mp (by decide)⟩

/-- The payload `12,5` is taken for 12, but it is no JSON text. -/
theorem decodePayload_decimal_comma :
    decodePayload [0x31, 0x32, 0x2c, 0x35] 7 =
        .telemetry (.valueNum 0x4028000000000000) 7 ∧
      trimSpace (runes [0x31, 0x32, 0x2c, 0x35]) = ['1', '2', ',', '5'] ∧
      ¬ ∃ v, IsText ['1', '2', ',', '5'] v := by
  refine ⟨by decide +kernel, rfl, ?_⟩
  rintro ⟨v, htext⟩
  have hread : readValue 4 ['1', '2', ',', '5'] = some (.num "12", [',', '5']) := rfl
  cases hread.symm.trans htext

end NexusGateway.Connector.Mqtt
