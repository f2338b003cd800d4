/-
The date-times of RFC 3339: their grammar, the seconds a date-time counts by
its own clock, and its fraction of a second.

A lenient reader takes an hour of one digit and a comma before the fraction
as well; what the strict one reads it reads alike (`read_lenient`).  A
fraction has any number of digits.  `nanoseconds` keeps nine of them, and
loses nothing exactly where the others are zeros (`nanoseconds_eq_iff`).
-/

import NexusGateway.Lib.Decimal
import Mathlib.Tactic.FieldSimp

namespace NexusGateway.Lib

namespace Rfc3339

/-! ## Fractions of a second -/

/-- The nanoseconds of a fraction: digits behind the ninth are dropped. -/
def nanoseconds (ds : List Char) : Nat := decimal (ds.take 9) * 10 ^ (9 - ds.length)

def fraction (ds : List Char) : ℚ := decimal ds / 10 ^ ds.length

theorem nanoseconds_eq_iff {ds : List Char} (h : ∀ c ∈ ds, c.isDigit = true) :
    (nanoseconds ds : ℚ) = fraction ds * 10 ^ 9 ↔ ∀ c ∈ ds.drop 9, c = '0' := by
  rw [← decimal_eq_zero_iff fun c hc => h c (List.mem_of_mem_drop hc)]
  by_cases hlen : ds.length ≤ 9
  · have hdrop : ds.drop 9 = [] := List.drop_eq_nil_of_le hlen
    have hpow : (10 : ℚ) ^ 9 = 10 ^ (9 - ds.length) * 10 ^ ds.length := by
      rw [← pow_add, Nat.sub_add_cancel hlen]
    have hexact : (nanoseconds ds : ℚ) = fraction ds * 10 ^ 9 := by
      rw [nanoseconds, fraction, List.take_of_length_le hlen, hpow]
      push_cast
      field_simp
    exact ⟨fun _ => by rw [hdrop]; rfl, fun _ => hexact⟩
  · -- nine digits and some more
    have hsplit : decimal ds
        = decimal (ds.take 9) * 10 ^ (ds.length - 9) + decimal (ds.drop 9) := by
      rw [← List.length_drop, ← decimal_append, List.take_append_drop]
    have hpow : (10 : ℚ) ^ ds.length = 10 ^ (ds.length - 9) * 10 ^ 9 := by
      rw [← pow_add, Nat.sub_add_cancel (by omega)]
    have hnanos : nanoseconds ds = decimal (ds.take 9) := by
      rw [nanoseconds, Nat.sub_eq_zero_of_le (by omega), Nat.pow_zero, Nat.mul_one]
    have hfraction : fraction ds * 10 ^ 9
        = nanoseconds ds + decimal (ds.drop 9) / 10 ^ (ds.length - 9) := by
      rw [fraction, hnanos, hsplit, hpow]
      push_cast
      field_simp
    rw [hfraction, left_eq_add, div_eq_zero_iff, Nat.cast_eq_zero]
    simp

/-! ## The grammar -/

/-- The zone of a date-time: the letter Z, or a distance to the west or the east. -/
inductive Zone where
  | utc
  | offset (west : Bool) (hours minutes : Nat)
deriving DecidableEq

def Zone.seconds : Zone → Int
  | .utc => 0
  | .offset west hours minutes =>
    let distance : Int := (hours * 60 + minutes) * 60
    if west then -distance else distance

/-- The bounds of Go, where a distance of 24 hours or 60 minutes is one. -/
def Zone.inRange : Zone → Bool
  | .utc => true
  | .offset _ hours minutes => hours ≤ 24 && minutes ≤ 60

structure Stamp where
  year : Nat
  month : Nat
  day : Nat
  hour : Nat
  minute : Nat
  second : Nat
  fraction : List Char
  zone : Zone

def digits (n : Nat) (cs : List Char) : Option (Nat × List Char) :=
  if (cs.take n).length = n ∧ (cs.take n).all Char.isDigit then
    some (decimal (cs.take n), cs.drop n)
  else none

def mark (c : Char) : List Char → Option (List Char)
  | [] => none
  | d :: cs => if d = c then some cs else none

def field (n : Nat) (c : Char) (cs : List Char) : Option (Nat × List Char) :=
  (digits n cs).bind fun p => (mark c p.2).map (p.1, ·)

section Reader

variable (lenient : Bool)

def readHour (cs : List Char) : Option (Nat × List Char) :=
  (field 2 ':' cs).or (if lenient then field 1 ':' cs else none)

def readFraction : List Char → Option (List Char × List Char)
  | [] => some ([], [])
  | c :: cs =>
    if c = '.' ∨ (lenient ∧ c = ',') then
      if cs.takeWhile Char.isDigit = [] then none
      else some (cs.takeWhile Char.isDigit, cs.dropWhile Char.isDigit)
    else some ([], c :: cs)

def readZone : List Char → Option Zone
  | [] => none
  | c :: cs =>
    if c = 'Z' then if cs = [] then some .utc else none
    else if c = '+' ∨ c = '-' then
      (field 2 ':' cs).bind fun h => (digits 2 h.2).bind fun m =>
        if m.2 = [] then some (.offset (c = '-') h.1 m.1) else none
    else none

def read (cs : List Char) : Option Stamp := do
  let (year, cs) ← field 4 '-' cs
  let (month, cs) ← field 2 '-' cs
  let (day, cs) ← field 2 'T' cs
  let (hour, cs) ← readHour lenient cs
  let (minute, cs) ← field 2 ':' cs
  let (second, cs) ← digits 2 cs
  let (fraction, cs) ← readFraction lenient cs
  let zone ← readZone cs
  return { year, month, day, hour, minute, second, fraction, zone }

end Reader

/-! ## What a date-time is made of -/

section Parts

variable {lenient : Bool} {cs : List Char} {s : Stamp}

theorem read_eq_some (h : read lenient cs = some s) :
    ∃ c₁ c₂ c₃ c₄ c₅ c₆ c₇, field 4 '-' cs = some (s.year, c₁) ∧
      field 2 '-' c₁ = some (s.month, c₂) ∧ field 2 'T' c₂ = some (s.day, c₃) ∧
      readHour lenient c₃ = some (s.hour, c₄) ∧ field 2 ':' c₄ = some (s.minute, c₅) ∧
      digits 2 c₅ = some (s.second, c₆) ∧ readFraction lenient c₆ = some (s.fraction, c₇) ∧
      readZone c₇ = some s.zone := by
  obtain ⟨⟨year, c₁⟩, hyear, h⟩ := Option.bind_eq_some_iff.mp h
  obtain ⟨⟨month, c₂⟩, hmonth, h⟩ := Option.bind_eq_some_iff.mp h
  obtain ⟨⟨day, c₃⟩, hday, h⟩ := Option.bind_eq_some_iff.mp h
  obtain ⟨⟨hour, c₄⟩, hhour, h⟩ := Option.bind_eq_some_iff.mp h
  obtain ⟨⟨minute, c₅⟩, hminute, h⟩ := Option.bind_eq_some_iff.mp h
  obtain ⟨⟨second, c₆⟩, hsecond, h⟩ := Option.bind_eq_some_iff.mp h
  obtain ⟨⟨fraction, c₇⟩, hfraction, h⟩ := Option.bind_eq_some_iff.mp h
  obtain ⟨zone, hzone, h⟩ := Option.bind_eq_some_iff.mp h
  cases h
  exact ⟨c₁, c₂, c₃, c₄, c₅, c₆, c₇, hyear, hmonth, hday, hhour, hminute, hsecond, hfraction,
    hzone⟩

theorem readFraction_lenient {ds rest : List Char} {zone : Zone}
    (h : readFraction false cs = some (ds, rest)) (hzone : readZone rest = some zone) :
    readFraction true cs = some (ds, rest) := by
  cases cs with
  | nil => exact h
  | cons c cs =>
    by_cases hcomma : c = ','
    · subst hcomma
      cases h
      cases hzone
    · simpa [readFraction, hcomma] using h

theorem read_lenient (h : read false cs = some s) : read true cs = some s := by
  obtain ⟨_, _, _, _, _, _, _, hyear, hmonth, hday, hhour, hminute, hsecond, hfraction, hzone⟩ :=
    read_eq_some h
  have hfraction := readFraction_lenient hfraction hzone
  simp only [readHour, Bool.false_eq_true, if_false, Option.or_none] at hhour
  simp [read, readHour, hyear, hmonth, hday, hhour, hminute, hsecond, hfraction, hzone]

/-- The characters that may stand in a date-time, digits apart. -/
def marks : List Char := ['-', 'T', ':', '.', ',', 'Z', '+']

def Foreign (c : Char) : Prop := c.isDigit = false ∧ c ∉ marks

section Foreign

variable {x : Char} (hx : Foreign x)
include hx

theorem mem_of_digits {n v : Nat} {rest : List Char} (h : digits n cs = some (v, rest))
    (hmem : x ∈ cs) : x ∈ rest := by
  rw [digits] at h
  split_ifs at h with hdigits
  cases h
  rw [← List.take_append_drop n cs, List.mem_append] at hmem
  rcases hmem with htake | hdrop
  · have hdigit := List.all_eq_true.mp hdigits.2 x htake
    rw [hx.1] at hdigit
    cases hdigit
  · exact hdrop

theorem mem_of_mark {c : Char} (hc : c ∈ marks) {rest : List Char}
    (h : mark c cs = some rest) (hmem : x ∈ cs) : x ∈ rest := by
  cases cs with
  | nil => cases h
  | cons d cs =>
    rw [mark] at h
    split_ifs at h with heq
    cases h
    rcases List.mem_cons.mp hmem with rfl | hmem
    · rw [← heq] at hc
      exact absurd hc hx.2
    · exact hmem

theorem mem_of_field {n v : Nat} {c : Char} (hc : c ∈ marks)
    {rest : List Char} (h : field n c cs = some (v, rest)) (hmem : x ∈ cs) : x ∈ rest := by
  obtain ⟨⟨v', mid⟩, hdigits, h⟩ := Option.bind_eq_some_iff.mp h
  obtain ⟨rest', hmark, heq⟩ := Option.map_eq_some_iff.mp h
  cases heq
  exact mem_of_mark hx hc hmark (mem_of_digits hx hdigits hmem)

theorem mem_of_readHour {v : Nat} {rest : List Char} (h : readHour lenient cs = some (v, rest))
    (hmem : x ∈ cs) : x ∈ rest := by
  rcases Option.or_eq_some_iff.mp h with htwo | ⟨-, hone⟩
  · exact mem_of_field hx (by simp [marks]) htwo hmem
  · split_ifs at hone
    exact mem_of_field hx (by simp [marks]) hone hmem

theorem mem_of_readFraction {ds rest : List Char} (h : readFraction lenient cs = some (ds, rest))
    (hmem : x ∈ cs) : x ∈ rest := by
  cases cs with
  | nil => cases hmem
  | cons c cs =>
    rw [readFraction] at h
    split_ifs at h with hpoint hnone
    · cases h
      rcases List.mem_cons.mp hmem with rfl | hmem
      · exact absurd (by rcases hpoint with rfl | ⟨-, rfl⟩ <;> simp [marks]) hx.2
      · rw [← List.takeWhile_append_dropWhile (p := Char.isDigit) (l := cs),
          List.mem_append] at hmem
        rcases hmem with htake | hdrop
        · have hdigit := List.all_eq_true.mp List.all_takeWhile x htake
          rw [hx.1] at hdigit
          cases hdigit
        · exact hdrop
    · cases h
      exact hmem

theorem notMem_of_readZone {zone : Zone} (h : readZone cs = some zone) : x ∉ cs := by
  intro hmem
  cases cs with
  | nil => cases hmem
  | cons c cs =>
    rw [readZone] at h
    split_ifs at h with hz hnil hsign
    · rw [hz, hnil, List.mem_singleton] at hmem
      exact hx.2 (by simp [hmem, marks])
    · have hmem' : x ∈ cs := by
        rcases List.mem_cons.mp hmem with rfl | hmem
        · exact absurd (by rcases hsign with rfl | rfl <;> simp [marks]) hx.2
        · exact hmem
      obtain ⟨⟨hours, mid⟩, hhours, h⟩ := Option.bind_eq_some_iff.mp h
      obtain ⟨⟨minutes, rest⟩, hminutes, h⟩ := Option.bind_eq_some_iff.mp h
      have hrest := mem_of_digits hx hminutes (mem_of_field hx (by simp [marks]) hhours hmem')
      split_ifs at h with hend
      rw [show rest = [] from hend] at hrest
      cases hrest

theorem notMem_of_read (h : read lenient cs = some s) : x ∉ cs := by
  intro hmem
  obtain ⟨_, _, _, _, _, _, _, hyear, hmonth, hday, hhour, hminute, hsecond, hfraction, hzone⟩ :=
    read_eq_some h
  have hmem := mem_of_field hx (by simp [marks]) hyear hmem
  have hmem := mem_of_field hx (by simp [marks]) hmonth hmem
  have hmem := mem_of_field hx (by simp [marks]) hday hmem
  have hmem := mem_of_readHour hx hhour hmem
  have hmem := mem_of_field hx (by simp [marks]) hminute hmem
  have hmem := mem_of_digits hx hsecond hmem
  exact notMem_of_readZone hx hzone (mem_of_readFraction hx hfraction hmem)

end Foreign

theorem digits_of_read (h : read lenient cs = some s) : ∀ c ∈ s.fraction, c.isDigit = true := by
  obtain ⟨_, _, _, _, _, rest, _, -, -, -, -, -, -, hfraction, -⟩ := read_eq_some h
  cases rest with
  | nil =>
    rw [readFraction, Option.some.injEq, Prod.mk.injEq] at hfraction
    rw [← hfraction.1]
    simp
  | cons c rest =>
    rw [readFraction] at hfraction
    split_ifs at hfraction with hpoint hnone
    · rw [Option.some.injEq, Prod.mk.injEq] at hfraction
      rw [← hfraction.1]
      exact List.all_eq_true.mp List.all_takeWhile
    · rw [Option.some.injEq, Prod.mk.injEq] at hfraction
      rw [← hfraction.1]
      simp

end Parts

/-! ## The calendar -/

def isLeap (year : Nat) : Bool := year % 4 = 0 && (year % 100 ≠ 0 || year % 400 = 0)

def daysIn (year month : Nat) : Nat :=
  if month = 2 then if isLeap year then 29 else 28
  else if month = 4 ∨ month = 6 ∨ month = 9 ∨ month = 11 then 30
  else 31

/-- The days from the first of January of the year 1 to that of another year. -/
def daysBeforeYear (year : Nat) : Int :=
  let past : Int := year - 1
  past * 365 + past / 4 - past / 100 + past / 400

def daysBeforeMonth (year month : Nat) : Nat :=
  ((List.range (month - 1)).map fun i => daysIn year (i + 1)).sum

namespace Stamp

def inRange (s : Stamp) : Bool :=
  1 ≤ s.month && s.month ≤ 12 && 1 ≤ s.day && s.day ≤ daysIn s.year s.month && s.hour < 24 &&
    s.minute < 60 && s.second < 60

/-- The seconds since the start of the year 1, by the clock of the date-time's own zone. -/
def clock (s : Stamp) : Int :=
  (daysBeforeYear s.year + daysBeforeMonth s.year s.month + (s.day - 1)) * 86400 +
    (s.hour * 3600 + s.minute * 60 + s.second : Nat)

theorem clock_nonneg {s : Stamp} (hyear : 1 ≤ s.year) (hday : 1 ≤ s.day) : 0 ≤ s.clock := by
  have hyears : 0 ≤ daysBeforeYear s.year := by
    simp only [daysBeforeYear]
    omega
  have hdays :
      (0 : Int) ≤ daysBeforeYear s.year + daysBeforeMonth s.year s.month + (s.day - 1) := by
    omega
  rw [clock]
  omega

end Stamp

/-- `time.Parse` of Go with `time.RFC3339`: the nanoseconds since the year 1, and the offset
    in seconds. -/
def parse (cs : List Char) : Option (Int × Int) :=
  (read true cs).bind fun s =>
    if s.inRange && s.zone.inRange then
      some ((s.clock - s.zone.seconds) * 10 ^ 9 + nanoseconds s.fraction, s.zone.seconds)
    else none

theorem parse_eq_some {cs : List Char} {instant offset : Int} :
    parse cs = some (instant, offset) ↔ ∃ s, read true cs = some s ∧ s.inRange = true ∧
      s.zone.inRange = true ∧ offset = s.zone.seconds ∧
      instant = (s.clock - s.zone.seconds) * 10 ^ 9 + nanoseconds s.fraction := by
  rw [parse, Option.bind_eq_some_iff]
  refine exists_congr fun s => and_congr_right fun _ => ?_
  split_ifs with hrange
  · rw [Bool.and_eq_true] at hrange
    simp [hrange, eq_comm, and_comm]
  · rw [Bool.and_eq_true] at hrange
    constructor
    · intro h
      cases h
    · rintro ⟨hdate, hzone, -⟩
      exact absurd ⟨hdate, hzone⟩ hrange

end Rfc3339

end NexusGateway.Lib
