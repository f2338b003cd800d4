/-
Doubles: the magnitudes in the order of their bit patterns, the pattern that
is nearest to a rational, and the reading of a number from a text, as
`strconv.ParseFloat` does it.

Patterns are continued beyond the largest finite one, as if the exponent had
no bound; a number is out of range where its nearest pattern is beyond
(`Rounds`).  A decimal is read as the double nearest to it
(`parseFloat_writes_iff`).  What else is read has an x or an underscore in
it (`exists_writes`).
-/

import NexusGateway.Lib.Decimal
import Mathlib.Algebra.Order.Field.Power
import Mathlib.Data.List.Basic
import Mathlib.Tactic.Linarith

namespace NexusGateway.Lib.Float64

/-! ## Magnitudes -/

/-- The magnitude of a pattern without its sign, in units of the least one. -/
def magnitude (p : Nat) : Nat := (p - (p / 2 ^ 52 - 1) * 2 ^ 52) * 2 ^ (p / 2 ^ 52 - 1)

theorem magnitude_eq {k m : Nat} (hlow : k = 0 ∨ 2 ^ 52 ≤ m) (hhigh : m < 2 ^ 53) :
    magnitude (k * 2 ^ 52 + m) = m * 2 ^ k := by
  have hk : (k * 2 ^ 52 + m) / 2 ^ 52 - 1 = k := by omega
  rw [magnitude, hk, Nat.add_sub_cancel_left]

theorem magnitude_succ {k m : Nat} (hlow : k = 0 ∨ 2 ^ 52 ≤ m) (hhigh : m < 2 ^ 53) :
    magnitude (k * 2 ^ 52 + m + 1) = (m + 1) * 2 ^ k := by
  rcases Nat.lt_or_ge (m + 1) (2 ^ 53) with hlt | hge
  · rw [Nat.add_assoc, magnitude_eq (hlow.imp_right Nat.le_succ_of_le) hlt]
  · -- the next binade starts
    have hm : m + 1 = 2 ^ 53 := by omega
    have hnext : k * 2 ^ 52 + m + 1 = (k + 1) * 2 ^ 52 + 2 ^ 52 := by omega
    rw [hnext, magnitude_eq (Or.inr le_rfl) (by decide), hm, Nat.pow_succ 2 k]
    omega

theorem exists_binade (p : Nat) :
    ∃ k m, p = k * 2 ^ 52 + m ∧ (k = 0 ∨ 2 ^ 52 ≤ m) ∧ m < 2 ^ 53 :=
  ⟨p / 2 ^ 52 - 1, p - (p / 2 ^ 52 - 1) * 2 ^ 52, by omega, by omega, by omega⟩

theorem strictMono_magnitude : StrictMono magnitude := by
  refine strictMono_nat_of_lt_succ fun p => ?_
  obtain ⟨k, m, rfl, hlow, hhigh⟩ := exists_binade p
  rw [magnitude_eq hlow hhigh, magnitude_succ hlow hhigh]
  exact Nat.mul_lt_mul_of_pos_right (Nat.lt_succ_self m) (Nat.two_pow_pos k)

/-- The last pattern whose magnitude is not above the number. -/
def floorPattern (q : Nat) : Nat := (q.log2 - 52) * 2 ^ 52 + q / 2 ^ (q.log2 - 52)

theorem floorPattern_bracket (q : Nat) :
    magnitude (floorPattern q) ≤ q ∧ q < magnitude (floorPattern q + 1) := by
  have hpos : 0 < 2 ^ (q.log2 - 52) := Nat.two_pow_pos _
  have hhigh : q / 2 ^ (q.log2 - 52) < 2 ^ 53 := by
    rw [Nat.div_lt_iff_lt_mul hpos, ← Nat.pow_add]
    exact Nat.lt_of_lt_of_le Nat.lt_log2_self (Nat.pow_le_pow_right (by decide) (by omega))
  have hlow : q.log2 - 52 = 0 ∨ 2 ^ 52 ≤ q / 2 ^ (q.log2 - 52) := by
    rcases Nat.eq_zero_or_pos (q.log2 - 52) with hzero | hshift
    · exact Or.inl hzero
    · refine Or.inr ?_
      have hq : q ≠ 0 := by
        rintro rfl
        simp at hshift
      rw [Nat.le_div_iff_mul_le hpos, ← Nat.pow_add, Nat.add_sub_cancel' (by omega)]
      exact Nat.log2_self_le hq
  rw [floorPattern, magnitude_eq hlow hhigh, magnitude_succ hlow hhigh]
  exact ⟨Nat.div_mul_le_self .., (Nat.div_lt_iff_lt_mul hpos).mp (Nat.lt_succ_self _)⟩

/-! ## The nearest magnitude -/

/-- One, in units of the least magnitude. -/
def unit : Nat := 2 ^ 1074

/-- The value of a pattern without its sign. -/
def value (p : Nat) : ℚ := magnitude p / unit

/-- No pattern is nearer, and one that is as near is odd. -/
def IsNearest (x : ℚ) (p : Nat) : Prop :=
  ∀ p' ≠ p, |x - value p| < |x - value p'| ∨ |x - value p| = |x - value p'| ∧ p % 2 = 0

def nearest (num den : Nat) : Nat :=
  let p := floorPattern (num * unit / den)
  let middle := (magnitude p + magnitude (p + 1)) * den
  if 2 * (num * unit) < middle ∨ 2 * (num * unit) = middle ∧ p % 2 = 0 then p else p + 1

section Nearest

variable {x : ℚ} {p p' : Nat}

theorem unit_pos : (0 : ℚ) < unit := by
  rw [unit, Nat.cast_pow]
  positivity

theorem strictMono_value : StrictMono value := by
  intro p p' h
  have hlt : (magnitude p : ℚ) < magnitude p' := Nat.cast_lt.mpr (strictMono_magnitude h)
  exact div_lt_div_of_pos_right hlt unit_pos

theorem abs_sub_below (hle : value p ≤ x) (h : p' ≤ p) : |x - value p'| = x - value p' :=
  abs_of_nonneg (sub_nonneg.mpr ((strictMono_value.monotone h).trans hle))

theorem abs_sub_above (hle : x ≤ value p) (h : p ≤ p') : |x - value p'| = value p' - x := by
  rw [abs_sub_comm]
  exact abs_of_nonneg (sub_nonneg.mpr (hle.trans (strictMono_value.monotone h)))

theorem isNearest_lower (hlow : value p ≤ x) (hhigh : x < value (p + 1))
    (hnear : 2 * x < value p + value (p + 1) ∨ 2 * x = value p + value (p + 1) ∧ p % 2 = 0) :
    IsNearest x p := by
  intro p' hne
  rw [abs_sub_below hlow le_rfl]
  rcases Nat.lt_or_gt_of_ne hne with hlt | hgt
  · have hbelow := strictMono_value hlt
    rw [abs_sub_below hlow hlt.le]
    exact Or.inl (by linarith)
  · have habove := strictMono_value.monotone hgt
    rw [abs_sub_above hhigh.le hgt]
    rcases hnear with hnear | ⟨hmiddle, heven⟩
    · exact Or.inl (by linarith)
    · rcases habove.lt_or_eq with hlt | heq
      · exact Or.inl (by linarith)
      · exact Or.inr ⟨by linarith, heven⟩

theorem isNearest_upper (hlow : value p ≤ x) (hhigh : x < value (p + 1))
    (hnear : value p + value (p + 1) < 2 * x ∨ 2 * x = value p + value (p + 1) ∧ p % 2 = 1) :
    IsNearest x (p + 1) := by
  intro p' hne
  rw [abs_sub_above hhigh.le le_rfl]
  rcases Nat.lt_or_gt_of_ne hne with hlt | hgt
  · have hbelow := strictMono_value.monotone (Nat.le_of_lt_succ hlt)
    rw [abs_sub_below hlow (Nat.le_of_lt_succ hlt)]
    rcases hnear with hnear | ⟨hmiddle, hodd⟩
    · exact Or.inl (by linarith)
    · rcases hbelow.lt_or_eq with hlt | heq
      · exact Or.inl (by linarith)
      · exact Or.inr ⟨by linarith, by omega⟩
  · have habove := strictMono_value hgt
    rw [abs_sub_above hhigh.le hgt.le]
    exact Or.inl (by linarith)

theorem div_lt_value_add_iff (num : Nat) {den : Nat} (hden : 0 < den) (p p' : Nat) :
    2 * ((num : ℚ) / den) < value p + value p' ↔
      2 * (num * unit) < (magnitude p + magnitude p') * den := by
  have hd : (0 : ℚ) < den := Nat.cast_pos.mpr hden
  rw [value, value, ← add_div, ← mul_div_assoc, div_lt_div_iff₀ hd unit_pos, mul_assoc]
  exact_mod_cast Iff.rfl

theorem value_add_lt_div_iff (num : Nat) {den : Nat} (hden : 0 < den) (p p' : Nat) :
    value p + value p' < 2 * ((num : ℚ) / den) ↔
      (magnitude p + magnitude p') * den < 2 * (num * unit) := by
  have hd : (0 : ℚ) < den := Nat.cast_pos.mpr hden
  rw [value, value, ← add_div, ← mul_div_assoc, div_lt_div_iff₀ unit_pos hd, mul_assoc 2]
  exact_mod_cast Iff.rfl

theorem isNearest_nearest (num : Nat) {den : Nat} (hden : 0 < den) :
    IsNearest (num / den) (nearest num den) := by
  obtain ⟨hlow, hhigh⟩ := floorPattern_bracket (num * unit / den)
  rw [Nat.le_div_iff_mul_le hden] at hlow
  rw [Nat.div_lt_iff_lt_mul hden] at hhigh
  rw [nearest]
  generalize floorPattern (num * unit / den) = p at hlow hhigh ⊢
  have hbelow := (value_add_lt_div_iff num hden p (p + 1)).not
  have habove := (div_lt_value_add_iff num hden p (p + 1)).not
  have hlow' := (div_lt_value_add_iff num hden p p).not
  have hhigh' := div_lt_value_add_iff num hden (p + 1) (p + 1)
  have hle : value p ≤ num / den := by
    have h := not_lt.mp (hlow'.mpr (by rw [← two_mul, mul_assoc]; omega))
    linarith
  have hlt : (num : ℚ) / den < value (p + 1) := by
    have h := hhigh'.mpr (by rw [← two_mul, mul_assoc]; omega)
    linarith
  split_ifs with hcond
  · refine isNearest_lower hle hlt (hcond.imp ?_ ?_)
    · exact (div_lt_value_add_iff num hden p (p + 1)).mpr
    · rintro ⟨hmiddle, heven⟩
      refine ⟨?_, heven⟩
      exact le_antisymm (not_lt.mp (hbelow.mpr hmiddle.le.not_gt))
        (not_lt.mp (habove.mpr hmiddle.ge.not_gt))
  · rw [not_or, not_and_or] at hcond
    refine isNearest_upper hle hlt ?_
    rcases (not_lt.mp (habove.mpr hcond.1)).lt_or_eq with hgt | heq
    · exact Or.inl hgt
    · refine Or.inr ⟨heq.symm, ?_⟩
      have hnat := hbelow.mp heq.not_lt
      omega

theorem IsNearest.le (h : IsNearest x p) (p' : Nat) : |x - value p| ≤ |x - value p'| := by
  by_cases hp : p' = p
  · rw [hp]
  · rcases h p' hp with hlt | ⟨heq, -⟩
    · exact hlt.le
    · exact heq.le

theorem IsNearest.not_lt (h : IsNearest x p) (h' : IsNearest x p') : ¬ p < p' := by
  intro hlt
  have heq : |x - value p| = |x - value p'| := le_antisymm (h.le p') (h'.le p)
  have heven := ((h p' hlt.ne').resolve_left heq.not_lt).2
  have heven' := ((h' p hlt.ne).resolve_left heq.not_gt).2
  -- both are even, so there is one between them, which is nearer
  have hbelow : value p < value (p + 1) := strictMono_value (by omega)
  have habove : value (p + 1) < value p' := strictMono_value (by omega)
  rcases abs_eq_abs.mp heq with hsame | hmirror
  · linarith
  · have hnearer : |x - value (p + 1)| < |x - value p| := by
      rw [abs_of_pos (show 0 < x - value p by linarith)]
      exact abs_lt.mpr ⟨by linarith, by linarith⟩
    exact (h.le (p + 1)).not_gt hnearer

theorem IsNearest.eq (h : IsNearest x p) (h' : IsNearest x p') : p = p' :=
  Nat.le_antisymm (Nat.le_of_not_lt (h'.not_lt h)) (Nat.le_of_not_lt (h.not_lt h'))

end Nearest

/-- The double nearest to the number, with its sign, where that is finite. -/
def Rounds (neg : Bool) (x : ℚ) (bits : UInt64) : Prop :=
  ∃ p < 0x7ff * 2 ^ 52, IsNearest x p ∧ bits.toNat = (if neg then 2 ^ 63 else 0) + p

def ofPattern (neg : Bool) (p : Nat) : Option UInt64 :=
  if p < 0x7ff * 2 ^ 52 then some (UInt64.ofNat ((if neg then 2 ^ 63 else 0) + p)) else none

theorem ofPattern_eq_some_iff {neg : Bool} {num den : Nat} (hden : 0 < den) {bits : UInt64} :
    ofPattern neg (nearest num den) = some bits ↔ Rounds neg (num / den) bits := by
  have hnearest := isNearest_nearest num hden
  have hbits : ∀ {p : Nat}, p < 0x7ff * 2 ^ 52 →
      (UInt64.ofNat ((if neg then 2 ^ 63 else 0) + p)).toNat
        = (if neg then 2 ^ 63 else 0) + p := by
    intro p hp
    rw [UInt64.toNat_ofNat']
    exact Nat.mod_eq_of_lt (by split <;> omega)
  rw [ofPattern]
  constructor
  · intro h
    by_cases hfinite : nearest num den < 0x7ff * 2 ^ 52
    · rw [if_pos hfinite] at h
      cases h
      exact ⟨_, hfinite, hnearest, hbits hfinite⟩
    · rw [if_neg hfinite] at h
      cases h
  · rintro ⟨p, hfinite, hp, heq⟩
    obtain rfl := hp.eq hnearest
    rw [if_pos hfinite, Option.some.injEq, ← UInt64.toNat_inj, hbits hfinite, heq]

/-! ## Reading -/

def splitSign : List Char → Bool × List Char
  | '+' :: cs => (false, cs)
  | '-' :: cs => (true, cs)
  | cs => (false, cs)

/-- `special`, of a whole text. -/
def special (cs : List Char) : Option UInt64 :=
  let lower := (splitSign cs).2.map Char.toLower
  if lower = "inf".toList ∨ lower = "infinity".toList then
    some (if (splitSign cs).1 then 0xfff0000000000000 else 0x7ff0000000000000)
  else if cs.map Char.toLower = "nan".toList then some 0x7ff8000000000001
  else none

def isDigitOf (hex : Bool) (c : Char) : Bool :=
  c.isDigit || hex && 'a' ≤ c.toLower && c.toLower ≤ 'f'

def digit (c : Char) : Nat := if c.isDigit then c.toNat - 48 else c.toLower.toNat - 87

def number (base : Nat) (ds : List Char) : Nat := ds.foldl (fun n c => n * base + digit c) 0

/-- What `underscoreOK` saw last. -/
inductive Saw where
  | start | digit | underscore | other
deriving DecidableEq

/-- `underscoreOK`: an underscore stands between two digits, or a base prefix and a digit. -/
def underscoreOK (cs : List Char) : Bool :=
  let body := (splitSign cs).2
  let base := if body.head? = some '0' then body.tail.head?.map Char.toLower else none
  let based := base = some 'b' || base = some 'o' || base = some 'x'
  let step (saw : Option Saw) (c : Char) : Option Saw := do
    let saw ← saw
    if isDigitOf (base = some 'x') c then some .digit
    else if c = '_' then if saw = .digit then some .underscore else none
    else if saw = .underscore then none
    else some .other
  match (if based then body.drop 2 else body).foldl step
      (some (if based then .digit else .start)) with
  | none | some .underscore => false
  | _ => true

/-- The exponent takes no more digits once it has reached 10000. -/
def clip (ds : List Char) : Nat :=
  ds.foldl (fun e c => if e < 10000 then e * 10 + digit c else e) 0

def readExponent (mark : Char) : List Char → Option Int
  | [] => if mark = 'p' then none else some 0
  | c :: cs =>
    let ds := (splitSign cs).2
    if (c = mark ∨ c = mark.toUpper) ∧ ds ≠ [] ∧ ds.all Char.isDigit then
      some (signed (splitSign cs).1 (clip ds))
    else none

/-- A number as it is written: the mantissa times a power of the base. -/
structure Parts where
  neg : Bool
  base : Nat
  mantissa : Nat
  exponent : Int
deriving DecidableEq

def readDigits (hex : Bool) (cs : List Char) : List Char × List Char × List Char :=
  let whole := cs.takeWhile (isDigitOf hex)
  match cs.dropWhile (isDigitOf hex) with
  | '.' :: rest => (whole, rest.takeWhile (isDigitOf hex), rest.dropWhile (isDigitOf hex))
  | rest => (whole, [], rest)

def splitHex : List Char → Bool × List Char
  | '0' :: x :: c :: cs => if x.toLower = 'x' then (true, c :: cs) else (false, '0' :: x :: c :: cs)
  | cs => (false, cs)

/-- `readFloat`, of a whole text.  Underscores are skipped: where they are not, `underscoreOK`
    refuses them. -/
def readFloat (cs : List Char) : Option Parts :=
  let (neg, body) := splitSign (cs.filter (· ≠ '_'))
  let (hex, body) := splitHex body
  let (whole, fraction, rest) := readDigits hex body
  if whole ++ fraction = [] ∨ '_' ∈ cs ∧ underscoreOK cs = false then none
  else (readExponent (if hex then 'p' else 'e') rest).map fun e =>
    { neg
      base := if hex then 2 else 10
      mantissa := number (if hex then 16 else 10) (whole ++ fraction)
      exponent := e - (if hex then 4 else 1) * fraction.length }

/-- `ParseFloat` for 64 bits: none is an error.  The ways by which a double is found are left
    out, each gives the nearest one. -/
def parseFloat (cs : List Char) : Option UInt64 :=
  (special cs).or ((readFloat cs).bind fun r =>
    ofPattern r.neg (nearest (r.mantissa * r.base ^ r.exponent.toNat)
      (r.base ^ (-r.exponent).toNat)))

/-! ## Decimals -/

theorem number_ten {ds : List Char} (h : ∀ c ∈ ds, c.isDigit = true) :
    number 10 ds = decimal ds := by
  refine List.foldl_ext _ _ _ fun n c hc => ?_
  rw [digit, if_pos (h c hc)]

theorem clip_eq {ds : List Char} (h : ∀ c ∈ ds, c.isDigit = true) (hshort : decimal ds < 100000) :
    clip ds = decimal ds := by
  induction ds using List.reverseRecOn with
  | nil => rfl
  | append_singleton ds c ih =>
    have hsnoc : decimal (ds ++ [c]) = decimal ds * 10 + (c.toNat - 48) := by
      rw [decimal, List.foldl_append]
      rfl
    have hdigits := fun x hx => h x (List.mem_append_left [c] hx)
    have hc := h c (List.mem_append_right ds (List.mem_singleton_self c))
    rw [hsnoc] at hshort ⊢
    have hclip : clip (ds ++ [c]) =
        if clip ds < 10000 then clip ds * 10 + digit c else clip ds := by
      rw [clip, List.foldl_append]
      rfl
    rw [hclip, ih hdigits (by omega), if_pos (by omega), digit, if_pos hc]

section Signs

variable {sign cs : List Char} {neg : Bool}

theorem splitSign_append (hsign : Signed sign neg) (hne : cs ≠ [])
    (hhead : ∀ c ∈ cs.head?, c ≠ '+' ∧ c ≠ '-') : splitSign (sign ++ cs) = (neg, cs) := by
  cases hsign with
  | plus | minus => rfl
  | none =>
    cases cs with
    | nil => exact absurd rfl hne
    | cons c cs =>
      obtain ⟨hplus, hminus⟩ := hhead c rfl
      rw [List.nil_append, splitSign]
      · simpa using hplus
      · simpa using hminus

theorem splitSign_body {whole point fraction : List Char} (hsign : Signed sign neg)
    (hwhole : ∀ c ∈ whole, c.isDigit = true) (hpoint : point = ['.'] ∨ point = [] ∧ fraction = [])
    (hne : whole ++ fraction ≠ []) (rest : List Char) :
    splitSign (sign ++ (whole ++ (point ++ (fraction ++ rest))))
      = (neg, whole ++ (point ++ (fraction ++ rest))) := by
  cases whole with
  | cons c whole =>
    have hc := hwhole c (List.mem_cons_self ..)
    refine splitSign_append hsign nofun ?_
    rintro _ ⟨⟩
    constructor <;> rintro rfl <;> cases hc
  | nil =>
    rcases hpoint with rfl | ⟨-, rfl⟩
    · refine splitSign_append hsign nofun ?_
      rintro _ ⟨⟩
      decide
    · exact absurd rfl hne

theorem exists_signed (cs : List Char) :
    ∃ sign, Signed sign (splitSign cs).1 ∧ cs = sign ++ (splitSign cs).2 := by
  unfold splitSign
  split
  · exact ⟨_, .plus, rfl⟩
  · exact ⟨_, .minus, rfl⟩
  · exact ⟨_, .none, rfl⟩

end Signs

section Texts

variable {cs whole point fraction rest : List Char} {d : Decimal} {e : Int}

theorem not_special :
    ∀ c ∈ "0123456789+-.eE".toList, c ≠ '_' ∧ c.toLower ≠ 'x' ∧ c.toLower ≠ 'n' :=
  List.all_iff_forall_prop.mp (by decide)

theorem splitHex_eq (h : ∀ c ∈ cs, c.toLower ≠ 'x') : splitHex cs = (false, cs) := by
  unfold splitHex
  split
  · next x c cs =>
    rw [if_neg (h x (by simp))]
  · rfl

theorem isDigitOf_false : isDigitOf false = Char.isDigit := by
  funext c
  simp [isDigitOf]

theorem takeWhile_digits {ds r : List Char} (hds : ∀ c ∈ ds, c.isDigit = true)
    (hr : ∀ c ∈ r.head?, c.isDigit = false) :
    (ds ++ r).takeWhile Char.isDigit = ds ∧ (ds ++ r).dropWhile Char.isDigit = r := by
  rw [List.takeWhile_append_of_pos hds, List.dropWhile_append_of_pos hds]
  cases r with
  | nil => exact ⟨List.append_nil ds, rfl⟩
  | cons c r =>
    have hc := hr c rfl
    simp [hc]

theorem readDigits_append (hwhole : ∀ c ∈ whole, c.isDigit = true)
    (hpoint : point = ['.'] ∨ point = [] ∧ fraction = [])
    (hfraction : ∀ c ∈ fraction, c.isDigit = true)
    (hrest : ∀ c ∈ rest.head?, c.isDigit = false ∧ c ≠ '.') :
    readDigits false (whole ++ (point ++ (fraction ++ rest))) = (whole, fraction, rest) := by
  obtain ⟨htake, hdrop⟩ := takeWhile_digits hfraction fun c hc => (hrest c hc).1
  rw [readDigits, isDigitOf_false]
  rcases hpoint with rfl | ⟨rfl, rfl⟩
  · obtain ⟨htake', hdrop'⟩ := takeWhile_digits (r := '.' :: (fraction ++ rest)) hwhole
      (by rintro c ⟨⟩; rfl)
    simp only [List.singleton_append, htake', hdrop', htake, hdrop]
  · obtain ⟨htake', hdrop'⟩ := takeWhile_digits hwhole fun c hc => (hrest c hc).1
    rw [List.nil_append, List.nil_append, htake', hdrop']
    split
    · exact absurd rfl (hrest '.' rfl).2
    · rfl

theorem exists_readDigits (cs : List Char) : ∃ point,
    (point = ['.'] ∨ point = [] ∧ (readDigits false cs).2.1 = []) ∧
      cs = (readDigits false cs).1 ++
        (point ++ ((readDigits false cs).2.1 ++ (readDigits false cs).2.2)) ∧
      (∀ c ∈ (readDigits false cs).1, c.isDigit = true) ∧
      ∀ c ∈ (readDigits false cs).2.1, c.isDigit = true := by
  have hdigits : ∀ cs : List Char, ∀ c ∈ cs.takeWhile Char.isDigit, c.isDigit = true := fun _ =>
    List.all_eq_true.mp List.all_takeWhile
  have hsplit : cs.takeWhile Char.isDigit ++ cs.dropWhile Char.isDigit = cs :=
    List.takeWhile_append_dropWhile
  rw [readDigits, isDigitOf_false]
  split
  · next rest heq =>
    refine ⟨['.'], Or.inl rfl, ?_, hdigits cs, hdigits rest⟩
    rw [List.takeWhile_append_dropWhile, List.singleton_append, ← heq, hsplit]
  · exact ⟨[], Or.inr ⟨rfl, rfl⟩, hsplit.symm, hdigits cs, nofun⟩

theorem readExponent_eq (h : Exponent cs e) (hshort : e.natAbs < 100000) :
    readExponent 'e' cs = some e := by
  cases h with
  | none => rfl
  | @written c sign ds neg hmark hsign hne hds =>
    have hsmall : decimal ds < 100000 := by
      cases neg <;> simpa [signed] using hshort
    have hsplit : splitSign (sign ++ ds) = (neg, ds) := by
      refine splitSign_append hsign hne fun c hc => ?_
      have hdigit := hds c (List.mem_of_mem_head? hc)
      constructor <;> rintro rfl <;> cases hdigit
    rw [readExponent, hsplit, clip_eq hds hsmall]
    exact if_pos ⟨hmark, hne, List.all_eq_true.mpr hds⟩

theorem exists_exponent (h : readExponent 'e' cs = some e) : ∃ e', Exponent cs e' := by
  cases cs with
  | nil => exact ⟨0, .none⟩
  | cons c cs =>
    obtain ⟨sign, hsign, hcs⟩ := exists_signed cs
    rw [readExponent] at h
    split_ifs at h with hcond
    obtain ⟨hmark, hne, hds⟩ := hcond
    rw [hcs]
    exact ⟨_, .written hmark hsign hne (List.all_eq_true.mp hds)⟩

theorem special_eq_none (h : ∀ c ∈ cs, c.toLower ≠ 'n') : special cs = none := by
  have hlower : ∀ {cs : List Char}, (∀ c ∈ cs, c.toLower ≠ 'n') → ∀ {word : List Char},
      'n' ∈ word → cs.map Char.toLower ≠ word := by
    rintro cs h word hn rfl
    obtain ⟨c, hc, heq⟩ := List.mem_map.mp hn
    exact h c hc heq
  obtain ⟨sign, -, hcs⟩ := exists_signed cs
  have hbody : ∀ c ∈ (splitSign cs).2, c.toLower ≠ 'n' := fun c hc =>
    h c (by rw [hcs]; exact List.mem_append_right _ hc)
  rw [special, if_neg, if_neg (hlower h (by decide))]
  rintro (hinf | hinfinity)
  · exact hlower hbody (by decide) hinf
  · exact hlower hbody (by decide) hinfinity

theorem readFloat_of_writes (h : d.Writes cs) (hshort : d.exponent.natAbs < 100000) :
    readFloat cs = some ⟨d.neg, 10, decimal (d.whole ++ d.fraction),
      d.exponent - d.fraction.length⟩ := by
  have hchars := h.chars
  have hunderscore : '_' ∉ cs := fun hmem => (not_special _ (hchars _ hmem)).1 rfl
  have hfilter : cs.filter (· ≠ '_') = cs := List.filter_eq_self.mpr fun c hc =>
    decide_eq_true (not_special c (hchars c hc)).1
  cases h with
  | @mk sign whole point fraction exponent neg e hsign hwhole hpoint hfraction hne hexponent =>
    have hbody : splitSign (sign ++ (whole ++ (point ++ (fraction ++ exponent))))
        = (neg, whole ++ (point ++ (fraction ++ exponent))) :=
      splitSign_body hsign hwhole hpoint hne exponent
    have hhex : splitHex (whole ++ (point ++ (fraction ++ exponent)))
        = (false, whole ++ (point ++ (fraction ++ exponent))) :=
      splitHex_eq fun c hc => (not_special c (hchars c (List.mem_append_right _ hc))).2.1
    simp only [readFloat, hfilter, hbody, hhex, Bool.false_eq_true, if_false,
      readDigits_append hwhole hpoint hfraction hexponent.head]
    have hdigits : ∀ c ∈ whole ++ fraction, c.isDigit = true := fun c hc =>
      (List.mem_append.mp hc).elim (hwhole c) (hfraction c)
    rw [if_neg (not_or.mpr ⟨hne, fun hcond => hunderscore hcond.1⟩),
      readExponent_eq hexponent hshort, Option.map_some, number_ten hdigits, one_mul]

theorem exists_writes {r : Parts} (h : readFloat cs = some r) (hunderscore : '_' ∉ cs)
    (hx : ∀ c ∈ cs, c.toLower ≠ 'x') : ∃ d : Decimal, d.Writes cs := by
  have hfilter : cs.filter (· ≠ '_') = cs := List.filter_eq_self.mpr fun c hc =>
    decide_eq_true fun heq => hunderscore (heq ▸ hc)
  obtain ⟨sign, hsign, hcs⟩ := exists_signed cs
  have hhex : splitHex (splitSign cs).2 = (false, (splitSign cs).2) :=
    splitHex_eq fun c hc => hx c (by rw [hcs]; exact List.mem_append_right _ hc)
  obtain ⟨point, hpoint, hbody, hwhole, hfraction⟩ := exists_readDigits (splitSign cs).2
  simp only [readFloat, hfilter, hhex, Bool.false_eq_true, if_false] at h
  split_ifs at h with hcond
  obtain ⟨e, he, -⟩ := Option.map_eq_some_iff.mp h
  obtain ⟨e', hexponent⟩ := exists_exponent he
  rw [hcs, hbody]
  exact ⟨_, .mk hsign hwhole hpoint hfraction (fun hnil => hcond (Or.inl hnil)) hexponent⟩

theorem parts_value (m : Nat) (e : Int) :
    ((m * 10 ^ e.toNat : Nat) : ℚ) / (10 ^ (-e).toNat : Nat) = m * 10 ^ e := by
  obtain ⟨n, rfl | rfl⟩ := e.eq_nat_or_neg
  · simp
  · simp [div_eq_mul_inv]

/-- A decimal, if its exponent is not too long, is read as the double nearest to it. -/
theorem parseFloat_writes_iff (h : d.Writes cs) (hshort : d.exponent.natAbs < 100000)
    {bits : UInt64} : parseFloat cs = some bits ↔ Rounds d.neg |d.value| bits := by
  have hspecial : special cs = none :=
    special_eq_none fun c hc => (not_special c (h.chars c hc)).2.2
  have habs : |d.value| = decimal (d.whole ++ d.fraction) *
      10 ^ (d.exponent - d.fraction.length) := by
    rw [Decimal.value, signed]
    split <;> simp [abs_mul, abs_zpow]
  rw [parseFloat, hspecial, Option.none_or, readFloat_of_writes h hshort, Option.bind_some,
    ofPattern_eq_some_iff (Nat.pow_pos (Nat.succ_pos 9)), habs, parts_value]

end Texts

end NexusGateway.Lib.Float64
