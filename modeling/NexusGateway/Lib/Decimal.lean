/-
Decimal digits and the numbers they write: a sign, digits with a point among
or around them, and an exponent.
-/

import Mathlib.Algebra.Order.Field.Rat
import Mathlib.Data.Bool.AllAny
import Mathlib.Data.List.Induction
import Mathlib.Tactic.IntervalCases
import Mathlib.Tactic.Ring

namespace NexusGateway.Lib

/-! ## Digits -/

def decimal (ds : List Char) : Nat := ds.foldl (fun n c => n * 10 + (c.toNat - 48)) 0

theorem decimal_append (ds es : List Char) :
    decimal (ds ++ es) = decimal ds * 10 ^ es.length + decimal es := by
  induction es using List.reverseRecOn with
  | nil => simp [decimal]
  | append_singleton es c ih =>
    have hsnoc : ∀ xs : List Char, decimal (xs ++ [c]) = decimal xs * 10 + (c.toNat - 48) := by
      intro xs
      rw [decimal, List.foldl_append]
      rfl
    rw [← List.append_assoc, hsnoc, hsnoc, ih, List.length_append, List.length_singleton,
      Nat.pow_succ]
    ring

theorem decimal_eq_zero_iff {ds : List Char} (h : ∀ c ∈ ds, c.isDigit = true) :
    decimal ds = 0 ↔ ∀ c ∈ ds, c = '0' := by
  induction ds with
  | nil => simp [decimal]
  | cons c ds ih =>
    have hc : c.isDigit = true := h c (List.mem_cons_self ..)
    have hcons : decimal (c :: ds) = (c.toNat - 48) * 10 ^ ds.length + decimal ds := by
      rw [← List.singleton_append, decimal_append]
      simp [decimal]
    have hzero : c.toNat - 48 = 0 ↔ c = '0' := by
      rw [Char.isDigit, Bool.and_eq_true, decide_eq_true_eq, decide_eq_true_eq] at hc
      have hlow : 48 ≤ c.toNat := UInt32.le_iff_toNat_le.mp hc.1
      constructor
      · intro heq
        have hnat : c.toNat = ('0' : Char).toNat := by
          show c.toNat = 48
          omega
        exact Char.toNat_inj.mp hnat
      · rintro rfl
        rfl
    have hpow : 10 ^ ds.length ≠ 0 := pow_ne_zero _ (by omega)
    rw [hcons, Nat.add_eq_zero_iff, Nat.mul_eq_zero, hzero,
      ih fun x hx => h x (List.mem_cons_of_mem _ hx), List.forall_mem_cons]
    simp only [hpow, or_false]

theorem mem_digits {c : Char} (h : c.isDigit = true) : c ∈ "0123456789".toList := by
  rw [Char.isDigit, Bool.and_eq_true, decide_eq_true_eq, decide_eq_true_eq] at h
  have hlow : 48 ≤ c.toNat := UInt32.le_iff_toNat_le.mp h.1
  have hhigh : c.toNat ≤ 57 := UInt32.le_iff_toNat_le.mp h.2
  rw [← Char.ofNat_toNat c]
  generalize c.toNat = n at hlow hhigh
  interval_cases n <;> decide

/-! ## Numbers -/

inductive Signed : List Char → Bool → Prop
  | none : Signed [] false
  | plus : Signed ['+'] false
  | minus : Signed ['-'] true

def signed {α : Type} [Neg α] (neg : Bool) (x : α) : α := if neg then -x else x

inductive Exponent : List Char → Int → Prop
  | none : Exponent [] 0
  | written {c : Char} {sign ds : List Char} {neg : Bool} (hc : c = 'e' ∨ c = 'E')
      (hsign : Signed sign neg) (hne : ds ≠ []) (hds : ∀ c ∈ ds, c.isDigit = true) :
      Exponent (c :: (sign ++ ds)) (signed neg (decimal ds : Int))

theorem Exponent.head {cs : List Char} {e : Int} (h : Exponent cs e) :
    ∀ c ∈ cs.head?, c.isDigit = false ∧ c ≠ '.' := by
  cases h with
  | none => nofun
  | written hmark _ _ _ =>
    rintro c ⟨⟩
    rcases hmark with rfl | rfl <;> decide

structure Decimal where
  neg : Bool
  whole : List Char
  fraction : List Char
  exponent : Int

namespace Decimal

def value (d : Decimal) : ℚ :=
  signed d.neg (decimal (d.whole ++ d.fraction) * 10 ^ (d.exponent - d.fraction.length))

/-- There is a digit before or behind the point, and the point may be left out with nothing
    behind it. -/
inductive Writes : Decimal → List Char → Prop
  | mk {sign whole point fraction exponent : List Char} {neg : Bool} {e : Int}
      (hsign : Signed sign neg) (hwhole : ∀ c ∈ whole, c.isDigit = true)
      (hpoint : point = ['.'] ∨ point = [] ∧ fraction = [])
      (hfraction : ∀ c ∈ fraction, c.isDigit = true) (hne : whole ++ fraction ≠ [])
      (hexponent : Exponent exponent e) :
      Writes ⟨neg, whole, fraction, e⟩ (sign ++ (whole ++ (point ++ (fraction ++ exponent))))

theorem Writes.chars {d : Decimal} {cs : List Char} (h : d.Writes cs) :
    ∀ c ∈ cs, c ∈ "0123456789+-.eE".toList := by
  have hdigit : ∀ {c : Char}, c.isDigit = true → c ∈ "0123456789+-.eE".toList := fun hc =>
    List.mem_append_left "+-.eE".toList (mem_digits hc)
  have hsigned : ∀ {sign : List Char} {neg : Bool}, Signed sign neg →
      ∀ c ∈ sign, c ∈ "0123456789+-.eE".toList := by
    intro sign neg h
    cases h with
    | none | plus | minus => exact List.all_iff_forall_prop.mp (by decide)
  cases h with
  | mk hsign hwhole hpoint hfraction hne hexponent =>
    simp only [List.mem_append]
    rintro c (hc | hc | hc | hc | hc)
    · exact hsigned hsign c hc
    · exact hdigit (hwhole c hc)
    · rcases hpoint with rfl | ⟨rfl, -⟩
      · rw [List.mem_singleton.mp hc]
        decide
      · cases hc
    · exact hdigit (hfraction c hc)
    · cases hexponent with
      | none => cases hc
      | written hmark hsign hne hds =>
        rw [List.mem_cons, List.mem_append] at hc
        rcases hc with rfl | hc | hc
        · rcases hmark with rfl | rfl <;> decide
        · exact hsigned hsign c hc
        · exact hdigit (hds c hc)

theorem Writes.exponent_eq_zero {d : Decimal} {cs : List Char} (h : d.Writes cs) (he : 'e' ∉ cs)
    (hE : 'E' ∉ cs) : d.exponent = 0 := by
  cases h with
  | mk _ _ _ _ _ hexponent =>
    cases hexponent with
    | none => rfl
    | written hmark _ _ _ => rcases hmark with rfl | rfl <;> simp at he hE

end Decimal

end NexusGateway.Lib
