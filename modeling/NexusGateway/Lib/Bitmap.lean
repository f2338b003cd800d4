/-
A bitmap over 64-bit words: bit `i` is bit `i % 64` of word `i / 64`.  Each
operation is characterised by the bits it leaves behind.
-/

import Mathlib.Data.List.Range

namespace NexusGateway.Lib

abbrev Bitmap := Array (BitVec 64)

namespace Bitmap

def mask (i : Nat) : BitVec 64 := 1#64 <<< (i % 64)

def zeros (words : Nat) : Bitmap := Array.replicate words 0

def test (b : Bitmap) (i : Nat) : Bool := (b.getD (i / 64) 0 &&& mask i) != 0

def set (b : Bitmap) (i : Nat) : Bitmap := b.modify (i / 64) (· ||| mask i)

def clear (b : Bitmap) (i : Nat) : Bitmap := b.modify (i / 64) (· &&& ~~~ mask i)

def clearAll (b : Bitmap) (is : List Nat) : Bitmap := is.foldl clear b

@[simp] theorem size_zeros (words : Nat) : (zeros words).size = words := Array.size_replicate

@[simp] theorem size_set (b : Bitmap) (i : Nat) : (b.set i).size = b.size := Array.size_modify

@[simp] theorem size_clear (b : Bitmap) (i : Nat) : (b.clear i).size = b.size :=
  Array.size_modify

@[simp] theorem size_clearAll (b : Bitmap) (is : List Nat) : (b.clearAll is).size = b.size := by
  induction is generalizing b with
  | nil => rfl
  | cons i is ih => exact (ih (b.clear i)).trans (size_clear b i)

theorem getLsbD_mask (i k : Nat) : (mask i).getLsbD k = decide (k = i % 64) := by
  have hi : i % 64 < 64 := Nat.mod_lt _ (by decide)
  simp only [mask, BitVec.getLsbD_shiftLeft, BitVec.getLsbD_one]
  by_cases hk : k = i % 64
  · simp [hk, hi]
  · simp only [hk, decide_false]
    grind

theorem and_mask_ne_zero (w : BitVec 64) (i : Nat) :
    ((w &&& mask i) != 0) = w.getLsbD (i % 64) := by
  have hi : i % 64 < 64 := Nat.mod_lt _ (by decide)
  cases hw : w.getLsbD (i % 64) with
  | true =>
    rw [bne_iff_ne]
    intro hzero
    have hbit : (w &&& mask i).getLsbD (i % 64) = true := by
      rw [BitVec.getLsbD_and, hw, getLsbD_mask, decide_eq_true rfl, Bool.and_self]
    rw [hzero] at hbit
    simp at hbit
  | false =>
    have hzero : w &&& mask i = 0 := by
      refine BitVec.eq_of_getLsbD_eq fun k _ => ?_
      rw [BitVec.getLsbD_and, getLsbD_mask]
      by_cases hk : k = i % 64
      · rw [hk, hw]
        simp
      · simp [hk]
    rw [hzero]
    rfl

theorem test_eq (b : Bitmap) (i : Nat) :
    b.test i = (b.getD (i / 64) 0).getLsbD (i % 64) :=
  and_mask_ne_zero _ i

@[simp] theorem test_zeros (words i : Nat) : (zeros words).test i = false := by
  rw [test_eq, zeros, Array.getD_eq_getD_getElem?, Array.getElem?_replicate]
  split <;> simp

theorem getD_modify (b : Bitmap) {k : Nat} {f : BitVec 64 → BitVec 64}
    (hf : k < b.size ∨ f 0 = 0) (k' : Nat) :
    (b.modify k f).getD k' 0 = if k = k' then f (b.getD k' 0) else b.getD k' 0 := by
  simp only [Array.getD_eq_getD_getElem?, Array.getElem?_modify]
  by_cases hk : k = k'
  · subst hk
    rw [if_pos rfl, if_pos rfl]
    cases hword : b[k]? with
    | some w => rfl
    | none =>
      have hout : ¬ k < b.size := by
        rw [Array.getElem?_eq_none_iff] at hword
        omega
      exact (hf.resolve_left hout).symm
  · rw [if_neg hk, if_neg hk]

theorem test_set (b : Bitmap) {i : Nat} (hi : i < 64 * b.size) (j : Nat) :
    (b.set i).test j = (decide (j = i) || b.test j) := by
  rw [test_eq, test_eq, set, getD_modify b (Or.inl (by omega))]
  by_cases hw : i / 64 = j / 64
  · -- the same word: the bit positions decide
    have hpos : decide (j % 64 = i % 64) = decide (j = i) := decide_eq_decide.mpr (by omega)
    rw [if_pos hw, BitVec.getLsbD_or, getLsbD_mask, hpos, Bool.or_comm]
  · have hne : ¬ j = i := fun h => hw (by rw [h])
    rw [if_neg hw, decide_eq_false hne, Bool.false_or]

theorem test_clear (b : Bitmap) (i j : Nat) :
    (b.clear i).test j = (b.test j && decide (j ≠ i)) := by
  have hzero : (0 : BitVec 64) &&& ~~~ mask i = 0 := BitVec.zero_and
  rw [test_eq, test_eq, clear, getD_modify b (Or.inr hzero)]
  by_cases hw : i / 64 = j / 64
  · have hpos : decide (j % 64 = i % 64) = decide (j = i) := decide_eq_decide.mpr (by omega)
    have hj : j % 64 < 64 := Nat.mod_lt _ (by decide)
    rw [if_pos hw, BitVec.getLsbD_and, BitVec.getLsbD_not, getLsbD_mask, hpos,
      decide_eq_true hj, Bool.true_and, decide_not]
  · have hne : j ≠ i := fun h => hw (by rw [h])
    rw [if_neg hw, decide_eq_true hne, Bool.and_true]

theorem test_clearAll (b : Bitmap) (is : List Nat) (j : Nat) :
    (b.clearAll is).test j = (b.test j && decide (j ∉ is)) := by
  induction is generalizing b with
  | nil => simp [clearAll]
  | cons i is ih =>
    have hstep : b.clearAll (i :: is) = (b.clear i).clearAll is := rfl
    rw [hstep, ih, test_clear, Bool.and_assoc]
    simp

end Bitmap

end NexusGateway.Lib
