/-
`internal/storeforward/pump.go`: the bitmap the Pump recognises redelivered
stream sequences by.  The bit of sequence `s` is `s mod n`, so a slot is
reused by every sequence of the same residue; sliding forward clears the
slots whose sequences fall out.

`Tracks w hist` is what the window is for: of the sequences added so far it
knows exactly those not older than `base`, and `base` is never further than
one window behind the newest of them.  `add` keeps it (`Tracks.add`), from
any history and in any order of additions.

Sequences are `uint64` in the source; every difference is taken of a larger
and a smaller value and every result is at most an argument, so no operation
wraps and the model uses natural numbers.
-/

import Mathlib.Data.Nat.Bitwise
import Mathlib.Tactic.Ring
import NexusGateway.Lib.Bitmap

namespace NexusGateway.StoreForward

open Lib

/-- `seqWindow`: `n` is a power of two and the bitmap has one bit per residue. -/
structure SeqWindow where
  bits : Bitmap
  n : Nat
  base : Nat
  n_pow : ∃ k, n = 2 ^ k
  size_bits : 64 * bits.size = n

/-- The loop `for n < size { n <<= 1 }`. -/
def doubleUntil (size n : Nat) : Nat :=
  if 0 < n ∧ n < size then doubleUntil size (2 * n) else n
termination_by size - n

theorem doubleUntil_eq_mul_pow (size n : Nat) : ∃ k, doubleUntil size n = n * 2 ^ k := by
  fun_induction doubleUntil size n with
  | case1 n h ih =>
    obtain ⟨k, hk⟩ := ih
    exact ⟨k + 1, by rw [hk, Nat.pow_succ]; ring⟩
  | case2 n h => exact ⟨0, by rw [Nat.pow_zero, Nat.mul_one]⟩

theorem le_doubleUntil {size n : Nat} (hn : 0 < n) : size ≤ doubleUntil size n := by
  fun_induction doubleUntil size n with
  | case1 n h ih => exact ih (by omega)
  | case2 n h => omega

theorem doubleUntil_pow {n : Nat} (hn : 0 < n) (k : Nat) :
    doubleUntil (n * 2 ^ k) n = n * 2 ^ k := by
  induction k generalizing n with
  | zero =>
    rw [doubleUntil, if_neg (by omega)]
    omega
  | succ k ih =>
    have hpow : n * 2 ^ (k + 1) = 2 * n * 2 ^ k := by rw [Nat.pow_succ]; ring
    have hlt : n < 2 * n * 2 ^ k :=
      Nat.lt_of_lt_of_le (by omega) (Nat.le_mul_of_pos_right (2 * n) (Nat.two_pow_pos k))
    rw [hpow, doubleUntil, if_pos ⟨hn, hlt⟩]
    exact ih (by omega)

variable {w : SeqWindow} {hist : List Nat}

namespace SeqWindow

/-- `newSeqWindow`. -/
def new (size : Nat) : SeqWindow where
  bits := Bitmap.zeros (doubleUntil size 64 / 64)
  n := doubleUntil size 64
  base := 0
  n_pow := by
    obtain ⟨k, hk⟩ := doubleUntil_eq_mul_pow size 64
    exact ⟨6 + k, by rw [hk, Nat.pow_add]⟩
  size_bits := by
    obtain ⟨k, hk⟩ := doubleUntil_eq_mul_pow size 64
    rw [Bitmap.size_zeros, hk, Nat.mul_div_cancel_left _ (by decide)]

/-- The bit of a sequence: `seq & (w.n - 1)`. -/
def slot (w : SeqWindow) (seq : Nat) : Nat := seq &&& (w.n - 1)

def contains (w : SeqWindow) (seq : Nat) : Bool :=
  if seq < w.base ∨ w.n ≤ seq - w.base then false else w.bits.test (w.slot seq)

def slide (w : SeqWindow) (newBase : Nat) : SeqWindow :=
  { w with
    bits := if w.n ≤ newBase - w.base then Bitmap.zeros w.bits.size
      else w.bits.clearAll ((List.range' w.base (newBase - w.base)).map w.slot)
    base := newBase
    size_bits := by
      split
      · rw [Bitmap.size_zeros, w.size_bits]
      · rw [Bitmap.size_clearAll, w.size_bits] }

def mark (w : SeqWindow) (seq : Nat) : SeqWindow :=
  { w with
    bits := w.bits.set (w.slot seq)
    size_bits := by rw [Bitmap.size_set, w.size_bits] }

def add (w : SeqWindow) (seq : Nat) : SeqWindow :=
  if seq < w.base then w
  else if w.n ≤ seq - w.base then (w.slide (seq - w.n + 1)).mark seq
  else w.mark seq

theorem n_pos (w : SeqWindow) : 0 < w.n := by
  obtain ⟨k, hk⟩ := w.n_pow
  rw [hk]
  exact Nat.two_pow_pos k

theorem slot_eq_mod (w : SeqWindow) (seq : Nat) : w.slot seq = seq % w.n := by
  obtain ⟨k, hk⟩ := w.n_pow
  rw [slot, hk, Nat.and_two_pow_sub_one_eq_mod]

theorem slot_lt (w : SeqWindow) (seq : Nat) : w.slot seq < 64 * w.bits.size := by
  rw [slot_eq_mod, w.size_bits]
  exact Nat.mod_lt _ w.n_pos

theorem eq_of_slot_eq (w : SeqWindow) {s t lo : Nat} (hs : lo ≤ s ∧ s < lo + w.n)
    (ht : lo ≤ t ∧ t < lo + w.n) (h : w.slot s = w.slot t) : s = t := by
  rw [slot_eq_mod, slot_eq_mod] at h
  have hdist : ∀ {a b : Nat}, a % w.n = b % w.n → b - a < w.n → b ≤ a := by
    intro a b hab hlt
    have hzero := Nat.sub_mod_eq_zero_of_mod_eq hab.symm
    rw [Nat.mod_eq_of_lt hlt] at hzero
    omega
  exact Nat.le_antisymm (hdist h.symm (by omega)) (hdist h (by omega))

theorem slot_sub_n (w : SeqWindow) {s : Nat} (hs : w.n ≤ s) : w.slot (s - w.n) = w.slot s := by
  rw [slot_eq_mod, slot_eq_mod, Nat.mod_eq_sub_mod hs]

/-! ## The window and the history of additions -/

/-- The window knows, of the sequences added so far, those it still covers. -/
structure Tracks (w : SeqWindow) (hist : List Nat) : Prop where
  test_iff : ∀ s, w.base ≤ s → s < w.base + w.n → (w.bits.test (w.slot s) = true ↔ s ∈ hist)
  lt : ∀ s ∈ hist, s < w.base + w.n
  base : w.base = 0 ∨ ∃ m ∈ hist, w.base + w.n = m + 1

theorem Tracks.contains_iff (h : w.Tracks hist) (s : Nat) :
    w.contains s = true ↔ s ∈ hist ∧ w.base ≤ s := by
  unfold contains
  split
  · next hout =>
    simp only [Bool.false_eq_true, false_iff, not_and, Nat.not_le]
    intro hs
    have hlt := h.lt s hs
    omega
  · next hin =>
    rw [h.test_iff s (by omega) (by omega)]
    exact ⟨fun hs => ⟨hs, by omega⟩, And.left⟩

theorem tracks_new (size : Nat) : (new size).Tracks [] where
  test_iff s _ _ := by simp [new]
  lt s hs := by cases hs
  base := Or.inl rfl

@[simp] theorem contains_new (size s : Nat) : (new size).contains s = false := by
  simp [contains, new]

theorem Tracks.add_old (h : w.Tracks hist) {seq : Nat} (hold : seq < w.base) :
    w.Tracks (seq :: hist) where
  test_iff s hlo hhi := by
    have hne : s ≠ seq := by omega
    rw [h.test_iff s hlo hhi, List.mem_cons, or_iff_right hne]
  lt s hs := by
    rcases List.mem_cons.mp hs with rfl | hs
    · omega
    · exact h.lt s hs
  base := h.base.imp_right fun ⟨m, hm, heq⟩ => ⟨m, List.mem_cons_of_mem _ hm, heq⟩

theorem Tracks.mark {seq : Nat}
    (htest : ∀ s, w.base ≤ s → s < w.base + w.n → (w.bits.test (w.slot s) = true ↔ s ∈ hist))
    (hlt : ∀ s ∈ hist, s < w.base + w.n)
    (hbase : w.base = 0 ∨ ∃ m ∈ seq :: hist, w.base + w.n = m + 1) (hlo : w.base ≤ seq)
    (hhi : seq < w.base + w.n) : (w.mark seq).Tracks (seq :: hist) where
  test_iff s hs hs' := by
    have hbit : (w.mark seq).bits.test (w.slot s)
        = (decide (w.slot s = w.slot seq) || w.bits.test (w.slot s)) :=
      Bitmap.test_set w.bits (w.slot_lt seq) (w.slot s)
    have hslot : w.slot s = w.slot seq ↔ s = seq :=
      ⟨w.eq_of_slot_eq ⟨hs, hs'⟩ ⟨hlo, hhi⟩, fun h => by rw [h]⟩
    have hmark : (w.mark seq).slot s = w.slot s := rfl
    rw [hmark, hbit, Bool.or_eq_true, decide_eq_true_eq, hslot, htest s hs hs', List.mem_cons]
  lt s hs := by
    rcases List.mem_cons.mp hs with rfl | hs
    · exact hhi
    · exact hlt s hs
  base := hbase

theorem Tracks.test_slide (h : w.Tracks hist) {newBase : Nat} (hle : w.base ≤ newBase) (s : Nat)
    (hlo : newBase ≤ s) (hhi : s < newBase + w.n) :
    (w.slide newBase).bits.test (w.slot s) = true ↔ s ∈ hist := by
  simp only [slide]
  split
  · next hfar =>
    -- the whole old window falls out, and every known sequence was in it
    simp only [Bitmap.test_zeros, Bool.false_eq_true, false_iff]
    intro hs
    have hlt := h.lt s hs
    omega
  · next hnear =>
    rw [Bitmap.test_clearAll, Bool.and_eq_true, decide_eq_true_eq, List.mem_map]
    simp only [List.mem_range'_1, not_exists, not_and]
    by_cases hold : s < w.base + w.n
    · -- still covered before the slide: its slot is not among the cleared ones
      rw [h.test_iff s (by omega) hold]
      refine ⟨And.left, fun hs => ⟨hs, fun t ht hslot => ?_⟩⟩
      have heq := w.eq_of_slot_eq ⟨ht.1, by omega⟩ ⟨by omega, hold⟩ hslot
      omega
    · -- newly covered: the slot belonged to `s - n`, which fell out
      have hnot : s ∉ hist := fun hs => hold (h.lt s hs)
      refine ⟨fun ⟨_, hclear⟩ => ?_, fun hs => absurd hs hnot⟩
      exact absurd (w.slot_sub_n (by omega)) (hclear (s - w.n) (by omega))

theorem Tracks.add (h : w.Tracks hist) (seq : Nat) : (w.add seq).Tracks (seq :: hist) := by
  unfold SeqWindow.add
  split
  · next hold => exact h.add_old hold
  · next hnew =>
    have hn := w.n_pos
    split
    · next hfar =>
      have hle : w.base ≤ seq - w.n + 1 := by omega
      refine Tracks.mark (w := w.slide (seq - w.n + 1)) (h.test_slide hle) ?_ ?_ ?_ ?_
      · intro s hs
        have hlt := h.lt s hs
        show s < seq - w.n + 1 + w.n
        omega
      · refine Or.inr ⟨seq, List.mem_cons_self .., ?_⟩
        show seq - w.n + 1 + w.n = seq + 1
        omega
      · show seq - w.n + 1 ≤ seq
        omega
      · show seq < seq - w.n + 1 + w.n
        omega
    · next hnear =>
      refine Tracks.mark h.test_iff h.lt ?_ (by omega) (by omega)
      exact h.base.imp_right fun ⟨m, hm, heq⟩ => ⟨m, List.mem_cons_of_mem _ hm, heq⟩

@[simp] theorem n_add (w : SeqWindow) (seq : Nat) : (w.add seq).n = w.n := by
  unfold SeqWindow.add
  split
  · rfl
  · split <;> rfl

end SeqWindow

end NexusGateway.StoreForward
