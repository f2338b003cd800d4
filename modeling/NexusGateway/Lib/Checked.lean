/-
64-bit machine arithmetic in which a step that would wrap around, and an
access outside a bitmap, is `none`.  A computation written with these
operations that returns `some` is the machine's own computation, and none of
its steps wrapped; each lemma says when a step is taken and what its result
is as a natural number.
-/

import Mathlib.Algebra.Ring.Nat
import NexusGateway.Lib.Bitmap

namespace NexusGateway.Lib

/-- `uint64`. -/
abbrev U64 := BitVec 64

namespace U64

/-- `a - b`. -/
def sub? (a b : U64) : Option U64 := if b ≤ a then some (a - b) else none

/-- `a + 1`. -/
def succ? (a : U64) : Option U64 := if a.toNat + 1 < 2 ^ 64 then some (a + 1) else none

theorem sub?_eq {a b : U64} (h : b.toNat ≤ a.toNat) :
    ∃ c, sub? a b = some c ∧ c.toNat = a.toNat - b.toNat :=
  ⟨a - b, if_pos h, BitVec.toNat_sub_of_le h⟩

theorem succ?_eq {a : U64} (h : a.toNat + 1 < 2 ^ 64) :
    ∃ c, succ? a = some c ∧ c.toNat = a.toNat + 1 := by
  refine ⟨a + 1, if_pos h, ?_⟩
  bv_omega

/-- The loop `for s := start; s < stop; s++`. -/
def forUp? {β : Type _} (body : β → U64 → Option β) (stop s : U64) (x : β) : Option β :=
  if s < stop then
    (body x s).bind fun x => if s.toNat + 1 < 2 ^ 64 then forUp? body stop (s + 1) x else none
  else some x
termination_by stop.toNat - s.toNat
decreasing_by bv_omega

theorem forUp?_eq_foldl {β : Type _} {body : β → U64 → Option β} {f : β → Nat → β}
    {I : β → Prop} (hbody : ∀ x s, I x → body x s = some (f x s.toNat))
    (hI : ∀ x k, I x → I (f x k)) (stop s : U64) {x : β} (hx : I x) :
    forUp? body stop s x
      = some ((List.range' s.toNat (stop.toNat - s.toNat)).foldl f x) := by
  generalize hd : stop.toNat - s.toNat = d
  induction d generalizing s x with
  | zero =>
    rw [forUp?, if_neg (by rw [BitVec.lt_def]; omega)]
    rfl
  | succ d ih =>
    have hlt : s.toNat < stop.toNat := by omega
    have hstop : stop.toNat < 2 ^ 64 := stop.isLt
    have hroom : s.toNat + 1 < 2 ^ 64 := by omega
    have hnext : (s + 1).toNat = s.toNat + 1 := by bv_omega
    rw [forUp?, if_pos (BitVec.lt_def.mpr hlt), hbody x s hx, Option.bind_some, if_pos hroom,
      ih (s + 1) (hI x s.toNat hx) (by omega), hnext, List.range'_succ, List.foldl_cons]

end U64

/-! ## Bits addressed by a machine word -/

namespace Bitmap

/-- `1 << (i & 63)`. -/
def mask64 (i : U64) : U64 := 1#64 <<< (i &&& 63#64)

/-- `bits[i>>6]`. -/
def word? (b : Bitmap) (i : U64) : Option U64 :=
  if (i >>> 6).toNat < b.size then some (b.getD (i >>> 6).toNat 0) else none

/-- `bits[i>>6] = f(bits[i>>6])`. -/
def modifyWord? (b : Bitmap) (i : U64) (f : U64 → U64) : Option Bitmap :=
  if (i >>> 6).toNat < b.size then some (b.modify (i >>> 6).toNat f) else none

theorem toNat_shiftRight_six (i : U64) : (i >>> 6).toNat = i.toNat / 64 := by
  rw [BitVec.toNat_ushiftRight, Nat.shiftRight_eq_div_pow]

theorem mask64_eq (i : U64) : mask64 i = mask i.toNat := by
  have hand : (i &&& 63#64).toNat = i.toNat % 64 := by
    rw [BitVec.toNat_and]
    exact Nat.and_two_pow_sub_one_eq_mod i.toNat 6
  rw [mask64, BitVec.shiftLeft_eq', hand, mask]

theorem test_of_word? {b : Bitmap} {i : U64} (h : i.toNat < 64 * b.size) :
    (b.word? i).map (fun word => (word &&& mask64 i) != 0) = some (b.test i.toNat) := by
  rw [word?, toNat_shiftRight_six, if_pos (by omega), Option.map_some, mask64_eq, test]

theorem set_of_modifyWord? {b : Bitmap} {i : U64} (h : i.toNat < 64 * b.size) :
    b.modifyWord? i (· ||| mask64 i) = some (b.set i.toNat) := by
  rw [modifyWord?, toNat_shiftRight_six, if_pos (by omega), mask64_eq, set]

theorem clear_of_modifyWord? {b : Bitmap} {i : U64} (h : i.toNat < 64 * b.size) :
    b.modifyWord? i (· &&& ~~~ mask64 i) = some (b.clear i.toNat) := by
  rw [modifyWord?, toNat_shiftRight_six, if_pos (by omega), mask64_eq, clear]

end Bitmap

end NexusGateway.Lib
