/-
A list that keeps at most `cap` elements: pushing at the end drops from the
front what no longer fits.  The list stays a suffix of everything ever
pushed — the last `cap` of it, if it started empty — and what a push drops
can be counted without looking at it whenever the counted elements stand in
front of the others.
-/

import Mathlib.Data.List.Basic
import Mathlib.Data.List.DropRight

namespace NexusGateway.Lib

variable {α : Type _}

def pushBounded (cap : Nat) (l : List α) (x : α) : List α :=
  (l ++ [x]).drop (l.length + 1 - cap)

theorem length_pushBounded (cap : Nat) (l : List α) (x : α) :
    (pushBounded cap l x).length = min cap (l.length + 1) := by
  rw [pushBounded, List.length_drop, List.length_append, List.length_singleton]
  omega

theorem pushBounded_suffix {l past : List α} (h : l <:+ past) (cap : Nat) (x : α) :
    pushBounded cap l x <:+ past ++ [x] := by
  have happend : l ++ [x] <:+ past ++ [x] := by
    obtain ⟨old, rfl⟩ := h
    exact ⟨old, (List.append_assoc old l [x]).symm⟩
  exact (List.drop_suffix _ _).trans happend

theorem pushBounded_rtake (cap : Nat) (past : List α) (x : α) :
    pushBounded cap (past.rtake cap) x = (past ++ [x]).rtake cap := by
  have hsplit : past.rtake cap ++ [x] = (past ++ [x]).drop (past.length - cap) := by
    rw [List.rtake, List.drop_append_of_le_length (by omega)]
  have hlength : (past.rtake cap).length = past.length - (past.length - cap) :=
    List.length_drop
  rw [pushBounded, hsplit, List.drop_drop, hlength, List.rtake, List.length_append,
    List.length_singleton]
  congr 1
  omega

theorem length_rtake (cap : Nat) (l : List α) : (l.rtake cap).length = min cap l.length := by
  rw [List.rtake, List.length_drop]
  omega

theorem pushBounded_of_length_le {cap : Nat} {l : List α} (hcap : 0 < cap) (hl : l.length ≤ cap)
    (x : α) : pushBounded cap l x = (if cap ≤ l.length then l.tail else l) ++ [x] := by
  unfold pushBounded
  split
  · next hfull =>
    have hone : l.length + 1 - cap = 1 := by omega
    rw [hone, List.drop_append_of_le_length (by omega), List.drop_one]
  · next hroom =>
    have hzero : l.length + 1 - cap = 0 := by omega
    rw [hzero, List.drop_zero]

theorem countP_take_of_front {p : α → Bool} {l : List α}
    (hfront : l.Pairwise fun a b => p b = true → p a = true) (k : Nat) :
    (l.take k).countP p = min k (l.countP p) := by
  induction l generalizing k with
  | nil => simp
  | cons a l ih =>
    obtain ⟨hhead, htail⟩ := List.pairwise_cons.mp hfront
    cases k with
    | zero => simp
    | succ k =>
      rw [List.take_succ_cons, List.countP_cons, List.countP_cons, ih htail]
      by_cases ha : p a = true
      · rw [if_pos ha]
        omega
      · -- the first element does not satisfy it, so none does
        have hnone : l.countP p = 0 := by
          rw [List.countP_eq_zero]
          exact fun b hb hpb => ha (hhead b hb hpb)
        rw [if_neg ha, hnone]
        omega

end NexusGateway.Lib
