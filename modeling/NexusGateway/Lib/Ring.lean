/-
A ring of cells with a write position and a flag that is set when the
position first wraps around.  Read from the write position on, the ring is
the last elements pushed, as many as it has cells.
-/

import NexusGateway.Lib.Bounded

namespace NexusGateway.Lib

variable {α : Type _}

/-- The cells, the position the next push writes, and whether it ever wrapped. -/
structure Ring (α : Type _) where
  cells : List α
  next : Nat
  full : Bool

namespace Ring

def push (r : Ring α) (x : α) : Ring α :=
  let next := (r.next + 1) % r.cells.length
  { cells := r.cells.set r.next x, next := next, full := r.full || next == 0 }

def ordered (r : Ring α) : List α :=
  if r.full then r.cells.drop r.next ++ r.cells.take r.next else r.cells.take r.next

/-- The ring has `cap` cells, and `past` is everything pushed into it. -/
structure Holds (cap : Nat) (r : Ring α) (past : List α) : Prop where
  length : r.cells.length = cap
  next_lt : r.next < cap
  ordered : r.ordered = past.rtake cap
  full_iff : r.full = true ↔ cap ≤ past.length

theorem holds_new (cap : Nat) (hcap : 0 < cap) (x : α) :
    Holds cap { cells := List.replicate cap x, next := 0, full := false } [] where
  length := List.length_replicate
  next_lt := hcap
  ordered := (List.rtake_nil _).symm
  full_iff := by
    simp only [Bool.false_eq_true, List.length_nil, false_iff, Nat.not_le]
    exact hcap

variable {cap : Nat} {r : Ring α} {past : List α}

theorem Holds.length_of_not_full (h : Holds cap r past) (hfull : r.full = false) :
    past.length = r.next := by
  have hshort : ¬ cap ≤ past.length := by
    rw [← h.full_iff, hfull]
    exact Bool.false_ne_true
  have horder := congrArg List.length h.ordered
  rw [Ring.ordered, hfull, if_neg Bool.false_ne_true, length_rtake, List.length_take,
    h.length] at horder
  have hnext := h.next_lt
  omega

theorem cells_set (cells : List α) {i : Nat} (hi : i < cells.length) (x : α) :
    cells.set i x = (cells.take i ++ [x]) ++ cells.drop (i + 1) := by
  rw [List.set_eq_take_append_cons_drop, if_pos hi, List.append_assoc, List.singleton_append]

theorem take_push (cells : List α) {i : Nat} (hi : i < cells.length) (x : α) :
    (cells.set i x).take (i + 1) = cells.take i ++ [x] := by
  have hlength : (cells.take i ++ [x]).length = i + 1 := by
    rw [List.length_append, List.length_take, List.length_singleton]
    omega
  rw [cells_set cells hi, List.take_append_of_le_length (by omega), List.take_of_length_le]
  omega

theorem ordered_push_of_full (hi : r.next < r.cells.length) (hfull : r.full = true) (x : α) :
    (r.push x).ordered = r.ordered.tail ++ [x] := by
  have hold : r.ordered.tail = r.cells.drop (r.next + 1) ++ r.cells.take r.next := by
    rw [Ring.ordered, hfull, if_pos rfl, List.drop_eq_getElem_cons hi, List.cons_append,
      List.tail_cons]
  have hnew : (r.push x).full = true := by
    simp only [push, hfull, Bool.true_or]
  have hbehind : (r.cells.set r.next x).drop (r.next + 1) = r.cells.drop (r.next + 1) :=
    List.drop_set_of_lt (by omega)
  rw [hold, List.append_assoc, ← take_push r.cells hi x, ← hbehind, Ring.ordered, if_pos hnew]
  show (r.cells.set r.next x).drop ((r.next + 1) % r.cells.length)
      ++ (r.cells.set r.next x).take ((r.next + 1) % r.cells.length) = _
  by_cases hwrap : r.next + 1 = r.cells.length
  · have hlength : (r.cells.set r.next x).length = r.next + 1 := by
      rw [List.length_set, hwrap]
    rw [hwrap, Nat.mod_self, ← hwrap, List.drop_zero, List.take_zero, List.append_nil,
      List.drop_of_length_le (by omega), List.take_of_length_le (by omega), List.nil_append]
  · rw [Nat.mod_eq_of_lt (by omega)]

theorem ordered_push_of_not_full (hi : r.next < r.cells.length) (hfull : r.full = false) (x : α) :
    (r.push x).ordered = r.ordered ++ [x] ∧
      ((r.push x).full = true ↔ r.next + 1 = r.cells.length) := by
  have hold : r.ordered = r.cells.take r.next := by
    rw [Ring.ordered, hfull, if_neg Bool.false_ne_true]
  rw [hold, ← take_push r.cells hi x]
  by_cases hwrap : r.next + 1 = r.cells.length
  · have hlength : (r.cells.set r.next x).length = r.next + 1 := by
      rw [List.length_set, hwrap]
    have hnext : (r.push x).next = 0 := by
      show (r.next + 1) % r.cells.length = 0
      rw [hwrap, Nat.mod_self]
    have hnew : (r.push x).full = true := by
      show (r.full || (r.push x).next == 0) = true
      rw [hnext, hfull]
      rfl
    refine ⟨?_, iff_of_true hnew hwrap⟩
    rw [Ring.ordered, if_pos hnew, hnext, List.drop_zero, List.take_zero, List.append_nil,
      List.take_of_length_le (by omega)]
    rfl
  · have hnext : (r.push x).next = r.next + 1 := Nat.mod_eq_of_lt (by omega)
    have hnew : (r.push x).full = false := by
      show (r.full || (r.push x).next == 0) = false
      rw [hnext, hfull]
      rfl
    refine ⟨?_, iff_of_false (by rw [hnew]; exact Bool.false_ne_true) hwrap⟩
    rw [Ring.ordered, if_neg (by rw [hnew]; exact Bool.false_ne_true), hnext]
    rfl

theorem Holds.push (h : Holds cap r past) (x : α) : Holds cap (r.push x) (past ++ [x]) := by
  have hcap : 0 < cap := Nat.lt_of_le_of_lt (Nat.zero_le _) h.next_lt
  have hi : r.next < r.cells.length := h.length.symm ▸ h.next_lt
  have hlength : (r.push x).cells.length = cap := (List.length_set ..).trans h.length
  have hnext : (r.push x).next < cap := by
    show (r.next + 1) % r.cells.length < cap
    rw [h.length]
    exact Nat.mod_lt _ hcap
  have hpast : (past ++ [x]).length = past.length + 1 := by
    rw [List.length_append, List.length_singleton]
  have hbound : (past.rtake cap).length ≤ cap := by
    rw [length_rtake]
    exact Nat.min_le_left _ _
  cases hfull : r.full with
  | true =>
    have hlong := h.full_iff.mp hfull
    have hlast : cap ≤ (past.rtake cap).length := by
      rw [length_rtake]
      omega
    refine ⟨hlength, hnext, ?_, ?_⟩
    · rw [ordered_push_of_full hi hfull, h.ordered, ← pushBounded_rtake,
        pushBounded_of_length_le hcap hbound, if_pos hlast]
    · refine iff_of_true ?_ (by omega)
      simp only [Ring.push, hfull, Bool.true_or]
  | false =>
    have hcount := h.length_of_not_full hfull
    have hroom : ¬ cap ≤ (past.rtake cap).length := by
      have hnextlt := h.next_lt
      rw [length_rtake]
      omega
    obtain ⟨horder, hwrap⟩ := ordered_push_of_not_full hi hfull x
    refine ⟨hlength, hnext, ?_, ?_⟩
    · rw [horder, h.ordered, ← pushBounded_rtake, pushBounded_of_length_le hcap hbound,
        if_neg hroom]
    · have hnextlt := h.next_lt
      rw [hwrap, hpast, h.length, hcount]
      omega

end Ring

end NexusGateway.Lib
