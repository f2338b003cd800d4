/-
`internal/storeforward/ack.go`: which frames of a batch `ApplyAck` counts as
drift, and for which points.

The number of lost frames is a difference in `int64`, taken before the
server's number is clamped.  A number more than `2^63 - 1` below the size of
the batch wraps the difference around to a negative one, and the batch counts
as accepted; everywhere else the drift is the tail behind the clamped number.
-/

import NexusGateway.StoreForward.Buffer
import Mathlib.Algebra.Ring.Int.Defs

namespace NexusGateway.StoreForward

open Lib

/-! ## Slices -/

/-- `xs[start:]`; `none` is the panic of a bound out of range. -/
def sliceFrom {α : Type} (xs : List α) (start : Int) : Option (List α) :=
  if 0 ≤ start ∧ start ≤ xs.length then some (xs.drop start.toNat) else none

/-- `ApplyAck` with its index and slice bounds checked. -/
def applyAckChecked (batch : List SentFrame) (accepted : Int64) :
    Option (Nat × Dict String Nat) :=
  if batch.length = 0 then some (0, ∅)
  else do
    let last ← batch[batch.length - 1]?
    let lost := Int64.ofNat batch.length - accepted
    if lost ≤ 0 then some (last.seq, ∅)
    else
      let start := if accepted.toInt < 0 then 0 else accepted.toInt
      let rest ← sliceFrom batch start
      some (last.seq, rest.foldl
        (fun drifts sf => drifts.insert sf.pointID ((drifts.lookup sf.pointID).getD 0 + 1)) ∅)

/-! ## The number of lost frames -/

theorem lost_toInt {n : Nat} (hn : n < 2 ^ 63) (accepted : Int64) :
    (Int64.ofNat n - accepted).toInt =
      if (n : Int) - accepted.toInt < 2 ^ 63 then n - accepted.toInt
      else n - accepted.toInt - 2 ^ 64 := by
  have hlo : -2 ^ 63 ≤ accepted.toInt := Int64.le_toInt accepted
  have hhi : accepted.toInt < 2 ^ 63 := Int64.toInt_lt accepted
  rw [Int64.toInt_sub, Int64.toInt_ofNat_of_lt hn, Int.bmod_def]
  omega

theorem lost_nonpos_iff {n : Nat} (hn : n < 2 ^ 63) (accepted : Int64) :
    Int64.ofNat n - accepted ≤ 0 ↔ n ≤ accepted.toInt ∨ 2 ^ 63 ≤ (n : Int) - accepted.toInt := by
  have hlo : -2 ^ 63 ≤ accepted.toInt := Int64.le_toInt accepted
  have hhi : accepted.toInt < 2 ^ 63 := Int64.toInt_lt accepted
  rw [Int64.le_iff_toInt_le, Int64.toInt_zero, lost_toInt hn]
  omega

/-! ## Counting -/

theorem lookup_foldl_count (frames : List SentFrame) (d : Dict String Nat) (p : String) :
    ((frames.foldl (fun drifts sf =>
      drifts.insert sf.pointID ((drifts.lookup sf.pointID).getD 0 + 1)) d).lookup p).getD 0 =
      (d.lookup p).getD 0 + frames.countP fun sf => sf.pointID = p := by
  induction frames generalizing d with
  | nil => rfl
  | cons sf frames ih =>
    rw [List.foldl_cons, ih, Dict.lookup_insert_ite, List.countP_cons]
    by_cases hp : p = sf.pointID
    · subst hp
      simp only [if_true, Option.getD_some, decide_true]
      omega
    · have hne : ¬ sf.pointID = p := fun heq => hp heq.symm
      simp [hp, hne]

theorem sum_foldl_count (frames : List SentFrame) (d : Dict String Nat) :
    (frames.foldl (fun drifts sf =>
      drifts.insert sf.pointID ((drifts.lookup sf.pointID).getD 0 + 1)) d).values.sum =
      d.values.sum + frames.length := by
  induction frames generalizing d with
  | nil => rfl
  | cons sf frames ih =>
    rw [List.foldl_cons, ih, Dict.sum_values_insert_add, List.length_cons]
    omega

/-! ## The unaccepted tail -/

def clamped (batch : List SentFrame) (accepted : Int64) : Nat :=
  (min accepted.toInt batch.length).toNat

/-- The drift of every point is its share of the frames behind the clamped number. -/
structure AttributesTail (batch : List SentFrame) (accepted : Int64) : Prop where
  drifts : ∀ p, ((applyAck batch accepted).2.lookup p).getD 0 =
    (batch.drop (clamped batch accepted)).countP fun sf => sf.pointID = p
  total : (applyAck batch accepted).2.values.sum = batch.length - clamped batch accepted

section Batch

variable {batch : List SentFrame} {accepted : Int64}

theorem applyAck_drifts (hne : batch ≠ []) (accepted : Int64) :
    (applyAck batch accepted).2 = if Int64.ofNat batch.length - accepted ≤ 0 then ∅
      else (batch.drop accepted.toInt.toNat).foldl (fun drifts sf =>
        drifts.insert sf.pointID ((drifts.lookup sf.pointID).getD 0 + 1)) ∅ := by
  rw [applyAck, List.getLast?_eq_some_getLast hne]
  show (if Int64.ofNat batch.length - accepted ≤ 0 then _ else _ : Nat × Dict String Nat).2 = _
  split
  · rfl
  · rfl

theorem applyAckChecked_eq (hlen : batch.length < 2 ^ 63) (accepted : Int64) :
    applyAckChecked batch accepted = some (applyAck batch accepted) := by
  rw [applyAckChecked, applyAck, List.getLast?_eq_getElem?]
  cases batch with
  | nil => rfl
  | cons sf batch =>
    have hlast : (sf :: batch)[(sf :: batch).length - 1]? =
        some ((sf :: batch).getLast (by simp)) := by
      rw [← List.getLast?_eq_getElem?, List.getLast?_eq_some_getLast]
    rw [if_neg (by simp), hlast]
    simp only [Option.bind_eq_bind, Option.bind_some]
    split
    · rfl
    next hlost =>
      rw [lost_nonpos_iff hlen] at hlost
      have hstart : (if accepted.toInt < 0 then (0 : Int) else accepted.toInt).toNat =
          accepted.toInt.toNat := by split <;> omega
      rw [sliceFrom, if_pos (by split <;> omega), hstart]
      rfl

theorem attributesTail_iff (hne : batch ≠ []) (hlen : batch.length < 2 ^ 63) :
    AttributesTail batch accepted ↔ (batch.length : Int) - accepted.toInt < 2 ^ 63 := by
  have hpos : 0 < batch.length := List.length_pos_iff.mpr hne
  have hdrifts := applyAck_drifts hne accepted
  constructor
  · intro h
    by_contra hwrap
    -- a negative number is clamped to zero, so that the whole batch should be drift
    have hzero : clamped batch accepted = 0 := by
      rw [clamped]
      omega
    have htotal := h.total
    rw [hdrifts, if_pos ((lost_nonpos_iff hlen accepted).mpr (by omega)), hzero] at htotal
    have hempty : (∅ : Dict String Nat).values.sum = 0 := rfl
    omega
  · intro hwrap
    by_cases hall : (batch.length : Int) ≤ accepted.toInt
    · have hclamped : clamped batch accepted = batch.length := by
        rw [clamped]
        omega
      rw [if_pos ((lost_nonpos_iff hlen accepted).mpr (Or.inl hall))] at hdrifts
      constructor
      · intro p
        rw [hdrifts, hclamped, List.drop_length]
        rfl
      · rw [hdrifts, hclamped, Nat.sub_self]
        rfl
    · have hclamped : clamped batch accepted = accepted.toInt.toNat := by
        rw [clamped]
        omega
      have hlost : ¬ Int64.ofNat batch.length - accepted ≤ 0 := by
        rw [lost_nonpos_iff hlen]
        omega
      rw [if_neg hlost] at hdrifts
      constructor
      · intro p
        rw [hdrifts, hclamped, lookup_foldl_count]
        exact Nat.zero_add _
      · rw [hdrifts, hclamped, sum_foldl_count, List.length_drop]
        exact Nat.zero_add _

end Batch

/-- For every non-empty batch and every `int64`: `ApplyAck` stays inside the batch and moves
    the cursor to its last frame; and it counts exactly the frames behind the clamped number
    as drift of their points if, and only if, the size of the batch less the number is still
    an `int64`. -/
theorem applyAck_attributes_iff {batch : List SentFrame} (hne : batch ≠ [])
    (hlen : batch.length < 2 ^ 63) (accepted : Int64) :
    applyAckChecked batch accepted = some (applyAck batch accepted) ∧
    (applyAck batch accepted).1 = (batch.getLast hne).seq ∧
    (AttributesTail batch accepted ↔ (batch.length : Int) - accepted.toInt < 2 ^ 63) := by
  refine ⟨applyAckChecked_eq hlen accepted, ?_, attributesTail_iff hne hlen⟩
  rw [applyAck_fst, List.getLast?_eq_some_getLast hne]
  rfl

/-- Two of three frames were accepted: the third is the drift of its point. -/
theorem applyAck_attributes_two :
    AttributesTail [⟨4, "p"⟩, ⟨5, "q"⟩, ⟨6, "p"⟩] 2 ∧
      ((applyAck [⟨4, "p"⟩, ⟨5, "q"⟩, ⟨6, "p"⟩] 2).2.lookup "p").getD 0 = 1 := by
  have hne : ([⟨4, "p"⟩, ⟨5, "q"⟩, ⟨6, "p"⟩] : List SentFrame) ≠ [] := by simp
  obtain ⟨-, -, hiff⟩ := applyAck_attributes_iff hne (by decide) 2
  have htail := hiff.mpr (by decide)
  exact ⟨htail, htail.drifts "p"⟩

/-- The least `int64`: the batch of one frame has no drift. -/
theorem applyAck_min_no_drift :
    ¬ AttributesTail [⟨4, "p"⟩] Int64.minValue ∧
      (applyAck [⟨4, "p"⟩] Int64.minValue).2.lookup "p" = none := by
  have hlookup : (applyAck [⟨4, "p"⟩] Int64.minValue).2.lookup "p" = none := by decide
  refine ⟨fun h => ?_, hlookup⟩
  have hdrift := h.drifts "p"
  rw [hlookup] at hdrift
  revert hdrift
  decide

end NexusGateway.StoreForward
