/-
The delivery counters: frames sent, frames the server said it accepted, and
the drift between the two, in all and per point.

A checkpoint adds the server's number to `Accepted` as it came, while
`ApplyAck` counts as drift what is left of the batch after that many frames.
The two agree exactly when the number is between zero and the size of the
batch; only then do the counters balance.
-/

import NexusGateway.StoreForward.Ack
import NexusGateway.Uplink.Forwarder

namespace NexusGateway.Uplink

open Lib
open StoreForward

/-! ## One checkpoint -/

def driftOf (batch : List SentFrame) (accepted : Int64) : Nat :=
  (applyAck batch accepted).2.values.sum

theorem driftOf_eq {batch : List SentFrame} (hne : batch ≠ []) (accepted : Int64) :
    driftOf batch accepted =
      if Int64.ofNat batch.length - accepted ≤ 0 then 0
      else batch.length - accepted.toInt.toNat := by
  obtain ⟨last, hlast⟩ := Option.ne_none_iff_exists'.mp
    (fun hnone => hne (List.getLast?_eq_none_iff.mp hnone))
  simp only [driftOf, applyAck, hlast]
  split
  · rfl
  · rw [sum_foldl_count, List.length_drop]
    exact Nat.zero_add _

theorem foldl_recordDrift (entries : List (Sigma fun _ : String => Nat)) (b : Buffer) :
    let b' := entries.foldl (fun b e => b.recordDrift e.1 e.2) b
    b'.sent = b.sent ∧ b'.accepted = b.accepted ∧
      b'.driftTotal = b.driftTotal + (entries.map Sigma.snd).sum ∧
      b'.drifts.values.sum = b.drifts.values.sum + (entries.map Sigma.snd).sum := by
  induction entries generalizing b with
  | nil => exact ⟨rfl, rfl, rfl, rfl⟩
  | cons e entries ih =>
    obtain ⟨hsent, haccepted, htotal, hdrifts⟩ := ih (b.recordDrift e.1 e.2)
    have hbump : (b.recordDrift e.1 e.2).drifts.values.sum = b.drifts.values.sum + e.2 :=
      Dict.sum_values_insert_add b.drifts e.1 e.2
    have hadd : (b.recordDrift e.1 e.2).driftTotal = b.driftTotal + e.2 := rfl
    rw [hadd] at htotal
    rw [hbump] at hdrifts
    simp only [List.foldl_cons, List.map_cons, List.sum_cons]
    exact ⟨hsent, haccepted, by omega, by omega⟩

theorem recordAck_counters (b : Buffer) (batch : List SentFrame) (accepted : Int64) :
    let b' := State.recordAck b batch accepted
    b'.sent = b.sent + batch.length ∧ b'.accepted = b.accepted + accepted ∧
      b'.driftTotal = b.driftTotal + driftOf batch accepted ∧
      b'.drifts.values.sum = b.drifts.values.sum + driftOf batch accepted :=
  foldl_recordDrift _ _

def InRange (batch : List SentFrame) (accepted : Int64) : Prop :=
  0 ≤ accepted.toInt ∧ accepted.toInt ≤ batch.length

instance (batch : List SentFrame) (accepted : Int64) : Decidable (InRange batch accepted) :=
  inferInstanceAs (Decidable (_ ∧ _))

theorem driftOf_eq_iff {batch : List SentFrame} (hne : batch ≠ []) (hlen : batch.length < 2 ^ 63)
    (accepted : Int64) :
    (driftOf batch accepted : Int) = batch.length - accepted.toInt ↔ InRange batch accepted := by
  have hpos : 0 < batch.length := List.length_pos_iff.mpr hne
  have hlo : -2 ^ 63 ≤ accepted.toInt := Int64.le_toInt accepted
  have hlost := lost_toInt hlen accepted
  rw [driftOf_eq hne, InRange]
  split
  next hle =>
    rw [Int64.le_iff_toInt_le, Int64.toInt_zero] at hle
    omega
  next hgt =>
    rw [Int64.le_iff_toInt_le, Int64.toInt_zero] at hgt
    omega

/-! ## Balance -/

structure Balanced (b : Buffer) : Prop where
  nonneg : 0 ≤ b.accepted.toInt
  le : b.accepted.toInt ≤ b.sent
  difference : (b.sent : Int) - b.accepted.toInt = b.driftTotal
  drifts : b.driftTotal = b.drifts.values.sum

/-- A step from balanced counters keeps the balance exactly if the number is in range. -/
theorem balanced_recordAck_iff {b : Buffer} {batch : List SentFrame} (hb : Balanced b)
    (hne : batch ≠ []) (hsent : b.sent + batch.length < 2 ^ 63) (accepted : Int64) :
    Balanced (State.recordAck b batch accepted) ↔ InRange batch accepted := by
  obtain ⟨hs, ha, ht, hd⟩ := recordAck_counters b batch accepted
  have hlen : batch.length < 2 ^ 63 := by omega
  have hlo : -2 ^ 63 ≤ accepted.toInt := Int64.le_toInt accepted
  have hhi : accepted.toInt < 2 ^ 63 := Int64.toInt_lt accepted
  have hnonneg := hb.nonneg
  have hle := hb.le
  have hdifference := hb.difference
  -- the sum of the accepted numbers is exact, or has wrapped around to below zero
  have hsum : (b.accepted + accepted).toInt =
      if b.accepted.toInt + accepted.toInt < 2 ^ 63 then b.accepted.toInt + accepted.toInt
      else b.accepted.toInt + accepted.toInt - 2 ^ 64 := by
    rw [Int64.toInt_add, Int.bmod_def]
    omega
  rw [← driftOf_eq_iff hne hlen]
  constructor
  · rintro ⟨hn', -, hdifference', -⟩
    rw [ha, hsum] at hn'
    rw [hs, ha, ht, hsum] at hdifference'
    push_cast at hdifference'
    omega
  · intro hdrift
    have hrange := (driftOf_eq_iff hne hlen accepted).mp hdrift
    obtain ⟨hzero, hmax⟩ := hrange
    have hexact : (b.accepted + accepted).toInt = b.accepted.toInt + accepted.toInt := by omega
    constructor
    · rw [ha, hexact]
      omega
    · rw [ha, hexact, hs]
      push_cast
      omega
    · rw [ha, hexact, hs, ht]
      push_cast
      omega
    · rw [ht, hd, hb.drifts]

structure Checkpoint where
  batch : List SentFrame
  nonempty : batch ≠ []
  accepted : Int64

/-- The buffer after a checkpoint that the server answered and whose cursor was
    persisted. -/
def checkpointed (b : Buffer) (c : Checkpoint) : Buffer :=
  (State.recordAck b c.batch c.accepted).advance (applyAck c.batch c.accepted).1

theorem balanced_checkpointed_iff {b : Buffer} (hb : Balanced b) (c : Checkpoint)
    (hsent : b.sent + c.batch.length < 2 ^ 63) :
    Balanced (checkpointed b c) ↔ InRange c.batch c.accepted := by
  rw [← balanced_recordAck_iff hb c.nonempty hsent]
  constructor
  · exact fun h => { h with }
  · exact fun h => { h with }

theorem sent_checkpointed (b : Buffer) (c : Checkpoint) :
    (checkpointed b c).sent = b.sent + c.batch.length :=
  (recordAck_counters b c.batch c.accepted).1

def framesOf (cs : List Checkpoint) : Nat := (cs.map fun c => c.batch.length).sum

/-- For every sequence of checkpoints over non-empty batches from balanced counters, of
    fewer than `2 ^ 63` frames: the counters balance after each of them exactly if every
    number that the server returned is in range. -/
theorem counters_balance_iff {b : Buffer} (hb : Balanced b) (cs : List Checkpoint)
    (hsent : b.sent + framesOf cs < 2 ^ 63) :
    (∀ done, done <+: cs → Balanced (done.foldl checkpointed b)) ↔
      ∀ c ∈ cs, InRange c.batch c.accepted := by
  induction cs generalizing b with
  | nil =>
    simp only [List.prefix_nil, forall_eq, List.not_mem_nil, false_imp_iff, forall_true_iff,
      iff_true]
    exact hb
  | cons c cs ih =>
    have hframes : framesOf (c :: cs) = c.batch.length + framesOf cs := List.sum_cons
    have hstep := balanced_checkpointed_iff hb c (by omega)
    have hrest : Balanced (checkpointed b c) → _ := fun hc =>
      ih hc (by rw [sent_checkpointed]; omega)
    rw [List.forall_mem_cons]
    constructor
    · intro hall
      have hc : Balanced (checkpointed b c) := hall [c] (List.prefix_append [c] cs)
      refine ⟨hstep.mp hc, (hrest hc).mp ?_⟩
      intro done hdone
      exact hall (c :: done) ((List.cons_prefix_cons).mpr ⟨rfl, hdone⟩)
    · rintro ⟨hrange, hranges⟩ done hdone
      have hc := hstep.mpr hrange
      cases done with
      | nil => exact hb
      | cons c' done =>
        obtain ⟨rfl, hrestDone⟩ := List.cons_prefix_cons.mp hdone
        exact (hrest hc).mpr hranges done hrestDone

def freshBuffer : Buffer :=
  { capacity := 1, capacity_pos := Nat.one_pos, frames := .empty, cursorRow := none }

theorem balanced_init (capacity : Nat) (hcap : 0 < capacity) (checkpointSize : Int) :
    Balanced (State.init capacity hcap checkpointSize).buf :=
  ⟨Int.le_refl 0, Int.le_refl 0, rfl, rfl⟩

def oneFrame (accepted : Int64) : Checkpoint :=
  { batch := [⟨1, "p"⟩], nonempty := List.cons_ne_nil _ _, accepted := accepted }

/-- After a refused frame and an accepted one the counters balance. -/
theorem counters_balance_two :
    Balanced ([oneFrame 0, oneFrame 1].foldl checkpointed freshBuffer) := by
  have hrange : ∀ c ∈ [oneFrame 0, oneFrame 1], InRange c.batch c.accepted := by decide
  exact (counters_balance_iff (balanced_init 1 Nat.one_pos 1) [oneFrame 0, oneFrame 1]
    (by decide)).mpr hrange _ (List.prefix_refl _)

/-- A negative number makes `Accepted` negative, and one above the size of the batch makes
    it larger than `Sent`. -/
theorem counters_unbalanced :
    (checkpointed freshBuffer (oneFrame (-1))).accepted.toInt < 0 ∧
      (checkpointed freshBuffer (oneFrame 2)).sent <
        (checkpointed freshBuffer (oneFrame 2)).accepted.toInt := by
  decide

/-! ## Whole runs -/

/-- The server's number in a checkpoint of the running session is in range, and the
    counters do not overflow. -/
def AnswersInRange (u : State) : Action → Prop
  | .sinkCheckpoint (some accepted) => ∀ ses, u.session = some ses → ses.batch ≠ [] ∧
      u.buf.sent + ses.batch.length < 2 ^ 63 ∧ InRange ses.batch accepted
  | _ => True

instance (u : State) : (a : Action) → Decidable (AnswersInRange u a)
  | .sinkCheckpoint (some accepted) =>
    inferInstanceAs (Decidable (∀ ses ∈ u.session, ses.batch ≠ [] ∧
      u.buf.sent + ses.batch.length < 2 ^ 63 ∧ InRange ses.batch accepted))
  | .sinkCheckpoint none | .write .. | .start .. | .cancel | .tick | .wake | .readBatch _
  | .send _ | .advance _ | .restart => inferInstanceAs (Decidable True)

theorem SameCounters.balanced {b b' : Buffer} (h : SameCounters b b') (hb : Balanced b) :
    Balanced b' := by
  constructor <;> grind [Balanced, SameCounters]

theorem step_balanced {u v : State} {a : Action} (hb : Balanced u.buf)
    (hok : AnswersInRange u a) (h : u.step a = some v) : Balanced v.buf := by
  rcases step_counters h with hsame | hreopen | ⟨ses, accepted, hses, rfl, hbuf⟩
  · exact hsame.balanced hb
  · rw [hreopen]
    exact ⟨Int.le_refl 0, Int.le_refl 0, rfl, rfl⟩
  · obtain ⟨hne, hsent, hrange⟩ := hok ses hses
    rw [hbuf]
    exact (balanced_recordAck_iff hb hne hsent accepted).mpr hrange

/-- In every run whose acknowledgements are in range the counters balance, whatever is
    written, sent, failed and restarted in between. -/
theorem run_balanced {u v : State} {as : List Action} (hb : Balanced u.buf)
    (hrun : Run (Meeting State.Steps AnswersInRange) u as v) : Balanced v.buf :=
  hrun.invariant (I := fun u => Balanced u.buf) hb fun _ _ _ hu hstep =>
    step_balanced hu hstep.2 hstep.1

/-- Two frames in a batch, of which the server accepts one; then a third, accepted. -/
def acknowledgeTwo : List Action :=
  [.write sampleFrame true, .write sampleFrame true, .start .run true, .wake, .readBatch true,
    .send true, .send true, .sinkCheckpoint (some 1), .advance true, .write sampleFrame true,
    .readBatch true, .send true, .readBatch true, .tick, .sinkCheckpoint (some 1)]

theorem run_balanced_drift :
    ∃ v, Run (Meeting State.Steps AnswersInRange) (State.init 3 (by decide) 2) acknowledgeTwo v ∧
      v.buf.sent = 3 ∧ v.buf.accepted = 2 ∧ v.buf.driftTotal = 1 ∧ Balanced v.buf := by
  have hrun : Run (Meeting State.Steps AnswersInRange) (State.init 3 (by decide) 2)
      acknowledgeTwo _ := Run.meeting_of_foldlM rfl
  exact ⟨_, hrun, rfl, rfl, rfl, run_balanced (balanced_init ..) hrun⟩

end NexusGateway.Uplink
