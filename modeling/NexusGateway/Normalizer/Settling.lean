/-
An event never hangs: from every state of the pipeline there is a way to let
it settle, whatever happened before.  Together with `Inv.recovered_iff` this
turns the delivery budget into a statement about the fate of an event under a
failing disk (`event_recovered_iff`).

The rank that decreases counts the deliveries left, the deliveries on their
way and the reply JetStream still waits for.
-/

import NexusGateway.Normalizer.Redelivery

namespace NexusGateway.Normalizer

open Lib
open PointList
open StoreForward

namespace Pipeline

variable {δ : Type} {cfg : Config δ} {consumer : ConsumerConfig} {buf : Buffer}
  {s t : Pipeline δ} {m k : Nat} {msg : StreamMsg δ}

/-! ## Payloads stay -/

def Keeps (m : Nat) (s t : Pipeline δ) : Prop :=
  ∀ msg, s.stream.lookup m = some msg →
    ∃ msg', t.stream.lookup m = some msg' ∧ msg'.data = msg.data

theorem keeps_adjust (m seq : Nat) {f : StreamMsg δ → StreamMsg δ}
    (ht : t.stream = s.stream.adjust seq f) (hf : ∀ msg, (f msg).data = msg.data) :
    Keeps m s t := by
  intro msg hmsg
  rw [ht, Dict.lookup_adjust]
  split
  · exact ⟨f msg, by rw [hmsg, Option.map_some], hf msg⟩
  · exact ⟨msg, hmsg, rfl⟩

theorem keeps_of_step {a : Action δ} (hstep : Steps cfg consumer s a t) : Keeps m s t := by
  have hsame : ∀ {t : Pipeline δ}, t.stream = s.stream → Keeps m s t := by
    intro t heq msg hmsg
    exact ⟨msg, by rw [heq, hmsg], rfl⟩
  revert hstep
  unfold Steps
  fun_cases step with
  | case2 seq data hnew =>
    -- the sequence of a new message is unused
    rintro ⟨⟩ msg hmsg
    exact ⟨msg, by grind [Dict.lookup_insert_ite], rfl⟩
  | case3 | case5 =>
    -- a fetch begins or ends
    rintro ⟨⟩
    exact hsame rfl
  | case7 seq | case15 seq =>
    -- a delivery, or its ack deadline
    rintro ⟨⟩
    exact keeps_adjust m seq rfl fun _ => rfl
  | case11 metadataOk now x rest _ msg =>
    rintro ⟨⟩
    unfold consumeOne
    cases normalize cfg now msg.data with
    | ok frame => exact hsame rfl
    | poison | miss => exact keeps_adjust m x.seq rfl fun _ => rfl
  | case14 writeOk replyArrives fm =>
    rintro ⟨⟩
    cases hfm : fm.msg with
    | none => exact fun msg hmsg => ⟨msg, hmsg, rfl⟩
    | some seq => exact keeps_adjust m seq rfl fun _ => (applyReply_data _ _).1
  | case1 | case4 | case6 | case8 | case9 | case10 | case12 | case13 => rintro ⟨⟩

theorem keeps_of_run {as : List (Action δ)} (hrun : Run (Steps cfg consumer) s as t) :
    Keeps m s t := by
  refine hrun.mono (I := fun _ => True) trivial (fun _ _ _ _ _ => trivial) ?_ ?_ ?_
  · exact fun _ msg hmsg => ⟨msg, hmsg, rfl⟩
  · intro s t u hst htu msg hmsg
    obtain ⟨msg', hmsg', hd'⟩ := hst msg hmsg
    obtain ⟨msg'', hmsg'', hd''⟩ := htu msg' hmsg'
    exact ⟨msg'', hmsg'', hd''.trans hd'⟩
  · exact fun _ _ _ _ hstep => keeps_of_step hstep

/-! ## The rank -/

def due (consumer : ConsumerConfig) (msg : StreamMsg δ) : Nat :=
  4 * (consumer.maxDeliver - msg.numDelivered) + if msg.state = .outstanding then 1 else 0

def rank (consumer : ConsumerConfig) (s : Pipeline δ) (m : Nat) : Nat :=
  ((s.stream.lookup m).elim 0 (due consumer)) + 2 * s.fetched.length + s.frames.length

theorem due_adjust_le (consumer : ConsumerConfig) (stream : Dict Nat (StreamMsg δ)) (seq m : Nat)
    {f : StreamMsg δ → StreamMsg δ} (hf : ∀ msg, due consumer (f msg) ≤ due consumer msg) :
    ((stream.adjust seq f).lookup m).elim 0 (due consumer)
      ≤ (stream.lookup m).elim 0 (due consumer) := by
  cases hlook : stream.lookup m <;> grind [Dict.lookup_adjust]

theorem due_applyReply_le (reply : Option Reply) (msg : StreamMsg δ) :
    due consumer (applyReply reply msg) ≤ due consumer msg := by
  fun_cases applyReply <;> grind [due]

theorem due_terminated_le (msg : StreamMsg δ) :
    due consumer { msg with state := .terminated } ≤ due consumer msg := by
  simp [due]

theorem WritePattern.nil (m k : Nat) : WritePattern m k [] := by
  intro before h after heq
  exact absurd heq.symm (List.append_ne_nil_of_right_ne_nil _ (List.cons_ne_nil _ _))

theorem WritePattern.snoc {log : List Handled} (hpat : WritePattern m k log) {h : Handled}
    (hh : ofMsg m h.delivery.fm → (h.delivery.writeOk = true ↔ k ≤ handled log m)) :
    WritePattern m k (log ++ [h]) := by
  intro before x after heq hof
  rcases snoc_eq_split heq with ⟨-, rfl, rfl⟩ | ⟨after', -, hsplit⟩
  · exact hh hof
  · exact hpat before x after' hsplit hof

/-! ## A move for every unsettled event -/

/-- A continuation that keeps the pattern of write failures and comes closer to
    settling `m`. -/
def Move (cfg : Config δ) (consumer : ConsumerConfig) (m k : Nat) (s : Pipeline δ) : Prop :=
  ∃ as t, Run (Steps cfg consumer) s as t ∧ WritePattern m k t.pump.log ∧
    rank consumer t m < rank consumer s m

theorem move_pump (hpat : WritePattern m k s.pump.log) {fm : FrameMsg} {rest : List FrameMsg}
    (hfr : s.frames = fm :: rest) : Move cfg consumer m k s := by
  let writeOk : Bool := decide (ofMsg m fm → k ≤ handled s.pump.log m)
  obtain ⟨h, hdel, hlog, -⟩ := Pump.exists_handled_step s.pump ⟨fm, writeOk⟩
  refine ⟨[.pump writeOk true], _, Run.single (by rw [Steps, step, hfr]), ?_, ?_⟩
  · rw [hlog]
    refine hpat.snoc fun hof => ?_
    rw [hdel] at hof ⊢
    simp [writeOk, hof]
  · simp only [rank, hfr, List.length_cons]
    cases hmsg : fm.msg with
    | none =>
      simp only
      omega
    | some seq =>
      have hle := due_adjust_le consumer s.stream seq m
        (due_applyReply_le (s.pump.step ⟨fm, writeOk⟩).lastReply)
      simp only [if_true]
      omega

theorem move_consume (hI : Inv cfg consumer buf s) (hpat : WritePattern m k s.pump.log)
    (hfr : s.frames = []) {x : Fetched} {rest : List Fetched} (hx : s.fetched = x :: rest) :
    Move cfg consumer m k s := by
  obtain ⟨msg, hmsg⟩ := Option.isSome_iff_exists.mp
    (hI.fetched x (by rw [hx]; exact List.mem_cons_self ..))
  have hroom : s.frames.length < framesCap := by
    rw [hfr]
    decide
  have hterm := due_adjust_le consumer s.stream x.seq m due_terminated_le
  refine ⟨[.consume true ""], consumeOne cfg s x rest msg true "",
    Run.single (by simp only [Steps, step, hx, hmsg, if_pos hroom]), ?_, ?_⟩
  · unfold consumeOne
    cases normalize cfg "" msg.data <;> exact hpat
  · unfold consumeOne
    cases normalize cfg "" msg.data with
    | ok frame =>
      simp only [rank, hx, List.length_cons, List.length_append, List.length_nil]
      omega
    | poison | miss =>
      simp only [rank, hx, List.length_cons]
      omega

theorem move_expire (hpat : WritePattern m k s.pump.log) (hmsg : s.stream.lookup m = some msg)
    (hout : msg.state = .outstanding) : Move cfg consumer m k s := by
  refine ⟨[.expire m], _, Run.single rfl, hpat, ?_⟩
  simp only [rank, Dict.lookup_adjust, if_true, hmsg, Option.map_some, Option.elim_some, due,
    hout]
  simp

theorem move_deliver (hpat : WritePattern m k s.pump.log) (hmsg : s.stream.lookup m = some msg)
    (hfr : s.frames = []) (hx : s.fetched = []) (hdel : Deliverable consumer msg) :
    Move cfg consumer m k s := by
  have hend : Steps cfg consumer s .endFetch { s with credit := 0 } := rfl
  have hstart : Steps cfg consumer { s with credit := 0 } .startFetch
      { s with credit := fetchBatch } := by
    simp [Steps, step, hx, hfr, framesCap, fetchBatch]
  have hdeliver : Steps cfg consumer { s with credit := fetchBatch } (.deliver m)
      { s with
        credit := fetchBatch - 1
        fetched := s.fetched ++ [⟨m, msg.numDelivered + 1⟩]
        stream := s.stream.adjust m fun m =>
          { m with state := .outstanding, numDelivered := m.numDelivered + 1 } } := by
    simp [Steps, step, hmsg, hdel, fetchBatch]
  have hrun := ((Run.single hend).trans (Run.single hstart)).trans (Run.single hdeliver)
  refine ⟨_, _, hrun, hpat, ?_⟩
  have hleft := hdel.2
  simp only [rank, Dict.lookup_adjust, if_true, hmsg, Option.map_some, Option.elim_some, due, hx,
    hdel.1, List.length_append, List.length_cons, List.length_nil, reduceCtorEq, if_false]
  omega

theorem exists_move (hI : Inv cfg consumer buf s) (hpat : WritePattern m k s.pump.log)
    (hmsg : s.stream.lookup m = some msg) (hnot : ¬ Settled consumer s m) :
    Move cfg consumer m k s := by
  cases hfr : s.frames with
  | cons fm rest => exact move_pump hpat hfr
  | nil =>
    cases hx : s.fetched with
    | cons x rest => exact move_consume hI hpat hfr hx
    | nil =>
      by_cases hout : msg.state = .outstanding
      · exact move_expire hpat hmsg hout
      · by_cases hdel : Deliverable consumer msg
        · exact move_deliver hpat hmsg hfr hx hdel
        · exact absurd ⟨msg, hmsg, hout, hdel, by simp [hfr], by simp [hx]⟩ hnot

/-- From every state of the pipeline the event can settle, the write failures
    keeping to their pattern. -/
theorem exists_settled (hI : Inv cfg consumer buf s) (hpat : WritePattern m k s.pump.log)
    (hmsg : s.stream.lookup m = some msg) :
    ∃ as t, Run (Steps cfg consumer) s as t ∧ WritePattern m k t.pump.log ∧
      Settled consumer t m := by
  -- by induction on the rank: an unsettled event has a move
  induction hr : rank consumer s m using Nat.strongRecOn generalizing s msg with
  | ind r ih =>
    by_cases hset : Settled consumer s m
    · exact ⟨[], s, .nil s, hpat, hset⟩
    · obtain ⟨as, u, hrun, hpat', hlt⟩ := exists_move hI hpat hmsg hset
      have hI' : Inv cfg consumer buf u :=
        hrun.invariant hI fun _ _ _ hI hstep => hI.step hstep
      obtain ⟨msg', hmsg', -⟩ := keeps_of_run (m := m) hrun msg hmsg
      obtain ⟨bs, t, hrun', hrest⟩ := ih _ (hr ▸ hlt) hI' hpat' hmsg' rfl
      exact ⟨as ++ bs, t, hrun.trans hrun', hrest⟩

/-! ## The fate of an event -/

/-- An accepted event with writes failing on its first `k` deliveries can always
    settle, and it reaches the Buffer in every way it can settle exactly when
    `k` is less than 3, the `MaxDeliver` of the consumer. -/
theorem event_recovered_iff {as : List (Action δ)}
    (hrun : Run (Steps cfg normalizerConsumer) (init buf) as s)
    (hmsg : s.stream.lookup m = some msg) (hacc : Accepted cfg msg.data)
    (hpat : WritePattern m k s.pump.log) :
    (∃ bs t, Run (Steps cfg normalizerConsumer) s bs t ∧ WritePattern m k t.pump.log ∧
      Settled normalizerConsumer t m) ∧
    ((∀ bs t, Run (Steps cfg normalizerConsumer) s bs t → WritePattern m k t.pump.log →
      Settled normalizerConsumer t m → Recovered cfg msg.data m k t.pump.log) ↔ k < 3) := by
  have hfate : ∀ bs t, Run (Steps cfg normalizerConsumer) s bs t → WritePattern m k t.pump.log →
      Settled normalizerConsumer t m → (Recovered cfg msg.data m k t.pump.log ↔ k < 3) := by
    intro bs t hrun' hpat' hset
    obtain ⟨msg', hmsg', hdata⟩ := keeps_of_run hrun' msg hmsg
    have hiff := (inv_of_run (hrun.trans hrun')).recovered_iff hmsg' (hdata ▸ hacc) hpat' hset
    rwa [hdata] at hiff
  have hexists := exists_settled (inv_of_run hrun) hpat hmsg
  refine ⟨hexists, fun h => ?_, fun hk bs t hrun' hpat' hset => ?_⟩
  · obtain ⟨bs, t, hrun', hpat', hset⟩ := hexists
    exact (hfate bs t hrun' hpat' hset).mp (h bs t hrun' hpat' hset)
  · exact (hfate bs t hrun' hpat' hset).mpr hk

def sampleConfig : Config Event :=
  { unmarshal := some
    resolver := SyncedResolver.new.update [{ connectorID := "c", localID := "l", pointID := "p" }]
    gatewayID := "gw" }

def sampleEvent : Event :=
  { protocol := "mqtt", connectorID := "c", localID := "l", deviceRef := "d"
    value := some (.valueBool true), unit := "", quality := "Good", timestamp := "t"
    attributes := ∅ }

theorem normalize_sample (now : String) :
    normalize sampleConfig now sampleEvent
      = .ok ⟨"gw", "p", some (.valueBool true), "t", ∅⟩ := by
  simp only [normalize, sampleConfig, sampleEvent]
  rfl

def sampleBuffer : Buffer :=
  { capacity := 8, capacity_pos := by decide, frames := .empty, cursorRow := none }

/-- Three deliveries of the event, each met by a failed write: it is NAK'd three
    times, never delivered again and never written. -/
theorem not_recovered_three_failures :
    ∃ s, Run (Steps sampleConfig normalizerConsumer) (init sampleBuffer)
      [.publish 1 sampleEvent, .startFetch,
        .deliver 1, .consume true "now", .pump false true,
        .deliver 1, .consume true "now", .pump false true,
        .deliver 1, .consume true "now", .pump false true] s ∧
      WritePattern 1 3 s.pump.log ∧ Settled normalizerConsumer s 1 ∧
      ¬ Recovered sampleConfig sampleEvent 1 3 s.pump.log := by
  suffices h : ∃ s, List.foldlM (step sampleConfig normalizerConsumer) (init sampleBuffer)
      [.publish 1 sampleEvent, .startFetch,
        .deliver 1, .consume true "now", .pump false true,
        .deliver 1, .consume true "now", .pump false true,
        .deliver 1, .consume true "now", .pump false true] = some s ∧
      WritePattern 1 3 s.pump.log ∧ Settled normalizerConsumer s 1 ∧
      ¬ Recovered sampleConfig sampleEvent 1 3 s.pump.log by
    obtain ⟨s, hfold, hs⟩ := h
    exact ⟨s, Run.of_foldlM hfold, hs⟩
  have hlookup : ∀ v : StreamMsg Event,
      AList.lookup 1 (AList.singleton 1 v : Dict Nat (StreamMsg Event)) = some v := fun _ => rfl
  simp [step, init, Pump.start, Pump.step, Dict.adjust, Deliverable, normalizerConsumer,
    consumeOne, normalize_sample, Pump.lastReply, applyReply, framesCap, fetchBatch, hlookup]
  refine ⟨?_, ?_, ?_⟩
  · -- the writes fail on all three deliveries
    refine (((WritePattern.nil 1 3).snoc ?_).snoc ?_).snoc ?_ <;> simp [handled, ofMsg]
  · exact ⟨_, rfl, by decide, by decide, by simp, by simp⟩
  · rintro ⟨before, h, after, heq, -, -, hwritten, -⟩
    have hmem : h ∈ before ++ h :: after := by simp
    rw [← heq] at hmem
    simp only [List.mem_cons, List.not_mem_nil, or_false] at hmem
    rcases hmem with rfl | rfl | rfl <;> cases hwritten

/-- One failed write: every way the event can settle writes it. -/
theorem recovered_one_failure :
    ∃ s, Run (Steps sampleConfig normalizerConsumer) (init sampleBuffer)
        [.publish 1 sampleEvent] s ∧
      ∃ bs t, Run (Steps sampleConfig normalizerConsumer) s bs t ∧
        Settled normalizerConsumer t 1 ∧ Recovered sampleConfig sampleEvent 1 1 t.pump.log := by
  have hrun : Run (Steps sampleConfig normalizerConsumer) (init sampleBuffer)
      [.publish 1 sampleEvent] _ := Run.of_foldlM rfl
  have hacc : Accepted sampleConfig sampleEvent := fun now => by
    rw [normalize_sample]
    trivial
  obtain ⟨⟨bs, t, hrun', hpat, hset⟩, hiff⟩ :=
    event_recovered_iff hrun (AList.lookup_insert _) hacc (WritePattern.nil 1 1)
  exact ⟨_, hrun, bs, t, hrun', hset, hiff.mpr (by decide) bs t hrun' hpat hset⟩

end Pipeline

end NexusGateway.Normalizer
