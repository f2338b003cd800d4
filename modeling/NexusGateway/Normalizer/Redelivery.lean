/-
The main pipeline from the EVENTS stream to the Buffer:
`internal/normalizer/normalizer.go` (the durable consumer and the consume
loop) feeding `internal/storeforward/pump.go`.

JetStream redelivers a message that was NAK'd or whose ack deadline passed
while it has been delivered fewer than `MaxDeliver` times, and never after.
The Pump NAKs a delivery whose durable write failed.  Put together, an event
survives a failing disk for as many deliveries as the consumer's budget
allows: with writes failing on the first `k` deliveries and succeeding
afterwards it reaches the Buffer exactly when `k` is below `MaxDeliver`.
-/

import NexusGateway.Normalizer.Normalize
import NexusGateway.StoreForward.Pump

namespace NexusGateway.Normalizer

open Lib
open StoreForward

/-! ## The consumer and the pipeline -/

/-- What of `jetstream.ConsumerConfig` decides whether a message is delivered again. -/
structure ConsumerConfig where
  maxDeliver : Nat

/-- The consumer `New` creates on the EVENTS stream. -/
def normalizerConsumer : ConsumerConfig :=
  { maxDeliver := 3 }

def fetchBatch : Nat := 32

def framesCap : Nat := 256

inductive AckState where
  | queued
  | outstanding
  | acked
  | terminated
deriving DecidableEq, Repr

structure StreamMsg (δ : Type) where
  data : δ
  state : AckState
  numDelivered : Nat

structure Metrics where
  redelivered : Nat := 0
  invalid : Nat := 0
  unresolved : Nat := 0

/-- A message of the running fetch: its stream sequence and delivery count. -/
structure Fetched where
  seq : Nat
  numDelivered : Nat

/-- The stream with its consumer, the fetch in progress (how many more messages
    it may yield, and those yielded but not consumed), the hand-off channel and
    the Pump. -/
structure Pipeline (δ : Type) where
  stream : Dict Nat (StreamMsg δ)
  credit : Nat
  fetched : List Fetched
  frames : List FrameMsg
  pump : Pump
  metrics : Metrics

inductive Action (δ : Type) where
  | publish (seq : Nat) (data : δ)
  /-- the consume loop calls `Fetch` with the room the channel has -/
  | startFetch
  | endFetch
  | deliver (seq : Nat)
  /-- the consume loop takes the next message; its metadata may be missing -/
  | consume (metadataOk : Bool) (now : String)
  /-- the Pump takes the next frame; the durable write may fail, and the reply to
      JetStream may get lost -/
  | pump (writeOk replyArrives : Bool)
  /-- the ack deadline of a message passes -/
  | expire (seq : Nat)

namespace Pipeline

variable {δ : Type}

def init (buf : Buffer) : Pipeline δ :=
  { stream := ∅, credit := 0, fetched := [], frames := [], pump := .start buf, metrics := {} }

/-- The consumer sees a reply: an ack settles the message, a NAK puts an
    outstanding one back. -/
def applyReply (reply : Option Reply) (msg : StreamMsg δ) : StreamMsg δ :=
  match reply with
  | some .ack => { msg with state := if msg.state = .terminated then .terminated else .acked }
  | some (.nakWithDelay _) =>
    { msg with state := if msg.state = .outstanding then .queued else msg.state }
  | none => msg

def Deliverable (consumer : ConsumerConfig) (msg : StreamMsg δ) : Prop :=
  msg.state = .queued ∧ msg.numDelivered < consumer.maxDeliver

instance (consumer : ConsumerConfig) (msg : StreamMsg δ) : Decidable (Deliverable consumer msg) :=
  inferInstanceAs (Decidable (_ ∧ _))

/-- One body of the consume loop, for the message `x` and the stream message
    behind it. -/
def consumeOne (cfg : Config δ) (s : Pipeline δ) (x : Fetched) (rest : List Fetched)
    (msg : StreamMsg δ) (metadataOk : Bool) (now : String) : Pipeline δ :=
  let metrics := if metadataOk ∧ x.numDelivered > 1
    then { s.metrics with redelivered := s.metrics.redelivered + 1 } else s.metrics
  let term := s.stream.adjust x.seq fun m => { m with state := .terminated }
  match normalize cfg now msg.data with
  | .poison =>
    { s with stream := term, fetched := rest,
             metrics := { metrics with invalid := metrics.invalid + 1 } }
  | .miss =>
    { s with stream := term, fetched := rest,
             metrics := { metrics with unresolved := metrics.unresolved + 1 } }
  | .ok frame =>
    { s with fetched := rest, metrics := metrics
             frames := s.frames ++
               [{ frame := frame, msg := some x.seq, seq := if metadataOk then x.seq else 0 }] }

def step (cfg : Config δ) (consumer : ConsumerConfig) (s : Pipeline δ) :
    Action δ → Option (Pipeline δ)
  | .publish seq data =>
    if (s.stream.lookup seq).isSome then none
    else some { s with stream := s.stream.insert seq ⟨data, .queued, 0⟩ }
  | .startFetch =>
    if s.fetched.isEmpty ∧ s.credit = 0 ∧ s.frames.length < framesCap then
      some { s with credit := min fetchBatch (framesCap - s.frames.length) }
    else none
  | .endFetch => some { s with credit := 0 }
  | .deliver seq =>
    match s.stream.lookup seq with
    | none => none
    | some msg =>
      if Deliverable consumer msg ∧ 0 < s.credit then
        some { s with
          credit := s.credit - 1
          fetched := s.fetched ++ [⟨seq, msg.numDelivered + 1⟩]
          stream := s.stream.adjust seq fun m =>
            { m with state := .outstanding, numDelivered := m.numDelivered + 1 } }
      else none
  | .consume metadataOk now =>
    match s.fetched with
    | [] => none
    | x :: rest =>
      match s.stream.lookup x.seq with
      | none => none
      | some msg =>
        if s.frames.length < framesCap then
          some (consumeOne cfg s x rest msg metadataOk now)
        else none
  | .pump writeOk replyArrives =>
    match s.frames with
    | [] => none
    | fm :: rest =>
      let pump := s.pump.step ⟨fm, writeOk⟩
      some { s with
        frames := rest
        pump := pump
        stream := match fm.msg with
          | some seq => s.stream.adjust seq
              (applyReply (if replyArrives then pump.lastReply else none))
          | none => s.stream }
  | .expire seq =>
    some { s with stream := s.stream.adjust seq fun m =>
      { m with state := if m.state = .outstanding then .queued else m.state } }

/-! ## Where the deliveries of a message are -/

def ofMsg (m : Nat) (fm : FrameMsg) : Bool := fm.msg = some m

def handled (log : List Handled) (m : Nat) : Nat := log.countP fun h => ofMsg m h.delivery.fm

def copies (s : Pipeline δ) (m : Nat) : Nat :=
  handled s.pump.log m + s.frames.countP (ofMsg m) + s.fetched.countP fun x => x.seq = m

def Written (log : List Handled) (m : Nat) : Prop :=
  ∃ h ∈ log, ofMsg m h.delivery.fm ∧ h.disposition = .written

/-- The frame in hand carries its message, that message's sequence (or 0 without
    metadata) and what the message's payload normalizes to. -/
def FromStream (cfg : Config δ) (stream : Dict Nat (StreamMsg δ)) (fm : FrameMsg) : Prop :=
  ∃ m msg, fm.msg = some m ∧ (fm.seq = 0 ∨ fm.seq = m) ∧ stream.lookup m = some msg ∧
    ∃ now, normalize cfg now msg.data = .ok fm.frame

def Accepted (cfg : Config δ) (data : δ) : Prop := ∀ now, (normalize cfg now data).IsOk

structure MsgInv (consumer : ConsumerConfig) (s : Pipeline δ) (m : Nat) (msg : StreamMsg δ) :
    Prop where
  copies_eq : msg.numDelivered = s.copies m
  le_max : msg.numDelivered ≤ consumer.maxDeliver
  written_of_acked : msg.state = .acked → Written s.pump.log m
  not_terminated : msg.state ≠ .terminated

structure Inv (cfg : Config δ) (consumer : ConsumerConfig) (buf : Buffer) (s : Pipeline δ) :
    Prop where
  pump : ∃ ds, s.pump = (Pump.start buf).run ds
  frames : ∀ fm ∈ s.frames, FromStream cfg s.stream fm
  log : ∀ h ∈ s.pump.log, FromStream cfg s.stream h.delivery.fm
  fetched : ∀ x ∈ s.fetched, (s.stream.lookup x.seq).isSome
  msgs : ∀ m msg, s.stream.lookup m = some msg → Accepted cfg msg.data →
    MsgInv consumer s m msg

theorem inv_init (cfg : Config δ) (consumer : ConsumerConfig) (buf : Buffer) :
    Inv cfg consumer buf (init buf) where
  pump := ⟨[], rfl⟩
  frames := by simp [init]
  log := by simp [init, Pump.start]
  fetched := by simp [init]
  msgs := by simp [init]

/-! ## One step -/

section Step

variable {cfg : Config δ} {consumer : ConsumerConfig} {buf : Buffer} {s t : Pipeline δ}

theorem FromStream.adjust {stream : Dict Nat (StreamMsg δ)} {fm : FrameMsg}
    (h : FromStream cfg stream fm) (seq : Nat) {f : StreamMsg δ → StreamMsg δ}
    (hf : ∀ msg, (f msg).data = msg.data) : FromStream cfg (stream.adjust seq f) fm := by
  obtain ⟨m, msg, hmsg, hseq, hlook, now, hnow⟩ := h
  refine ⟨m, if m = seq then f msg else msg, hmsg, hseq, ?_, now, ?_⟩ <;>
    grind [Dict.lookup_adjust]

theorem FromStream.insert {stream : Dict Nat (StreamMsg δ)} {fm : FrameMsg}
    (h : FromStream cfg stream fm) {seq : Nat} (hnew : stream.lookup seq = none)
    (msg : StreamMsg δ) : FromStream cfg (stream.insert seq msg) fm := by
  obtain ⟨m, msg', hmsg, hseq, hlook, hnow⟩ := h
  exact ⟨m, msg', hmsg, hseq, by grind [Dict.lookup_insert_ite], hnow⟩

theorem Inv.copies_eq_zero (hI : Inv cfg consumer buf s) {m : Nat}
    (hm : s.stream.lookup m = none) : s.copies m = 0 := by
  have hfrom : ∀ fm, FromStream cfg s.stream fm → ¬ ofMsg m fm := by
    grind [FromStream, ofMsg]
  have hlog : handled s.pump.log m = 0 :=
    List.countP_eq_zero.mpr fun h hh => hfrom _ (hI.log h hh)
  have hframes : s.frames.countP (ofMsg m) = 0 :=
    List.countP_eq_zero.mpr fun fm hfm => hfrom fm (hI.frames fm hfm)
  have hfetched : (s.fetched.countP fun x => x.seq = m) = 0 := by
    have hsome := hI.fetched
    grind [List.countP_eq_zero]
  rw [copies, hlog, hframes, hfetched]

theorem lookup_adjust_some {stream : Dict Nat (StreamMsg δ)} {seq m : Nat}
    {f : StreamMsg δ → StreamMsg δ} {msg : StreamMsg δ}
    (h : (stream.adjust seq f).lookup m = some msg) :
    ∃ msg₀, stream.lookup m = some msg₀ ∧ msg = if m = seq then f msg₀ else msg₀ := by
  cases hlook : stream.lookup m <;> grind [Dict.lookup_adjust]

theorem isSome_lookup_adjust {stream : Dict Nat (StreamMsg δ)} {m : Nat}
    (h : (stream.lookup m).isSome) (seq : Nat) (f : StreamMsg δ → StreamMsg δ) :
    ((stream.adjust seq f).lookup m).isSome := by
  grind [Dict.lookup_adjust]

theorem Inv.withCredit (hI : Inv cfg consumer buf s) (credit : Nat) :
    Inv cfg consumer buf { s with credit := credit } :=
  { hI with msgs := fun m msg hmsg hacc => { hI.msgs m msg hmsg hacc with } }

theorem Inv.publish (hI : Inv cfg consumer buf s) {seq : Nat} {data : δ}
    (hnew : s.stream.lookup seq = none) :
    Inv cfg consumer buf { s with stream := s.stream.insert seq ⟨data, .queued, 0⟩ } where
  pump := hI.pump
  frames fm hfm := (hI.frames fm hfm).insert hnew _
  log h hh := (hI.log h hh).insert hnew _
  fetched x hx := by grind [hI.fetched x hx, Dict.lookup_insert_ite]
  msgs m msg hmsg hacc := by
    have hzero : s.copies seq = 0 := hI.copies_eq_zero hnew
    have hM := hI.msgs m msg
    constructor <;> grind [Dict.lookup_insert_ite, MsgInv, copies]

theorem Inv.deliver (hI : Inv cfg consumer buf s) {seq : Nat} {msg : StreamMsg δ}
    (hlook : s.stream.lookup seq = some msg) (hdel : Deliverable consumer msg) (credit n : Nat) :
    Inv cfg consumer buf
      { s with
        credit := credit
        fetched := s.fetched ++ [⟨seq, n⟩]
        stream := s.stream.adjust seq fun m =>
          { m with state := .outstanding, numDelivered := m.numDelivered + 1 } } where
  pump := hI.pump
  frames fm hfm := (hI.frames fm hfm).adjust seq fun _ => rfl
  log h hh := (hI.log h hh).adjust seq fun _ => rfl
  fetched x hx := by
    refine isSome_lookup_adjust ?_ _ _
    grind [hI.fetched x]
  msgs m msg' hmsg hacc := by
    have hM := hI.msgs m
    constructor <;> grind [Dict.lookup_adjust, MsgInv, copies, Deliverable]

theorem Inv.expire (hI : Inv cfg consumer buf s) (seq : Nat) :
    Inv cfg consumer buf
      { s with stream := s.stream.adjust seq fun m =>
          { m with state := if m.state = .outstanding then .queued else m.state } } where
  pump := hI.pump
  frames fm hfm := (hI.frames fm hfm).adjust seq fun _ => rfl
  log h hh := (hI.log h hh).adjust seq fun _ => rfl
  fetched x hx := isSome_lookup_adjust (hI.fetched x hx) _ _
  msgs m msg hmsg hacc := by
    obtain ⟨msg₀, hmsg₀, rfl⟩ := lookup_adjust_some hmsg
    have hM := hI.msgs m msg₀ hmsg₀
    constructor <;> grind [MsgInv, copies]

theorem handled_snoc (log : List Handled) (h : Handled) (m : Nat) :
    handled (log ++ [h]) m = handled log m + if ofMsg m h.delivery.fm then 1 else 0 := by
  rw [handled, List.countP_append, List.countP_singleton]
  rfl

section Consume

variable {x : Fetched} {rest : List Fetched} {msg : StreamMsg δ}

theorem Inv.fetched_rest (hI : Inv cfg consumer buf s) (hx : s.fetched = x :: rest) :
    ∀ y ∈ rest, (s.stream.lookup y.seq).isSome := fun y hy =>
  hI.fetched y (by rw [hx]; exact List.mem_cons_of_mem x hy)

theorem Inv.terminate (hI : Inv cfg consumer buf s) (hx : s.fetched = x :: rest)
    (hlook : s.stream.lookup x.seq = some msg) (hnot : ¬ Accepted cfg msg.data)
    (metrics : Metrics) :
    Inv cfg consumer buf
      { s with
        stream := s.stream.adjust x.seq fun m => { m with state := .terminated }
        fetched := rest, metrics := metrics } where
  pump := hI.pump
  frames fm hfm := (hI.frames fm hfm).adjust _ fun _ => rfl
  log h hh := (hI.log h hh).adjust _ fun _ => rfl
  fetched y hy := isSome_lookup_adjust (hI.fetched_rest hx y hy) _ _
  msgs m msg' hmsg hacc := by
    have hM := hI.msgs m
    constructor <;> grind [Dict.lookup_adjust, MsgInv, copies]

theorem Inv.forward (hI : Inv cfg consumer buf s) (hx : s.fetched = x :: rest)
    (hlook : s.stream.lookup x.seq = some msg) {now : String} {frame : TelemetryFrame}
    (hn : normalize cfg now msg.data = .ok frame) (metadataOk : Bool) (metrics : Metrics) :
    Inv cfg consumer buf
      { s with
        fetched := rest, metrics := metrics
        frames := s.frames ++
          [{ frame := frame, msg := some x.seq, seq := if metadataOk then x.seq else 0 }] } where
  pump := hI.pump
  frames := by grind [FromStream, hI.frames]
  log := hI.log
  fetched := hI.fetched_rest hx
  -- the copy moves from the fetched messages to the channel
  msgs m msg' hmsg hacc :=
    { hI.msgs m msg' hmsg hacc with
      copies_eq := by
        have hc := (hI.msgs m msg' hmsg hacc).copies_eq
        grind [copies, ofMsg] }

theorem Inv.consume (hI : Inv cfg consumer buf s) (hx : s.fetched = x :: rest)
    (hlook : s.stream.lookup x.seq = some msg) (metadataOk : Bool) (now : String) :
    Inv cfg consumer buf (consumeOne cfg s x rest msg metadataOk now) := by
  have hnot : ¬ (normalize cfg now msg.data).IsOk → ¬ Accepted cfg msg.data :=
    fun h hacc => h (hacc now)
  unfold consumeOne
  cases hn : normalize cfg now msg.data with
  | poison | miss =>
    rw [hn] at hnot
    exact hI.terminate hx hlook (hnot id) _
  | ok frame => exact hI.forward hx hlook hn metadataOk _

end Consume

theorem applyReply_data (reply : Option Reply) (msg : StreamMsg δ) :
    (applyReply reply msg).data = msg.data ∧
      (applyReply reply msg).numDelivered = msg.numDelivered := by
  rcases reply with _ | _ | _ <;> exact ⟨rfl, rfl⟩

theorem applyReply_state (reply : Option Reply) (msg : StreamMsg δ) :
    ((applyReply reply msg).state = .acked → msg.state = .acked ∨ reply = some .ack) ∧
      ((applyReply reply msg).state = .terminated → msg.state = .terminated) := by
  fun_cases applyReply <;> grind

theorem FromStream.ofMsg_of_seq_eq {stream : Dict Nat (StreamMsg δ)} {fm fm' : FrameMsg}
    (hfm : FromStream cfg stream fm) (hfm' : FromStream cfg stream fm') (hne : fm.seq ≠ 0)
    (hseq : fm'.seq = fm.seq) {m : Nat} (hof : ofMsg m fm) : ofMsg m fm' := by
  grind [FromStream, ofMsg]

theorem written_of_ack {stream : Dict Nat (StreamMsg δ)} {log : List Handled} {h : Handled}
    (hf : Pump.Follows log h) (hlog : ∀ h ∈ log, FromStream cfg stream h.delivery.fm)
    (hh : FromStream cfg stream h.delivery.fm) (hack : h.reply = some .ack) {m : Nat}
    (hof : ofMsg m h.delivery.fm) : Written (log ++ [h]) m := by
  rcases hf.of_ack hack with hw | ⟨hne, h', hh', hw, hseq⟩
  · exact ⟨h, by simp, hof, hw⟩
  · exact ⟨h', List.mem_append_left _ hh', hh.ofMsg_of_seq_eq (hlog h' hh') hne hseq hof, hw⟩

theorem MsgInv.pump {fm : FrameMsg} {rest : List FrameMsg} {h : Handled} {t : Pipeline δ}
    {m m' : Nat} {msg : StreamMsg δ} (hM : MsgInv consumer s m' msg)
    (hfr : s.frames = fm :: rest) (hfm : h.delivery.fm = fm) (hm : fm.msg = some m)
    (hlog : t.pump.log = s.pump.log ++ [h]) (hrest : t.frames = rest)
    (hfetched : t.fetched = s.fetched) (replyArrives : Bool)
    (hack : h.reply = some .ack → ofMsg m' fm → Written t.pump.log m') :
    MsgInv consumer t m'
      (if m' = m then applyReply (if replyArrives then h.reply else none) msg else msg) := by
  -- the frame moves from the channel to the log
  have hcopies : s.copies m' = t.copies m' := by
    grind [copies, handled_snoc]
  have hkeep : Written s.pump.log m' → Written t.pump.log m' := by
    grind [Written]
  have hdata := applyReply_data (if replyArrives then h.reply else none) msg
  have hstate := applyReply_state (if replyArrives then h.reply else none) msg
  constructor <;> grind [MsgInv, ofMsg]

theorem Inv.pumpStep (hI : Inv cfg consumer buf s) {fm : FrameMsg} {rest : List FrameMsg}
    (hfr : s.frames = fm :: rest) (writeOk replyArrives : Bool) :
    step cfg consumer s (.pump writeOk replyArrives) = some t → Inv cfg consumer buf t := by
  obtain ⟨h, hdel, hlog, -⟩ := Pump.exists_handled_step s.pump ⟨fm, writeOk⟩
  obtain ⟨ds, hds⟩ := hI.pump
  have hrun : s.pump.step ⟨fm, writeOk⟩ = (Pump.start buf).run (ds ++ [⟨fm, writeOk⟩]) := by
    rw [Pump.run_snoc, ← hds]
  have hfollows : Pump.Follows s.pump.log h :=
    (Pump.inv_run buf (ds ++ [⟨fm, writeOk⟩])).disciplined _ h [] (by rw [← hrun, hlog])
  have hreply : (s.pump.step ⟨fm, writeOk⟩).lastReply = h.reply := by
    rw [Pump.lastReply, hlog, List.getLast?_concat, Option.bind_some]
  have hfm : FromStream cfg s.stream fm := hI.frames fm (by rw [hfr]; exact List.mem_cons_self ..)
  have hhfm : h.delivery.fm = fm := by rw [hdel]
  have ⟨m, _, hm, _⟩ := hfm
  simp only [step, hfr, hm, hreply, Option.some.injEq]
  rintro rfl
  have hdata := fun reply (msg : StreamMsg δ) => (applyReply_data reply msg).1
  refine ⟨⟨_, hrun⟩, fun g hg => ?_, fun g hg => ?_, fun x hx => ?_, fun m' msg hmsg hacc => ?_⟩
  · exact (hI.frames g (by grind)).adjust m (hdata _)
  · refine FromStream.adjust ?_ m (hdata _)
    grind [hI.log g]
  · exact isSome_lookup_adjust (hI.fetched x hx) _ _
  · obtain ⟨msg₀, hmsg₀, rfl⟩ := lookup_adjust_some hmsg
    have hM := hI.msgs m' msg₀ hmsg₀ (by grind)
    refine hM.pump hfr hhfm hm ?_ ?_ ?_ replyArrives fun hack hof => ?_
    · exact hlog
    · rfl
    · rfl
    · rw [hlog]
      exact written_of_ack hfollows hI.log (hhfm ▸ hfm) hack (hhfm ▸ hof)

theorem Inv.step (hI : Inv cfg consumer buf s) {a : Action δ}
    (hstep : step cfg consumer s a = some t) : Inv cfg consumer buf t := by
  revert hstep
  fun_cases Pipeline.step with
  | case2 seq data hnew =>
    rintro ⟨⟩
    exact hI.publish (by simpa using hnew)
  | case3 | case5 =>
    -- a fetch begins or ends
    rintro ⟨⟩
    exact hI.withCredit _
  | case7 seq msg hlook hdel =>
    rintro ⟨⟩
    exact hI.deliver hlook hdel.1 _ _
  | case11 metadataOk now x rest hx msg hlook =>
    rintro ⟨⟩
    exact hI.consume hx hlook metadataOk now
  | case14 writeOk replyArrives fm rest hfr =>
    exact fun hstep => hI.pumpStep hfr writeOk replyArrives (by rw [← hstep, Pipeline.step, hfr])
  | case15 seq =>
    rintro ⟨⟩
    exact hI.expire seq
  | case1 | case4 | case6 | case8 | case9 | case10 | case12 | case13 => rintro ⟨⟩

end Step

/-! ## Failing writes -/

def Steps (cfg : Config δ) (consumer : ConsumerConfig) (s : Pipeline δ) (a : Action δ)
    (t : Pipeline δ) : Prop :=
  step cfg consumer s a = some t

/-- The Buffer write fails on the first `k` deliveries of `m` and succeeds
    afterwards. -/
def WritePattern (m k : Nat) (log : List Handled) : Prop :=
  ∀ before h after, log = before ++ h :: after → ofMsg m h.delivery.fm →
    (h.delivery.writeOk = true ↔ k ≤ handled before m)

/-- Nothing more happens to `m`: no delivery of it is on its way, and JetStream
    neither waits for a reply nor delivers it again. -/
def Settled (consumer : ConsumerConfig) (s : Pipeline δ) (m : Nat) : Prop :=
  ∃ msg, s.stream.lookup m = some msg ∧ msg.state ≠ .outstanding ∧ ¬ Deliverable consumer msg ∧
    (∀ fm ∈ s.frames, ofMsg m fm = false) ∧ ∀ x ∈ s.fetched, x.seq ≠ m

/-- After the `k` failures the event was delivered again, and a frame of its
    payload was written. -/
def Recovered (cfg : Config δ) (data : δ) (m k : Nat) (log : List Handled) : Prop :=
  ∃ before h after, log = before ++ h :: after ∧ ofMsg m h.delivery.fm ∧ k ≤ handled before m ∧
    h.disposition = .written ∧ ∃ now, normalize cfg now data = .ok h.delivery.fm.frame

section Recovery

variable {cfg : Config δ} {consumer : ConsumerConfig} {buf : Buffer} {s : Pipeline δ} {m k : Nat}
  {msg : StreamMsg δ}

theorem inv_of_run {as : List (Action δ)} (hrun : Run (Steps cfg consumer) (init buf) as s) :
    Inv cfg consumer buf s :=
  hrun.invariant (inv_init cfg consumer buf) fun _ _ _ hI hstep => hI.step hstep

theorem Inv.disciplined (hI : Inv cfg consumer buf s) : Pump.Disciplined s.pump.log := by
  obtain ⟨ds, hds⟩ := hI.pump
  rw [hds]
  exact (Pump.inv_run buf ds).disciplined

theorem Inv.frame_eq (hI : Inv cfg consumer buf s) (hlook : s.stream.lookup m = some msg)
    {h : Handled} (hh : h ∈ s.pump.log) (hof : ofMsg m h.delivery.fm) :
    ∃ now, normalize cfg now msg.data = .ok h.delivery.fm.frame := by
  obtain ⟨m', msg', hm', -, hlook', hnow⟩ := hI.log h hh
  rw [ofMsg, decide_eq_true_eq, hm', Option.some.injEq] at hof
  rw [hof, hlook, Option.some.injEq] at hlook'
  rwa [hlook']

theorem Inv.recovered_of_written (hI : Inv cfg consumer buf s)
    (hlook : s.stream.lookup m = some msg) (hpat : WritePattern m k s.pump.log)
    (hw : Written s.pump.log m) : Recovered cfg msg.data m k s.pump.log := by
  obtain ⟨h, hh, hof, hd⟩ := hw
  have hnow := hI.frame_eq hlook hh hof
  obtain ⟨before, after, hsplit⟩ := List.append_of_mem hh
  have hok := ((hI.disciplined before h after hsplit).written hd).1
  exact ⟨before, h, after, hsplit, hof, (hpat before h after hsplit hof).mp hok, hd, hnow⟩

theorem Inv.written_of_writeOk (hI : Inv cfg consumer buf s) {before after : List Handled}
    {h : Handled} (hsplit : s.pump.log = before ++ h :: after) (hof : ofMsg m h.delivery.fm)
    (hok : h.delivery.writeOk = true) : Written s.pump.log m := by
  have hh : h ∈ s.pump.log := by rw [hsplit]; simp
  have hf := hI.disciplined before h after hsplit
  cases hd : h.disposition with
  | written => exact ⟨h, hh, hof, hd⟩
  | writeFailed =>
    have hfail := (hf.writeFailed hd).1
    rw [hok] at hfail
    cases hfail
  | duplicate =>
    obtain ⟨hne, h', hh', hw, hseq⟩ := Pump.mem_writtenSeqs.mp (hf.duplicate hd).1
    have hmem : h' ∈ s.pump.log := by rw [hsplit]; exact List.mem_append_left _ hh'
    exact ⟨h', hmem, (hI.log h hh).ofMsg_of_seq_eq (hI.log h' hmem) hne hseq hof, hw⟩

theorem Inv.recovered_iff (hI : Inv cfg consumer buf s) (hlook : s.stream.lookup m = some msg)
    (hacc : Accepted cfg msg.data) (hpat : WritePattern m k s.pump.log)
    (hset : Settled consumer s m) :
    Recovered cfg msg.data m k s.pump.log ↔ k < consumer.maxDeliver := by
  have hM := hI.msgs m msg hlook hacc
  obtain ⟨msg', hlook', hout, hdel, hframes, hfetched⟩ := hset
  rw [hlook, Option.some.injEq] at hlook'
  subst hlook'
  have hcopies : msg.numDelivered = handled s.pump.log m := by
    have hf : s.frames.countP (ofMsg m) = 0 := by
      grind [List.countP_eq_zero]
    have hx : (s.fetched.countP fun x => x.seq = m) = 0 := by
      grind [List.countP_eq_zero]
    rw [hM.copies_eq, copies, hf, hx, Nat.add_zero]
  constructor
  · rintro ⟨before, h, after, hsplit, hof, hk, -⟩
    have hcount : handled before m + 1 ≤ handled s.pump.log m := by
      rw [hsplit, handled, handled, List.countP_append, List.countP_cons, if_pos hof]
      omega
    have hmax := hM.le_max
    omega
  · intro hk
    refine hI.recovered_of_written hlook hpat ?_
    by_contra hnot
    -- never written, so never acked: the message is queued, with its budget spent
    have hstate : msg.state = .queued := by
      cases hst : msg.state with
      | queued => rfl
      | outstanding => exact absurd hst hout
      | acked => exact absurd (hM.written_of_acked hst) hnot
      | terminated => exact absurd hst hM.not_terminated
    have hspent : consumer.maxDeliver ≤ handled s.pump.log m := by
      by_contra hlt
      exact hdel ⟨hstate, by omega⟩
    obtain ⟨n, hn⟩ : ∃ n, handled s.pump.log m = n + 1 := ⟨handled s.pump.log m - 1, by omega⟩
    -- the last delivery came after all failures
    obtain ⟨before, h, after, hsplit, hof, hbefore⟩ := exists_split_of_countP hn
    have hok := (hpat before h after hsplit hof).mpr (by rw [handled, hbefore]; omega)
    exact hnot (hI.written_of_writeOk hsplit hof hok)

end Recovery

end Pipeline

end NexusGateway.Normalizer
