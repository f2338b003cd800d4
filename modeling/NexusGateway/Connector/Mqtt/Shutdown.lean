/-
No message is acknowledged before it is stored, and none is lost silently on
shutdown.

The hand-off refines `Lib.Custody`: a callback that has not decided is a
producer, one in `publishDirect` works its message off itself, and the
publisher and, once it has stopped, the sweep of `Run` are the one consumer.
Every step of the model is one of custody or leaves custody alone, so the
three facts about custody hold here; what is added is who can still have a
message when `Run` has returned.
-/

import NexusGateway.Lib.Custody
import NexusGateway.Connector.Mqtt.Publisher

namespace NexusGateway.Connector.Mqtt.Shutdown

open Lib

/-! ## publishPending -/

def Event.custody : Event → Custody.Event
  | .publish id _ ok => .attempt id ok
  | .ack id => .ack id
  | .drop id _ => .drop id

inductive Publishing.Moves (dead : Bool) (fr fr' : Frames) (p : Publishing) : Progress → Prop
  | publish (m : PendingPublish) (ok : Bool) : fr.received[p.id]? = some m →
      fr'.received = fr.received → fr'.log = fr.log ++ [.publish p.id m.data ok] →
      Moves dead fr fr' p (.going { p with phase := if ok then .landed else .failed })
  | wait (p' : Publishing) : p'.id = p.id → p'.phase ≠ .landed → p.phase ≠ .attempting →
      fr'.received = fr.received → fr'.log = fr.log → Moves dead fr fr' p (.going p')
  | gaveUp : dead = true → p.phase ≠ .attempting → fr' = fr → Moves dead fr fr' p (.returned false)
  | acked : p.phase = .landed → fr'.received = fr.received → fr'.log = fr.log ++ [.ack p.id] →
      Moves dead fr fr' p (.returned true)

theorem Publishing.moves_of_step {cfg : Retry} {dead : Bool} {fr fr' : Frames} {p : Publishing}
    {e : PublishEvent} {prog : Progress} (h : p.step cfg dead fr e = some (fr', prog)) :
    p.Moves dead fr fr' prog := by
  revert h
  fun_cases Publishing.step with
  | case2 ok m hm hphase =>
    rintro ⟨⟩
    exact .publish m ok hm rfl rfl
  | case5 now hphase hdead =>
    rintro ⟨⟩
    exact .gaveUp hdead (by simp [not_not.mp hphase]) rfl
  | case6 now hphase hdead =>
    rintro ⟨⟩
    exact .wait _ rfl nofun (by simp [not_not.mp hphase]) rfl rfl
  | case7 hphase =>
    rintro ⟨⟩
    exact .wait _ rfl nofun (by simp [hphase]) rfl rfl
  | case9 hphase =>
    rintro ⟨⟩
    exact .gaveUp hphase.2 (by simp [hphase.1]) rfl
  | case12 m hm hphase =>
    rintro ⟨⟩
    exact .acked hphase rfl rfl
  | case1 | case3 | case4 | case8 | case10 | case11 | case13 => rintro ⟨⟩

theorem Publishing.gaveUp_of_step {cfg : Retry} {dead : Bool} {fr fr' : Frames} {p : Publishing}
    {e : PublishEvent} (h : p.step cfg dead fr e = some (fr', .returned false)) :
    dead = true ∧ fr' = fr ∧ p.phase ≠ .attempting := by
  cases Publishing.moves_of_step h with
  | gaveUp hdead htried hfr => exact ⟨hdead, hfr, htried⟩

/-! ## One message in work -/

structure Tracked (log : List Custody.Event) (p : Publishing) : Prop where
  landed : p.phase = .landed → .attempt p.id true ∈ log
  tried : p.phase ≠ .attempting → p.id ∈ Custody.attempts log

theorem tracked_start (cfg : Retry) (id : Nat) (log : List Custody.Event) :
    Tracked log (cfg.start id) :=
  ⟨nofun, fun h => absurd rfl h⟩

theorem Tracked.mono {log log' : List Custody.Event} {p : Publishing} (h : Tracked log p)
    (hlog : ∀ e ∈ log, e ∈ log') : Tracked log' p where
  landed hphase := hlog _ (h.landed hphase)
  tried hphase := by
    obtain ⟨ok, hmem⟩ := Custody.mem_attempts.mp (h.tried hphase)
    exact Custody.mem_attempts.mpr ⟨ok, hlog _ hmem⟩

structure Core (fr : Frames) (c : Custody) : Prop where
  next : c.next = fr.received.length
  log : c.log = fr.log.map Event.custody
  data : ∀ id data ok, .publish id data ok ∈ fr.log →
    ∃ m, fr.received[id]? = some m ∧ m.data = data
  drops : ∀ id expired, .drop id expired ∈ fr.log → expired = true

def Onward (c c' : Custody) : Prop := c' = c ∨ c.Step c'

theorem Onward.inv {c c' : Custody} (h : Onward c c') (hI : c.Inv) : c'.Inv := by
  rcases h with rfl | hstep
  · exact hI
  · exact hI.step hstep

inductive Worked (c : Custody) (p : Publishing) : Progress → Custody → Prop
  | going (p' : Publishing) (log : List Custody.Event) : p'.id = p.id →
      (∀ e ∈ c.log, e ∈ log) → Tracked log p' → Worked c p (.going p') { c with log := log }
  | acked : Worked c p (.returned true) (c.settle p.id .acked (.ack p.id))
  | gaveUp : Worked c p (.returned false) c

section Core

variable {fr fr' : Frames} {c : Custody} {p : Publishing} {dead : Bool} {prog : Progress}

theorem Core.append (hcore : Core fr c) {e : Event} {c' : Custody}
    (hreceived : fr'.received = fr.received) (hlog : fr'.log = fr.log ++ [e])
    (hnext : c'.next = c.next) (hclog : c'.log = c.log ++ [e.custody])
    (hdata : ∀ id data ok, e = .publish id data ok →
      ∃ m, fr.received[id]? = some m ∧ m.data = data)
    (hdrops : ∀ id expired, e = .drop id expired → expired = true) : Core fr' c' where
  next := by rw [hnext, hreceived, hcore.next]
  log := by rw [hclog, hlog, hcore.log, List.map_append, List.map_singleton]
  data id data ok hmem := by
    rw [hreceived]
    rw [hlog] at hmem
    rcases List.mem_append.mp hmem with hmem | hmem
    · exact hcore.data id data ok hmem
    · exact hdata id data ok (List.mem_singleton.mp hmem).symm
  drops id expired hmem := by
    rw [hlog] at hmem
    rcases List.mem_append.mp hmem with hmem | hmem
    · exact hcore.drops id expired hmem
    · exact hdrops id expired (List.mem_singleton.mp hmem).symm

theorem Core.dropped (hcore : Core fr c) {id : Nat} :
    Core { fr with log := fr.log ++ [.drop id true] } (c.settle id .dropped (.drop id)) := by
  refine hcore.append rfl rfl rfl rfl nofun ?_
  rintro _ _ ⟨⟩
  rfl

theorem Core.work (hcore : Core fr c) (hheld : c.Holds p.id) (htracked : Tracked c.log p)
    (hmoves : p.Moves dead fr fr' prog) :
    ∃ c', Onward c c' ∧ Core fr' c' ∧ Worked c p prog c' := by
  cases hmoves with
  | publish m ok hm hreceived hlog =>
    refine ⟨_, Or.inr (.attempt c p.id ok hheld), hcore.append hreceived hlog rfl rfl ?_ nofun,
      .going _ _ rfl (fun e he => List.mem_append_left _ he) ?_⟩
    · rintro _ _ _ ⟨⟩
      exact ⟨m, hm, rfl⟩
    have hmem : Custody.Event.attempt p.id ok ∈ c.log ++ [.attempt p.id ok] := by simp
    refine ⟨fun hphase => ?_, fun _ => Custody.mem_attempts.mpr ⟨ok, hmem⟩⟩
    cases ok with
    | true => exact hmem
    | false => cases hphase
  | wait p' hid hlanded htried hreceived hlog =>
    refine ⟨c, Or.inl rfl, ?_, .going p' c.log hid (fun _ he => he) ?_⟩
    · exact ⟨hreceived ▸ hcore.next, hlog ▸ hcore.log, hlog ▸ hreceived ▸ hcore.data,
        hlog ▸ hcore.drops⟩
    · refine ⟨fun h => absurd h hlanded, fun _ => ?_⟩
      rw [hid]
      exact htracked.tried htried
  | gaveUp hdead htried hfr => exact ⟨c, Or.inl rfl, hfr ▸ hcore, .gaveUp⟩
  | acked hphase hreceived hlog =>
    exact ⟨_, Or.inr (.ack c p.id hheld (htracked.landed hphase)),
      hcore.append hreceived hlog rfl rfl nofun nofun, .acked⟩

end Core

/-! ## The consumer -/

structure Consumed (c c' : Custody) : Prop where
  onward : Onward c c'
  incoming : ∀ id, c'.place id = some .incoming ↔ c.place id = some .incoming
  direct : ∀ id, c'.place id = some .direct ↔ c.place id = some .direct
  log : ∀ e ∈ c.log, e ∈ c'.log
  enqueued : c'.enqueued = c.enqueued

section Consumed

variable {c : Custody} {id : Nat} {e : Custody.Event} {place : Custody.Place}

theorem Consumed.refl (c : Custody) : Consumed c c :=
  ⟨Or.inl rfl, fun _ => Iff.rfl, fun _ => Iff.rfl, fun _ he => he, rfl⟩

theorem Consumed.log_only {log : List Custody.Event} (h : Onward c { c with log := log })
    (hlog : ∀ e ∈ c.log, e ∈ log) : Consumed c { c with log := log } :=
  ⟨h, fun _ => Iff.rfl, fun _ => Iff.rfl, hlog, rfl⟩

theorem Consumed.take {rest : List Nat} (hI : c.Inv) (hqueue : c.queue = id :: rest)
    (hidle : c.consumer = none) :
    Consumed c { c with
      place := Function.update c.place id (some .consumer)
      queue := rest
      consumer := some id
      taken := c.taken ++ [id] } := by
  have hid : c.place id = some .queued := (hI.located id).queued.mp (by simp [hqueue])
  refine ⟨Or.inr (.take c id rest hqueue hidle), ?_, ?_, fun _ he => he, ?_⟩
  · grind
  · grind
  · simp [Custody.enqueued, hqueue]

theorem Consumed.settle (hI : c.Inv) (hcons : c.consumer = some id)
    (hplace : place = .acked ∨ place = .dropped) (h : Onward c (c.settle id place e)) :
    Consumed c (c.settle id place e) := by
  have hid : c.place id = some .consumer := (hI.located id).consumer.mp hcons
  refine ⟨h, ?_, ?_, fun _ he => List.mem_append_left _ he, rfl⟩
  all_goals
    simp only [Custody.settle]
    grind

theorem consumer_settle (hcons : c.consumer = some id) : (c.settle id place e).consumer = none :=
  if_pos hcons

end Consumed

def Publishing.At (c : Custody) (p : Publishing) : Prop :=
  c.consumer = some p.id ∧ Tracked c.log p

def Flush.At (c : Custody) (f : Flush) : Prop :=
  match f.current, f.carried with
  | some p, none => p.At c
  | none, some id => c.consumer = some id
  | none, none => c.consumer = none
  | some _, some _ => False

def Publisher.At (c : Custody) : Publisher → Prop
  | .idle | .stopped => c.consumer = none
  | .taken id => c.consumer = some id
  | .publishing p => p.At c
  | .draining f => f.At c

def Handoff.ConsumerAt (c : Custody) (s : Handoff) : Prop :=
  match s.main with
  | .sweeping f => f.At c
  | .returned _ => c.consumer = none
  | _ => s.publisher.At c

section Consumer

variable {cfg : Retry} {fr fr' : Frames} {c c' : Custody}

theorem Publishing.At.start {id : Nat} (h : c.consumer = some id) : (cfg.start id).At c :=
  ⟨h, tracked_start cfg id _⟩

theorem Publishing.At.mono {p : Publishing} (h : p.At c) (hcons : c'.consumer = c.consumer)
    (hlog : ∀ e ∈ c.log, e ∈ c'.log) : p.At c' :=
  ⟨hcons.trans h.1, h.2.mono hlog⟩

theorem Flush.At.mono {f : Flush} (h : f.At c) (hcons : c'.consumer = c.consumer)
    (hlog : ∀ e ∈ c.log, e ∈ c'.log) : f.At c' := by
  simp only [Flush.At] at h ⊢
  split at h
  · exact Publishing.At.mono h hcons hlog
  · exact hcons.trans h
  · exact hcons.trans h
  · exact h

theorem Publisher.At.mono {p : Publisher} (h : p.At c) (hcons : c'.consumer = c.consumer)
    (hlog : ∀ e ∈ c.log, e ∈ c'.log) : p.At c' := by
  cases p with
  | idle | taken id => exact hcons.trans h
  | publishing p => exact Publishing.At.mono h hcons hlog
  | draining f => exact Flush.At.mono h hcons hlog
  | stopped => exact hcons.trans h

theorem Handoff.ConsumerAt.mono {s s' : Handoff} (h : s.ConsumerAt c) (hmain : s'.main = s.main)
    (hpublisher : s'.publisher = s.publisher) (hcons : c'.consumer = c.consumer)
    (hlog : ∀ e ∈ c.log, e ∈ c'.log) : s'.ConsumerAt c' := by
  simp only [Handoff.ConsumerAt, hmain, hpublisher] at h ⊢
  split at h
  · exact h.mono hcons hlog
  · exact hcons.trans h
  · exact h.mono hcons hlog

def Progress.At (c : Custody) (id : Nat) : Progress → Prop
  | .going p => p.At c
  | .returned true => c.consumer = none
  | .returned false => c.consumer = some id

theorem Publishing.At.step {p : Publishing} {dead : Bool} {e : PublishEvent} {prog : Progress}
    (hat : p.At c) (hI : c.Inv) (hcore : Core fr c)
    (hstep : p.step cfg dead fr e = some (fr', prog)) :
    ∃ c', Consumed c c' ∧ Core fr' c' ∧ c'.queue = c.queue ∧ prog.At c' p.id := by
  have hheld : c.Holds p.id := Or.inr ((hI.located p.id).consumer.mp hat.1)
  obtain ⟨c', honward, hcore', hworked⟩ :=
    hcore.work hheld hat.2 (Publishing.moves_of_step hstep)
  cases hworked with
  | going p' log hid hlog htracked =>
    refine ⟨_, Consumed.log_only honward hlog, hcore', rfl, ?_, htracked⟩
    rw [hid]
    exact hat.1
  | acked =>
    exact ⟨_, Consumed.settle hI hat.1 (Or.inl rfl) honward, hcore', rfl, consumer_settle hat.1⟩
  | gaveUp => exact ⟨c, Consumed.refl c, hcore', rfl, hat.1⟩

def FlushProgress.At (fr : Frames) (c : Custody) : FlushProgress → Prop
  | .going f => f.At c
  | .returned none => c.consumer = none ∧ c.queue = []
  | .returned (some id) => c.consumer = none ∧ .drop id true ∈ fr.log

theorem FlushProgress.At.consumer {failed : Option Nat}
    (h : (FlushProgress.returned failed).At fr c) : c.consumer = none := by
  cases failed with
  | none | some id => exact h.1

theorem Flush.At.step {f : Flush} {e : FlushEvent} {queue : List Nat} {prog : FlushProgress}
    (hat : f.At c) (hI : c.Inv) (hcore : Core fr c)
    (hstep : f.step cfg fr c.queue e = some (fr', queue, prog)) :
    ∃ c', Consumed c c' ∧ Core fr' c' ∧ c'.queue = queue ∧ prog.At fr' c' := by
  obtain ⟨carried, current, expired⟩ := f
  revert hstep
  generalize hqueue : c.queue = q
  fun_cases Flush.step with
  | case2 q id hcurrent hcarried =>
    -- the carried frame first
    rintro ⟨⟩
    cases hcurrent
    cases hcarried
    exact ⟨c, Consumed.refl c, hcore, hqueue, Publishing.At.start hat⟩
  | case3 id rest hcurrent hcarried =>
    -- then the queue
    rintro ⟨⟩
    cases hcurrent
    cases hcarried
    exact ⟨_, Consumed.take hI hqueue hat, { hcore with }, rfl, Publishing.At.start rfl⟩
  | case4 hcurrent hcarried =>
    -- the queue is empty
    rintro ⟨⟩
    cases hcurrent
    cases hcarried
    exact ⟨c, Consumed.refl c, hcore, hqueue, hat, hqueue⟩
  | case5 q =>
    -- the context expires
    rintro ⟨⟩
    exact ⟨c, Consumed.refl c, hcore, hqueue, hat⟩
  | case8 q e p hcurrent fr₁ p' hp | case9 q e p hcurrent fr₁ hp =>
    rintro ⟨⟩
    cases hcurrent
    cases carried with
    | some id => exact hat.elim
    | none =>
      obtain ⟨c', hconsumed, hcore', hqueue', hat'⟩ := Publishing.At.step hat hI hcore hp
      exact ⟨c', hconsumed, hcore', hqueue'.trans hqueue, hat'⟩
  | case10 q e p hcurrent fr₁ hp =>
    -- the flush gives up, which it does only if its context expired
    rintro ⟨⟩
    cases hcurrent
    cases carried with
    | some id => exact hat.elim
    | none =>
      obtain ⟨rfl, rfl, htried⟩ := Publishing.gaveUp_of_step hp
      have hcons : p.At c := hat
      have hheld : c.Holds p.id := Or.inr ((hI.located p.id).consumer.mp hcons.1)
      have hdrop := Custody.Step.drop c p.id hheld (hcons.2.tried htried)
      exact ⟨_, Consumed.settle hI hcons.1 (Or.inr rfl) (Or.inr hdrop), hcore.dropped, hqueue,
        consumer_settle hcons.1, by simp⟩
  | case1 | case6 | case7 => rintro ⟨⟩

end Consumer

/-! ## The producers -/

def CallbackAt (c : Custody) (id : Nat) : Option Callback → Prop
  | none => c.place id ≠ some .incoming ∧ c.place id ≠ some .direct
  | some .decoded | some .selecting => c.place id = some .incoming
  | some (.direct p _) => c.place id = some .direct ∧ p.id = id ∧ Tracked c.log p

theorem CallbackAt.mono {c c' : Custody} {id : Nat} {cb : Option Callback} (h : CallbackAt c id cb)
    (hincoming : c'.place id = some .incoming ↔ c.place id = some .incoming)
    (hdirect : c'.place id = some .direct ↔ c.place id = some .direct)
    (hlog : ∀ e ∈ c.log, e ∈ c'.log) : CallbackAt c' id cb := by
  cases cb with
  | none => exact ⟨fun hc => h.1 (hincoming.mp hc), fun hc => h.2 (hdirect.mp hc)⟩
  | some cb =>
    cases cb with
    | decoded | selecting => exact hincoming.mpr h
    | direct p expired => exact ⟨hdirect.mpr h.1, h.2.1, h.2.2.mono hlog⟩

structure Produced (id : Nat) (c c' : Custody) : Prop where
  onward : Onward c c'
  place : ∀ id', id' ≠ id → c'.place id' = c.place id'
  consumer : c'.consumer = c.consumer
  log : ∀ e ∈ c.log, e ∈ c'.log

section Produced

variable {c : Custody} {id : Nat} {e : Custody.Event} {place : Custody.Place}

theorem Produced.refl (id : Nat) (c : Custody) : Produced id c c :=
  ⟨Or.inl rfl, fun _ _ => rfl, rfl, fun _ he => he⟩

theorem Produced.bypass (hid : c.place id = some .incoming) :
    Produced id c { c with place := Function.update c.place id (some .direct) } :=
  ⟨Or.inr (.bypass c id hid), fun _ hne => Function.update_of_ne hne _ _, rfl, fun _ he => he⟩

theorem Produced.enqueue (hid : c.place id = some .incoming) :
    Produced id c { c with
      place := Function.update c.place id (some .queued)
      queue := c.queue ++ [id] } :=
  ⟨Or.inr (.enqueue c id hid), fun _ hne => Function.update_of_ne hne _ _, rfl, fun _ he => he⟩

theorem Produced.settle (hI : c.Inv) (hid : c.place id = some .direct)
    (h : Onward c (c.settle id place e)) : Produced id c (c.settle id place e) := by
  refine ⟨h, fun _ hne => Function.update_of_ne hne _ _, if_neg ?_,
    fun _ he => List.mem_append_left _ he⟩
  rw [(hI.located id).consumer, hid]
  nofun

theorem callbackAt_settle (hplace : place = .acked ∨ place = .dropped) :
    CallbackAt (c.settle id place e) id none := by
  have hself : (c.settle id place e).place id = some place := Function.update_self ..
  rw [CallbackAt, hself]
  rcases hplace with rfl | rfl <;> exact ⟨nofun, nofun⟩

end Produced

/-! ## The simulation -/

structure Sim (s : Handoff) (c : Custody) : Prop where
  inv : c.Inv
  core : Core s.frames c
  queue : c.queue = s.queue
  enqueued : c.enqueued = s.enqueued
  callbacks : ∀ id, CallbackAt c id (s.callbacks.lookup id)
  consumer : s.ConsumerAt c

theorem Sim.consumed {s s' : Handoff} {c c' : Custody} (h : Sim s c) (hc : Consumed c c')
    (hcore : Core s'.frames c') (hqueue : c'.queue = s'.queue)
    (henqueued : s'.enqueued = s.enqueued) (hcallbacks : s'.callbacks = s.callbacks)
    (hconsumer : s'.ConsumerAt c') : Sim s' c' where
  inv := hc.onward.inv h.inv
  core := hcore
  queue := hqueue
  enqueued := by rw [hc.enqueued, h.enqueued, henqueued]
  callbacks id := by
    rw [hcallbacks]
    exact (h.callbacks id).mono (hc.incoming id) (hc.direct id) hc.log
  consumer := hconsumer

theorem Sim.produced {s s' : Handoff} {c c' : Custody} {id : Nat} (h : Sim s c)
    (hp : Produced id c c') (hcore : Core s'.frames c') (hqueue : c'.queue = s'.queue)
    (henqueued : c'.enqueued = s'.enqueued)
    (hothers : ∀ id', id' ≠ id → s'.callbacks.lookup id' = s.callbacks.lookup id')
    (hid : CallbackAt c' id (s'.callbacks.lookup id)) (hmain : s'.main = s.main)
    (hpublisher : s'.publisher = s.publisher) : Sim s' c' where
  inv := hp.onward.inv h.inv
  core := hcore
  queue := hqueue
  enqueued := henqueued
  callbacks id' := by
    by_cases heq : id' = id
    · rw [heq]
      exact hid
    · rw [hothers id' heq]
      apply (h.callbacks id').mono _ _ hp.log
      · rw [hp.place id' heq]
      · rw [hp.place id' heq]
  consumer := h.consumer.mono hmain hpublisher hp.consumer hp.log

theorem sim_empty : Sim {} {} where
  inv := Custody.inv_empty
  core := ⟨rfl, rfl, by simp, by simp⟩
  queue := rfl
  enqueued := rfl
  callbacks id := ⟨nofun, nofun⟩
  consumer := rfl

structure Life (s : Handoff) : Prop where
  /-- no callback runs after the connection manager is done -/
  quiet : s.managerDone = true → ∀ id, s.callbacks.lookup id = none
  done : s.main ≠ .running → s.managerDone = true
  stopped : s.main ≠ .running → s.main ≠ .stopping → s.publisher = .stopped
  swept : s.main = .returned none → s.queue = []
  failed : ∀ id, s.main = .returned (some id) → .drop id true ∈ s.frames.log

theorem life_empty : Life {} :=
  ⟨fun _ _ => rfl, fun h => absurd rfl h, fun h => absurd rfl h, nofun, nofun⟩

theorem Life.early {s : Handoff} (hmain : s.main = .running ∨ s.main = .stopping)
    (hquiet : s.managerDone = true → ∀ id, s.callbacks.lookup id = none)
    (hdone : s.main ≠ .running → s.managerDone = true) : Life s := by
  refine ⟨hquiet, hdone, fun h h' => (hmain.elim h h').elim, fun h => ?_, fun id h => ?_⟩
  · rcases hmain with h' | h' <;> rw [h'] at h <;> cases h
  · rcases hmain with h' | h' <;> rw [h'] at h <;> cases h

theorem Life.of_running {s : Handoff} (hmain : s.main = .running) (hnot : s.managerDone ≠ true) :
    Life s :=
  .early (Or.inl hmain) (fun hdone => absurd hdone hnot) fun h => absurd hmain h

section Step

variable {cfg : Retry} {s s' : Handoff} {c : Custody} {cb : Callback} {e : PublisherEvent}

theorem Sim.stay (h : Sim s c) {cancelled managerDone : Bool} {publisher : Publisher} {main : Main}
    (hconsumer : Handoff.ConsumerAt c { s with cancelled, managerDone, publisher, main }) :
    Sim { s with cancelled, managerDone, publisher, main } c :=
  h.consumed (.refl c) h.core h.queue rfl rfl hconsumer

theorem Sim.insert (h : Sim s c) {c' : Custody} {fr : Frames} {id : Nat} (hp : Produced id c c')
    (hcore : Core fr c') (hqueue : c'.queue = c.queue) (henqueued : c'.enqueued = c.enqueued)
    (hid : CallbackAt c' id (some cb)) :
    Sim { s with frames := fr, callbacks := s.callbacks.insert id cb } c' := by
  refine h.produced hp hcore (hqueue.trans h.queue) (henqueued.trans h.enqueued)
    (fun _ hne => AList.lookup_insert_ne hne) ?_ rfl rfl
  rw [AList.lookup_insert]
  exact hid

theorem Sim.erase (h : Sim s c) {c' : Custody} {fr : Frames} {queue enqueued : List Nat} {id : Nat}
    (hp : Produced id c c') (hcore : Core fr c') (hqueue : c'.queue = queue)
    (henqueued : c'.enqueued = enqueued) (hid : CallbackAt c' id none) :
    Sim { s with frames := fr, queue, enqueued, callbacks := s.callbacks.erase id } c' := by
  refine h.produced hp hcore hqueue henqueued (fun _ hne => AList.lookup_erase_ne hne) ?_ rfl rfl
  rw [AList.lookup_erase]
  exact hid

theorem Sim.receive (h : Sim s c) (m : PendingPublish) :
    ∃ c', Onward c c' ∧ Sim { s with
      frames := { s.frames with received := s.frames.received ++ [m] }
      callbacks := s.callbacks.insert s.frames.received.length .decoded } c' := by
  have hnext := h.core.next
  have hp : Produced c.next c { c with
      next := c.next + 1
      place := Function.update c.place c.next (some .incoming) } :=
    ⟨Or.inr (.accept c), fun _ hne => Function.update_of_ne hne _ _, rfl, fun _ he => he⟩
  rw [← hnext]
  refine ⟨_, hp.onward, h.insert hp ⟨?_, h.core.log, ?_, h.core.drops⟩ rfl rfl ?_⟩
  · simp [hnext]
  · intro id data ok hmem
    obtain ⟨m', hm', hdata⟩ := h.core.data id data ok hmem
    exact ⟨m', List.getElem?_append_left (List.getElem?_eq_some_iff.mp hm').1 |>.trans hm', hdata⟩
  · exact Function.update_self ..

theorem Sim.bypass (h : Sim s c) {id : Nat} (hid : c.place id = some .incoming) :
    ∃ c', Onward c c' ∧
      Sim { s with callbacks := s.callbacks.insert id (.direct (cfg.start id) false) } c' :=
  have hp := Produced.bypass hid
  ⟨_, hp.onward, h.insert hp { h.core with } rfl rfl
    ⟨Function.update_self .., rfl, tracked_start cfg id _⟩⟩

theorem Sim.enqueue (h : Sim s c) {id : Nat} (hid : c.place id = some .incoming) :
    ∃ c', Onward c c' ∧ Sim { s with
      queue := s.queue ++ [id]
      enqueued := s.enqueued ++ [id]
      callbacks := s.callbacks.erase id } c' := by
  have hp := Produced.enqueue hid
  refine ⟨_, hp.onward, h.erase hp { h.core with } ?_ ?_ ?_⟩
  · rw [h.queue]
  · rw [← h.enqueued, Custody.enqueued, Custody.enqueued, List.append_assoc]
  · exact ⟨by simp, by simp⟩

theorem Sim.callback (h : Sim s c) {id : Nat} {e : CallbackEvent}
    (hid : CallbackAt c id (some cb)) (hstep : s.stepCallback cfg id cb e = some s') :
    ∃ c', Onward c c' ∧ Sim s' c' := by
  have hinsert : ∀ {cb}, CallbackAt c id (some cb) →
      ∃ c', Onward c c' ∧ Sim { s with callbacks := s.callbacks.insert id cb } c' :=
    fun hid => ⟨c, Or.inl rfl, h.insert (.refl id c) h.core rfl rfl hid⟩
  revert hstep
  fun_cases Handoff.stepCallback with
  | case1 | case7 =>
    -- the publisher is cancelled: publish past the queue
    rintro ⟨⟩
    exact h.bypass hid
  | case2 | case10 =>
    rintro ⟨⟩
    exact hinsert hid
  | case4 =>
    rintro ⟨⟩
    exact h.enqueue hid
  | case13 e p expired fr p' hp =>
    rintro ⟨⟩
    obtain ⟨hplace, rfl, htracked⟩ := hid
    obtain ⟨c', honward, hcore, hworked⟩ :=
      h.core.work (Or.inl hplace) htracked (Publishing.moves_of_step hp)
    cases hworked with
    | going p' log hid hlog htracked' =>
      exact ⟨_, honward, h.insert ⟨honward, fun _ _ => rfl, rfl, hlog⟩ hcore rfl rfl
        ⟨hplace, hid, htracked'⟩⟩
  | case14 e p expired fr hp =>
    rintro ⟨⟩
    obtain ⟨hplace, rfl, htracked⟩ := hid
    obtain ⟨c', honward, hcore, hworked⟩ :=
      h.core.work (Or.inl hplace) htracked (Publishing.moves_of_step hp)
    cases hworked with
    | acked =>
      exact ⟨_, honward, h.erase (.settle h.inv hplace honward) hcore h.queue h.enqueued
        (callbackAt_settle (Or.inl rfl))⟩
  | case15 e p expired fr hp =>
    -- the publish gives up
    rintro ⟨⟩
    obtain ⟨hplace, rfl, htracked⟩ := hid
    obtain ⟨rfl, rfl, htried⟩ := Publishing.gaveUp_of_step hp
    have honward : Onward c (c.settle p.id .dropped (.drop p.id)) :=
      Or.inr (.drop c p.id (Or.inl hplace) (htracked.tried htried))
    exact ⟨_, honward, h.erase (.settle h.inv hplace honward) h.core.dropped h.queue h.enqueued
      (callbackAt_settle (Or.inr rfl))⟩
  | case3 | case5 | case6 | case8 | case9 | case11 | case12 | case16 => rintro ⟨⟩

theorem Sim.publisher (h : Sim s c) (hat : s.publisher.At c)
    (hmain : s.main = .running ∨ s.main = .stopping) (hstep : s.stepPublisher cfg e = some s') :
    ∃ c', Onward c c' ∧ Sim s' c' := by
  have hconsumer : ∀ {s₁ : Handoff} {c₁ : Custody}, s₁.main = s.main → s₁.publisher.At c₁ →
      s₁.ConsumerAt c₁ := by
    intro s₁ c₁ hsame hat₁
    rw [Handoff.ConsumerAt, hsame]
    rcases hmain with hm | hm <;> rw [hm] <;> exact hat₁
  revert hstep
  fun_cases Handoff.stepPublisher with
  | case1 hp hcancelled =>
    -- cancelled while idle
    rintro ⟨⟩
    rw [hp] at hat
    exact ⟨c, Or.inl rfl, h.stay (hconsumer rfl hat)⟩
  | case4 id rest hqueue hp =>
    -- the next frame is taken
    rintro ⟨⟩
    rw [hp] at hat
    have htake := Consumed.take h.inv (h.queue.trans hqueue) hat
    exact ⟨_, htake.onward, h.consumed htake { h.core with } rfl rfl rfl (hconsumer rfl rfl)⟩
  | case6 id hp hcancelled =>
    -- cancelled with a frame in hand
    rintro ⟨⟩
    rw [hp] at hat
    exact ⟨c, Or.inl rfl, h.stay (hconsumer rfl hat)⟩
  | case7 id hp hcancelled =>
    -- the frame is published
    rintro ⟨⟩
    rw [hp] at hat
    exact ⟨c, Or.inl rfl, h.stay (hconsumer rfl (Publishing.At.start hat))⟩
  | case10 e p hp fr p' hpub | case11 e p hp fr hpub | case12 e p hp fr hpub =>
    -- the publish goes on, is done or gives up
    rintro ⟨⟩
    rw [hp] at hat
    obtain ⟨c', hc, hcore, hqueue, hat'⟩ := Publishing.At.step hat h.inv h.core hpub
    exact ⟨c', hc.onward, h.consumed hc hcore (hqueue.trans h.queue) rfl rfl (hconsumer rfl hat')⟩
  | case15 e f hp fr queue f' hflush =>
    -- the drain goes on
    rintro ⟨⟩
    rw [hp] at hat
    rw [← h.queue] at hflush
    obtain ⟨c', hc, hcore, hqueue, hat'⟩ := Flush.At.step hat h.inv h.core hflush
    exact ⟨c', hc.onward, h.consumed hc hcore hqueue rfl rfl (hconsumer rfl hat')⟩
  | case16 e f hp fr queue failed hflush =>
    -- the drain is over
    rintro ⟨⟩
    rw [hp] at hat
    rw [← h.queue] at hflush
    obtain ⟨c', hc, hcore, hqueue, hat'⟩ := Flush.At.step hat h.inv h.core hflush
    exact ⟨c', hc.onward, h.consumed hc hcore hqueue rfl rfl (hconsumer rfl hat'.consumer)⟩
  | case2 | case3 | case5 | case8 | case9 | case13 | case14 | case17 => rintro ⟨⟩

theorem Sim.main (h : Sim s c) (hlife : Life s) {e : MainEvent}
    (hstep : s.stepMain cfg e = some s') : ∃ c', Onward c c' ∧ Sim s' c' ∧ Life s' := by
  have hconsumer := h.consumer
  revert hstep
  fun_cases Handoff.stepMain with
  | case1 hmain hdone =>
    -- the manager is done
    rintro ⟨⟩
    rw [Handoff.ConsumerAt, hmain] at hconsumer
    exact ⟨c, Or.inl rfl, h.stay hconsumer, Life.early (Or.inr rfl) hlife.quiet fun _ => hdone⟩
  | case4 hpublisher hmain =>
    -- the publisher has stopped
    rintro ⟨⟩
    rw [Handoff.ConsumerAt, hmain, hpublisher] at hconsumer
    exact ⟨c, Or.inl rfl, h.stay hconsumer, hlife.quiet, fun _ => hlife.done (by rw [hmain]; nofun),
      fun _ _ => hpublisher, nofun, nofun⟩
  | case7 e f hmain fr queue f' hflush =>
    -- the sweep goes on
    rintro ⟨⟩
    rw [Handoff.ConsumerAt, hmain] at hconsumer
    rw [← h.queue] at hflush
    obtain ⟨c', hc, hcore, hqueue, hat⟩ := hconsumer.step h.inv h.core hflush
    exact ⟨c', hc.onward, h.consumed hc hcore hqueue rfl rfl hat, hlife.quiet,
      fun _ => hlife.done (by rw [hmain]; nofun),
      fun _ _ => hlife.stopped (by rw [hmain]; nofun) (by rw [hmain]; nofun), nofun, nofun⟩
  | case8 e f hmain fr queue failed hflush =>
    -- the sweep is over
    rintro ⟨⟩
    rw [Handoff.ConsumerAt, hmain] at hconsumer
    rw [← h.queue] at hflush
    obtain ⟨c', hc, hcore, hqueue, hat⟩ := hconsumer.step h.inv h.core hflush
    refine ⟨c', hc.onward, h.consumed hc hcore hqueue rfl rfl hat.consumer, hlife.quiet,
      fun _ => hlife.done (by rw [hmain]; nofun),
      fun _ _ => hlife.stopped (by rw [hmain]; nofun) (by rw [hmain]; nofun), ?_, ?_⟩
    · rintro ⟨⟩
      exact hqueue.symm.trans hat.2
    · rintro id ⟨⟩
      exact hat.2
  | case2 | case3 | case5 | case6 | case9 => rintro ⟨⟩

theorem Handoff.stepCallback_same {id : Nat} {e : CallbackEvent}
    (hstep : s.stepCallback cfg id cb e = some s') :
    s'.managerDone = s.managerDone ∧ s'.main = s.main := by
  cases e <;> cases cb <;> grind [Handoff.stepCallback]

theorem Handoff.stepPublisher_same (hstep : s.stepPublisher cfg e = some s') :
    s'.managerDone = s.managerDone ∧ s'.main = s.main ∧ s'.callbacks = s.callbacks := by
  cases e <;> grind [Handoff.stepPublisher]

theorem Handoff.not_stopped_of_step (hstep : s.stepPublisher cfg e = some s') :
    s.publisher ≠ .stopped := by
  intro hstopped
  cases e <;> simp [Handoff.stepPublisher, hstopped] at hstep

theorem Sim.step {a : Action} (h : Sim s c) (hlife : Life s) (hstep : Handoff.Steps cfg s a s') :
    ∃ c', Onward c c' ∧ Sim s' c' ∧ Life s' := by
  have hrunning : s.managerDone ≠ true → s.main = .running :=
    fun hnot => by_contra fun hmain => hnot (hlife.done hmain)
  cases a with
  | receive m =>
    simp only [Handoff.Steps, Handoff.step] at hstep
    split at hstep
    · cases hstep
    · next hnot =>
      cases hstep
      obtain ⟨c', honward, hsim⟩ := h.receive m
      exact ⟨c', honward, hsim, .of_running (hrunning hnot) hnot⟩
  | callback id e =>
    simp only [Handoff.Steps, Handoff.step] at hstep
    split at hstep
    · cases hstep
    · next cb hcb =>
      have hnot : s.managerDone ≠ true := by
        intro hdone
        rw [hlife.quiet hdone id] at hcb
        cases hcb
      obtain ⟨c', honward, hsim⟩ := h.callback (hcb ▸ h.callbacks id) hstep
      obtain ⟨hdone, hmain⟩ := Handoff.stepCallback_same hstep
      rw [← hdone] at hnot hrunning
      rw [← hmain] at hrunning
      exact ⟨c', honward, hsim, .of_running (hrunning hnot) hnot⟩
  | publisher e =>
    have hearly : s.main = .running ∨ s.main = .stopping := by
      by_contra hmain
      rw [not_or] at hmain
      exact Handoff.not_stopped_of_step hstep (hlife.stopped hmain.1 hmain.2)
    have hat : s.publisher.At c := by
      have hconsumer := h.consumer
      rw [Handoff.ConsumerAt] at hconsumer
      rcases hearly with hmain | hmain <;> rw [hmain] at hconsumer <;> exact hconsumer
    obtain ⟨c', honward, hsim⟩ := h.publisher hat hearly hstep
    obtain ⟨hdone, hmain, hcallbacks⟩ := Handoff.stepPublisher_same hstep
    refine ⟨c', honward, hsim, Life.early (hmain ▸ hearly) ?_ ?_⟩
    · rw [hdone, hcallbacks]
      exact hlife.quiet
    · rw [hdone, hmain]
      exact hlife.done
  | main e => exact h.main hlife hstep
  | cancel =>
    cases hstep
    exact ⟨c, Or.inl rfl, h.stay h.consumer,
      hlife.quiet, hlife.done, hlife.stopped, hlife.swept, hlife.failed⟩
  | managerDone =>
    simp only [Handoff.Steps, Handoff.step] at hstep
    split at hstep
    · next hempty =>
      cases hstep
      have hnone : ∀ id, s.callbacks.lookup id = none := by
        intro id
        rw [AList.lookup_eq_none, AList.mem_keys, AList.keys, List.isEmpty_iff.mp hempty]
        simp
      exact ⟨c, Or.inl rfl, h.stay h.consumer,
        fun _ => hnone, fun _ => rfl, hlife.stopped, hlife.swept, hlife.failed⟩
    · cases hstep

theorem sim_of_run {as : List Action} (hrun : Run (Handoff.Steps cfg) {} as s) :
    ∃ c, Sim s c ∧ Life s := by
  apply hrun.invariant (I := fun s => ∃ c, Sim s c ∧ Life s) ⟨{}, sim_empty, life_empty⟩
  rintro s a s' ⟨c, hsim, hlife⟩ hstep
  obtain ⟨c', -, hsim', hlife'⟩ := hsim.step hlife hstep
  exact ⟨c', hsim', hlife'⟩

end Step

/-! ## Acked after it is stored, and not lost silently -/

def publishedIds : List Event → List Nat :=
  List.filterMap fun
    | .publish id _ _ => some id
    | _ => none

def storedIds : List Event → List Nat :=
  List.filterMap fun
    | .publish id _ true => some id
    | _ => none

theorem attempts_map_custody (log : List Event) :
    Custody.attempts (log.map Event.custody) = publishedIds log := by
  rw [Custody.attempts, List.filterMap_map]
  apply List.filterMap_congr
  intro e _
  cases e <;> rfl

theorem successes_map_custody (log : List Event) :
    Custody.successes (log.map Event.custody) = storedIds log := by
  rw [Custody.successes, List.filterMap_map]
  apply List.filterMap_congr
  intro e _
  cases e with
  | publish id data ok => cases ok <;> rfl
  | ack id | drop id expired => rfl

theorem Core.stored_of_attempt {fr : Frames} {c : Custody} (hcore : Core fr c) {log : List Event}
    {id : Nat} (hlog : ∀ e ∈ log, e ∈ fr.log) (h : .attempt id true ∈ log.map Event.custody) :
    ∃ m, fr.received[id]? = some m ∧ .publish id m.data true ∈ log := by
  obtain ⟨e, he, heq⟩ := List.mem_map.mp h
  cases e with
  | publish id' data ok =>
    cases heq
    obtain ⟨m, hm, rfl⟩ := hcore.data id data true (hlog _ he)
    exact ⟨m, hm, he⟩
  | ack id' | drop id' expired => cases heq

theorem Core.dropped_of_custody {fr : Frames} {c : Custody} (hcore : Core fr c) {id : Nat}
    (h : .drop id ∈ c.log) : .drop id true ∈ fr.log := by
  rw [hcore.log] at h
  obtain ⟨e, he, heq⟩ := List.mem_map.mp h
  cases e with
  | drop id' expired =>
    cases heq
    rw [hcore.drops id expired he] at he
    exact he
  | publish id' data ok | ack id' => cases heq

/-- In every run a message is acknowledged at most once, after a publish of its own data that
    succeeded; the messages of the queue are first tried, and first stored, in the order they
    were put on it; and when `Run` has returned, every message was stored, or a flush whose
    context had expired gave up on it, or it was left in the queue behind one on which the
    sweep gave up that way. -/
theorem acked_once_stored (cfg : Retry) {as : List Action} {s : Handoff}
    (hrun : Run (Handoff.Steps cfg) {} as s) :
    (∀ pre id post, s.frames.log = pre ++ .ack id :: post →
      .ack id ∉ pre ∧ ∃ m, s.frames.received[id]? = some m ∧ .publish id m.data true ∈ pre) ∧
    ((publishedIds s.frames.log).filter fun id => id ∈ s.enqueued).eraseDups <+: s.enqueued ∧
    ((storedIds s.frames.log).filter fun id => id ∈ s.enqueued).eraseDups.Sublist s.enqueued ∧
    ∀ failed, s.main = .returned failed → ∀ id < s.frames.received.length,
      (∃ m, s.frames.received[id]? = some m ∧ .publish id m.data true ∈ s.frames.log) ∨
      .drop id true ∈ s.frames.log ∨
      (id ∈ s.queue ∧ ∃ id', failed = some id' ∧ .drop id' true ∈ s.frames.log) := by
  obtain ⟨c, hsim, hlife⟩ := sim_of_run hrun
  have hlog := hsim.core.log
  refine ⟨?_, ?_, ?_, ?_⟩
  · intro pre id post hsplit
    have hcustody : c.log = pre.map Event.custody ++ .ack id :: post.map Event.custody := by
      rw [hlog, hsplit, List.map_append, List.map_cons]
      rfl
    obtain ⟨hnot, hok⟩ := hsim.inv.ackedOnce _ id _ hcustody
    refine ⟨fun hmem => hnot (List.mem_map_of_mem hmem), ?_⟩
    apply hsim.core.stored_of_attempt _ hok
    intro e he
    rw [hsplit]
    exact List.mem_append_left _ he
  · have hfirst := hsim.inv.first_attempts
    rw [Custody.queueAttempts, hlog, attempts_map_custody, hsim.enqueued] at hfirst
    exact hfirst
  · have hfirst := hsim.inv.first_successes
    rw [Custody.queueSuccesses, hlog, successes_map_custody, hsim.enqueued] at hfirst
    exact hfirst
  · intro failed hreturned id hid
    have hcallbacks := hsim.callbacks id
    rw [hlife.quiet (hlife.done (by simp [hreturned])) id] at hcallbacks
    have hidle := hsim.consumer
    rw [Handoff.ConsumerAt, hreturned] at hidle
    rw [← hsim.core.next] at hid
    rcases hsim.inv.settled_or_queued hid hcallbacks hidle with hacked | hdropped | hqueued
    · obtain ⟨pre, post, hsplit⟩ := List.append_of_mem hacked
      have hok := (hsim.inv.ackedOnce pre id post hsplit).2
      refine Or.inl (hsim.core.stored_of_attempt (fun _ he => he) ?_)
      rw [← hlog, hsplit]
      exact List.mem_append_left _ hok
    · exact Or.inr (Or.inl (hsim.core.dropped_of_custody hdropped))
    · rw [hsim.queue] at hqueued
      cases failed with
      | none =>
        rw [hlife.swept hreturned] at hqueued
        cases hqueued
      | some id' => exact Or.inr (Or.inr ⟨hqueued, id', rfl, hlife.failed id' hreturned⟩)

def oneByte (b : UInt8) : PendingPublish :=
  { data := [b], topic := "a/b", value := none, timestamp := 0 }

/-- Two messages are queued, the first is carried from a publish that was cancelled into the
    flush, which stores it and gives up on the second; a third comes after the cancellation. -/
def cancelled : List Action :=
  [.receive (oneByte 0), .callback 0 .check, .callback 0 .enqueue,
    .receive (oneByte 1), .callback 1 .check, .callback 1 .enqueue,
    .publisher .take, .publisher .check, .publisher (.publish (.publish false)),
    .publisher (.publish (.check 5)), .cancel, .publisher (.publish .done),
    .receive (oneByte 2), .callback 2 .check, .callback 2 (.publish (.publish true)),
    .callback 2 (.publish .ack), .managerDone, .main .stop,
    .publisher (.flush .next), .publisher (.flush (.publish (.publish true))),
    .publisher (.flush (.publish .ack)), .publisher (.flush .next), .publisher (.flush .expire),
    .publisher (.flush (.publish (.publish false))), .publisher (.flush (.publish (.check 9))),
    .main .sweep, .main (.flush .next)]

theorem acked_once_stored_cancelled :
    ∃ s, Run (Handoff.Steps {}) {} cancelled s ∧ s.main = .returned none ∧
      s.frames.received.length = 3 ∧
      ∀ id < 3, (∃ m, s.frames.received[id]? = some m ∧ .publish id m.data true ∈ s.frames.log) ∨
        .drop id true ∈ s.frames.log := by
  obtain ⟨s, hrun, hmain, hlength⟩ : ∃ s, Run (Handoff.Steps {}) {} cancelled s ∧
      s.main = .returned none ∧ s.frames.received.length = 3 :=
    ⟨_, Run.of_foldlM rfl, rfl, rfl⟩
  refine ⟨s, hrun, hmain, hlength, fun id hid => ?_⟩
  rcases (acked_once_stored {} hrun).2.2.2 none hmain id (by omega) with h | h | ⟨-, id', h, -⟩
  · exact Or.inl h
  · exact Or.inr h
  · cases h

end NexusGateway.Connector.Mqtt.Shutdown
