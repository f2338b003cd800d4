/-
The admission gate (`internal/clocksync/gateway.go`: `Enter`, `Hold`, `Drain`,
`Resume`, `Run`, `RequestStop`) under the `ResolverRuntime` that uses it.

Any number of command goroutines, the worker loop, whoever requests a stop and
one controller work at once.  A step is a section behind the mutex, a load of
the atomic flag, or what a goroutine does alone between two such points; a call
on the producer, the connector, the consumer or the store may answer anything
after any delay.

The gate and the runtime each keep a `held` flag, and the two disagree while
Hold waits and while Resume returns.  What carries the results is `barred`: at
which points of the controller no command is inside.
-/

import NexusGateway.ClockSync.Runtime
import NexusGateway.Lib.Run
import Mathlib.Data.Finset.Card

namespace NexusGateway.ClockSync

open Lib PointList Provisioning

/-! ## The gate -/

/-- The fields of `Gateway` behind `mu`, and the atomic `stopping`.  `changed` numbers
    the channels: one that was closed is not the present one. -/
structure Gate where
  held : Bool := true
  draining : Bool := false
  stopping : Bool := false
  active : Int := 0
  commands : Int := 0
  changed : Nat := 0

namespace Gate

def notify (g : Gate) : Gate := { g with changed := g.changed + 1 }

def busy (g : Gate) : Bool := 0 < g.active || 0 < g.commands

def allowed (g : Gate) : Bool := !g.held || g.draining

end Gate

/-! ## Goroutines -/

inductive Operation where
  | hold
  | stop
  | drain
  | configure (native : NativeClockConfig) (entries : List Entry)
  | start
  | verify (revision : String)
  | resume

inductive Pc where
  | returned (res : Except String Unit)
  /-- Hold: the `select`, with the channel it reads -/
  | waiting (changed : Nat)
  | quiesce
  | stop
  /-- Drain: before the gate is set to draining -/
  | drain
  /-- Drain: `consumer.Info` -/
  | info
  /-- Drain: before `active` is read; `empty` if the consumer had nothing pending -/
  | idle (empty : Bool)
  /-- Drain: the `select` on the ticker -/
  | tick
  | undrain (res : Except String Unit)
  | configure (native : NativeClockConfig) (entries : List Entry)
  /-- Configure: before `resolver.Update` -/
  | update (native : NativeClockConfig) (entries : List Entry)
  | start
  | verify (revision : String)
  /-- Resume: before the first load of `stopping` -/
  | resume
  | activate
  /-- Resume: the request to the producer -/
  | request
  /-- Resume: before the second load -/
  | confirm
  | commit
  /-- Resume: before the section that opens the gate -/
  | reopen
  /-- Resume: the gate has returned without error -/
  | resumed

inductive Input where
  | call (op : Operation)
  | next
  | answer (res : Except String Unit)
  | info (res : Except String Bool)
  | revision (res : Except String String)
  | paused (res : Except String Bool)
  /-- `ctx.Done`, with `ctx.Err` -/
  | cancel (err : String)

inductive WorkerPc where
  | loop
  /-- the `select`, with the channel it reads -/
  | waiting (changed : Nat)
  | fetch
  /-- before the section that admits a message -/
  | message
  | processing
  | batch
  | returned

inductive WorkerInput where
  | next
  /-- `Fetch(1)` returns with a message or without -/
  | fetched (message : Bool)
  /-- `Fetch`, the batch or the context ends in an error -/
  | fail

inductive GateEvent (ι : Type) where
  | entered (i : ι)
  | refused (i : ι)
  | released (i : ι)
  | updated (entries : List Entry)
  | opened
  | stopRequested
deriving DecidableEq

/-- The gate as the environment of the runtime, the goroutines, and what happened. -/
structure Gated (ι : Type) where
  runtime : ResolverRuntime Gate := { env := {}, resolver := .new }
  pc : Pc := .returned (.ok ())
  worker : WorkerPc := .loop
  /-- the commands between a successful Enter and its release -/
  inside : Finset ι := ∅
  log : List (GateEvent ι) := []

namespace Gated

variable {ι : Type}

def gate (s : Gated ι) : Gate := s.runtime.env

def setGate (s : Gated ι) (g : Gate) : Gated ι := { s with runtime := { s.runtime with env := g } }

def record (s : Gated ι) (e : GateEvent ι) : Gated ι := { s with log := s.log ++ [e] }

def goto (s : Gated ι) (pc : Pc) : Gated ι := { s with pc }

def ret (s : Gated ι) (res : Except String Unit) : Gated ι := s.goto (.returned res)

def answered (s : Gated ι) (res : Except String Unit) (next : Gated ι) : Gated ι :=
  match res with
  | .error err => s.ret (.error err)
  | .ok _ => next

def require (s : Gated ι) (ok : Bool) (err : String) (pc : Pc) : Gated ι :=
  if ok then s.goto pc else s.ret (.error err)

/-! ## Commands and stop requests -/

/-- `Enter`; `cancelled` is the state of its context. -/
def enter [DecidableEq ι] (s : Gated ι) (i : ι) (cancelled : Bool) : Option (Gated ι) :=
  if i ∈ s.inside then none
  else if s.gate.held || cancelled then some (s.record (.refused i))
  else some (({ s with inside := insert i s.inside }.setGate
    { s.gate with commands := s.gate.commands + 1 }).record (.entered i))

def release [DecidableEq ι] (s : Gated ι) (i : ι) : Option (Gated ι) :=
  if i ∈ s.inside then
    some (({ s with inside := s.inside.erase i }.setGate
      { s.gate with commands := s.gate.commands - 1 }.notify).record (.released i))
  else none

def requestStop (s : Gated ι) : Gated ι :=
  (s.setGate { s.gate with stopping := true, held := true }.notify).record .stopRequested

/-! ## The controller -/

/-- The condition of the loop in `Hold`, read behind the mutex. -/
def holdLoop (s : Gated ι) : Gated ι :=
  if s.gate.busy then s.goto (.waiting s.gate.changed) else s.goto .quiesce

def call (s : Gated ι) : Operation → Gated ι
  | .hold => (s.setGate { s.gate with held := true }.notify).holdLoop
  | .stop => s.require s.runtime.held "clocksync: stop requires held admission" .stop
  | .drain =>
    s.require (s.runtime.held && s.runtime.stopped)
      "clocksync: drain requires stopped publishers" .drain
  | .configure native entries =>
    s.require (s.runtime.held && s.runtime.stopped && s.runtime.drained)
      "clocksync: configure requires stop/drain barrier" (.configure native entries)
  | .start =>
    let r := s.runtime
    if r.held && r.stopped && r.drained && r.configuredRevision != "" then
      { s with runtime := { r with stopped := false, drained := false } }.goto .start
    else s.ret (.error "clocksync: start requires held prepared configuration")
  | .verify revision =>
    { s with runtime := { s.runtime with verified := false } }.require
      (s.runtime.held && !s.runtime.stopped)
      "clocksync: verify requires held running connector" (.verify revision)
  | .resume =>
    s.require (s.runtime.held && !s.runtime.stopped && s.runtime.verified)
      "clocksync: resume requires running connector" .resume

def controller (s : Gated ι) : Pc → Input → Option (Gated ι)
  | .returned _, .call op => some (s.call op)
  -- Hold
  | .waiting changed, .next => if s.gate.changed = changed then none else some s.holdLoop
  | .waiting _, .cancel err => some (s.ret (.error err))
  | .quiesce, .answer res =>
    some (s.answered res ({ s with runtime := { s.runtime with held := true } }.ret (.ok ())))
  -- Stop
  | .stop, .answer res =>
    let s := { s with runtime := { s.runtime with lastRun := s.runtime.lastRun.stop } }
    some (s.answered res ({ s with runtime := { s.runtime with
      stopped := true, drained := false, verified := false } }.ret (.ok ())))
  -- Drain
  | .drain, .next => some ((s.setGate { s.gate with draining := true }.notify).goto .info)
  | .info, .info (.error err) => some (s.goto (.undrain (.error err)))
  | .info, .info (.ok empty) => some (s.goto (.idle empty))
  | .idle empty, .next =>
    some (s.goto (if empty && s.gate.active = 0 then .undrain (.ok ()) else .tick))
  | .tick, .next => some (s.goto .info)
  | .tick, .cancel err => some (s.goto (.undrain (.error err)))
  | .undrain res, .next =>
    let s := s.setGate { s.gate with draining := false }.notify
    some (s.answered res ({ s with runtime := { s.runtime with drained := true } }.ret (.ok ())))
  -- Configure
  | .configure native entries, .answer res =>
    let s := { s with runtime := { s.runtime with lastRun := .configure native res } }
    some (s.answered res (s.goto (.update native entries)))
  | .update native entries, .next =>
    some (({ s with runtime := { s.runtime with
      resolver := s.runtime.resolver.update entries
      configuredRevision := native.revision
      verified := false } }.record (.updated entries)).ret (.ok ()))
  -- Start
  | .start, .answer res =>
    some ({ s with runtime := { s.runtime with lastRun := s.runtime.lastRun.start res } }.ret res)
  -- Verify
  | .verify _, .revision (.error err) => some (s.ret (.error err))
  | .verify revision, .revision (.ok got) =>
    let lastRun := { s.runtime.lastRun with observed := some got }
    if got == revision && revision == s.runtime.configuredRevision then
      some ({ s with runtime := { s.runtime with verified := true, lastRun } }.ret (.ok ()))
    else some ({ s with runtime := { s.runtime with lastRun } }.ret
      (.error "clocksync: running connector revision mismatch"))
  -- Resume
  | .resume, .next => some (s.require (!s.gate.stopping) "gateway shutdown requested" .activate)
  | .activate, .answer res => some (s.answered res (s.goto .request))
  | .request, .paused (.error err) => some (s.ret (.error err))
  | .request, .paused (.ok paused) =>
    some (s.require (!paused) "producer resume unconfirmed" .confirm)
  | .confirm, .next => some (s.require (!s.gate.stopping) "gateway shutdown requested" .commit)
  | .commit, .answer res => some (s.answered res (s.goto .reopen))
  | .reopen, .next =>
    if s.gate.stopping then some (s.ret (.error "gateway shutdown requested"))
    else some (((s.setGate { s.gate with held := false }.notify).record .opened).goto .resumed)
  | .resumed, .next =>
    some ({ s with runtime := { s.runtime with held := false } }.ret (.ok ()))
  | _, _ => none

/-! ## The worker loop -/

/-- One step of `Run`. -/
def work (s : Gated ι) : WorkerPc → WorkerInput → Option (Gated ι)
  | .loop, .next =>
    some { s with worker := if s.gate.allowed then .fetch else .waiting s.gate.changed }
  | .waiting changed, .next =>
    if s.gate.changed = changed then none else some { s with worker := .loop }
  | .waiting _, .fail => some { s with worker := .returned }
  | .fetch, .fetched message => some { s with worker := if message then .message else .batch }
  | .fetch, .fail => some { s with worker := .returned }
  | .message, .next =>
    if s.gate.allowed then
      some ({ s with worker := .processing }.setGate { s.gate with active := s.gate.active + 1 })
    else some { s with worker := .batch }
  | .processing, .next =>
    some ({ s with worker := .batch }.setGate { s.gate with active := s.gate.active - 1 }.notify)
  | .batch, .next => some { s with worker := .loop }
  | .batch, .fail => some { s with worker := .returned }
  | _, _ => none

/-! ## Runs -/

inductive Action (ι : Type) where
  | enter (i : ι) (cancelled : Bool)
  | release (i : ι)
  | requestStop
  | controller (input : Input)
  | work (input : WorkerInput)

variable [DecidableEq ι]

def step (s : Gated ι) : Action ι → Option (Gated ι)
  | .enter i cancelled => s.enter i cancelled
  | .release i => s.release i
  | .requestStop => some s.requestStop
  | .controller input => s.controller s.pc input
  | .work input => s.work s.worker input

abbrev Steps (s : Gated ι) (a : Action ι) (t : Gated ι) : Prop := s.step a = some t

/-! ## What a step changes -/

section Quiet

omit [DecidableEq ι]

def barred (s : Gated ι) : Bool :=
  match s.pc with
  | .quiesce | .configure .. | .update .. => true
  | .resumed => false
  | _ => s.runtime.held

/-- A step that neither opens the gate nor concerns a command or the mapping.  Where it
    makes the controller barred, it has seen the gate closed and no command counted. -/
structure Quiet (s t : Gated ι) : Prop where
  log : t.log = s.log
  inside : t.inside = s.inside
  commands : t.gate.commands = s.gate.commands
  stopping : t.gate.stopping = s.gate.stopping
  held : s.gate.held = true → t.gate.held = true
  waiting : ∀ n, t.pc = .waiting n → t.gate.held = true
  barred : t.barred = true → s.barred = true ∨ (t.gate.held = true ∧ t.gate.commands ≤ 0)

variable {s t : Gated ι}

theorem barred_of_held (hpc : s.pc ≠ .resumed) (h : s.runtime.held = true) : s.barred = true := by
  unfold barred
  split
  · rfl
  · rfl
  · rfl
  · exact absurd ‹_› hpc
  · exact h

theorem Quiet.of_gate (hlog : t.log = s.log) (hinside : t.inside = s.inside)
    (hcommands : t.gate.commands = s.gate.commands) (hstopping : t.gate.stopping = s.gate.stopping)
    (hheld : t.gate.held = s.gate.held) (hwaiting : ∀ n, t.pc ≠ .waiting n)
    (hbarred : t.barred = true → s.barred = true) : Quiet s t where
  log := hlog
  inside := hinside
  commands := hcommands
  stopping := hstopping
  held h := hheld.trans h
  waiting n hpc := absurd hpc (hwaiting n)
  barred h := .inl (hbarred h)

theorem quiet_ret (hpc : s.pc ≠ .resumed) (res : Except String Unit) : Quiet s (s.ret res) :=
  .of_gate rfl rfl rfl rfl rfl nofun (barred_of_held hpc)

theorem quiet_require {pc : Pc} {ok : Bool} (err : String) (hpc : s.pc ≠ .resumed)
    (hwaiting : ∀ n, pc ≠ .waiting n)
    (hbarred : ok = true → (s.goto pc).barred = true → s.runtime.held = true) :
    Quiet s (s.require ok err pc) := by
  unfold require
  cases ok with
  | false => exact quiet_ret hpc _
  | true =>
    refine .of_gate rfl rfl rfl rfl rfl hwaiting fun h => ?_
    exact barred_of_held hpc (hbarred rfl h)

theorem quiet_answered (hs : s.pc ≠ .resumed) (res : Except String Unit) (h : Quiet s t) :
    Quiet s (s.answered res t) := by
  cases res with
  | error err => exact quiet_ret hs _
  | ok _ => exact h

theorem quiet_holdLoop (hlog : t.log = s.log) (hinside : t.inside = s.inside)
    (hcommands : t.gate.commands = s.gate.commands) (hstopping : t.gate.stopping = s.gate.stopping)
    (hheld : t.gate.held = true) (hbarred : t.runtime.held = true → s.barred = true) :
    Quiet s t.holdLoop := by
  unfold holdLoop
  split
  · exact ⟨hlog, hinside, hcommands, hstopping, fun _ => hheld, fun _ _ => hheld,
      fun h => .inl (hbarred h)⟩
  · rename_i hidle
    have hnone : t.gate.commands ≤ 0 := by
      simp only [Gate.busy, Bool.or_eq_true, decide_eq_true_eq, not_or, not_lt] at hidle
      exact hidle.2
    exact ⟨hlog, hinside, hcommands, hstopping, fun _ => hheld, nofun, fun _ => .inr ⟨hheld, hnone⟩⟩

theorem quiet_call {res : Except String Unit} (hpc : s.pc = .returned res) (op : Operation) :
    Quiet s (s.call op) := by
  have hs : s.pc ≠ .resumed := by
    rw [hpc]
    nofun
  cases op with
  | hold => exact quiet_holdLoop rfl rfl rfl rfl rfl (barred_of_held hs)
  | stop => exact quiet_require _ hs nofun fun hok _ => hok
  | drain =>
    refine quiet_require _ hs nofun fun hok _ => ?_
    simp only [Bool.and_eq_true] at hok
    exact hok.1
  | configure native entries =>
    refine quiet_require _ hs nofun fun hok _ => ?_
    simp only [Bool.and_eq_true] at hok
    exact hok.1.1
  | start =>
    simp only [call]
    split
    · exact .of_gate rfl rfl rfl rfl rfl nofun (barred_of_held hs)
    · exact quiet_ret hs _
  | verify revision =>
    simp only [call, require]
    split
    · exact .of_gate rfl rfl rfl rfl rfl nofun (barred_of_held hs)
    · exact .of_gate rfl rfl rfl rfl rfl nofun (barred_of_held hs)
  | resume => exact quiet_require _ hs nofun fun _ h => h

inductive Moves (s t : Gated ι) : Prop
  | quiet (quiet : Quiet s t)
  | updated (native : NativeClockConfig) (entries : List Entry) (pc : s.pc = .update native entries)
      (eq : t = ({ s with runtime := { s.runtime with
        resolver := s.runtime.resolver.update entries
        configuredRevision := native.revision
        verified := false } }.record (.updated entries)).ret (.ok ()))
  | opened (running : s.gate.stopping = false)
      (eq : t = ((s.setGate { s.gate with held := false }.notify).record .opened).goto .resumed)

theorem moves_of_controller {pc : Pc} {input : Input} (hpc : s.pc = pc)
    (hwaiting : ∀ n, s.pc = .waiting n → s.gate.held = true)
    (h : s.controller pc input = some t) : Moves s t := by
  by_cases hresumed : s.pc = .resumed
  · -- the flag of the runtime follows that of the gate
    rw [← hpc, hresumed] at h
    cases input with
    | next =>
      cases h
      exact .quiet (.of_gate rfl rfl rfl rfl rfl nofun nofun)
    | _ => cases h
  have hheld : s.runtime.held = true → s.barred = true := barred_of_held hresumed
  revert h
  fun_cases controller with
  | case1 =>
    rintro ⟨⟩
    exact .quiet (quiet_call hpc _)
  | case3 =>
    rintro ⟨⟩
    exact .quiet (quiet_holdLoop rfl rfl rfl rfl (hwaiting _ hpc) hheld)
  | case5 =>
    -- Hold: quiesced
    rintro ⟨⟩
    refine .quiet (quiet_answered hresumed _ (.of_gate rfl rfl rfl rfl rfl nofun fun _ => ?_))
    rw [barred, hpc]
  | case6 res | case13 res =>
    -- Stop, and the end of Drain
    rintro ⟨⟩
    cases res with
    | error err | ok _ => exact .quiet (.of_gate rfl rfl rfl rfl rfl nofun hheld)
  | case10 =>
    -- Drain: the consumer was empty or not
    rintro ⟨⟩
    split
    · exact .quiet (.of_gate rfl rfl rfl rfl rfl nofun hheld)
    · exact .quiet (.of_gate rfl rfl rfl rfl rfl nofun hheld)
  | case14 native entries res =>
    -- Configure
    rintro ⟨⟩
    have hconfigure : s.barred = true := by rw [barred, hpc]
    cases res with
    | error err | ok _ => exact .quiet (.of_gate rfl rfl rfl rfl rfl nofun fun _ => hconfigure)
  | case15 =>
    rintro ⟨⟩
    exact .updated _ _ hpc rfl
  | case20 | case23 | case24 =>
    -- Resume: `stopping` and the answer of the producer
    rintro ⟨⟩
    exact .quiet (quiet_require _ hresumed nofun fun _ h => h)
  | case21 | case25 =>
    -- Resume: the calls on the connector and the store
    rintro ⟨⟩
    exact .quiet (quiet_answered hresumed _ (.of_gate rfl rfl rfl rfl rfl nofun hheld))
  | case27 hrunning =>
    rintro ⟨⟩
    exact .opened (Bool.eq_false_of_not_eq_true hrunning) rfl
  | case28 => exact absurd hpc hresumed
  | case2 | case29 => rintro ⟨⟩
  | _ =>
    rintro ⟨⟩
    exact .quiet (.of_gate rfl rfl rfl rfl rfl nofun hheld)

theorem quiet_of_work {pc : WorkerPc} {input : WorkerInput}
    (hwaiting : ∀ n, s.pc = .waiting n → s.gate.held = true)
    (h : s.work pc input = some t) : Quiet s t := by
  revert h
  fun_cases work with
  | case2 | case12 => rintro ⟨⟩
  | _ =>
    rintro ⟨⟩
    exact ⟨rfl, rfl, rfl, rfl, id, hwaiting, .inl⟩

end Quiet

/-! ## The invariant -/

/-- Mappings change with no command inside, and nothing is let in after a stop request. -/
structure Logged (log : List (GateEvent ι)) : Prop where
  updates : ∀ pre entries post, log = pre ++ .updated entries :: post →
    ∀ i, pre.count (.entered i) = pre.count (.released i)
  closed : ∀ pre post, log = pre ++ .stopRequested :: post →
    .opened ∉ post ∧ ∀ i, .entered i ∉ post

theorem Logged.nil : Logged ([] : List (GateEvent ι)) where
  updates pre entries post h := by simp at h
  closed pre post h := by simp at h

variable {log : List (GateEvent ι)} {e : GateEvent ι}

theorem Logged.snoc (h : Logged log) (e : GateEvent ι)
    (hupdated : ∀ entries, e = .updated entries →
      ∀ i, log.count (.entered i) = log.count (.released i))
    (hopened : e = .opened → .stopRequested ∉ log)
    (hentered : ∀ i, e = .entered i → .stopRequested ∉ log) : Logged (log ++ [e]) where
  updates pre entries post hsplit := by
    rcases snoc_eq_split hsplit with ⟨-, rfl, he⟩ | ⟨post', -, hbefore⟩
    · exact hupdated entries he.symm
    · exact h.updates pre entries post' hbefore
  closed pre post hsplit := by
    rcases snoc_eq_split hsplit with ⟨rfl, -, -⟩ | ⟨post', rfl, hbefore⟩
    · exact ⟨List.not_mem_nil, fun _ => List.not_mem_nil⟩
    · have hclosed := h.closed pre post' hbefore
      have hrequested : .stopRequested ∈ log := by simp [hbefore]
      simp only [List.mem_append, List.mem_singleton]
      grind

structure Inv (s : Gated ι) : Prop where
  logged : Logged s.log
  /-- the counter counts the commands inside -/
  counted : s.gate.commands = s.inside.card
  balanced : ∀ i, s.log.count (.entered i) =
    s.log.count (.released i) + if i ∈ s.inside then 1 else 0
  requested : .stopRequested ∈ s.log → s.gate.stopping = true
  stopping : s.gate.stopping = true → s.gate.held = true
  waiting : ∀ n, s.pc = .waiting n → s.gate.held = true
  barred : s.barred = true → s.gate.held = true ∧ s.inside = ∅

theorem inv_init : Inv ({} : Gated ι) where
  logged := .nil
  counted := rfl
  balanced _ := rfl
  requested := nofun
  stopping := nofun
  waiting := nofun
  barred := nofun

variable {s t : Gated ι}

theorem Inv.not_requested (h : Inv s) (hopen : s.gate.stopping = false ∨ s.gate.held = false) :
    .stopRequested ∉ s.log := by
  grind [Inv]

theorem Inv.quiet (h : Inv s) (hq : Quiet s t) : Inv t := by
  obtain ⟨hlog, hinside, hcommands, hstopping, hheld, hwaiting, hbarred⟩ := hq
  refine ⟨hlog ▸ h.logged, ?_, ?_, ?_, ?_, hwaiting, ?_⟩
  all_goals grind [Inv, Finset.card_eq_zero]

theorem Inv.balanced_snoc (h : Inv s) (hcommand : ∀ i, e ≠ .entered i ∧ e ≠ .released i) (i : ι) :
    (s.log ++ [e]).count (.entered i) =
      (s.log ++ [e]).count (.released i) + if i ∈ s.inside then 1 else 0 := by
  grind [h.balanced i]

theorem Inv.requested_snoc (h : Inv s) (he : e ≠ .stopRequested)
    (hmem : .stopRequested ∈ s.log ++ [e]) : s.gate.stopping = true := by
  simp only [List.mem_append, List.mem_singleton] at hmem
  exact h.requested (hmem.resolve_right he.symm)

theorem Inv.record (h : Inv s) (hlogged : Logged (s.log ++ [e]))
    (hcommand : ∀ i, e ≠ .entered i ∧ e ≠ .released i) (hstop : e ≠ .stopRequested) :
    Inv (s.record e) :=
  { h with
    logged := hlogged
    balanced := h.balanced_snoc hcommand
    requested := h.requested_snoc hstop }

theorem Inv.refused (h : Inv s) (i : ι) : Inv (s.record (.refused i)) :=
  h.record (h.logged.snoc _ nofun nofun nofun) (fun _ => ⟨nofun, nofun⟩) nofun

theorem Inv.entered {i : ι} (h : Inv s) (hi : i ∉ s.inside) (hopen : s.gate.held = false) :
    Inv (({ s with inside := insert i s.inside }.setGate
      { s.gate with commands := s.gate.commands + 1 }).record (.entered i)) where
  logged := h.logged.snoc _ nofun nofun fun _ _ => h.not_requested (.inr hopen)
  counted := by
    have hcounted := h.counted
    simp only [gate, setGate, Gated.record] at hcounted ⊢
    rw [Finset.card_insert_of_notMem hi, hcounted]
    rfl
  balanced j := by
    have hbefore := h.balanced j
    simp only [setGate, Gated.record]
    grind
  requested := h.requested_snoc nofun
  stopping := h.stopping
  waiting := h.waiting
  barred hbarred := absurd (h.barred hbarred).1 (by simp [hopen])

theorem Inv.released {i : ι} (h : Inv s) (hi : i ∈ s.inside) :
    Inv (({ s with inside := s.inside.erase i }.setGate
      { s.gate with commands := s.gate.commands - 1 }.notify).record (.released i)) where
  logged := h.logged.snoc _ nofun nofun nofun
  counted := by
    have hcounted := h.counted
    have hpos := Finset.card_pos.mpr ⟨i, hi⟩
    simp only [gate, setGate, Gated.record, Gate.notify] at hcounted ⊢
    rw [Finset.card_erase_of_mem hi, hcounted]
    omega
  balanced j := by
    have hbefore := h.balanced j
    simp only [setGate, Gated.record]
    grind
  requested := h.requested_snoc nofun
  stopping := h.stopping
  waiting := h.waiting
  barred hbarred := absurd hi (by simp [(h.barred hbarred).2])

theorem Inv.requestStop (h : Inv s) : Inv s.requestStop where
  logged := h.logged.snoc _ nofun nofun nofun
  counted := h.counted
  balanced := h.balanced_snoc fun _ => ⟨nofun, nofun⟩
  requested _ := rfl
  stopping _ := rfl
  waiting _ _ := rfl
  barred hbarred := ⟨rfl, (h.barred hbarred).2⟩

theorem Inv.updated {native : NativeClockConfig} {entries : List Entry} (h : Inv s)
    (hpc : s.pc = .update native entries) : Inv (s.record (.updated entries)) := by
  have hbarred : s.barred = true := by rw [Gated.barred, hpc]
  have hnone := (h.barred hbarred).2
  refine h.record (h.logged.snoc _ (fun _ _ i => ?_) nofun nofun) (fun _ => ⟨nofun, nofun⟩) nofun
  rw [h.balanced i, hnone, if_neg (Finset.notMem_empty i), Nat.add_zero]

theorem Inv.opened (h : Inv s) (hrunning : s.gate.stopping = false) :
    Inv (((s.setGate { s.gate with held := false }.notify).record .opened).goto .resumed) where
  logged := h.logged.snoc _ nofun (fun _ => h.not_requested (.inl hrunning)) nofun
  counted := h.counted
  balanced := h.balanced_snoc fun _ => ⟨nofun, nofun⟩
  requested := h.requested_snoc nofun
  stopping hstopping := absurd (hrunning.symm.trans hstopping) Bool.false_ne_true
  waiting := nofun
  barred := nofun

theorem Inv.step {a : Action ι} (h : Inv s) (hstep : s.step a = some t) : Inv t := by
  cases a with
  | enter i cancelled =>
    simp only [Gated.step, Gated.enter] at hstep
    split_ifs at hstep with hi hrefused
    · cases hstep
      exact h.refused i
    · cases hstep
      simp only [Bool.or_eq_true, not_or, Bool.not_eq_true] at hrefused
      exact h.entered hi hrefused.1
  | release i =>
    simp only [Gated.step, Gated.release] at hstep
    split_ifs at hstep with hi
    cases hstep
    exact h.released hi
  | requestStop =>
    cases hstep
    exact h.requestStop
  | controller input =>
    cases moves_of_controller rfl h.waiting hstep with
    | quiet hquiet => exact h.quiet hquiet
    | updated native entries hpc ht =>
      rw [ht]
      have hbarred : s.barred = true := by rw [Gated.barred, hpc]
      exact (h.updated hpc).quiet (.of_gate rfl rfl rfl rfl rfl nofun fun _ => hbarred)
    | opened hrunning ht => exact ht ▸ h.opened hrunning
  | work input => exact h.quiet (quiet_of_work h.waiting hstep)

theorem inv_of_run {as : List (Action ι)} (hrun : Run Steps {} as s) : Inv s :=
  hrun.invariant inv_init fun _ _ _ => Inv.step

/-- Under every interleaving, with any failures: when a mapping is replaced, every
    command that entered has been released; and after a stop request no command enters
    and the gate is not opened again. -/
theorem commands_exclude_update {as : List (Action ι)} (hrun : Run Steps {} as s) :
    (∀ pre entries post, s.log = pre ++ .updated entries :: post →
      ∀ i, pre.count (.entered i) = pre.count (.released i)) ∧
    (∀ pre post, s.log = pre ++ .stopRequested :: post →
      s.gate.held = true ∧ .opened ∉ post ∧ ∀ i, .entered i ∉ post) := by
  have hinv := inv_of_run hrun
  refine ⟨hinv.logged.updates, fun pre post hlog => ⟨?_, hinv.logged.closed pre post hlog⟩⟩
  apply hinv.stopping
  apply hinv.requested
  rw [hlog]
  exact List.mem_append_right _ List.mem_cons_self

def replaceMapping (native : NativeClockConfig) : List Input :=
  [.answer (.ok ()), .call .stop, .answer (.ok ()), .call .drain, .next, .info (.ok true), .next,
    .next, .call (.configure native []), .answer (.ok ()), .next]

def resumeProducer (revision : String) : List Input :=
  [.call .start, .answer (.ok ()), .call (.verify revision), .revision (.ok revision),
    .call .resume, .next, .answer (.ok ()), .paused (.ok false)]

/-- A command is inside when the second mapping change begins, and the stop request comes
    while Resume waits for the producer. -/
def handover : List (Action Nat) :=
  let native : NativeClockConfig := ⟨"r", "b", 1, [], []⟩
  ([.enter 0 false, .controller (.call .hold)] : List (Action Nat)) ++
    (replaceMapping native).map Action.controller ++ (resumeProducer "r").map Action.controller ++
    ([.controller .next, .controller (.answer (.ok ())), .controller .next, .controller .next,
      .enter 7 false, .controller (.call .hold), .enter 8 false, .release 7, .controller .next] :
      List (Action Nat)) ++
    (replaceMapping native).map Action.controller ++ (resumeProducer "r").map Action.controller ++
    ([.requestStop, .controller .next, .enter 9 false] : List (Action Nat))

def handedOver : Gated Nat := (handover.foldlM step {}).getD {}

theorem commands_exclude_update_handover :
    handedOver.log = [.refused 0, .updated [], .opened, .entered 7, .refused 8, .released 7] ++
      .updated [] :: [.stopRequested, .refused 9] ∧
    ([.refused 0, .updated [], .opened, .entered 7, .refused 8, .released 7] :
      List (GateEvent Nat)).count (.entered 7) = 1 ∧
    ([.refused 0, .updated [], .opened, .entered 7, .refused 8, .released 7] :
      List (GateEvent Nat)).count (.released 7) = 1 ∧ handedOver.gate.held = true := by
  have hrun : Run Steps {} handover handedOver := Run.of_foldlM rfl
  have hlog : handedOver.log = [.refused 0, .updated [], .opened, .entered 7, .refused 8,
    .released 7] ++ .updated [] :: [.stopRequested, .refused 9] := rfl
  obtain ⟨hupdates, hclosed⟩ := commands_exclude_update hrun
  have hcount := hupdates _ _ _ hlog 7
  have hheld := (hclosed _ _ (hlog.trans (List.append_cons _ _ _))).1
  exact ⟨hlog, rfl, hcount ▸ rfl, hheld⟩

end Gated

end NexusGateway.ClockSync
