/-
`ManagedRuntime`: a producer that its owning Core pauses and resumes, with
the `Handler` of its commands behind it.

A step is what one task does between two awaits: tasks of `control` and
`command` are made by messages, any number of them, and the task of `run`
is there from the start.  The lock is an owner; a task that waits for it
may take it whenever it is free, in any order.  `quiesce` clears `active`
without the lock and computes its reply when it gives the lock back, so
that nothing polls or writes then; `active` is set with the lock only.

The log holds what the outside sees.  `quiet` reads off it that the last
word was a quiesce reply with `paused`, and `quiesced_silent` says what
does not happen then.
-/

import NexusGateway.Connector.Bacnet.WriteHandler

namespace NexusGateway.Connector.Bacnet.Managed

open Lib Lib.Json

/-- What the runtime is configured with, its handler's part included. -/
structure Settings extends HandlerConfig where
  managedSession : String
  nativeHash : String
  defaultWritePriority := 8

/-! ## Requests and replies -/

inductive Request where
  | quiesce
  | resume
  | status

/-- The checks of `control`, on what `json.loads` returns; `none` is an exception that it
    answers with `invalid_runtime_request`. -/
def request (cfg : Settings) : Option Json → Option Request
  | some (.obj ms) =>
    if !isStr cfg.managedSession (get? ms "session") then none
    else if isStr "quiesce" (get? ms "action") then some .quiesce
    else if isStr "resume" (get? ms "action") then
      if isStr cfg.config.clockRevision (get? ms "revision") &&
          isStr cfg.nativeHash (get? ms "native_sha256") then
        some .resume
      else none
    else if isStr "status" (get? ms "action") then some .status
    else none
  | _ => none

structure Receipt where
  capability : String := "clock-runtime/1"
  session : String
  revision : String
  nativeSHA256 : String
  paused : Bool

inductive Reply where
  | receipt (r : Receipt)
  | invalid

/-! ## Tasks -/

inductive Owner where
  | run
  | task (i : Nat)
deriving DecidableEq

/-- Where a task of `control` or `command` waits. -/
inductive Phase (β : Type) where
  | quiesceLock
  | flushing
  | resumeLock (message : Option Json)
  | replying (reply : Reply)
  | commandLock (cmd : Option (ControlCommand β))
  | refusing
  | writing
  | responding
  | done

/-- Where the task of `run` waits: at the loop's head, for `wake`, for the lock, in a
    poll, for the next turn, in the close of the client. -/
inductive RunPhase where
  | head
  | waiting (woken : Bool)
  | locking
  | polling
  | pausing
  | closing
  | done
deriving DecidableEq

@[grind] def Phase.holds {β : Type} : Phase β → Bool
  | .flushing | .refusing | .writing | .responding => true
  | _ => false

@[grind] def Phase.handles {β : Type} : Phase β → Bool
  | .writing | .responding => true
  | _ => false

/-- `wake.set()`. -/
def RunPhase.wake : RunPhase → RunPhase
  | .waiting _ => .waiting true
  | phase => phase

@[grind =] theorem RunPhase.wake_eq_polling {phase : RunPhase} :
    phase.wake = .polling ↔ phase = .polling := by
  cases phase <;> simp [wake]

inductive Event (β : Type) where
  | quiescing
  | quiesced (r : Receipt)
  | resumed (message : Option Json)
  | pollStarted
  | published
  | pollEnded
  | refused
  | wrote (w : Write β)
  | stopped

structure State (β : Type) where
  active : Bool := false
  wake : Bool := false
  lock : Option Owner := none
  tasks : List (Phase β) := []
  run : RunPhase := .head
  stop : Bool := false
  handler : Handler β := {}
  log : List (Event β) := []

inductive Action (β : Type) where
  | control (message : Option Json)
  | command (cmd : Option (ControlCommand β))
  | stop
  | acquire (i : Nat)
  | flushed (i : Nat) (ok : Bool)
  | written (i : Nat) (outcome : WriteOutcome)
  | responded (i : Nat)
  | loop
  | woke
  | wakeTimeout
  | runAcquire
  | publish
  | polled (ok : Bool)
  | intervalOver
  | closed

section Step

variable {β : Type} (cfg : Settings)

def State.receipt (s : State β) : Receipt where
  session := cfg.managedSession
  revision := cfg.config.clockRevision
  nativeSHA256 := cfg.nativeHash
  paused := !s.active

/-- `control` up to its first await. -/
def State.control (s : State β) (message : Option Json) : State β :=
  match request cfg message with
  | none => { s with tasks := s.tasks ++ [.replying .invalid] }
  | some .status => { s with tasks := s.tasks ++ [.replying (.receipt (s.receipt cfg))] }
  | some .quiesce =>
    { s with
      active := false
      wake := false
      tasks := s.tasks ++ [.quiesceLock]
      log := s.log ++ [.quiescing] }
  | some .resume => { s with tasks := s.tasks ++ [.resumeLock message] }

/-- `handle` up to its first await, with the lock, so that no other call of it is under way. -/
def State.handled (s : State β) (i : Nat) (handler : Handler β) : State β :=
  match handler.inFlight with
  | [] => { s with
      lock := some (.task i)
      handler := handler
      tasks := s.tasks.set i .responding }
  | w :: _ => { s with
      lock := some (.task i)
      handler := handler
      tasks := s.tasks.set i .writing
      log := s.log ++ [.wrote w] }

def State.acquire (s : State β) (i : Nat) : Phase β → Option (State β)
  | .quiesceLock => some { s with lock := some (.task i), tasks := s.tasks.set i .flushing }
  | .resumeLock message =>
    -- the lock is given back in the same stretch
    let s' := { s with active := true, wake := true, run := s.run.wake }
    some { s' with
      tasks := s.tasks.set i (.replying (.receipt (s'.receipt cfg)))
      log := s.log ++ [.resumed message] }
  | .commandLock cmd =>
    if !s.active then
      some { s with
        lock := some (.task i)
        tasks := s.tasks.set i .refusing
        log := s.log ++ [.refused] }
    else
      some (s.handled i (s.handler.deliver cfg.toHandlerConfig cmd))
  | _ => none

def State.resumeTask (s : State β) (i : Nat) : Phase β → Action β → Option (State β)
  | .flushing, .flushed _ true =>
    some { s with
      lock := none
      tasks := s.tasks.set i (.replying (.receipt (s.receipt cfg)))
      log := s.log ++ [.quiesced (s.receipt cfg)] }
  | .flushing, .flushed _ false => some { s with lock := none, tasks := s.tasks.set i .done }
  | .writing, .written _ outcome =>
    (s.handler.step cfg.toHandlerConfig (.resume 0 outcome)).map fun handler =>
      { s with handler := handler, tasks := s.tasks.set i .responding }
  | .replying _, .responded _ => some { s with tasks := s.tasks.set i .done }
  | .refusing, .responded _ => some { s with lock := none, tasks := s.tasks.set i .done }
  | .responding, .responded _ => some { s with lock := none, tasks := s.tasks.set i .done }
  | _, _ => none

def State.finish (s : State β) : State β :=
  { s with active := false, run := .closing, log := s.log ++ [.stopped] }

def State.runStep (s : State β) : RunPhase → Action β → Option (State β)
  | .head, .loop =>
    if s.stop then some s.finish else some { s with run := .waiting s.wake }
  | .waiting true, .woke => some { s with run := .locking }
  | .waiting _, .wakeTimeout => some { s with run := .head }
  | .locking, .runAcquire =>
    if s.lock.isSome then none
    else if s.active then
      some { s with lock := some .run, run := .polling, log := s.log ++ [.pollStarted] }
    else some { s with run := .pausing }
  | .polling, .publish => some { s with log := s.log ++ [.published] }
  | .polling, .polled true =>
    some { s with lock := none, run := .pausing, log := s.log ++ [.pollEnded] }
  | .polling, .polled false =>
    some (State.finish { s with lock := none, log := s.log ++ [.pollEnded] })
  | .pausing, .intervalOver => some { s with run := .head }
  | .closing, .closed => some { s with run := .done }
  | _, _ => none

def State.step (s : State β) : Action β → Option (State β)
  | .control message => some (s.control cfg message)
  | .command cmd => some { s with tasks := s.tasks ++ [.commandLock cmd] }
  | .stop => some { s with stop := true }
  | .acquire i => if s.lock.isSome then none else s.tasks[i]?.bind (s.acquire cfg i)
  | .flushed i ok => s.tasks[i]?.bind fun phase => s.resumeTask cfg i phase (.flushed i ok)
  | .written i outcome =>
    s.tasks[i]?.bind fun phase => s.resumeTask cfg i phase (.written i outcome)
  | .responded i => s.tasks[i]?.bind fun phase => s.resumeTask cfg i phase (.responded i)
  | a => s.runStep s.run a

def Steps (s : State β) (a : Action β) (t : State β) : Prop := s.step cfg a = some t

end Step

/-! ## Silence -/

section Silence

variable {β : Type} {cfg : Settings}

def Accepts (cfg : Settings) (message : Option Json) : Prop :=
  ∃ ms, message = some (.obj ms) ∧ isStr cfg.managedSession (get? ms "session") = true ∧
    isStr "resume" (get? ms "action") = true ∧
    isStr cfg.config.clockRevision (get? ms "revision") = true ∧
    isStr cfg.nativeHash (get? ms "native_sha256") = true

theorem accepts_of_request {message : Option Json} (h : request cfg message = some .resume) :
    Accepts cfg message := by
  revert h
  fun_cases request with
  | case3 ms hsession hquiesce haction hmatch =>
    rw [Bool.and_eq_true] at hmatch
    exact fun _ => ⟨ms, rfl, by simpa using hsession, haction, hmatch.1, hmatch.2⟩
  | case1 | case2 | case4 | case5 | case6 | case7 => rintro ⟨⟩

@[grind] def Event.hush : Event β → Bool → Bool
  | .quiesced r, q => q || r.paused
  | .resumed _, _ => false
  | _, q => q

/-- The log ends in silence: a quiesce reply with `paused` and no resume since. -/
def quiet (log : List (Event β)) : Bool := log.foldl (fun q e => e.hush q) false

@[grind =] theorem quiet_snoc (log : List (Event β)) (e : Event β) :
    quiet (log ++ [e]) = e.hush (quiet log) := by
  simp [quiet]

def Admissible (cfg : Settings) (log : List (Event β)) : Event β → Prop
  | .pollStarted | .published | .wrote _ => quiet log = false
  | .resumed message => Accepts cfg message
  | _ => True

/-! ## Who sets `active` -/

@[grind] def Event.switch : Event β → Bool → Bool
  | .resumed _, _ => true
  | .quiescing, _ => false
  | .stopped, _ => false
  | _, b => b

def activeOf (log : List (Event β)) : Bool := log.foldl (fun b e => e.switch b) false

@[grind =] theorem activeOf_snoc (log : List (Event β)) (e : Event β) :
    activeOf (log ++ [e]) = e.switch (activeOf log) := by
  simp [activeOf]

/-! ## The invariant -/

structure Inv (cfg : Settings) (s : State β) : Prop where
  /-- a task inside the lock has it -/
  holds : ∀ (i : Nat) (phase : Phase β), s.tasks[i]? = some phase → phase.holds = true →
    s.lock = some (.task i)
  handles : quiet s.log = true → ∀ (i : Nat) (phase : Phase β), s.tasks[i]? = some phase →
    phase.handles = false
  accepted : ∀ (i : Nat) message, s.tasks[i]? = some (.resumeLock message) → Accepts cfg message
  polling : s.run = .polling → s.lock = some .run
  silent : quiet s.log = true → s.run ≠ .polling
  active : quiet s.log = true → s.active = false
  switched : s.active = activeOf s.log
  log : EachAfter (Admissible cfg) s.log

theorem holds_of_handles {phase : Phase β} (h : phase.handles = true) : phase.holds = true := by
  cases phase <;> first | rfl | cases h

theorem inv_init : Inv cfg ({} : State β) := by
  constructor <;> simp [quiet, activeOf, eachAfter_nil]

variable {s t : State β} {i : Nat} {phase : Phase β} {a : Action β}

theorem Inv.control (h : Inv cfg s) (message : Option Json) : Inv cfg (s.control cfg message) := by
  fun_cases State.control with
  | case1 | case2 => constructor <;> grind -linarith [Inv]
  | case3 hquiesce =>
    refine ⟨?_, ?_, ?_, h.polling, ?_, ?_, ?_, h.log.snoc trivial⟩
    all_goals grind -linarith [Inv]
  | case4 hresume =>
    have haccepts := accepts_of_request hresume
    constructor <;> grind -linarith [Inv]

theorem Inv.acquire (h : Inv cfg s) (hfree : s.lock = none) (hi : s.tasks[i]? = some phase)
    (hstep : s.acquire cfg i phase = some t) : Inv cfg t := by
  revert hstep
  fun_cases State.acquire with
  | case1 =>
    -- quiesce has the lock
    rintro ⟨⟩
    constructor <;> grind -linarith [Inv]
  | case2 message =>
    -- resume has it, and gives it back
    rintro ⟨⟩
    have haccepts := h.accepted i message hi
    refine ⟨?_, ?_, ?_, ?_, ?_, ?_, ?_, h.log.snoc haccepts⟩
    all_goals grind -linarith [Inv]
  | case3 cmd hactive =>
    -- a command is refused
    rintro ⟨⟩
    refine ⟨?_, ?_, ?_, ?_, ?_, ?_, ?_, h.log.snoc trivial⟩
    all_goals grind -linarith [Inv]
  | case4 cmd hactive =>
    -- a command is handled
    rintro ⟨⟩
    have hloud : quiet s.log = false := by grind -linarith [Inv]
    fun_cases State.handled with
    | case1 => constructor <;> grind -linarith [Inv]
    | case2 w =>
      refine ⟨?_, ?_, ?_, ?_, ?_, ?_, ?_, h.log.snoc hloud⟩
      all_goals grind -linarith [Inv]
  | case5 => rintro ⟨⟩

/-- A task goes on; the lock stays as it is, or the task gives it back. -/
theorem Inv.moved (h : Inv cfg s) (hi : s.tasks[i]? = some phase) {next : Phase β}
    {lock : Option Owner} {handler : Handler β} (hnext : next.holds = true → lock = some (.task i))
    (hhandles : next.handles = true → phase.handles = true)
    (hresume : ∀ message, next ≠ .resumeLock message)
    (hlock : lock = s.lock ∨ lock = none ∧ s.lock = some (.task i)) :
    Inv cfg { s with lock := lock, handler := handler, tasks := s.tasks.set i next } := by
  refine ⟨?_, ?_, ?_, ?_, h.silent, h.active, h.switched, h.log⟩
  all_goals grind -linarith [Inv]

theorem Inv.resumeTask (h : Inv cfg s) (hi : s.tasks[i]? = some phase)
    (hstep : s.resumeTask cfg i phase a = some t) : Inv cfg t := by
  have hown := h.holds i phase hi
  revert hstep
  fun_cases State.resumeTask with
  | case1 =>
    -- the flush is over: nothing polls or writes when the reply is computed
    rintro ⟨⟩
    refine ⟨?_, ?_, ?_, ?_, ?_, ?_, ?_, h.log.snoc trivial⟩
    all_goals grind -linarith [Inv, State.receipt, holds_of_handles]
  | case2 | case5 | case6 =>
    rintro ⟨⟩
    exact h.moved hi nofun nofun nofun (.inr ⟨rfl, hown rfl⟩)
  | case3 =>
    intro hstep
    obtain ⟨handler, -, rfl⟩ := Option.map_eq_some_iff.mp hstep
    exact h.moved hi (fun _ => hown rfl) (fun _ => rfl) nofun (.inl rfl)
  | case4 =>
    rintro ⟨⟩
    exact h.moved hi nofun nofun nofun (.inl rfl)
  | case7 => rintro ⟨⟩

theorem Inv.finish (h : Inv cfg s) : Inv cfg s.finish := by
  refine ⟨?_, ?_, ?_, ?_, ?_, ?_, ?_, h.log.snoc trivial⟩
  all_goals grind -linarith [Inv, State.finish]

theorem Inv.ran (h : Inv cfg s) {phase : RunPhase} (hphase : phase ≠ .polling) :
    Inv cfg { s with run := phase } := by
  constructor <;> grind -linarith [Inv]

theorem Inv.pollEnded (h : Inv cfg s) (hrun : s.run = .polling) {phase : RunPhase}
    (hphase : phase ≠ .polling) :
    Inv cfg { s with lock := none, run := phase, log := s.log ++ [.pollEnded] } := by
  refine ⟨?_, ?_, ?_, ?_, ?_, ?_, ?_, h.log.snoc trivial⟩
  all_goals grind -linarith [Inv]

theorem Inv.runStep (h : Inv cfg s) (hstep : s.runStep s.run a = some t) : Inv cfg t := by
  generalize hrun : s.run = phase at hstep
  revert hstep
  fun_cases State.runStep with
  | case1 =>
    rintro ⟨⟩
    exact h.finish
  | case2 | case3 | case4 | case7 | case11 | case12 =>
    rintro ⟨⟩
    exact h.ran nofun
  | case6 hlock hactive =>
    -- a poll starts
    rintro ⟨⟩
    have hloud : quiet s.log = false := by grind -linarith [Inv]
    refine ⟨?_, ?_, ?_, ?_, ?_, ?_, ?_, h.log.snoc hloud⟩
    all_goals grind -linarith [Inv]
  | case8 =>
    -- a value is published
    rintro ⟨⟩
    have hloud : quiet s.log = false := by grind -linarith [Inv]
    refine ⟨?_, ?_, ?_, ?_, ?_, ?_, ?_, h.log.snoc hloud⟩
    all_goals grind -linarith [Inv]
  | case9 =>
    rintro ⟨⟩
    exact h.pollEnded hrun nofun
  | case10 =>
    -- the poll fails
    rintro ⟨⟩
    exact (h.pollEnded hrun (show RunPhase.closing ≠ .polling from nofun)).finish
  | case5 | case13 => rintro ⟨⟩

theorem Inv.step (h : Inv cfg s) (hstep : s.step cfg a = some t) : Inv cfg t := by
  revert hstep
  fun_cases State.step with
  | case1 message =>
    rintro ⟨⟩
    exact h.control message
  | case2 | case3 =>
    rintro ⟨⟩
    constructor <;> grind -linarith [Inv]
  | case5 i hlock =>
    intro hstep
    obtain ⟨phase, hi, hacquire⟩ := Option.bind_eq_some_iff.mp hstep
    exact h.acquire (by simpa using hlock) hi hacquire
  | case6 | case7 | case8 =>
    -- a task goes on
    intro hstep
    obtain ⟨phase, hi, hresume⟩ := Option.bind_eq_some_iff.mp hstep
    exact h.resumeTask hi hresume
  | case9 => exact h.runStep
  | case4 => rintro ⟨⟩

theorem inv_of_run {as : List (Action β)} (hrun : Run (Steps cfg) {} as s) : Inv cfg s :=
  hrun.invariant inv_init fun _ _ _ h hstep => h.step hstep

theorem exists_resumed {log : List (Event β)} (h : activeOf log = true) :
    ∃ pre message post, log = pre ++ .resumed message :: post ∧
      Event.quiescing ∉ post ∧ Event.stopped ∉ post := by
  induction log using List.reverseRecOn with
  | nil => cases h
  | append_singleton log e ih =>
    rw [activeOf_snoc] at h
    have hkeep (hswitch : e.switch (activeOf log) = activeOf log) (hq : Event.quiescing ≠ e)
        (hs : Event.stopped ≠ e) : ∃ pre message post,
          log ++ [e] = pre ++ .resumed message :: post ∧
            Event.quiescing ∉ post ∧ Event.stopped ∉ post := by
      rw [hswitch] at h
      obtain ⟨pre, message, post, rfl, hquiescing, hstopped⟩ := ih h
      refine ⟨pre, message, post ++ [e], by simp, ?_, ?_⟩
      · simp [hquiescing, hq]
      · simp [hstopped, hs]
    cases e with
    | resumed message => exact ⟨log, message, [], rfl, by simp, by simp⟩
    | quiescing | stopped => cases h
    | quiesced r | pollStarted | published | pollEnded | refused | wrote _ =>
      exact hkeep rfl (by simp) (by simp)

/-- For every configuration and every interleaving of control, command and run tasks: while
    the last quiesce reply with `paused` has not been followed by an accepted resume, no
    poll is in progress, no command is in the handler and `active` is clear; no poll
    starts, no poll publishes and no write is executed then; only a resume with the
    session, the revision and the hash of the configuration sets `active`, and the
    runtime is active only after one that no quiesce and no stop followed. -/
theorem quiesced_silent {as : List (Action β)} (hrun : Run (Steps cfg) {} as s) :
    (quiet s.log = true → s.active = false ∧ s.run ≠ .polling ∧
      ∀ (i : Nat) (phase : Phase β), s.tasks[i]? = some phase → phase.handles = false) ∧
    EachAfter (Admissible cfg) s.log ∧
    (s.active = true → ∃ pre message post, s.log = pre ++ .resumed message :: post ∧
      Accepts cfg message ∧ Event.quiescing ∉ post ∧ Event.stopped ∉ post) := by
  have hI := inv_of_run hrun
  refine ⟨fun hquiet => ?_, hI.log, fun hactive => ?_⟩
  · exact ⟨hI.active hquiet, hI.silent hquiet,
      hI.handles hquiet⟩
  · rw [hI.switched] at hactive
    obtain ⟨pre, message, post, hsplit, hquiescing, hstopped⟩ := exists_resumed hactive
    exact ⟨pre, message, post, hsplit, hI.log pre _ post hsplit, hquiescing, hstopped⟩

end Silence

def bareSettings : Settings where
  config := { connectorID := "conn", bacnetDeviceID := 1, clockRevision := "rev" }
  managedSession := "session"
  nativeHash := "hash"

def bareRequest (action : String) : Option Json :=
  some (.obj [("session", .str "session"), ("action", .str action), ("revision", .str "rev"),
    ("native_sha256", .str "hash")])

def handover : List (Action Nat) :=
  [.control (bareRequest "resume"), .acquire 0, .loop, .woke, .runAcquire,
    .control (bareRequest "quiesce"), .publish, .polled true, .acquire 1, .flushed 1 true,
    .command none, .acquire 2]

/-- The last command of the handover is refused, in silence. -/
theorem quiesced_silent_handover :
    ∃ s : State Nat, Run (Steps bareSettings) {} handover s ∧ quiet s.log = true ∧
      s.tasks[2]?.map Phase.handles = some false ∧ s.active = false ∧ s.run ≠ .polling := by
  obtain ⟨s, hrun, hquiet, hphase⟩ : ∃ s : State Nat, Run (Steps bareSettings) {} handover s ∧
      quiet s.log = true ∧ ∃ phase, s.tasks[2]? = some phase := ⟨_, .of_foldlM rfl, rfl, _, rfl⟩
  obtain ⟨hsilent, -, -⟩ := quiesced_silent hrun
  obtain ⟨hactive, hpolling, hhandles⟩ := hsilent hquiet
  obtain ⟨phase, hi⟩ := hphase
  refine ⟨s, hrun, hquiet, ?_, hactive, hpolling⟩
  rw [hi, Option.map_some, hhandles 2 phase hi]

end NexusGateway.Connector.Bacnet.Managed
