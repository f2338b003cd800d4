/-
`internal/egress/agent.go`: the control stream, and the loop of
`internal/pointsync/loop.go` that it wakes; `internal/retry/backoff.go`.

`Run` opens one stream after the other.  On each it sends Hello and then
answers the commands it receives, one by one, while a reporter sends the
applied revision.  A send is one step, since `sendMu` is held over it; what a
reporter sends on a stream that is over goes nowhere.  `revalidate` is the
channel that `cmd/gateway` makes: it has one slot, and a signal that finds it
full is dropped.

`runStream` returns nothing but errors, so `Run` does not get to `bo.Reset`
before its context is cancelled, which is where the model ends.
-/

import Mathlib.Algebra.Order.Ring.Int
import NexusGateway.Dispatch.Dispatcher

namespace NexusGateway.Egress

open Lib
open Dispatch (ControlCommand ControlResult)

/-- `retry.Backoff` with `Factor` 2; durations are in nanoseconds. -/
structure Backoff where
  min : Int
  max : Int
  cur : Int := 0

def Backoff.base (b : Backoff) : Int := if b.cur = 0 then b.min else b.cur

/-- `Next`, for the jitter that the random number comes to. -/
def Backoff.next (b : Backoff) (jitter : Int) : Int × Backoff :=
  let d := b.base + jitter
  let d := if d < b.min then b.min else d
  let d := if b.max < d then b.max else d
  let cur := b.base * 2
  (d, { b with cur := if b.max < cur then b.max else cur })

inductive Down where
  | command (cmd : Option ControlCommand)
  | pointListUpdate
  | unset

inductive Up where
  | hello (gatewayID : String)
  | result (r : ControlResult)
  | status (appliedRevision : String)
deriving DecidableEq

structure Config where
  gatewayID : String
  revalidates : Bool := true
  reports : Bool := true

/-- Where the goroutine of `Run` is. -/
inductive Phase where
  | idle
  | connected
  | receiving
  | executing (cmd : ControlCommand)
  | answering (result : ControlResult)
  /-- `runStream` has returned -/
  | failed
deriving DecidableEq

/-- Hello has been sent, and the stream is not over. -/
def Phase.open : Phase → Bool
  | .receiving | .executing _ | .answering _ => true
  | _ => false

/-- What was sent, received and executed on a stream. -/
structure Stream where
  ups : List Up := []
  commands : List ControlCommand := []
  executed : List (ControlCommand × ControlResult) := []

inductive Event where
  | update
  | fetch
  | waited (d : Int)

structure State where
  backoff : Backoff := ⟨1000000000, 60000000000, 0⟩
  phase : Phase := .idle
  stream : Stream := {}
  signal : Bool := false
  syncing : Bool := false
  log : List Event := []

inductive Action where
  | connect
  | hello
  | recv (down : Down)
  | execute (result : ControlResult)
  | answer
  /-- the call that `Run` is in returns an error -/
  | fail
  | wait (jitter : Int)
  | report (revision : String)
  /-- the ticker, and the `sync` that the loop starts with -/
  | tick
  | wake
  | synced

namespace State

def emit (s : State) (e : Event) : State := { s with log := s.log ++ [e] }

def send (s : State) (up : Up) : State :=
  { s with stream := { s.stream with ups := s.stream.ups ++ [up] } }

def step (cfg : Config) (s : State) : Action → Option State
  | .connect => if s.phase = .idle then some { s with phase := .connected, stream := {} } else none
  | .hello =>
    if s.phase = .connected then
      some { s.send (.hello cfg.gatewayID) with phase := .receiving }
    else none
  | .recv down =>
    if s.phase = .receiving then
      match down with
      | .command (some cmd) => some { s with
          phase := .executing cmd
          stream := { s.stream with commands := s.stream.commands ++ [cmd] } }
      | .pointListUpdate => some { s.emit .update with signal := s.signal || cfg.revalidates }
      | .command none | .unset => some s
    else none
  | .execute result =>
    match s.phase with
    | .executing cmd => some { s with
        phase := .answering result
        stream := { s.stream with executed := s.stream.executed ++ [(cmd, result)] } }
    | _ => none
  | .answer =>
    match s.phase with
    | .answering result => some { s.send (.result result) with phase := .receiving }
    | _ => none
  | .fail =>
    match s.phase with
    | .executing _ | .failed => none
    | _ => some { s with phase := .failed }
  | .wait jitter =>
    if s.phase = .failed then
      some { s.emit (.waited (s.backoff.next jitter).1) with
        backoff := (s.backoff.next jitter).2, phase := .idle }
    else none
  | .report revision =>
    if s.phase.open && cfg.reports then some (s.send (.status revision)) else none
  | .tick => if s.syncing then none else some { s.emit .fetch with syncing := true }
  | .wake =>
    if !s.syncing && s.signal then some { s.emit .fetch with signal := false, syncing := true }
    else none
  | .synced => if s.syncing then some { s with syncing := false } else none

end State

def Steps (cfg : Config) (s : State) (a : Action) (t : State) : Prop := s.step cfg a = some t

variable {cfg : Config} {s t : State} {a : Action} {as : List Action}

/-! ## The exchange on a stream -/

def Phase.running : Phase → List ControlCommand
  | .executing cmd => [cmd]
  | _ => []

/-- The results not sent yet; on a stream that is over it may be the last one. -/
def Phase.Unsent : Phase → List ControlResult → Prop
  | .receiving, unsent | .executing _, unsent => unsent = []
  | .answering r, unsent => unsent = [r]
  | _, unsent => unsent.length ≤ 1

def Up.result? : Up → Option ControlResult
  | .result r => some r
  | _ => none

namespace Stream

def results (tr : Stream) : List ControlResult := tr.ups.filterMap Up.result?

/-- Hello comes first and once. -/
def Greeted (cfg : Config) (tr : Stream) : Prop :=
  ∃ rest, tr.ups = .hello cfg.gatewayID :: rest ∧ ∀ g, .hello g ∉ rest

/-- The stream as `Run` has it in a phase. -/
structure Ok (cfg : Config) (tr : Stream) (p : Phase) : Prop where
  greeted : tr.Greeted cfg ∨ tr.ups = [] ∧ p.open = false
  fresh : p = .connected → tr = {}
  commands : tr.commands = tr.executed.map Prod.fst ++ p.running
  results : ∃ unsent, tr.executed.map Prod.snd = tr.results ++ unsent ∧ p.Unsent unsent

theorem Ok.greeted_of_open {tr : Stream} {p : Phase} (h : tr.Ok cfg p) (hp : p.open = true) :
    tr.Greeted cfg := by
  rcases h.greeted with hgreeted | ⟨-, hclosed⟩
  · exact hgreeted
  · rw [hp] at hclosed
    cases hclosed

theorem Greeted.send {tr : Stream} {up : Up} (h : tr.Greeted cfg) (hup : ∀ g, up ≠ .hello g) :
    Greeted cfg { tr with ups := tr.ups ++ [up] } := by
  obtain ⟨rest, hrest, hno⟩ := h
  refine ⟨rest ++ [up], by simp [hrest], fun g hg => ?_⟩
  rcases List.mem_append.mp hg with hg | hg
  · exact hno g hg
  · exact hup g (List.mem_singleton.mp hg).symm

end Stream

theorem stream_ok_step (h : s.stream.Ok cfg s.phase) (hstep : Steps cfg s a t) :
    t.stream.Ok cfg t.phase := by
  obtain ⟨unsent, hresults, hunsent⟩ := h.results
  have hcommands := h.commands
  cases a with
  | connect =>
    obtain ⟨-, ht⟩ := Option.ite_none_right_eq_some.mp hstep
    cases ht
    exact ⟨Or.inr ⟨rfl, rfl⟩, fun _ => rfl, rfl, [], rfl, Nat.zero_le 1⟩
  | hello =>
    obtain ⟨hphase, ht⟩ := Option.ite_none_right_eq_some.mp hstep
    cases ht
    simp only [State.send, h.fresh hphase]
    exact ⟨Or.inl ⟨[], rfl, by simp⟩, by simp, rfl, [], rfl, rfl⟩
  | recv down =>
    obtain ⟨hphase, ht⟩ := Option.ite_none_right_eq_some.mp hstep
    rw [hphase] at h hcommands hunsent
    cases hunsent
    rcases down with (_ | cmd) | _ | _
    · cases ht
      rw [hphase]
      exact h
    · cases ht
      refine ⟨Or.inl (h.greeted_of_open rfl), by simp, ?_, [], hresults, rfl⟩
      simp [hcommands, Phase.running]
    · cases ht
      simp only [State.emit, hphase]
      exact h
    · cases ht
      rw [hphase]
      exact h
  | execute result =>
    simp only [Steps, State.step] at hstep
    split at hstep
    · next cmd hphase =>
      cases hstep
      rw [hphase] at h hcommands hunsent
      cases hunsent
      refine ⟨Or.inl (h.greeted_of_open rfl), by simp, ?_, [result], ?_, rfl⟩
      · simp [hcommands, Phase.running]
      · simp [hresults, Stream.results]
    · cases hstep
  | answer =>
    simp only [Steps, State.step] at hstep
    split at hstep
    · next result hphase =>
      cases hstep
      rw [hphase] at h hcommands hunsent
      cases hunsent
      refine ⟨Or.inl ((h.greeted_of_open rfl).send (by simp)), by simp, hcommands, [], ?_, rfl⟩
      simp [State.send, hresults, Stream.results, Up.result?]
    · cases hstep
  | fail =>
    -- a stream that is over keeps what it has seen
    simp only [Steps, State.step] at hstep
    split at hstep
    · cases hstep
    · cases hstep
    · next hexecuting _ =>
      cases hstep
      have hgreeted : s.stream.Greeted cfg ∨ s.stream.ups = [] ∧ Phase.failed.open = false :=
        h.greeted.imp_right fun hnil => ⟨hnil.1, rfl⟩
      refine ⟨hgreeted, by simp, ?_, unsent, hresults, ?_⟩ <;> cases hp : s.phase <;>
        simp_all [Phase.running, Phase.Unsent]
  | wait jitter =>
    obtain ⟨hphase, ht⟩ := Option.ite_none_right_eq_some.mp hstep
    cases ht
    rw [hphase] at h
    exact ⟨h.greeted, by simp, h.commands, h.results⟩
  | report revision =>
    obtain ⟨hopen, ht⟩ := Option.ite_none_right_eq_some.mp hstep
    cases ht
    obtain ⟨hopen, -⟩ := Bool.and_eq_true_iff.mp hopen
    refine ⟨Or.inl ((h.greeted_of_open hopen).send (by simp)), ?_, hcommands, unsent, ?_, hunsent⟩
    · intro hphase
      have hphase : s.phase = .connected := hphase
      rw [hphase] at hopen
      cases hopen
    · simp [State.send, hresults, Stream.results, Up.result?]
  | tick | wake | synced =>
    simp only [Steps, State.step] at hstep
    split at hstep <;> cases hstep
    exact h

/-- On every stream: Hello comes first and only once; the commands are executed in the order
    they come, and their results sent in that order, each once; and at most one command, the
    last, is without a result. -/
theorem stream_ordered (hrun : Run (Steps cfg) {} as s) :
    (s.stream.ups = [] ∨ s.stream.Greeted cfg) ∧
      s.stream.executed.map Prod.fst <+: s.stream.commands ∧
      s.stream.results <+: s.stream.executed.map Prod.snd ∧
      s.stream.commands.length ≤ s.stream.results.length + 1 := by
  have hinit : Stream.Ok cfg {} .idle :=
    ⟨Or.inr ⟨rfl, rfl⟩, by simp, rfl, [], rfl, by simp [Phase.Unsent]⟩
  have h : s.stream.Ok cfg s.phase := hrun.invariant (I := fun s => s.stream.Ok cfg s.phase) hinit
    fun _ _ _ h hstep => stream_ok_step h hstep
  obtain ⟨unsent, hresults, hunsent⟩ := h.results
  refine ⟨?_, ⟨_, h.commands.symm⟩, ⟨unsent, hresults.symm⟩, ?_⟩
  · rcases h.greeted with hgreeted | ⟨hnil, -⟩
    · exact Or.inr hgreeted
    · exact Or.inl hnil
  · have hlength := congrArg List.length hresults
    rw [h.commands]
    simp only [List.length_append, List.length_map] at hlength ⊢
    cases hp : s.phase <;> rw [hp] at hunsent <;>
      simp only [Phase.Unsent, Phase.running] at hunsent ⊢ <;> simp_all

/-- Two commands with a report between them, and the end of the stream before the second is
    answered. -/
def twoCommands : List Action :=
  [.connect, .hello, .recv (.command (some ⟨"c", "p", 0, 0⟩)), .report "r",
    .execute ⟨"c", true, ""⟩, .answer, .recv (.command (some ⟨"d", "p", 1, 0⟩)),
    .execute ⟨"d", false, "timeout"⟩, .fail]

theorem stream_ordered_unanswered : ∃ s, Run (Steps ⟨"gw", true, true⟩) {} twoCommands s ∧
    s.stream.ups = [.hello "gw", .status "r", .result ⟨"c", true, ""⟩] ∧
      s.stream.executed.map Prod.snd = [⟨"c", true, ""⟩, ⟨"d", false, "timeout"⟩] ∧
      s.stream.results <+: s.stream.executed.map Prod.snd ∧
      s.stream.commands.length ≤ s.stream.results.length + 1 := by
  obtain ⟨s, hrun, hups, hexecuted⟩ : ∃ s, Run (Steps ⟨"gw", true, true⟩) {} twoCommands s ∧
      s.stream.ups = [.hello "gw", .status "r", .result ⟨"c", true, ""⟩] ∧
      s.stream.executed.map Prod.snd = [⟨"c", true, ""⟩, ⟨"d", false, "timeout"⟩] :=
    ⟨_, Run.of_foldlM rfl, rfl, rfl⟩
  exact ⟨s, hrun, hups, hexecuted, (stream_ordered hrun).2.2⟩

/-! ## Signals and waits -/

/-- What a step does apart from the stream. -/
inductive Effect (cfg : Config) (s : State) (a : Action) (t : State) : Prop
  | none (hlog : t.log = s.log) (hsignal : t.signal = s.signal) (hbackoff : t.backoff = s.backoff)
  | update (hlog : t.log = s.log ++ [.update]) (hsignal : t.signal = (s.signal || cfg.revalidates))
      (hbackoff : t.backoff = s.backoff)
  | fetch (hlog : t.log = s.log ++ [.fetch]) (hbackoff : t.backoff = s.backoff)
  | wait (jitter : Int) (haction : a = .wait jitter)
      (hlog : t.log = s.log ++ [.waited (s.backoff.next jitter).1]) (hsignal : t.signal = s.signal)
      (hbackoff : t.backoff = (s.backoff.next jitter).2)

theorem effect_of_step (hstep : Steps cfg s a t) : Effect cfg s a t := by
  cases a with
  | recv down =>
    obtain ⟨-, ht⟩ := Option.ite_none_right_eq_some.mp hstep
    rcases down with (_ | cmd) | _ | _ <;> cases ht
    · exact .none rfl rfl rfl
    · exact .none rfl rfl rfl
    · exact .update rfl rfl rfl
    · exact .none rfl rfl rfl
  | wait jitter =>
    obtain ⟨-, ht⟩ := Option.ite_none_right_eq_some.mp hstep
    cases ht
    exact .wait jitter rfl rfl rfl rfl
  | tick | wake =>
    simp only [Steps, State.step] at hstep
    split at hstep <;> cases hstep
    exact .fetch rfl rfl
  | connect | hello | report revision | synced | execute result | answer | fail =>
    simp only [Steps, State.step] at hstep
    split at hstep <;> cases hstep
    exact .none rfl rfl rfl

/-- After every update a fetch has begun, or the signal is in the channel. -/
def Signalled (s : State) : Prop :=
  ∀ pre post, s.log = pre ++ .update :: post → s.signal = true ∨ .fetch ∈ post

theorem signalled_step (hcfg : cfg.revalidates = true) (h : Signalled s)
    (hstep : Steps cfg s a t) : Signalled t := by
  intro pre post hsplit
  cases effect_of_step hstep with
  | none hlog hsignal =>
    rw [hlog] at hsplit
    rw [hsignal]
    exact h pre post hsplit
  -- a signal that is dropped found another in the slot
  | update hlog hsignal => exact Or.inl (by simp [hsignal, hcfg])
  | fetch hlog =>
    rw [hlog] at hsplit
    rcases snoc_eq_split hsplit with ⟨-, -, he⟩ | ⟨post', rfl, -⟩
    · cases he
    · exact Or.inr (by simp)
  | wait jitter _ hlog hsignal =>
    rw [hlog] at hsplit
    rcases snoc_eq_split hsplit with ⟨-, -, he⟩ | ⟨post', rfl, hbefore⟩
    · cases he
    · rw [hsignal]
      exact (h pre post' hbefore).imp_right (List.mem_append_left _)

/-- No update of the Point List is lost: after each one the loop has begun a fetch, or the
    signal for it is still in the channel. -/
theorem no_update_lost (hcfg : cfg.revalidates = true) (hrun : Run (Steps cfg) {} as s) :
    ∀ pre post, s.log = pre ++ .update :: post → s.signal = true ∨ .fetch ∈ post :=
  hrun.invariant (I := Signalled) (by simp [Signalled]) fun _ _ _ => signalled_step hcfg

/-- An update that is fetched, and two more during the fetch: the last finds the slot full. -/
def threeUpdates : List Action :=
  [.connect, .hello, .recv .pointListUpdate, .wake, .recv .pointListUpdate, .recv .pointListUpdate]

theorem no_update_lost_full : ∃ s, Run (Steps ⟨"gw", true, true⟩) {} threeUpdates s ∧
    s.log = [.update, .fetch, .update, .update] ∧ s.signal = true := by
  obtain ⟨s, hrun, hlog⟩ : ∃ s, Run (Steps ⟨"gw", true, true⟩) {} threeUpdates s ∧
      s.log = [.update, .fetch, .update, .update] := ⟨_, Run.of_foldlM rfl, rfl⟩
  have hlast := no_update_lost rfl hrun [.update, .fetch, .update] [] hlog
  exact ⟨s, hrun, hlog, hlast.resolve_right (by simp)⟩

def waits (log : List Event) : Nat := log.countP fun e => e matches .waited _

/-- `2^k` seconds, up to a minute. -/
def delay (k : Nat) : Int := min (1000000000 * 2 ^ k) 60000000000

/-- The jitter is at most a fifth of the base. -/
def Jitters (s : State) : Action → Prop
  | .wait jitter => -s.backoff.base ≤ 5 * jitter ∧ 5 * jitter ≤ s.backoff.base
  | _ => True

/-- A wait after `k` others is at least four fifths of their delay. -/
def WaitedLong (pre : List Event) (e : Event) : Prop :=
  ∀ d, e = .waited d → 4 * delay (waits pre) ≤ 5 * d ∧ d ≤ 60000000000

structure Waited (s : State) : Prop where
  min : s.backoff.min = 1000000000
  max : s.backoff.max = 60000000000
  base : s.backoff.base = delay (waits s.log)
  log : EachAfter WaitedLong s.log

theorem one_le_delay (k : Nat) : 1 ≤ delay k := by
  have hpow : (0 : Int) < 2 ^ k := Int.pow_pos (by decide)
  rw [delay]
  omega

theorem delay_succ (k : Nat) :
    delay (k + 1) = if 60000000000 < delay k * 2 then 60000000000 else delay k * 2 := by
  simp only [delay, pow_succ]
  omega

theorem waited_step (h : Waited s) (hstep : Meeting (Steps cfg) Jitters s a t) : Waited t := by
  obtain ⟨hmin, hmax, hbase, heach⟩ := h
  obtain ⟨hstep, hj⟩ := hstep
  cases effect_of_step hstep with
  | none hlog _ hbackoff =>
    rw [← hlog] at hbase heach
    rw [← hbackoff] at hmin hmax hbase
    exact ⟨hmin, hmax, hbase, heach⟩
  | update hlog _ hbackoff | fetch hlog hbackoff =>
    rw [← hbackoff] at hmin hmax hbase
    refine ⟨hmin, hmax, ?_, ?_⟩
    · rw [hbase, hlog, waits, waits, List.countP_append]
      rfl
    · rw [hlog]
      exact heach.snoc (by simp [WaitedLong])
  | wait jitter haction hlog _ hbackoff =>
    subst haction
    obtain ⟨hlo, hhi⟩ := hj
    have hnext : waits t.log = waits s.log + 1 := by simp [hlog, waits]
    have hone : 1 ≤ delay (waits s.log) := one_le_delay _
    have hle : delay (waits s.log) ≤ 60000000000 := min_le_right ..
    refine ⟨?_, ?_, ?_, ?_⟩
    · rw [hbackoff, ← hmin]
      rfl
    · rw [hbackoff, ← hmax]
      rfl
    · -- the base has doubled, and is not the zero that stands for the minimum
      rw [hnext, delay_succ, hbackoff]
      simp only [Backoff.next, Backoff.base, hmax] at hbase ⊢
      rw [hbase, if_neg]
      split <;> omega
    · rw [hlog]
      refine heach.snoc fun d hd => ?_
      cases hd
      rw [hbase] at hlo hhi
      simp only [Backoff.next, hbase, hmin, hmax]
      split <;> split <;> omega

/-- `Run` never shortens its waits again, however long the streams in between lasted: the one
    after `k` others is at least four fifths of `2^k` seconds, and of a minute in the end. -/
theorem waits_never_shorten (hrun : Run (Meeting (Steps cfg) Jitters) {} as s) :
    EachAfter WaitedLong s.log :=
  (hrun.invariant (I := Waited) ⟨rfl, rfl, rfl, eachAfter_nil⟩ fun _ _ _ => waited_step).log

/-- The stream between the two waits has lasted long enough for an update. -/
theorem waits_never_shorten_second :
    ∃ s, Run (Meeting (Steps ⟨"gw", true, true⟩) Jitters) {}
        [.fail, .wait (-100000000), .connect, .hello, .recv .pointListUpdate, .fail,
          .wait (-400000000)] s ∧
      s.log = [.waited 1000000000, .update, .waited 1600000000] ∧ EachAfter WaitedLong s.log := by
  have hrun : Run (Meeting (Steps ⟨"gw", true, true⟩) Jitters) {}
      [.fail, .wait (-100000000), .connect, .hello, .recv .pointListUpdate, .fail,
        .wait (-400000000)] _ :=
    .cons ⟨rfl, trivial⟩ <| .cons ⟨rfl, by decide, by decide⟩ <| .cons ⟨rfl, trivial⟩ <|
      .cons ⟨rfl, trivial⟩ <| .cons ⟨rfl, trivial⟩ <| .cons ⟨rfl, trivial⟩ <|
      Run.single ⟨rfl, by decide, by decide⟩
  exact ⟨_, hrun, rfl, waits_never_shorten hrun⟩

end NexusGateway.Egress
