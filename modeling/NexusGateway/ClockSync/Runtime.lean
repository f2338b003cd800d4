/-
`internal/clocksync/runtime.go`: the seven operations of `ResolverRuntime`
over its adapters.

The adapters are interfaces in the source.  Here they are functions on an
arbitrary environment `E`, so that every sequence of answers is some
environment's, and their documented contracts are the law fields of
`Adapters`.  Every operation is a program whose intermediate states are
observable; its triple says what it establishes.
-/

import NexusGateway.Lib.Prog
import NexusGateway.PointList.Synced

namespace NexusGateway.Provisioning

structure NativeClock where
  clockID : String
  localID : String
  property : String
  pointLocalIDs : List String
deriving DecidableEq

structure NativeClockPoint where
  localID : String
  deviceRef : String
  unit : String
  writable : Bool
deriving DecidableEq

structure NativeClockConfig where
  revision : String
  connectorID : String
  deviceID : Int
  points : List NativeClockPoint
  clocks : List NativeClock
deriving DecidableEq

/-- `ClockSnapshot`: the raw document and what staging made of it. -/
structure ClockSnapshot where
  raw : List UInt8
  native : NativeClockConfig
  entries : List PointList.Entry
deriving DecidableEq

def ClockSnapshot.revision (s : ClockSnapshot) : String := s.native.revision

end NexusGateway.Provisioning

namespace NexusGateway.ClockSync

open Lib Lib.Prog PointList Provisioning

/-! ## Adapters -/

/-- A call to the environment: it moves, and answers a value or an error. -/
abbrev Call (E α : Type) : Type := E → Except String α × E

def Call.Keeps {E α : Type} (admitting : E → Bool) (c : Call E α) : Prop :=
  ∀ e, admitting (c e).2 = admitting e

/-- `Source`, `Admission`, `BACnetLifecycle`, the optional snapshot hook and the
    contexts, with their documented contracts. -/
structure Adapters (E : Type) where
  admitting : E → Bool
  /-- the revision loaded by the running instance -/
  loaded : E → Option String
  ctxErr : Call E Unit
  fetch : String → Call E (Option ClockSnapshot)
  /-- what `ConfigureSnapshot` does before `Configure`, where the runtime has it -/
  prepare : ClockSnapshot → Call E Unit
  /-- `Admission.Hold`, `Drain`, `Resume` -/
  gateHold : Call E Unit
  gateDrain : Call E Unit
  gateResume : Call E Unit
  /-- `BACnetLifecycle.Stop`, `Configure`, `Start`, `Revision` -/
  connectorStop : Call E Unit
  connectorConfigure : NativeClockConfig → Call E Unit
  connectorStart : Call E Unit
  connectorRevision : Call E String
  /-- Hold closes admission even when it returns an error -/
  hold_closed : ∀ e, admitting (gateHold e).2 = false
  /-- Resume opens admission, and leaves it closed when it returns an error -/
  resume_open : ∀ e, admitting (gateResume e).2 = (gateResume e).1.isOk
  /-- nothing else moves the gate -/
  ctxErr_keeps : ctxErr.Keeps admitting
  fetch_keeps : ∀ known, (fetch known).Keeps admitting
  prepare_keeps : ∀ s, (prepare s).Keeps admitting
  drain_keeps : gateDrain.Keeps admitting
  stop_keeps : connectorStop.Keeps admitting
  configure_keeps : ∀ cfg, (connectorConfigure cfg).Keeps admitting
  start_keeps : connectorStart.Keeps admitting
  revision_keeps : connectorRevision.Keeps admitting
  /-- Revision reports the revision loaded by the running instance -/
  revision_loaded : ∀ e rev, (connectorRevision e).1 = .ok rev →
    loaded (connectorRevision e).2 = some rev

/-- What the calls on the connector amount to: the configuration it was last given,
    whether it was started since, and the revision of the running instance as last
    observed since that start. -/
structure LastRun where
  configured : Option NativeClockConfig := none
  started : Bool := false
  observed : Option String := none

namespace LastRun

def stop (l : LastRun) : LastRun := { l with started := false, observed := none }

def configure (cfg : NativeClockConfig) (res : Except String Unit) : LastRun :=
  { configured := if res.isOk then some cfg else none }

def start (l : LastRun) (res : Except String Unit) : LastRun :=
  { l with started := res.isOk, observed := none }

end LastRun

/-! ## ResolverRuntime -/

/-- `ResolverRuntime` with the environment its adapters act on.  `lastRun` is not a
    field of the source: it keeps the history of the connector calls. -/
structure ResolverRuntime (E : Type) where
  env : E
  resolver : SyncedResolver
  held : Bool := false
  stopped : Bool := false
  drained : Bool := false
  configuredRevision : String := ""
  verified : Bool := false
  lastRun : LastRun := {}

namespace ResolverRuntime

variable {E α : Type} (a : Adapters E)

/-- A call on the connector; `note` says what it does to `lastRun`. -/
def connectorCall (c : Call E α) (note : LastRun → Except String α → E → LastRun) :
    Prog (ResolverRuntime E) String α :=
  act fun r => ((c r.env).1,
    { r with env := (c r.env).2, lastRun := note r.lastRun (c r.env).1 (c r.env).2 })

def call (c : Call E α) : Prog (ResolverRuntime E) String α := connectorCall c fun l _ _ => l

/-- An error unless the state meets `ok`. -/
def require (ok : ResolverRuntime E → Bool) (err : String) : Prog (ResolverRuntime E) String Unit :=
  get >>= fun r => check (ok r) err

def hold : Prog (ResolverRuntime E) String Unit := do
  call a.gateHold
  modify fun r => { r with held := true }

def stop : Prog (ResolverRuntime E) String Unit := do
  require (fun r => r.held) "clocksync: stop requires held admission"
  connectorCall a.connectorStop fun l _ _ => l.stop
  modify fun r => { r with stopped := true, drained := false, verified := false }

def drain : Prog (ResolverRuntime E) String Unit := do
  require (fun r => r.held && r.stopped) "clocksync: drain requires stopped publishers"
  call a.gateDrain
  modify fun r => { r with drained := true }

def configure (native : NativeClockConfig) (entries : List Entry) :
    Prog (ResolverRuntime E) String Unit := do
  require (fun r => r.held && r.stopped && r.drained)
    "clocksync: configure requires stop/drain barrier"
  connectorCall (a.connectorConfigure native) fun _ res _ => .configure native res
  modify fun r => { r with resolver := r.resolver.update entries }
  modify fun r => { r with configuredRevision := native.revision, verified := false }

/-- `Start`: even an unsuccessful start may have spawned a partial instance. -/
def start : Prog (ResolverRuntime E) String Unit := do
  require (fun r => r.held && r.stopped && r.drained && r.configuredRevision != "")
    "clocksync: start requires held prepared configuration"
  modify fun r => { r with stopped := false, drained := false }
  connectorCall a.connectorStart fun l res _ => l.start res

def verify (revision : String) : Prog (ResolverRuntime E) String Unit := do
  modify fun r => { r with verified := false }
  require (fun r => r.held && !r.stopped) "clocksync: verify requires held running connector"
  let got ← connectorCall a.connectorRevision fun l res e =>
    if res.isOk then { l with observed := a.loaded e } else l
  require (fun r => got == revision && revision == r.configuredRevision)
    "clocksync: running connector revision mismatch"
  modify fun r => { r with verified := true }

def resume : Prog (ResolverRuntime E) String Unit := do
  require (fun r => r.held && !r.stopped && r.verified)
    "clocksync: resume requires running connector"
  call a.gateResume
  modify fun r => { r with held := false }

/-! ## What the operations establish -/

def Closed (r : ResolverRuntime E) : Prop := a.admitting r.env = false

/-- The resolver holds the entries of `S`, and the connector was last configured
    with its native configuration. -/
structure Prepared (S : ClockSnapshot) (r : ResolverRuntime E) : Prop where
  resolver : r.resolver = SyncedResolver.new.update S.entries
  configured : r.lastRun.configured = some S.native

/-- On top of that the connector was started since, and the running instance was
    observed to have loaded the revision of `S`. -/
structure Serves (S : ClockSnapshot) (r : ResolverRuntime E) : Prop extends Prepared S r where
  started : r.lastRun.started = true
  observed : r.lastRun.observed = some S.revision

def Sound (Staged : ClockSnapshot → Prop) (r : ResolverRuntime E) : Prop :=
  a.admitting r.env = true → ∃ S, Staged S ∧ Serves S r

section Triples

variable {a : Adapters E} {Staged : ClockSnapshot → Prop} {S : ClockSnapshot}
  {r : ResolverRuntime E}

theorem Closed.sound (h : Closed a r) : Sound a Staged r := by
  intro hopen
  rw [h] at hopen
  cases hopen

theorem Closed.env {e : E} (h : Closed a r) (he : a.admitting e = a.admitting r.env) :
    Closed a { r with env := e } :=
  he.trans h

theorem Prepared.env {e : E} (h : Prepared S r) : Prepared S { r with env := e } :=
  ⟨h.resolver, h.configured⟩

theorem Serves.env {e : E} (h : Serves S r) : Serves S { r with env := e } :=
  ⟨h.toPrepared.env, h.started, h.observed⟩

theorem Sound.env {e : E} (h : Sound a Staged r) (he : a.admitting e = a.admitting r.env) :
    Sound a Staged { r with env := e } := by
  intro hopen
  obtain ⟨S, hS, hserves⟩ := h (he ▸ hopen)
  exact ⟨S, hS, hserves.env⟩

variable {I P : ResolverRuntime E → Prop}

theorem require_bind {β : Type} {ok : ResolverRuntime E → Bool} {err : String}
    {f : Unit → Prog (ResolverRuntime E) String β} {Q : ResolverRuntime E → Prop}
    {R : β → ResolverRuntime E → Prop} {F : String → ResolverRuntime E → Prop}
    (hF : ∀ r, P r → F err r) (hQ : ∀ r, P r → ok r = true → Q r)
    (hf : Triple I Q (f ()) R F) : Triple I P (require ok err >>= f) R F := by
  refine Triple.bind (Q := fun _ => Q) (Triple.get_bind fun r => ?_) fun _ => hf
  exact Triple.check (fun hok t ht => hQ t ht.2 (ht.1 ▸ hok)) fun t ht => hF t ht.2

theorem connectorCall_triple {c : Call E α} {note : LastRun → Except String α → E → LastRun}
    {Q : α → ResolverRuntime E → Prop} (hc : c.Keeps a.admitting)
    (hP : ∀ r, P r → Closed a r)
    (hQ : ∀ r x, P r → (c r.env).1 = .ok x →
      Closed a { r with env := (c r.env).2, lastRun := note r.lastRun (.ok x) (c r.env).2 } →
      Q x { r with env := (c r.env).2, lastRun := note r.lastRun (.ok x) (c r.env).2 }) :
    Triple (Sound a Staged) P (connectorCall c note) Q fun _ => Closed a := by
  refine Triple.act fun r hr => ?_
  have hclosed : a.admitting (c r.env).2 = false := (hc r.env).trans (hP r hr)
  refine ⟨Closed.sound hclosed, ?_⟩
  cases hres : (c r.env).1 with
  | error e => exact hclosed
  | ok x => exact hQ r x hr hres hclosed

theorem hold_triple : Triple (Sound a Staged) (fun _ => True) (hold a)
    (fun _ => Closed a) fun _ => Closed a := by
  refine Triple.bind (Q := fun _ => Closed a) ?_ fun _ => ?_
  · refine Triple.act fun r _ => ?_
    have hclosed : a.admitting (a.gateHold r.env).2 = false := a.hold_closed r.env
    refine ⟨Closed.sound hclosed, ?_⟩
    cases (a.gateHold r.env).1 with
    | ok _ | error _ => exact hclosed
  · exact Triple.modify fun r hr => ⟨Closed.sound hr, hr⟩

theorem stop_triple : Triple (Sound a Staged) (Closed a) (stop a)
    (fun _ => Closed a) fun _ => Closed a := by
  refine require_bind (fun _ h => h) (fun _ h _ => h) ?_
  refine Triple.bind (Q := fun _ => Closed a) ?_ fun _ => ?_
  · exact connectorCall_triple a.stop_keeps (fun _ h => h) fun _ _ _ _ hclosed => hclosed
  · exact Triple.modify fun r hr => ⟨Closed.sound hr, hr⟩

theorem drain_triple : Triple (Sound a Staged) (Closed a) (drain a)
    (fun _ => Closed a) fun _ => Closed a := by
  refine require_bind (fun _ h => h) (fun _ h _ => h) ?_
  refine Triple.bind (Q := fun _ => Closed a) ?_ fun _ => ?_
  · exact connectorCall_triple a.drain_keeps (fun _ h => h) fun _ _ _ _ hclosed => hclosed
  · exact Triple.modify fun r hr => ⟨Closed.sound hr, hr⟩

theorem configure_triple : Triple (Sound a Staged) (Closed a) (configure a S.native S.entries)
    (fun _ r => Closed a r ∧ Prepared S r) fun _ => Closed a := by
  refine require_bind (fun _ h => h) (fun _ h _ => h) ?_
  refine Triple.bind (Q := fun _ r => Closed a r ∧ r.lastRun.configured = some S.native) ?_
    fun _ => ?_
  · exact connectorCall_triple (a.configure_keeps S.native) (fun _ h => h)
      fun _ _ _ _ hclosed => ⟨hclosed, rfl⟩
  refine Triple.bind (Q := fun _ r => Closed a r ∧ Prepared S r) ?_ fun _ => ?_
  · exact Triple.modify fun r hr => ⟨Closed.sound hr.1, hr.1, ⟨rfl, hr.2⟩⟩
  · exact Triple.modify fun r hr => ⟨Closed.sound hr.1, hr.1, ⟨hr.2.resolver, hr.2.configured⟩⟩

theorem start_triple : Triple (Sound a Staged) (fun r => Closed a r ∧ Prepared S r) (start a)
    (fun _ r => Closed a r ∧ Prepared S r ∧ r.lastRun.started = true) fun _ => Closed a := by
  refine require_bind (fun _ h => h.1) (fun _ h _ => h) ?_
  refine Triple.bind (Q := fun _ r => Closed a r ∧ Prepared S r) ?_ fun _ => ?_
  · exact Triple.modify fun r hr => ⟨Closed.sound hr.1, hr.1, ⟨hr.2.resolver, hr.2.configured⟩⟩
  · exact connectorCall_triple a.start_keeps (fun _ h => h.1)
      fun r _ hr _ hclosed => ⟨hclosed, ⟨hr.2.resolver, hr.2.configured⟩, rfl⟩

theorem verify_triple : Triple (Sound a Staged)
    (fun r => Closed a r ∧ Prepared S r ∧ r.lastRun.started = true) (verify a S.revision)
    (fun _ r => Closed a r ∧ Serves S r) fun _ => Closed a := by
  refine Triple.bind (Q := fun _ r => Closed a r ∧ Prepared S r ∧ r.lastRun.started = true) ?_
    fun _ => ?_
  · exact Triple.modify fun r hr =>
      ⟨Closed.sound hr.1, hr.1, ⟨hr.2.1.resolver, hr.2.1.configured⟩, hr.2.2⟩
  refine require_bind (fun _ h => h.1) (fun _ h _ => h) ?_
  refine Triple.bind (Q := fun got r => Closed a r ∧ (got = S.revision → Serves S r)) ?_
    fun got => ?_
  · refine connectorCall_triple a.revision_keeps (fun _ h => h.1) fun r got hr hgot hclosed => ?_
    refine ⟨hclosed, fun hrev => ⟨⟨hr.2.1.resolver, hr.2.1.configured⟩, hr.2.2, ?_⟩⟩
    show a.loaded (a.connectorRevision r.env).2 = some S.revision
    rw [a.revision_loaded _ _ hgot, hrev]
  refine require_bind (Q := fun r => Closed a r ∧ Serves S r) (fun _ h => h.1)
    (fun r hr hok => ?_) ?_
  · rw [Bool.and_eq_true, beq_iff_eq] at hok
    exact ⟨hr.1, hr.2 hok.1⟩
  · exact Triple.modify fun r hr =>
      ⟨Closed.sound hr.1, hr.1, ⟨⟨hr.2.resolver, hr.2.configured⟩, hr.2.started, hr.2.observed⟩⟩

theorem resume_triple (hS : Staged S) :
    Triple (Sound a Staged) (fun r => Closed a r ∧ Serves S r) (resume a)
      (fun _ r => a.admitting r.env = true ∧ Serves S r) fun _ => Closed a := by
  refine require_bind (fun _ h => h.1) (fun _ h _ => h) ?_
  refine Triple.bind (Q := fun _ r => a.admitting r.env = true ∧ Serves S r) ?_ fun _ => ?_
  · refine Triple.act fun r hr => ?_
    refine ⟨fun _ => ⟨S, hS, hr.2.env⟩, ?_⟩
    have hopen := a.resume_open r.env
    cases hres : (a.gateResume r.env).1 with
    | ok _ =>
      rw [hres] at hopen
      exact ⟨hopen, hr.2.env⟩
    | error _ =>
      rw [hres] at hopen
      exact hopen
  · refine Triple.modify fun r hr => ?_
    have hserves : Serves S { r with held := false } :=
      ⟨⟨hr.2.resolver, hr.2.configured⟩, hr.2.started, hr.2.observed⟩
    exact ⟨fun _ => ⟨S, hS, hserves⟩, hr.1, hserves⟩

end Triples

end ResolverRuntime

end NexusGateway.ClockSync
