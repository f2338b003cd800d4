/-
`exclusive.go`: a connector that one owner has claimed.  The owner stops,
configures and starts its container; the public operations of the manager
refuse the connector.

The daemon is not modelled here: each call takes the answer it gets, any
answer whatever was asked before, so that lost responses, partly failed
starts and containers of others under the same name are all covered.  Every
operation holds the connector's lock for its whole length, except for the
look that `Watch` takes before it tries the lock; operations on the
connector therefore follow one another.

The log holds the calls to the daemon.  `Admissible` says of a call what
must stand before it, and `exclusive_ownership` that every call of every
run is so.
-/

import NexusGateway.Lib.Run
import NexusGateway.Lifecycle.Manager

namespace NexusGateway.Lifecycle

open Lib Lib.Prog Catalog

/-! ## The daemon's answers -/

def clockOwnerLabel : String := "nexus.clock.connector"

/-- `container.InspectResponse`: the embedded base with the id, `none` if it is empty,
    and whether the state says running; and the labels of the configuration.  Each
    pointer may be nil. -/
structure Inspected where
  base : Option (Option Nat × Option Bool)
  labels : Option (List (String × String))

inductive InspectAnswer where
  | notFound
  | error (msg : String)
  | info (i : Inspected)

def Inspected.ownedBy (i : Inspected) (id : String) : Bool :=
  i.base.isSome && i.labels.any fun labels => (labels.lookup clockOwnerLabel).getD "" = id

def Inspected.containerID (i : Inspected) : Option Nat := i.base.bind Prod.fst

def Inspected.state (i : Inspected) : Option Bool := i.base.bind Prod.snd

inductive Target where
  | name (name : String)
  | id (k : Nat)

/-- A call to the daemon and how it ends; a public operation with all its calls. -/
inductive OwnerEvent where
  | stopBegan
  | lookedUp (target : Target) (answer : InspectAnswer)
  | stopped (k : Nat) (ok : Bool)
  | rechecked (k : Nat) (answer : InspectAnswer)
  | removed (k : Nat) (ok : Bool)
  | created (name : String) (config : ContainerConfig) (answer : Except String (Option Nat))
  | started (k : Option Nat) (ok : Bool)
  | publicCalls (calls : List DockerCall)

/-! ## The owner -/

structure Owned where
  host : Host
  containerID : Option Nat := none
  log : List OwnerEvent := []

/-- `Claim`: the reservation is for the life of the process. -/
def claim (hasDocker : Bool) (spec : ConnectorSpec) (h : Host) : Except Err Owned :=
  if !hasDocker || spec.id = "" then
    .error (.daemon "lifecycle: managed connector needs daemon client and ID")
  else if h.reserved.contains spec.id then
    .error .managed
  else
    .ok { host :=
            { h with
              reserved := spec.id :: h.reserved
              registry := h.registry.register spec } }

structure StopAnswers where
  found : InspectAnswer
  stop : Option String
  rechecked : InspectAnswer
  remove : Option String

/-- The answers one `Start` meets; a created container may come without an id. -/
structure StartAnswers where
  create : Except String (Option Nat)
  start : Option String

namespace Exclusive

def record (e : OwnerEvent) : Prog Owned Err Unit := modify fun s => { s with log := s.log ++ [e] }

def call (event : Bool → OwnerEvent) (answer : Option String) : Prog Owned Err Unit := do
  record (event answer.isNone)
  match answer with
  | none => pure ()
  | some msg => Prog.fail (.daemon msg)

def track (k : Option Nat) : Prog Owned Err Unit := modify fun s => { s with containerID := k }

def setRunning (id : String) (k : Option Nat) (running : Bool) : Prog Owned Err Unit :=
  modify fun s => { s with host :=
    { s.host with registry := s.host.registry.setRunning id k running } }

def release (id : String) : Prog Owned Err Unit := do
  track none
  setRunning id none false

/-- The end of `Stop`: remove the container once it is seen not to run.  Without the base
    of the response `info.State` is a nil dereference. -/
def removeStopped (id : String) (k : Nat) (ans : StopAnswers) : Prog Owned Err Unit := do
  record (.rechecked k ans.rechecked)
  match ans.rechecked with
  | .notFound => Prog.fail (.daemon "No such container")
  | .error msg => Prog.fail (.daemon msg)
  | .info info => do
      check info.base.isSome
        (.daemon "runtime error: invalid memory address or nil pointer dereference")
      check (info.state == some false) (.daemon "lifecycle: producer termination unconfirmed")
      call (.removed k) ans.remove
      release id

def stop (id : String) (ans : StopAnswers) : Prog Owned Err Unit := do
  record .stopBegan
  let s ← get
  record (.lookedUp (s.containerID.elim (.name (containerName id)) .id) ans.found)
  match ans.found with
  | .notFound => release id
  | .error msg => Prog.fail (.daemon msg)
  | .info info => do
      check (info.ownedBy id) (.daemon "lifecycle: refusing unowned container")
      match info.containerID with
      | none => Prog.fail (.daemon "lifecycle: missing container identity")
      | some k => do
          track (some k)
          when (info.state == some true) (call (.stopped k) ans.stop)
          removeStopped id k ans

def configure (id : String) (spec : ConnectorSpec) : Prog Owned Err Unit := do
  let s ← get
  check (s.containerID.isNone && spec.id == id)
    (.daemon "lifecycle: configure requires stopped owned connector")
  modify fun s => { s with host := { s.host with registry := s.host.registry.register spec } }

def start (cfg : ManagerConfig) (id : String) (ans : StartAnswers) : Prog Owned Err Unit := do
  let s ← get
  check s.containerID.isNone (.daemon "lifecycle: prior container still exists")
  match s.host.registry.get id with
  | none => Prog.fail .connectorNotFound
  | some status => do
      record (.created (containerName status.spec.id)
        (Host.containerConfig cfg status.spec [(clockOwnerLabel, id)]) ans.create)
      match ans.create with
      | .error msg => Prog.fail (.daemon msg)
      | .ok k => do
          -- kept even if the start fails: a later Stop removes this very container
          track k
          setRunning id k false
          call (.started k) ans.start
          setRunning id k true

end Exclusive

/-! ## Public operations -/

/-- One connector in a tick of `Watch`, from the status it listed and what the inspect of
    the recorded container says: an error, or whether the state says running, if there is
    one.  `free` is the outcome of `tryLockConn`. -/
def Host.watch (cfg : ManagerConfig) (id : String) (listed : ConnectorStatus)
    (inspected : Except String (Option Bool)) (free : Bool) : Prog Host Err Unit :=
  when (listed.running && listed.containerID.isSome) <|
    match inspected with
    | .ok (some false) =>
      when free do
        match ← attempt (checkReserved id) with
        | .error _ => pure ()
        | .ok () => do
            Host.setRunning id none false
            Host.ignore (Host.doStart cfg id)
    | _ => pure ()

inductive OwnerAction (id : String) where
  | stop (ans : StopAnswers)
  | configure (spec : ConnectorSpec)
  | start (ans : StartAnswers)
  | publicOp (op : Op id) (answers : Answers)
  | watch (listed : ConnectorStatus) (inspected : Except String (Option Bool)) (free : Bool)
      (answers : Answers)

def Owned.performed (s : Owned) (h : Host) : Owned :=
  { s with host := h, log := s.log ++ [.publicCalls h.calls] }

def Owned.step (cfg : ManagerConfig) {id : String} (s : Owned) : OwnerAction id → Owned
  | .stop ans => (Exclusive.stop id ans s).state
  | .configure spec => (Exclusive.configure id spec s).state
  | .start ans => (Exclusive.start cfg id ans s).state
  | .publicOp op answers => s.performed (s.host.perform cfg op answers).state
  | .watch listed inspected free answers =>
    s.performed (Host.watch cfg id listed inspected free (s.host.facing answers)).state

def Owned.Steps (cfg : ManagerConfig) {id : String} (s : Owned) (a : OwnerAction id) (t : Owned) :
    Prop :=
  s.step cfg a = t

/-! ## What must stand before a call -/

def OwnerEvent.ofStop : OwnerEvent → Bool
  | .lookedUp _ _ | .stopped _ _ | .rechecked _ _ | .removed _ _ => true
  | _ => false

def Began (log : List OwnerEvent) : Prop :=
  ∃ pre post, log = pre ++ .stopBegan :: post ∧ ∀ e ∈ post, e.ofStop = true

def SinceStop (P : OwnerEvent → Prop) (log : List OwnerEvent) : Prop :=
  ∃ pre post, log = pre ++ .stopBegan :: post ∧ (∀ e ∈ post, e.ofStop = true) ∧ ∃ e ∈ post, P e

def Identified (id : String) (k : Nat) : List OwnerEvent → Prop :=
  SinceStop fun e => ∃ target info, e = .lookedUp target (.info info) ∧
    info.ownedBy id = true ∧ info.containerID = some k

def SeenStopped (k : Nat) : List OwnerEvent → Prop :=
  SinceStop fun e => ∃ info, e = .rechecked k (.info info) ∧ info.state = some false

/-- The container the owner answers for, after the event: the one it found or created
    last, unless that one was removed or is gone. -/
def OwnerEvent.tracks (id : String) : OwnerEvent → Option Nat → Option Nat
  | .lookedUp _ .notFound, _ => none
  | .lookedUp _ (.info info), t =>
    if info.ownedBy id && info.containerID.isSome then info.containerID else t
  | .created _ _ (.ok k), _ => k
  | .removed _ true, _ => none
  | _, t => t

def trackedOf (id : String) (log : List OwnerEvent) : Option Nat :=
  log.foldl (fun t e => e.tracks id t) none

@[simp] theorem trackedOf_snoc (id : String) (log : List OwnerEvent) (e : OwnerEvent) :
    trackedOf id (log ++ [e]) = e.tracks id (trackedOf id log) := by
  simp [trackedOf]

def DockerOp.mutates : DockerOp → Bool
  | .create | .start | .stop | .remove => true
  | _ => false

def Admissible (id : String) (log : List OwnerEvent) : OwnerEvent → Prop
  | .stopped k _ => Identified id k log
  | .removed k _ => Identified id k log ∧ SeenStopped k log
  | .created _ _ _ => trackedOf id log = none
  | .publicCalls calls => ∀ c ∈ calls, c.op.mutates = false
  | _ => True

section Log

variable {P : OwnerEvent → Prop} {log : List OwnerEvent} {e : OwnerEvent}

theorem began_snoc (log : List OwnerEvent) : Began (log ++ [.stopBegan]) :=
  ⟨log, [], rfl, fun _ he => absurd he List.not_mem_nil⟩

theorem Began.since (h : Began log) (hstop : e.ofStop = true) (he : P e) :
    SinceStop P (log ++ [e]) := by
  obtain ⟨pre, post, rfl, hpost⟩ := h
  have hall := List.forall_mem_append.mpr ⟨hpost, List.forall_mem_singleton.mpr hstop⟩
  exact ⟨pre, post ++ [e], by simp, hall, e, by simp, he⟩

theorem SinceStop.began (h : SinceStop P log) : Began log := by
  obtain ⟨pre, post, hlog, hpost, -⟩ := h
  exact ⟨pre, post, hlog, hpost⟩

theorem SinceStop.snoc (h : SinceStop P log) (hstop : e.ofStop = true) :
    SinceStop P (log ++ [e]) := by
  obtain ⟨pre, post, rfl, hpost, e', he', hP⟩ := h
  have hall := List.forall_mem_append.mpr ⟨hpost, List.forall_mem_singleton.mpr hstop⟩
  exact ⟨pre, post ++ [e], by simp, hall, e', by simp [he'], hP⟩

end Log

/-! ## The owner's operations -/

/-- The connector is reserved, the owner tracks what its log says, and every call so far
    was admissible. -/
structure Owned.Inv (id : String) (s : Owned) : Prop where
  reserved : id ∈ s.host.reserved
  tracked : s.containerID = trackedOf id s.log
  log : EachAfter (Admissible id) s.log

namespace Exclusive

variable {id : String} {k : Nat} {s : Owned} {F : Err → Owned → Prop}

theorem record_triple {P : Owned → Prop} {Q : Owned → Prop} {e : OwnerEvent}
    (h : ∀ s, P s → Q { s with log := s.log ++ [e] }) :
    Triple (fun _ => True) P (record e) (fun _ => Q) F :=
  Triple.modify fun s hs => ⟨trivial, h s hs⟩

theorem call_triple {P Q R : Owned → Prop} {event : Bool → OwnerEvent} {answer : Option String}
    (hok : ∀ s, P s → Q { s with log := s.log ++ [event true] })
    (herr : ∀ s, P s → R { s with log := s.log ++ [event false] }) :
    Triple (fun _ => True) P (call event answer) (fun _ => Q) fun _ => R := by
  cases answer with
  | none => exact Triple.bind (record_triple hok) fun _ => Triple.pure fun _ hs => hs
  | some msg => exact Triple.bind (record_triple herr) fun _ => Triple.fail fun _ hs => hs

theorem recorded (h : s.Inv id) {e : OwnerEvent} (hsame : e.tracks id s.containerID = s.containerID)
    (hok : Admissible id s.log e) : Owned.Inv id { s with log := s.log ++ [e] } := by
  refine ⟨h.reserved, ?_, h.log.snoc hok⟩
  rw [trackedOf_snoc, ← h.tracked]
  exact hsame.symm

def Known (id : String) (k : Nat) (s : Owned) : Prop :=
  s.Inv id ∧ s.containerID = some k ∧ Identified id k s.log

structure Gone (id : String) (s : Owned) : Prop where
  reserved : id ∈ s.host.reserved
  gone : trackedOf id s.log = none
  log : EachAfter (Admissible id) s.log

theorem release_triple : Triple (fun _ => True) (Gone id) (release id)
    (fun _ s => s.Inv id ∧ s.containerID = none) F := by
  refine Triple.bind (Q := fun _ s => s.Inv id ∧ s.containerID = none)
    (Triple.modify fun s hs => ⟨trivial, ?_, rfl⟩) fun _ => Triple.modify fun s hs => ⟨trivial, ?_⟩
  · exact ⟨hs.reserved, hs.gone.symm, hs.log⟩
  · exact ⟨{ hs.1 with }, hs.2⟩

theorem Known.recorded (h : Known id k s) {e : OwnerEvent} (hstop : e.ofStop = true)
    (hsame : e.tracks id (some k) = some k) (hok : Admissible id s.log e) :
    Known id k { s with log := s.log ++ [e] } := by
  obtain ⟨hinv, hk, hidentified⟩ := h
  refine ⟨Exclusive.recorded hinv ?_ hok, hk, hidentified.snoc hstop⟩
  rw [hk]
  exact hsame

theorem removeStopped_triple (ans : StopAnswers) :
    Triple (fun _ => True) (Known id k) (removeStopped id k ans)
      (fun _ s => s.Inv id ∧ s.containerID = none) fun _ => Owned.Inv id := by
  refine Triple.bind (Q := fun _ s => Known id k s ∧ ∀ info, ans.rechecked = .info info →
    info.state = some false → SeenStopped k s.log) (record_triple fun s hs => ⟨?_, ?_⟩) fun _ => ?_
  · exact hs.recorded rfl rfl trivial
  · intro info hinfo hstate
    exact hs.2.2.began.since rfl ⟨info, by rw [hinfo], hstate⟩
  cases hanswer : ans.rechecked with
  | notFound | error msg => exact Triple.fail fun s hs => hs.1.1
  | info info =>
    refine Triple.check_bind (fun s hs => hs.1.1) fun _ =>
      Triple.check_bind (fun s hs => hs.1.1) fun hstate => ?_
    have hstopped : info.state = some false := by simpa using hstate
    have hok : ∀ s, (Known id k s ∧ ∀ i, InspectAnswer.info info = .info i →
        i.state = some false → SeenStopped k s.log) → ∀ ok, Admissible id s.log (.removed k ok) :=
      fun s hs ok => ⟨hs.1.2.2, hs.2 info rfl hstopped⟩
    refine Triple.bind (call_triple (Q := Gone id) (fun s hs => ?_) fun s hs => ?_)
      fun _ => release_triple
    · exact ⟨hs.1.1.reserved, by simp [OwnerEvent.tracks], hs.1.1.log.snoc (hok s hs true)⟩
    · exact (hs.1.recorded rfl rfl (hok s hs false)).1

theorem stopFound_triple {info : Inspected} (ans : StopAnswers) :
    Triple (fun _ => True)
      (fun s => id ∈ s.host.reserved ∧ trackedOf id s.log = some k ∧
        EachAfter (Admissible id) s.log ∧ Identified id k s.log)
      (do
        track (some k)
        when (info.state == some true) (call (.stopped k) ans.stop)
        removeStopped id k ans)
      (fun _ s => s.Inv id ∧ s.containerID = none) fun _ => Owned.Inv id := by
  refine Triple.bind (Q := fun _ => Known id k) (Triple.modify fun s hs => ⟨trivial, ?_⟩)
    fun _ => ?_
  · obtain ⟨hreserved, htracked, hlog, hidentified⟩ := hs
    exact ⟨⟨hreserved, htracked.symm, hlog⟩, rfl, hidentified⟩
  refine Triple.bind (Q := fun _ => Known id k) (Triple.when (fun _ => ?_) fun _ s hs => hs)
    fun _ => removeStopped_triple ans
  have hstopped : ∀ s, Known id k s → ∀ ok,
      Known id k { s with log := s.log ++ [.stopped k ok] } := by
    intro s hs ok
    have hok : Admissible id s.log (.stopped k ok) := hs.2.2
    exact hs.recorded rfl rfl hok
  exact call_triple (fun s hs => hstopped s hs true) fun s hs => (hstopped s hs false).1

theorem stop_triple (ans : StopAnswers) :
    Triple (fun _ => True) (Owned.Inv id) (stop id ans)
      (fun _ s => s.Inv id ∧ s.containerID = none) fun _ => Owned.Inv id := by
  refine Triple.bind (Q := fun _ s => s.Inv id ∧ Began s.log)
    (record_triple fun s hs => ⟨recorded hs rfl trivial, began_snoc _⟩) fun _ =>
    Triple.get_bind fun s₀ => ?_
  -- the look-up may change what the log tracks before the owner follows
  refine Triple.bind (Q := fun _ s => ∃ (s₁ : Owned) (target : Target), s₁.Inv id ∧
    Began s₁.log ∧ s = { s₁ with log := s₁.log ++ [.lookedUp target ans.found] })
    (record_triple fun s hs => ⟨s, _, hs.2.1, hs.2.2, rfl⟩) fun _ => ?_
  refine Triple.of_forall fun s hs => ?_
  obtain ⟨s₁, target, hinv, hbegan, rfl⟩ := hs
  have hok : ∀ answer, Admissible id s₁.log (.lookedUp target answer) := fun _ => trivial
  cases ans.found with
  | notFound =>
    refine release_triple.pre fun s hs => ?_
    subst hs
    exact ⟨hinv.reserved, by simp [OwnerEvent.tracks], hinv.log.snoc (hok _)⟩
  | error msg =>
    refine Triple.fail fun s hs => ?_
    subst hs
    exact recorded hinv rfl (hok _)
  | info info =>
    have hsame (h : (info.ownedBy id && info.containerID.isSome) = false) :
        Owned.Inv id { s₁ with log := s₁.log ++ [.lookedUp target (.info info)] } :=
      recorded hinv (by simp only [OwnerEvent.tracks, h]; rfl) (hok _)
    refine Triple.check_bind_cases (fun hforeign s hs => ?_) fun howned => ?_
    · subst hs
      exact hsame (by rw [hforeign]; rfl)
    cases hk : info.containerID with
    | none =>
      refine Triple.fail fun s hs => ?_
      subst hs
      exact hsame (by rw [hk]; exact Bool.and_false _)
    | some k =>
      refine (stopFound_triple ans).pre fun s hs => ?_
      subst hs
      refine ⟨hinv.reserved, ?_, hinv.log.snoc (hok _), ?_⟩
      · simp [OwnerEvent.tracks, howned, hk]
      · exact hbegan.since rfl ⟨target, info, rfl, howned, hk⟩

theorem setRunning_triple {containerID : Option Nat} {running : Bool} :
    Triple (fun _ => True) (Owned.Inv id) (setRunning id containerID running)
      (fun _ => Owned.Inv id) F :=
  Triple.modify fun _ hs => ⟨trivial, hs.reserved, hs.tracked, hs.log⟩

theorem configure_triple (spec : ConnectorSpec) :
    Triple (fun _ => True) (Owned.Inv id) (configure id spec) (fun _ => Owned.Inv id)
      fun _ => Owned.Inv id := by
  refine Triple.get_bind fun s₀ => Triple.check_bind (fun s hs => hs.2) fun _ => ?_
  exact Triple.modify fun s hs => ⟨trivial, hs.2.reserved, hs.2.tracked, hs.2.log⟩

theorem start_triple (cfg : ManagerConfig) (ans : StartAnswers) :
    Triple (fun _ => True) (Owned.Inv id) (start cfg id ans) (fun _ => Owned.Inv id)
      fun _ => Owned.Inv id := by
  refine Triple.get_bind fun s₀ => Triple.check_bind (fun s hs => hs.2) fun hnone => ?_
  cases s₀.host.registry.get id with
  | none => exact Triple.fail fun s hs => hs.2
  | some status =>
    refine Triple.bind (Q := fun _ s => ∃ (s₁ : Owned) (name : String) (config : ContainerConfig),
      s₁.Inv id ∧ trackedOf id s₁.log = none ∧
      s = { s₁ with log := s₁.log ++ [.created name config ans.create] })
      (record_triple fun s hs => ?_) fun _ => ?_
    · obtain ⟨rfl, hinv⟩ := hs
      exact ⟨s, _, _, hinv, by rw [← hinv.tracked]; simpa using hnone, rfl⟩
    refine Triple.of_forall fun s hs => ?_
    obtain ⟨s₁, name, config, hinv, hfree, rfl⟩ := hs
    cases ans.create with
    | error msg =>
      refine Triple.fail fun s hs => ?_
      subst hs
      exact recorded hinv rfl hfree
    | ok k =>
      refine Triple.bind (Q := fun _ => Owned.Inv id) (Triple.modify fun s hs => ⟨trivial, ?_⟩)
        fun _ => ?_
      · subst hs
        exact ⟨hinv.reserved, by simp [OwnerEvent.tracks], hinv.log.snoc hfree⟩
      refine Triple.bind setRunning_triple fun _ => ?_
      refine Triple.bind (call_triple (fun s hs => ?_) fun s hs => ?_)
        fun _ => setRunning_triple
      · exact recorded hs rfl trivial
      · exact recorded hs rfl trivial

end Exclusive

/-! ## Public operations refuse -/

section Reserved

variable {cfg : ManagerConfig} {id : String} {h : Host} {β : Type}

theorem Host.checkReserved_refused (hreserved : id ∈ h.reserved) :
    Triple (fun _ => True) (· = h) (checkReserved id) (fun _ _ => False) fun _ => (· = h) := by
  refine Triple.get_bind_eq (Triple.check (fun hok => ?_) fun _ hs => hs)
  simp [hreserved] at hok

theorem Host.refused_triple (hreserved : id ∈ h.reserved) (f : Unit → Prog Host Err β) :
    Triple (fun _ => True) (· = h) (checkReserved id >>= f) (fun _ => (· = h)) fun _ => (· = h) :=
  Triple.bind (checkReserved_refused hreserved) fun _ _ hs => hs.elim

theorem Op.refused_triple (op : Op id) (hreserved : id ∈ h.reserved) :
    Triple (fun _ => True) (· = h) (op.prog cfg) (fun _ => (· = h)) fun _ => (· = h) := by
  have hcheck (context : String) (x : Except Err Unit) :
      Triple (fun _ => True) (· = h) (Host.wrapErr context (ofExcept x)) (fun _ => (· = h))
        fun _ => (· = h) :=
    Host.wrapErr_triple (Triple.ofExcept (fun _ _ _ hs => hs) fun _ _ _ hs => hs)
  cases op with
  | start | stop | restart | upgrade newImage | rollback => exact Host.refused_triple hreserved _
  | update manifest allowed version soak =>
    exact Triple.bind (hcheck _ _) fun _ => Host.refused_triple hreserved _
  | install manifest hname allowed version =>
    have hmanifest : manifest.name ∈ h.reserved := by rw [hname]; exact hreserved
    exact Triple.bind (hcheck _ _) fun _ => Host.refused_triple hmanifest _

theorem Host.watch_refused_triple (listed : ConnectorStatus)
    (inspected : Except String (Option Bool)) (free : Bool) (hreserved : id ∈ h.reserved) :
    Triple (fun _ => True) (· = h) (Host.watch cfg id listed inspected free) (fun _ => (· = h))
      fun _ => (· = h) := by
  have hskip : Triple (fun _ => True) (· = h) (pure () : Prog Host Err Unit) (fun _ => (· = h))
      fun _ => (· = h) := Triple.pure fun _ hs => hs
  refine Triple.when (fun _ => ?_) fun _ s hs => hs
  match inspected with
  | .ok (some false) =>
    refine Triple.when (fun _ => ?_) fun _ s hs => hs
    refine Triple.bind (Triple.attempt (Q := fun r s => (∃ e, r = .error e) ∧ s = h) ?_)
      fun r => Triple.of_fact fun hr => ?_
    · exact (checkReserved_refused hreserved).post (fun _ _ hs => hs.elim)
        fun e _ hs => ⟨⟨e, rfl⟩, hs⟩
    · obtain ⟨e, rfl⟩ := hr
      exact hskip
  | .ok (some true) | .ok none | .error _ => exact hskip

end Reserved

/-! ## Runs -/

namespace Owned

variable {cfg : ManagerConfig} {id : String} {s t : Owned}

theorem Inv.performed (hs : s.Inv id) {h : Host} {answers : Answers}
    (hh : h = s.host.facing answers) : (s.performed h).Inv id := by
  subst hh
  refine ⟨hs.reserved, ?_, hs.log.snoc ?_⟩
  · show s.containerID = trackedOf id (s.log ++ [.publicCalls []])
    rw [trackedOf_snoc, hs.tracked]
    rfl
  · intro c hc
    cases hc

theorem step_inv {a : OwnerAction id} (hs : s.Inv id) (hstep : Steps cfg s a t) : t.Inv id := by
  subst hstep
  cases a with
  | stop ans =>
    exact ((Exclusive.stop_triple ans).post_ok (fun _ _ h => h.1)).state hs
  | configure spec => exact (Exclusive.configure_triple spec).state hs
  | start ans => exact (Exclusive.start_triple cfg ans).state hs
  | publicOp op answers =>
    have hreserved : id ∈ (s.host.facing answers).reserved := hs.reserved
    exact hs.performed ((Op.refused_triple op hreserved).state rfl)
  | watch listed inspected free answers =>
    have hreserved : id ∈ (s.host.facing answers).reserved := hs.reserved
    exact hs.performed ((Host.watch_refused_triple listed inspected free hreserved).state rfl)

theorem run_inv {as : List (OwnerAction id)} (hs : s.Inv id) (hrun : Run (Steps cfg) s as t) :
    t.Inv id :=
  hrun.invariant hs fun _ _ _ h hstep => step_inv h hstep

end Owned

theorem claim_inv {hasDocker : Bool} {spec : ConnectorSpec} {h : Host} {s : Owned}
    (hclaim : claim hasDocker spec h = .ok s) : s.Inv spec.id := by
  unfold claim at hclaim
  split at hclaim
  · cases hclaim
  split at hclaim
  · cases hclaim
  cases hclaim
  exact ⟨List.mem_cons_self, rfl, eachAfter_nil⟩

/-- Exclusive ownership never touches foreign containers.  In every run of the owner's and
    the public operations on a claimed connector, whatever the daemon answers: a container
    is stopped or removed only by an id that an inspect of the same `Stop` reported with the
    owner label, and removed only after an inspect of it reported that container not
    running; a container is created only while none is tracked; a public operation creates,
    starts, stops and removes nothing.  A `Stop` that returns nil leaves nothing tracked. -/
theorem exclusive_ownership (cfg : ManagerConfig) (hasDocker : Bool) (spec : ConnectorSpec)
    (h : Host) {s t : Owned} {as : List (OwnerAction spec.id)}
    (hclaim : claim hasDocker spec h = .ok s) (hrun : Run (Owned.Steps cfg) s as t) :
    EachAfter (Admissible spec.id) t.log ∧ t.containerID = trackedOf spec.id t.log ∧
      ∀ ans, (Exclusive.stop spec.id ans t).result = .ok () →
        (Exclusive.stop spec.id ans t).state.containerID = none := by
  have hinv : t.Inv spec.id := Owned.run_inv (claim_inv hclaim) hrun
  refine ⟨hinv.log, hinv.tracked, fun ans hok => ?_⟩
  exact ((Exclusive.stop_triple ans).of_ok hinv hok).2

def ownContainer (running : Bool) : InspectAnswer :=
  .info
    { base := some (some 7, some running)
      labels := some [(clockOwnerLabel, "bacnet")] }

def replacement : List (OwnerAction "bacnet") :=
  [.start ⟨.ok (some 7), none⟩, .publicOp .stop .allOk,
    .stop ⟨ownContainer true, none, ownContainer false, none⟩]

def claimedBacnet : Owned :=
  { host :=
      { reserved := ["bacnet"]
        registry := ({} : Registry).register { id := "bacnet", image := "bacnet:2" } } }

theorem exclusive_ownership_replaced :
    claim true { id := "bacnet", image := "bacnet:2" } {} = .ok claimedBacnet ∧
      (replacement.foldl (Owned.step {}) claimedBacnet).log[2]? = some (.publicCalls []) ∧
      (replacement.foldl (Owned.step {}) claimedBacnet).log[7]? = some (.removed 7 true) ∧
      EachAfter (Admissible "bacnet") (replacement.foldl (Owned.step {}) claimedBacnet).log := by
  have hrun : Run (Owned.Steps {}) claimedBacnet replacement
      (replacement.foldl (Owned.step {}) claimedBacnet) := .cons rfl (.cons rfl (.single rfl))
  have hclaim : claim true { id := "bacnet", image := "bacnet:2" } {} = .ok claimedBacnet := rfl
  exact ⟨hclaim, rfl, rfl, (exclusive_ownership {} true _ {} hclaim hrun).1⟩

end NexusGateway.Lifecycle
