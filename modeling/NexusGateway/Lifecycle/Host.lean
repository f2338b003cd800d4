/-
What the connector manager works on: the registry
(`internal/lifecycle/registry.go`) and the Docker daemon.

The daemon refuses to create a container under a name in use, by a running
or a stopped container, and refuses to remove a running one.  Whether a
call fails beyond that is up to the environment: every call takes the next
`Answer` for its kind.  A call that fails may have been carried out all the
same, with the reply lost.
-/

import NexusGateway.Catalog.Manifest
import NexusGateway.Lib.Dict
import NexusGateway.Lib.Prog

namespace NexusGateway.Lifecycle

open Lib Lib.Prog Catalog

/-! ## Registry -/

/-- `ConnectorSpec`; `ConnectorPermissions` mirrors the manifest's permissions. -/
structure ConnectorSpec where
  id : String
  image : String
  prevImage : String := ""
  env : List String := []
  permissions : Permissions := {}
deriving DecidableEq

/-- `ConnectorStatus`; `none` is the source's empty container id. -/
structure ConnectorStatus where
  spec : ConnectorSpec
  containerID : Option Nat := none
  running : Bool := false
deriving DecidableEq

theorem keyed_empty : (∅ : Dict String ConnectorStatus).KeyedBy fun s => s.spec.id :=
  Dict.keyedBy_empty

/-- `Registry`: every entry stands under its spec's id. -/
structure Registry where
  entries : Dict String ConnectorStatus := ∅
  keyed : entries.KeyedBy fun s => s.spec.id := by exact keyed_empty

namespace Registry

def get (r : Registry) (id : String) : Option ConnectorStatus := r.entries.lookup id

/-- The entry `Register` leaves: an existing one keeps its runtime state. -/
def registered (r : Registry) (spec : ConnectorSpec) : ConnectorStatus :=
  match r.get spec.id with
  | some existing => { existing with spec := spec }
  | none => { spec := spec }

theorem registered_id (r : Registry) (spec : ConnectorSpec) :
    (r.registered spec).spec.id = spec.id := by
  rw [registered]
  cases r.get spec.id with
  | some existing | none => rfl

def register (r : Registry) (spec : ConnectorSpec) : Registry where
  entries := r.entries.insert spec.id (r.registered spec)
  keyed := by
    have := r.keyed.insert (r.registered spec)
    rwa [registered_id] at this

def setRunning (r : Registry) (id : String) (containerID : Option Nat) (running : Bool) :
    Registry where
  entries := r.entries.adjust id fun s => { s with containerID := containerID, running := running }
  keyed := by
    intro k s hs
    rw [Dict.lookup_adjust] at hs
    split at hs
    · obtain ⟨s', hs', rfl⟩ := Option.map_eq_some_iff.mp hs
      exact r.keyed k s' hs'
    · exact r.keyed k s hs

def remove (r : Registry) (id : String) : Registry where
  entries := r.entries.erase id
  keyed := r.keyed.erase id

theorem spec_id_of_get {r : Registry} {id : String} {s : ConnectorStatus}
    (h : r.get id = some s) : s.spec.id = id :=
  r.keyed id s h

@[simp] theorem get_register (r : Registry) (spec : ConnectorSpec) (id : String) :
    (r.register spec).get id = if id = spec.id then some (r.registered spec) else r.get id :=
  Dict.lookup_insert_ite _ _ _ _

@[simp] theorem get_setRunning (r : Registry) (id id' : String) (c : Option Nat) (b : Bool) :
    (r.setRunning id' c b).get id =
      if id = id' then (r.get id).map fun s => { s with containerID := c, running := b }
      else r.get id :=
  Dict.lookup_adjust _ _ _ _

@[simp] theorem get_remove (r : Registry) (id id' : String) :
    (r.remove id').get id = if id = id' then none else r.get id :=
  Dict.lookup_erase_ite _ _ _

end Registry

/-! ## Daemon -/

structure ContainerConfig where
  image : String
  env : List String
  labels : List (String × String) := []
  binds : List String := []
  network : Option String := none
deriving DecidableEq

structure Container where
  id : Nat
  name : String
  config : ContainerConfig
  running : Bool := false
deriving DecidableEq

theorem fresh_nil : ∀ c ∈ ([] : List Container), c.id < 0 := List.forall_mem_nil _

theorem nodup_map_nil {β : Type} (f : Container → β) : (([] : List Container).map f).Nodup :=
  List.nodup_nil

/-- The daemon: ids and names are in use once, and ids are not given out again. -/
structure Daemon where
  containers : List Container := []
  nextID : Nat := 0
  fresh : ∀ c ∈ containers, c.id < nextID := by exact fresh_nil
  nodup_ids : (containers.map Container.id).Nodup := by exact nodup_map_nil _
  nodup_names : (containers.map Container.name).Nodup := by exact nodup_map_nil _

namespace Daemon

def Uses (d : Daemon) (name : String) : Prop := ∃ c ∈ d.containers, c.name = name

instance (d : Daemon) (name : String) : Decidable (d.Uses name) :=
  inferInstanceAs (Decidable (∃ c ∈ d.containers, c.name = name))

def find (d : Daemon) (id : Nat) : Option Container := d.containers.find? fun c => c.id = id

def add (d : Daemon) (name : String) (config : ContainerConfig) (hname : ¬ d.Uses name) :
    Daemon where
  containers := d.containers ++ [{ id := d.nextID, name := name, config := config }]
  nextID := d.nextID + 1
  fresh := by
    intro c hc
    rcases List.mem_append.mp hc with hc | hc
    · have := d.fresh c hc
      omega
    · rw [List.mem_singleton.mp hc]
      exact Nat.lt_succ_self _
  nodup_ids := by
    rw [List.map_append, List.map_singleton]
    refine List.Nodup.append d.nodup_ids (List.nodup_singleton _) ?_
    intro i hi hi'
    obtain ⟨c, hc, rfl⟩ := List.mem_map.mp hi
    have := d.fresh c hc
    rw [List.mem_singleton.mp hi'] at this
    exact Nat.lt_irrefl _ this
  nodup_names := by
    rw [List.map_append, List.map_singleton]
    refine List.Nodup.append d.nodup_names (List.nodup_singleton _) ?_
    intro n hn hn'
    obtain ⟨c, hc, rfl⟩ := List.mem_map.mp hn
    exact hname ⟨c, hc, List.mem_singleton.mp hn'⟩

def mark (d : Daemon) (id : Nat) (running : Bool) : Daemon where
  containers := d.containers.map fun c => if c.id = id then { c with running := running } else c
  nextID := d.nextID
  fresh := by
    intro c hc
    obtain ⟨c', hc', rfl⟩ := List.mem_map.mp hc
    have := d.fresh c' hc'
    split
    · exact this
    · exact this
  nodup_ids := by
    rw [List.map_map]
    convert d.nodup_ids using 2
    funext c
    simp only [Function.comp_apply]
    split
    · rfl
    · rfl
  nodup_names := by
    rw [List.map_map]
    convert d.nodup_names using 2
    funext c
    simp only [Function.comp_apply]
    split
    · rfl
    · rfl

def drop (d : Daemon) (id : Nat) : Daemon where
  containers := d.containers.filter fun c => c.id ≠ id
  nextID := d.nextID
  fresh c hc := d.fresh c (List.mem_filter.mp hc).1
  nodup_ids := d.nodup_ids.sublist (List.filter_sublist.map _)
  nodup_names := d.nodup_names.sublist (List.filter_sublist.map _)

variable {d : Daemon} {name : String} {config : ContainerConfig} {k : Nat} {b : Bool}

theorem mem_add (hname : ¬ d.Uses name) {c : Container} :
    c ∈ (d.add name config hname).containers ↔
      c ∈ d.containers ∨ c = { id := d.nextID, name := name, config := config } := by
  simp [add]

theorem mem_mark {c : Container} (hc : c ∈ (d.mark k b).containers) :
    ∃ c' ∈ d.containers, c'.id = c.id ∧ c'.name = c.name ∧ c'.config = c.config := by
  obtain ⟨c', hc', rfl⟩ := List.mem_map.mp hc
  refine ⟨c', hc', ?_⟩
  split
  · exact ⟨rfl, rfl, rfl⟩
  · exact ⟨rfl, rfl, rfl⟩

theorem exists_mem_mark {c : Container} (hc : c ∈ d.containers) :
    ∃ c' ∈ (d.mark k b).containers, c'.id = c.id ∧ c'.name = c.name ∧ c'.config = c.config := by
  refine ⟨_, List.mem_map_of_mem hc, ?_⟩
  split
  · exact ⟨rfl, rfl, rfl⟩
  · exact ⟨rfl, rfl, rfl⟩

theorem uses_mark {n : String} : (d.mark k b).Uses n ↔ d.Uses n := by
  constructor
  · rintro ⟨c, hc, rfl⟩
    obtain ⟨c', hc', -, hname, -⟩ := mem_mark hc
    exact ⟨c', hc', hname⟩
  · rintro ⟨c, hc, rfl⟩
    obtain ⟨c', hc', -, hname, -⟩ := exists_mem_mark hc
    exact ⟨c', hc', hname⟩

theorem exists_of_find (h : (d.find k).isSome) : ∃ c ∈ d.containers, c.id = k := by
  rw [find, List.find?_isSome] at h
  obtain ⟨c, hc, hid⟩ := h
  exact ⟨c, hc, of_decide_eq_true hid⟩

theorem ne_of_find_none (h : d.find k = none) : ∀ c ∈ d.containers, c.id ≠ k := by
  intro c hc hid
  have hnot := List.find?_eq_none.mp h c hc
  exact hnot (decide_eq_true hid)

theorem not_uses_drop {c : Container} (hc : c ∈ d.containers) :
    ¬ (d.drop c.id).Uses c.name := by
  rintro ⟨c', hc', hname⟩
  obtain ⟨hmem, hid⟩ := List.mem_filter.mp hc'
  have : c' = c := List.inj_on_of_nodup_map d.nodup_names hmem hc hname
  rw [this] at hid
  simp at hid

theorem uses_of_drop {n : String} (h : (d.drop k).Uses n) : d.Uses n := by
  obtain ⟨c, hc, hname⟩ := h
  exact ⟨c, (List.mem_filter.mp hc).1, hname⟩

theorem exists_find_mark {c : Container} (hc : c ∈ d.containers) (hid : c.id = k) :
    ∃ c', (d.mark k b).find k = some c' ∧ c'.running = b := by
  have hsome : ((d.mark k b).find k).isSome := by
    obtain ⟨c', hc', hid', -⟩ := exists_mem_mark (k := k) (b := b) hc
    rw [find, List.find?_isSome]
    exact ⟨c', hc', decide_eq_true (hid'.trans hid)⟩
  obtain ⟨c', hfind⟩ := Option.isSome_iff_exists.mp hsome
  refine ⟨c', hfind, ?_⟩
  have hfound := List.find?_some hfind
  obtain ⟨c₀, -, rfl⟩ := List.mem_map.mp (List.mem_of_find?_eq_some hfind)
  split at hfound
  next heq => rw [if_pos heq]
  next hne => exact absurd (of_decide_eq_true hfound) hne

/-- `d'` comes from `d`: the containers with an id given out by then are in `d`. -/
structure Later (d d' : Daemon) : Prop where
  nextID : d.nextID ≤ d'.nextID
  old : ∀ c ∈ d'.containers, c.id < d.nextID → ∃ c' ∈ d.containers, c'.id = c.id ∧ c'.name = c.name

theorem Later.refl : Later d d := ⟨Nat.le_refl _, fun c hc _ => ⟨c, hc, rfl, rfl⟩⟩

theorem later_mark : Later d (d.mark k b) := by
  refine ⟨Nat.le_refl _, fun c hc _ => ?_⟩
  obtain ⟨c', hc', hid, hname, -⟩ := mem_mark hc
  exact ⟨c', hc', hid, hname⟩

theorem later_drop : Later d (d.drop k) :=
  ⟨Nat.le_refl _, fun c hc _ => ⟨c, (List.mem_filter.mp hc).1, rfl, rfl⟩⟩

end Daemon

/-! ## Calls -/

/-- The errors of the package.  `wrap` is `fmt.Errorf` with `%w`. -/
inductive Err where
  | daemon (msg : String)
  | manifest (e : ManifestError)
  | managed
  | connectorNotFound
  | wrap (context : String) (inner : Err)
  | noPreviousImage (context : String)
  | rollbackTriggered (id : String) (cause : Err)
  | rollbackFailed (id : String) (startErr cause : Err)

def Err.text : Err → String
  | daemon msg => msg
  | manifest e => e.text
  | managed => "lifecycle: connector owned by clock provisioning"
  | connectorNotFound => "lifecycle: connector not found"
  | wrap context inner => context ++ ": " ++ inner.text
  | noPreviousImage context => context ++ ": no previous image available"
  | rollbackTriggered id cause =>
    "lifecycle: update " ++ quote id ++ ": rollback triggered: " ++ cause.text
  | rollbackFailed id startErr cause =>
    "lifecycle: update " ++ quote id ++ ": rollback failed (connector is stopped): " ++
      startErr.text ++ "; original: " ++ cause.text

/-- How the environment takes a call: it lets the daemon handle it, the container has
    exited by now, the call fails before the daemon acts, or after it. -/
inductive Answer where
  | ok
  | exited
  | error (msg : String)
  | lost (msg : String)
deriving DecidableEq

namespace Answer

def isError : Answer → Bool
  | .error _ => true
  | _ => false

def isLost : Answer → Bool
  | .lost _ => true
  | _ => false

def fails (a : Answer) : Bool := a.isError || a.isLost

end Answer

/-- The calls the manager makes: to the daemon, to the signature verifier, and the wait
    for the next tick, which a cancelled context ends with an error. -/
inductive DockerOp where
  | create
  | start
  | stop
  | remove
  | inspect
  | pull
  | imageInspect
  | verify
  | wait
deriving DecidableEq

/-- The answers to the calls of each kind, the next one first, and `ok` once they have run
    out. -/
abbrev Answers : Type := DockerOp → List Answer

namespace Answers

def allOk : Answers := fun _ => []

/-- The answers, with these for one kind of call. -/
def on (answers : Answers) (op : DockerOp) (xs : List Answer) : Answers :=
  fun op' => if op' = op then xs else answers op'

def next (answers : Answers) (op : DockerOp) : Answer := (answers op).headD .ok

/-- What is left after a call of that kind. -/
def after (answers : Answers) (op : DockerOp) : Answers := answers.on op (answers op).tail

theorem next_after_of_ne {answers : Answers} {op op' : DockerOp} (hne : op' ≠ op) :
    (answers.after op).next op' = answers.next op' := by
  rw [next, after, on, if_neg hne]
  rfl

end Answers

/-- A call made, and whether it returned without error. -/
structure DockerCall where
  op : DockerOp
  ok : Bool
deriving DecidableEq

/-- The manager's state, the daemon, the answers to come, and the calls made by the
    current operation. -/
structure Host where
  daemon : Daemon := {}
  registry : Registry := {}
  reserved : List String := []
  answers : Answers := .allOk
  calls : List DockerCall := []

namespace Host

variable {α : Type}

/-- What comes of a call: the environment's error, or what the daemon makes of it. -/
def outcome (run : Answer → Daemon → Except Err α × Daemon) : Answer → Daemon →
    Except Err α × Daemon
  | .error msg, d => (.error (.daemon msg), d)
  | .lost msg, d => (.error (.daemon msg), (run .ok d).2)
  | a, d => run a d

def after (h : Host) (op : DockerOp) (ok : Bool) (d : Daemon) : Host :=
  { h with
    daemon := d
    answers := h.answers.after op
    calls := h.calls ++ [⟨op, ok⟩] }

def request (op : DockerOp) (run : Answer → Daemon → Except Err α × Daemon) :
    Prog Host Err α :=
  act fun h =>
    let res := outcome run (h.answers.next op) h.daemon
    (res.1, h.after op res.1.isOk res.2)

def containerCreate (name : String) (config : ContainerConfig) : Prog Host Err Nat :=
  request .create fun _ d =>
    if hname : d.Uses name then
      (.error (.daemon "Conflict. The container name is already in use"), d)
    else
      (.ok d.nextID, d.add name config hname)

def containerStart (container : Nat) : Prog Host Err Unit :=
  request .start fun _ d =>
    if (d.find container).isSome then (.ok (), d.mark container true)
    else (.error (.daemon "No such container"), d)

def containerStop (container : Nat) : Prog Host Err Unit :=
  request .stop fun _ d =>
    if (d.find container).isSome then (.ok (), d.mark container false)
    else (.error (.daemon "No such container"), d)

/-- `ContainerRemove`, without force. -/
def containerRemove (container : Nat) : Prog Host Err Unit :=
  request .remove fun _ d =>
    match d.find container with
    | none => (.error (.daemon "No such container"), d)
    | some c =>
      if c.running then (.error (.daemon "cannot remove a running container"), d)
      else (.ok (), d.drop container)

/-- `ContainerInspect`: whether the container runs. -/
def containerInspect (container : Nat) : Prog Host Err Bool :=
  request .inspect fun a d =>
    match d.find container, a with
    | none, _ => (.error (.daemon "No such container"), d)
    | some _, .exited => (.ok false, d.mark container false)
    | some c, _ => (.ok c.running, d)

def inquiry (op : DockerOp) : Prog Host Err Unit := request op fun _ d => (.ok (), d)

/-! ## What a call does -/

section Calls

variable {h : Host} {k : Nat}

/-- A call returns what the daemon makes of it; it fails without an effect, because the
    daemon refuses it or before the daemon sees it; or it has its effect and fails. -/
theorem request_triple {op : DockerOp} {run : Answer → Daemon → Except Err α × Daemon}
    {Q : α → Host → Prop} {R : Host → Prop}
    (hok : ∀ a x d, run a h.daemon = (.ok x, d) → (h.answers.next op).fails = false →
      Q x (h.after op true d))
    (hrefused : ∀ a e d, run a h.daemon = (.error e, d) → R (h.after op false d))
    (herror : (h.answers.next op).isError = true → R (h.after op false h.daemon))
    (hlost : (h.answers.next op).isLost = true →
      R (h.after op false (run .ok h.daemon).2)) :
    Triple (fun _ => True) (· = h) (request op run) Q fun _ => R := by
  apply Triple.act
  rintro h' rfl
  refine ⟨trivial, ?_⟩
  have hrun : ∀ a, (h'.answers.next op).fails = false → Ends Q (fun _ => R) (run a h'.daemon).1
      (h'.after op (run a h'.daemon).1.isOk (run a h'.daemon).2) := by
    intro a hfails
    cases hres : run a h'.daemon with
    | mk res d =>
      cases res with
      | ok x => exact hok a x d hres hfails
      | error e => exact hrefused a e d hres
  cases ha : h'.answers.next op with
  | error msg => exact herror (by rw [ha]; rfl)
  | lost msg => exact hlost (by rw [ha]; rfl)
  | ok | exited => exact hrun _ (by rw [ha]; rfl)

theorem containerCreate_triple {name : String} {config : ContainerConfig} :
    Triple (fun _ => True) (· = h) (containerCreate name config)
      (fun k h' => ∃ hname, k = h.daemon.nextID ∧
        h' = h.after .create true (h.daemon.add name config hname))
      fun _ h' => h' = h.after .create false h.daemon ∨
        (h.answers.next .create).isLost = true ∧
          ∃ hname, h' = h.after .create false (h.daemon.add name config hname) := by
  apply request_triple
  · intro a k d hres _
    split at hres
    · cases hres
    next hname =>
      cases hres
      exact ⟨hname, rfl, rfl⟩
  · intro a e d hres
    split at hres
    · cases hres
      exact Or.inl rfl
    · cases hres
  · exact fun _ => Or.inl rfl
  · intro hlost
    split
    · exact Or.inl rfl
    next hname => exact Or.inr ⟨hlost, hname, rfl⟩

/-- The two calls that start and stop a container. -/
theorem mark_triple {op : DockerOp} {b : Bool} :
    Triple (fun _ => True) (· = h)
      (request op fun _ d =>
        if (d.find k).isSome then (.ok (), d.mark k b)
        else (.error (.daemon "No such container"), d))
      (fun _ h' => (∃ c ∈ h.daemon.containers, c.id = k) ∧ (h.answers.next op).fails = false ∧
        h' = h.after op true (h.daemon.mark k b))
      fun _ h' => ((h.answers.next op).fails = true ∨ h.daemon.find k = none) ∧
        ∃ d, (d = h.daemon ∨ d = h.daemon.mark k b) ∧ h' = h.after op false d := by
  apply request_triple
  · intro a x d hres hfails
    split at hres
    next hfind =>
      cases hres
      exact ⟨Daemon.exists_of_find hfind, hfails, rfl⟩
    · cases hres
  · intro a e d hres
    split at hres
    · cases hres
    next hfind =>
      cases hres
      exact ⟨Or.inr (Option.not_isSome_iff_eq_none.mp hfind), _, Or.inl rfl, rfl⟩
  · intro herror
    exact ⟨Or.inl (by simp [Answer.fails, herror]), _, Or.inl rfl, rfl⟩
  · intro hlost
    refine ⟨Or.inl (by simp [Answer.fails, hlost]), _, ?_, rfl⟩
    split
    · exact Or.inr rfl
    · exact Or.inl rfl

theorem containerStart_triple :
    Triple (fun _ => True) (· = h) (containerStart k)
      (fun _ h' => h' = h.after .start true (h.daemon.mark k true))
      fun _ h' => ((h.answers.next .start).fails = true ∨ h.daemon.find k = none) ∧
        ∃ d, (d = h.daemon ∨ d = h.daemon.mark k true) ∧ h' = h.after .start false d :=
  mark_triple.post_ok fun _ _ hh => hh.2.2

theorem containerStop_triple :
    Triple (fun _ => True) (· = h) (containerStop k)
      (fun _ h' => (∃ c ∈ h.daemon.containers, c.id = k) ∧ (h.answers.next .stop).fails = false ∧
        h' = h.after .stop true (h.daemon.mark k false))
      fun _ h' => ∃ d, (d = h.daemon ∨ d = h.daemon.mark k false) ∧
        h' = h.after .stop false d :=
  mark_triple.post_error fun _ _ hh => hh.2

/-- A removal that fails leaves the container, because the call did not reach the daemon or
    the container runs, or has removed it. -/
theorem containerRemove_triple :
    Triple (fun _ => True) (· = h) (containerRemove k)
      (fun _ h' => (∃ c ∈ h.daemon.containers, c.id = k) ∧
        h' = h.after .remove true (h.daemon.drop k))
      fun _ h' => (((h.answers.next .remove).isError = true ∨
          ∀ c, h.daemon.find k = some c → c.running = true) ∧
        h' = h.after .remove false h.daemon) ∨ h' = h.after .remove false (h.daemon.drop k) := by
  apply request_triple
  · intro a x d hres _
    split at hres
    · cases hres
    next c hfind =>
      split at hres
      · cases hres
      · cases hres
        exact ⟨Daemon.exists_of_find (by simp [hfind]), rfl⟩
  · intro a e d hres
    split at hres
    next hfind =>
      cases hres
      exact Or.inl ⟨Or.inr (by simp [hfind]), rfl⟩
    next c hfind =>
      split at hres
      next hrunning =>
        cases hres
        exact Or.inl ⟨Or.inr (by simp [hfind, hrunning]), rfl⟩
      · cases hres
  · exact fun herror => Or.inl ⟨Or.inl herror, rfl⟩
  · intro _
    split
    next hfind => exact Or.inl ⟨Or.inr (by simp [hfind]), rfl⟩
    next c hfind =>
      split
      next hrunning => exact Or.inl ⟨Or.inr (by simp [hfind, hrunning]), rfl⟩
      · exact Or.inr rfl

theorem containerInspect_triple :
    Triple (fun _ => True) (· = h) (containerInspect k)
      (fun _ h' => h' = h.after .inspect true h.daemon ∨
        h' = h.after .inspect true (h.daemon.mark k false))
      fun _ h' => h' = h.after .inspect false h.daemon := by
  apply request_triple
  · intro a x d hres _
    split at hres
    · cases hres
    · cases hres
      exact Or.inr rfl
    · cases hres
      exact Or.inl rfl
  · intro a e d hres
    split at hres
    · cases hres
      rfl
    · cases hres
    · cases hres
  · exact fun _ => rfl
  · intro _
    cases h.daemon.find k with
    | none | some c => rfl

theorem inquiry_triple {op : DockerOp} :
    Triple (fun _ => True) (· = h) (inquiry op)
      (fun _ h' => (h.answers.next op).fails = false ∧ h' = h.after op true h.daemon)
      fun _ h' => (h.answers.next op).fails = true ∧ h' = h.after op false h.daemon := by
  apply request_triple
  · intro a x d hres hfails
    cases hres
    exact ⟨hfails, rfl⟩
  · intro a e d hres
    cases hres
  · exact fun herror => ⟨by simp [Answer.fails, herror], rfl⟩
  · exact fun hlost => ⟨by simp [Answer.fails, hlost], rfl⟩

end Calls

end Host

end NexusGateway.Lifecycle
