/-
`internal/lifecycle`: start, stop, restart, upgrade, update, roll back and
install a connector container (manager.go, update.go, install.go).

Every operation holds the connector's lock for its whole length, so the
operations on one connector follow one another.  Removals whose error the
source only logs are attempted and their result dropped.
-/

import NexusGateway.Lifecycle.Host

namespace NexusGateway.Lifecycle

open Lib Lib.Prog Catalog

structure ManagerConfig where
  natsURL : String := ""
  connectorNetwork : String := ""

def containerName (id : String) : String := "nexus-" ++ id

namespace Host

variable {α : Type} (cfg : ManagerConfig)

/-! ## Registry and reservation -/

def onRegistry (f : Registry → Registry) : Prog Host Err Unit :=
  modify fun h => { h with registry := f h.registry }

def register (spec : ConnectorSpec) : Prog Host Err Unit := onRegistry fun r => r.register spec

def setRunning (id : String) (containerID : Option Nat) (running : Bool) : Prog Host Err Unit :=
  onRegistry fun r => r.setRunning id containerID running

def unregister (id : String) : Prog Host Err Unit := onRegistry fun r => r.remove id

def wrapErr (context : String) (p : Prog Host Err α) : Prog Host Err α :=
  recover p fun e => Prog.fail (.wrap context e)

def ignore (p : Prog Host Err α) : Prog Host Err Unit := do
  let _ ← attempt p
  pure ()

/-- The registry entry of the connector, or the error of the operation. -/
def getStatus (id : String) (err : Err) : Prog Host Err ConnectorStatus := do
  match (← get).registry.get id with
  | some status => pure status
  | none => Prog.fail err

def checkReserved (id : String) : Prog Host Err Unit := do
  let h ← get
  check (!h.reserved.contains id) .managed

/-! ## Start and stop -/

/-- The environment of a container: the spec's, then the runtime bindings that are not
    in it. -/
def containerEnv (spec : ConnectorSpec) : List String :=
  let has (key : String) := spec.env.any fun e => key.toList.isPrefixOf e.toList
  spec.env ++
    (if !has "NATS_URL" && cfg.natsURL != "" then ["NATS_URL=" ++ cfg.natsURL] else []) ++
    (if !has "CONNECTOR_ID" then ["CONNECTOR_ID=" ++ spec.id] else [])

/-- What `createWithLabels` creates the container from. -/
def containerConfig (spec : ConnectorSpec) (labels : List (String × String)) : ContainerConfig :=
  { image := spec.image
    env := containerEnv cfg spec
    labels := labels
    binds := spec.permissions.mounts.map fun mount => mount ++ ":" ++ mount ++ ":ro"
    network := if cfg.connectorNetwork = "" then none else some cfg.connectorNetwork }

def createWithLabels (spec : ConnectorSpec) (labels : List (String × String)) :
    Prog Host Err Nat :=
  containerCreate (containerName spec.id) (containerConfig cfg spec labels)

def create (spec : ConnectorSpec) : Prog Host Err Nat := createWithLabels cfg spec []

def doStart (id : String) : Prog Host Err Unit := do
  let status ← getStatus id (.wrap ("lifecycle: connector " ++ quote id) .connectorNotFound)
  let containerID ← wrapErr ("lifecycle: create container for " ++ quote id)
    (create cfg status.spec)
  wrapErr ("lifecycle: start container for " ++ quote id) (containerStart containerID)
  setRunning id (some containerID) true

def doStop (id : String) : Prog Host Err Unit := do
  let status ← getStatus id (.wrap ("lifecycle: connector " ++ quote id) .connectorNotFound)
  match status.containerID with
  | none => pure ()
  | some containerID => do
      wrapErr ("lifecycle: stop container for " ++ quote id) (containerStop containerID)
      setRunning id none false

/-- `ContainerRemove` of a container that was recorded; its error is only logged. -/
def removeOld : Option Nat → Prog Host Err Unit
  | none => pure ()
  | some containerID => ignore (containerRemove containerID)

def stopOld (id : String) (containerID : Option Nat) : Prog Host Err Unit := do
  doStop id
  removeOld containerID

def tryStopOld (id : String) (containerID : Option Nat) : Prog Host Err Unit := do
  ignore (doStop id)
  removeOld containerID

def start (id : String) : Prog Host Err Unit := do
  checkReserved id
  doStart cfg id

def stop (id : String) : Prog Host Err Unit := do
  checkReserved id
  doStop id

def restart (id : String) : Prog Host Err Unit := do
  checkReserved id
  let status ← getStatus id (.wrap ("lifecycle: connector " ++ quote id) .connectorNotFound)
  match status.containerID with
  | none => doStart cfg id
  | some containerID => do
      wrapErr ("lifecycle: restart stop phase for " ++ quote id) (containerStop containerID)
      wrapErr ("lifecycle: restart remove phase for " ++ quote id) (containerRemove containerID)
      setRunning id none false
      doStart cfg id

/-! ## Upgrade, update, roll back -/

def upgrade (id newImage : String) : Prog Host Err Unit := do
  checkReserved id
  let status ← getStatus id (.wrap ("lifecycle: connector " ++ quote id) .connectorNotFound)
  wrapErr ("lifecycle: pull image " ++ quote newImage) (inquiry .pull)
  stopOld id status.containerID
  register
    { id := id, image := newImage, prevImage := status.spec.image, env := status.spec.env }
  doStart cfg id

def digestFromRef (ref : String) : String :=
  String.ofList ((ref.toList.dropWhile fun c => c != '@').drop 1)

def soakPoll (containerID : Nat) : Prog Host Err Unit := do
  let running ← wrapErr "health soak: inspect failed" (containerInspect containerID)
  check running (.daemon "health soak: container exited within soak window")

/-- The loop of `soakCheck`, with this many polls before the deadline. -/
def soakPolls (containerID : Nat) : Nat → Prog Host Err Unit
  | 0 => soakPoll containerID
  | polls + 1 => do
      soakPoll containerID
      inquiry .wait
      soakPolls containerID polls

/-- `soakCheck`.  The window is given by its number of polls, `none` if it is not
    positive. -/
def soakCheck : Option Nat → Option Nat → Prog Host Err Unit
  | some containerID, some polls => soakPolls containerID polls
  | _, _ => pure ()

def rollbackSpec (id prevImage : String) (prev : ConnectorStatus) : ConnectorSpec :=
  { id := id
    image := prevImage
    prevImage := prev.spec.prevImage
    env := prev.spec.env
    permissions := prev.spec.permissions }

/-- `rollback`: it always returns an error. -/
def rollback (id prevImage : String) (cause : Err) : Prog Host Err Unit := do
  let noPrevious := Err.wrap ("lifecycle: update " ++ quote id ++
    ": rollback: no previous image available") cause
  let prev ← getStatus id noPrevious
  if prevImage = "" then
    Prog.fail noPrevious
  else do
    tryStopOld id prev.containerID
    register (rollbackSpec id prevImage prev)
    recover (doStart cfg id) fun startErr => Prog.fail (.rollbackFailed id startErr cause)
    Prog.fail (.rollbackTriggered id cause)

def updateSpec (id : String) (manifest : Manifest) (current : ConnectorStatus) : ConnectorSpec :=
  { id := id
    image := manifest.imageRef
    prevImage := current.spec.image
    env := current.spec.env
    permissions := manifest.permissions }

/-- The end of `Update`: start the new container and soak it, or roll back. -/
def startUpdated (id oldImage : String) (soakWindow : Option Nat) : Prog Host Err Unit := do
  match ← attempt (doStart cfg id) with
  | .error err => rollback cfg id oldImage (.wrap "start new container" err)
  | .ok () => do
      let containerID := ((← get).registry.get id).bind ConnectorStatus.containerID
      recover (soakCheck containerID soakWindow) (rollback cfg id oldImage)

def update (id : String) (manifest : Manifest) (allowedRegistries : List String)
    (gatewayVersion : String) (soakWindow : Option Nat) : Prog Host Err Unit := do
  let context := "lifecycle: update " ++ quote id
  wrapErr (context ++ ": invalid manifest")
    (ofExcept ((manifest.validate allowedRegistries gatewayVersion).mapError .manifest))
  checkReserved id
  let current ← getStatus id (.wrap context .connectorNotFound)
  if digestFromRef current.spec.image = manifest.digest then
    pure ()
  else do
    wrapErr (context ++ ": pull " ++ quote manifest.imageRef) (inquiry .pull)
    when manifest.signatureRequired
      (wrapErr (context ++ ": signature verification failed") (inquiry .verify))
    when current.containerID.isSome
      (wrapErr (context ++ ": stop old container") (stopOld id current.containerID))
    register (updateSpec id manifest current)
    startUpdated cfg id current.spec.image soakWindow

def rollbackTo (id : String) : Prog Host Err Unit := do
  let context := "lifecycle: rollback " ++ quote id
  checkReserved id
  let current ← getStatus id (.wrap context .connectorNotFound)
  if current.spec.prevImage = "" then
    Prog.fail (.noPreviousImage context)
  else do
    wrapErr (context ++ ": stop") (stopOld id current.containerID)
    register
      { id := id
        image := current.spec.prevImage
        prevImage := current.spec.image
        env := current.spec.env
        permissions := current.spec.permissions }
    wrapErr (context ++ ": start") (doStart cfg id)

/-- `Install`: an image that is available locally is used by its tag. -/
def install (manifest : Manifest) (allowedRegistries : List String) (gatewayVersion : String) :
    Prog Host Err Unit := do
  let context := "lifecycle: install " ++ quote manifest.name
  wrapErr (context ++ ": invalid manifest")
    (ofExcept ((manifest.validate allowedRegistries gatewayVersion).mapError .manifest))
  checkReserved manifest.name
  let imageRef ← recover
    (do
      inquiry .imageInspect
      pure manifest.image)
    fun _ => do
      wrapErr (context ++ ": pull " ++ quote manifest.imageRef) (inquiry .pull)
      pure manifest.imageRef
  when manifest.signatureRequired
    (wrapErr (context ++ ": signature verification failed") (inquiry .verify))
  register { id := manifest.name, image := imageRef, permissions := manifest.permissions }
  recover (doStart cfg manifest.name) fun err => do
    unregister manifest.name
    Prog.fail err

/-! ## What starting and stopping do -/

section Specs

variable {cfg} {β : Type} {h : Host} {id : String} {I P : Host → Prop} {Q : α → Host → Prop}
  {R : β → Host → Prop} {F : Err → Host → Prop} {G : Host → Prop}

theorem wrapErr_triple {context : String} {p : Prog Host Err α}
    (hp : Triple I P p Q fun _ => G) : Triple I P (wrapErr context p) Q fun _ => G :=
  Triple.recover hp fun _ => Triple.fail fun _ hg => hg

theorem ignore_triple {p : Prog Host Err α} (hp : Triple I P p (fun _ => G) fun _ => G) :
    Triple I P (ignore p) (fun _ => G) F :=
  Triple.bind (Triple.attempt (Q := fun _ => G) hp) fun _ => Triple.pure fun _ hg => hg

theorem getStatus_bind {err : Err} {f : ConnectorStatus → Prog Host Err β}
    (hsome : ∀ s, h.registry.get id = some s → Triple I (· = h) (f s) R F)
    (hnone : h.registry.get id = none → F err h) :
    Triple I (· = h) (getStatus id err >>= f) R F := by
  apply Triple.bind (Q := fun s h' => h.registry.get id = some s ∧ h' = h)
  · apply Triple.get_bind_eq
    cases hs : h.registry.get id with
    | some s => exact Triple.pure fun _ hh => ⟨rfl, hh⟩
    | none => exact Triple.fail fun h' hh => hh ▸ hnone hs
  · exact fun s => Triple.of_fact (hsome s)

/-- `getStatus_bind` for a connector that is registered. -/
theorem getStatus_bind_some {err : Err} {f : ConnectorStatus → Prog Host Err β}
    {s : ConnectorStatus} (hs : h.registry.get id = some s) (hf : Triple I (· = h) (f s) R F) :
    Triple I (· = h) (getStatus id err >>= f) R F := by
  apply getStatus_bind
  · intro s' hs'
    rw [hs] at hs'
    cases hs'
    exact hf
  · intro hnone
    rw [hs] at hnone
    cases hnone

theorem checkReserved_cases {f : Unit → Prog Host Err β} (herr : id ∈ h.reserved → F .managed h)
    (hf : id ∉ h.reserved → Triple I (· = h) (f ()) R F) :
    Triple I (· = h) (checkReserved id >>= f) R F := by
  apply Triple.bind (Q := fun _ h' => id ∉ h.reserved ∧ h' = h)
  · apply Triple.get_bind_eq
    cases hres : h.reserved.contains id with
    | true => exact Triple.fail fun _ hh => hh ▸ herr (by simpa using hres)
    | false => exact Triple.pure fun _ hh => ⟨by simpa using hres, hh⟩
  · exact fun _ => Triple.of_fact hf

theorem checkReserved_bind {f : Unit → Prog Host Err β} (herr : F .managed h)
    (hf : Triple I (· = h) (f ()) R F) : Triple I (· = h) (checkReserved id >>= f) R F :=
  checkReserved_cases (fun _ => herr) fun _ => hf

def created (h : Host) (id : String) (config : ContainerConfig)
    (hname : ¬ h.daemon.Uses (containerName id)) : Host :=
  h.after .create true (h.daemon.add (containerName id) config hname)

def started (h : Host) (id : String) (container : Nat) : Host :=
  { h.after .start true (h.daemon.mark container true) with
    registry := h.registry.setRunning id (some container) true }

/-- A start that failed: no container was created, the reply to the create was lost, or the
    container was created and the call to start it failed. -/
inductive StartFailed (id : String) (config : ContainerConfig) (h : Host) : Host → Prop
  | refused : StartFailed id config h (h.after .create false h.daemon)
  | lost (hname : ¬ h.daemon.Uses (containerName id)) :
      (h.answers.next .create).isLost = true →
      StartFailed id config h
        (h.after .create false (h.daemon.add (containerName id) config hname))
  | created (hname : ¬ h.daemon.Uses (containerName id)) (d : Daemon) :
      (h.answers.next .start).fails = true →
      d = (h.created id config hname).daemon ∨
        d = (h.created id config hname).daemon.mark h.daemon.nextID true →
      StartFailed id config h ((h.created id config hname).after .start false d)

theorem doStart_spec {s : ConnectorStatus} (hs : h.registry.get id = some s) :
    Triple (fun _ => True) (· = h) (doStart cfg id)
      (fun _ h' => ∃ hname, h' =
        (h.created id (containerConfig cfg s.spec []) hname).started id h.daemon.nextID)
      fun _ => StartFailed id (containerConfig cfg s.spec []) h := by
  have hid : s.spec.id = id := Registry.spec_id_of_get hs
  apply getStatus_bind_some hs
  apply Triple.bind (Q := fun k h' => ∃ hname, k = h.daemon.nextID ∧
    h' = h.created id (containerConfig cfg s.spec []) hname)
  · apply wrapErr_triple
    subst hid
    apply containerCreate_triple.post_error
    rintro _ h' (rfl | ⟨hlost, hname, rfl⟩)
    · exact .refused
    · exact .lost hname hlost
  intro k
  apply Triple.of_forall
  rintro h₁ ⟨hname, rfl, rfl⟩
  apply Triple.bind
  · apply wrapErr_triple (G := StartFailed id (containerConfig cfg s.spec []) h)
    apply containerStart_triple.post_error
    rintro _ h' ⟨hwhy | hnone, d, hd, rfl⟩
    · rw [show (h.created id (containerConfig cfg s.spec []) hname).answers.next .start =
        h.answers.next .start from Answers.next_after_of_ne nofun] at hwhy
      exact .created hname d hwhy hd
    · -- the container was just created
      exact absurd rfl (Daemon.ne_of_find_none hnone _ ((Daemon.mem_add hname).mpr (Or.inr rfl)))
  intro _
  apply Triple.modify
  rintro h₂ rfl
  exact ⟨trivial, hname, rfl⟩

def stopped (h : Host) (id : String) (container : Nat) : Host :=
  { h.after .stop true (h.daemon.mark container false) with
    registry := h.registry.setRunning id none false }

/-- A stop that failed, whether the container was stopped or not. -/
inductive StopFailed (k : Nat) (h : Host) : Host → Prop
  | failed (d : Daemon) : d = h.daemon ∨ d = h.daemon.mark k false →
      StopFailed k h (h.after .stop false d)

theorem doStop_spec {s : ConnectorStatus} (hs : h.registry.get id = some s) :
    Triple (fun _ => True) (· = h) (doStop id)
      (fun _ h' => (s.containerID = none ∧ h' = h) ∨ ∃ k, s.containerID = some k ∧
        (∃ c ∈ h.daemon.containers, c.id = k) ∧ (h.answers.next .stop).fails = false ∧
        h' = h.stopped id k)
      fun _ h' => ∃ k, s.containerID = some k ∧ StopFailed k h h' := by
  apply getStatus_bind_some hs
  cases hc : s.containerID with
  | none => exact Triple.pure fun _ hh => Or.inl ⟨rfl, hh⟩
  | some k =>
    apply Triple.bind
    · apply wrapErr_triple (G := fun h' => ∃ k', some k = some k' ∧ StopFailed k' h h')
      apply containerStop_triple.post_error
      rintro _ h' ⟨d, hd, rfl⟩
      exact ⟨k, rfl, .failed d hd⟩
    intro _
    apply Triple.modify
    rintro h₁ ⟨hex, hfails, rfl⟩
    exact ⟨trivial, Or.inr ⟨k, rfl, hex, hfails, rfl⟩⟩

inductive Removal (k : Nat) (h : Host) : Host → Prop
  | done : (∃ c ∈ h.daemon.containers, c.id = k) →
      Removal k h (h.after .remove true (h.daemon.drop k))
  | lost : Removal k h (h.after .remove false (h.daemon.drop k))
  | failed : (h.answers.next .remove).isError = true ∨
        (∀ c, h.daemon.find k = some c → c.running = true) →
      Removal k h (h.after .remove false h.daemon)

theorem removeOld_spec {k : Nat} :
    Triple (fun _ => True) (· = h) (removeOld (some k)) (fun _ => Removal k h) F := by
  apply ignore_triple
  apply containerRemove_triple.post
  · rintro _ h' ⟨hex, rfl⟩
    exact .done hex
  · rintro _ h' (⟨hwhy, rfl⟩ | rfl)
    · exact .failed hwhy
    · exact .lost

/-- The old container is out of the way as far as the registry knows. -/
inductive StopsOld (id : String) (s : ConnectorStatus) (h : Host) : Host → Prop
  | nothing : s.containerID = none → StopsOld id s h h
  | stopped {k : Nat} {h' : Host} : s.containerID = some k →
      (∃ c ∈ h.daemon.containers, c.id = k) → Removal k (h.stopped id k) h' →
      StopsOld id s h h'

theorem stopOld_spec {s : ConnectorStatus} (hs : h.registry.get id = some s) :
    Triple (fun _ => True) (· = h) (stopOld id s.containerID) (fun _ => StopsOld id s h)
      fun _ h' => ∃ k, s.containerID = some k ∧ StopFailed k h h' := by
  apply Triple.bind (doStop_spec hs)
  intro _
  apply Triple.of_forall
  rintro h' (⟨hnone, rfl⟩ | ⟨k, hk, hex, -, rfl⟩)
  · rw [hnone]
    exact Triple.pure fun _ hh => hh ▸ .nothing hnone
  · rw [hk]
    exact removeOld_spec.post_ok fun _ _ hrem => .stopped hk hex hrem

theorem tryStopOld_spec {s : ConnectorStatus} (hs : h.registry.get id = some s) :
    Triple (fun _ => True) (· = h) (tryStopOld id s.containerID)
      (fun _ h' => StopsOld id s h h' ∨ ∃ k h₁, s.containerID = some k ∧ StopFailed k h h₁ ∧
        Removal k h₁ h') F := by
  apply Triple.bind
  · apply ignore_triple (G := fun h' => (s.containerID = none ∧ h' = h ∨ ∃ k,
      s.containerID = some k ∧ (∃ c ∈ h.daemon.containers, c.id = k) ∧ h' = h.stopped id k) ∨
      ∃ k, s.containerID = some k ∧ StopFailed k h h')
    apply (doStop_spec hs).post
    · rintro _ h' (hnone | ⟨k, hk, hex, -, hh⟩)
      · exact Or.inl (Or.inl hnone)
      · exact Or.inl (Or.inr ⟨k, hk, hex, hh⟩)
    · exact fun _ _ hh => Or.inr hh
  intro _
  apply Triple.of_forall
  rintro h' ((⟨hnone, rfl⟩ | ⟨k, hk, hex, rfl⟩) | ⟨k, hk, hfailed⟩)
  · rw [hnone]
    exact Triple.pure fun _ hh => hh ▸ Or.inl (.nothing hnone)
  · rw [hk]
    exact removeOld_spec.post_ok fun _ _ hrem => Or.inl (.stopped hk hex hrem)
  · rw [hk]
    exact removeOld_spec.post_ok fun _ _ hrem => Or.inr ⟨k, h', rfl, hfailed, hrem⟩

/-- Kept by the calls of the soak, which at most find the container stopped. -/
def SoakStable (G : Host → Prop) : Prop :=
  ∀ h op ok d, op = .inspect ∨ op = .wait → d = h.daemon ∨ (∃ k, d = h.daemon.mark k false) →
    G h → G (h.after op ok d)

theorem soakPoll_triple {k : Nat} (hG : SoakStable G) :
    Triple (fun _ => True) G (soakPoll k) (fun _ => G) fun _ => G := by
  apply Triple.of_forall
  intro h hh
  apply Triple.bind (Q := fun _ => G)
  · apply wrapErr_triple
    apply containerInspect_triple.post
    · rintro _ h' (rfl | rfl)
      · exact hG h _ _ _ (Or.inl rfl) (Or.inl rfl) hh
      · exact hG h _ _ _ (Or.inl rfl) (Or.inr ⟨k, rfl⟩) hh
    · rintro _ h' rfl
      exact hG h _ _ _ (Or.inl rfl) (Or.inl rfl) hh
  · exact fun _ => Triple.check (fun _ _ hg => hg) fun _ hg => hg

theorem soakPolls_triple {k polls : Nat} (hG : SoakStable G) :
    Triple (fun _ => True) G (soakPolls k polls) (fun _ => G) fun _ => G := by
  induction polls with
  | zero => exact soakPoll_triple hG
  | succ polls ih =>
    apply Triple.bind (soakPoll_triple hG)
    intro _
    apply Triple.bind (Q := fun _ => G)
    · apply Triple.of_forall
      intro h hh
      apply inquiry_triple.post
      · rintro _ h' ⟨-, rfl⟩
        exact hG h _ _ _ (Or.inr rfl) (Or.inl rfl) hh
      · rintro _ h' ⟨-, rfl⟩
        exact hG h _ _ _ (Or.inr rfl) (Or.inl rfl) hh
    · exact fun _ => ih

theorem soakCheck_triple {container polls : Option Nat} (hG : SoakStable G) :
    Triple (fun _ => True) G (soakCheck container polls) (fun _ => G) fun _ => G := by
  cases container with
  | none => exact Triple.pure fun _ hg => hg
  | some k =>
    cases polls with
    | none => exact Triple.pure fun _ hg => hg
    | some polls => exact soakPolls_triple hG

end Specs

end Host

/-! ## Operations on one connector -/

/-- A call of the manager for connector `id`; an `Install` names it in the manifest. -/
inductive Op (id : String) where
  | start
  | stop
  | restart
  | upgrade (newImage : String)
  | update (manifest : Manifest) (allowedRegistries : List String) (gatewayVersion : String)
      (soakWindow : Option Nat)
  | rollback
  | install (manifest : Manifest) (hname : manifest.name = id) (allowedRegistries : List String)
      (gatewayVersion : String)

def Op.prog (cfg : ManagerConfig) {id : String} : Op id → Prog Host Err Unit
  | .start => Host.start cfg id
  | .stop => Host.stop id
  | .restart => Host.restart cfg id
  | .upgrade newImage => Host.upgrade cfg id newImage
  | .update manifest allowed version soak => Host.update cfg id manifest allowed version soak
  | .rollback => Host.rollbackTo cfg id
  | .install manifest _ allowed version => Host.install cfg manifest allowed version

def Host.facing (h : Host) (answers : Answers) : Host :=
  { h with answers := answers, calls := [] }

def Host.perform (cfg : ManagerConfig) {id : String} (h : Host) (op : Op id)
    (answers : Answers) : Outcome Host Err Unit :=
  op.prog cfg (h.facing answers)

def mqttManifest : Manifest :=
  { name := "mqtt"
    image := "ghcr.io/nexus/mqtt"
    digest := "sha256:0123456789abcdef0123456789abcdef0123456789abcdef0123456789abcdef" }

def installMqtt : Op "mqtt" := .install mqttManifest rfl ["ghcr.io/nexus/"] "1.0.0"

end NexusGateway.Lifecycle
