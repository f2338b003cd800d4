/-
What an `Update` that rolled back leaves.

`Update` registers the new spec before it starts the new container, and the
rollback takes from the registry what it does not get as an argument.  So
it restores the old image with the environment, which `Update` did not
change, and with the rest of the new spec: the old image itself as the
previous one, and the permissions of the manifest.
-/

import NexusGateway.Lifecycle.Manager

namespace NexusGateway.Lifecycle

open Lib Lib.Prog Catalog

namespace Host

variable {cfg : ManagerConfig} {id : String} {h h' : Host} {s : ConnectorStatus}
  {spec : ConnectorSpec}

def Installed (id : String) (spec : ConnectorSpec) (h : Host) : Prop :=
  ∃ s, h.registry.get id = some s ∧ s.spec = spec

/-- The connector is registered with this spec, and runs in the container on record, which
    was created from it. -/
def Runs (cfg : ManagerConfig) (id : String) (spec : ConnectorSpec) (h : Host) : Prop :=
  ∃ s, h.registry.get id = some s ∧ s.spec = spec ∧ s.running = true ∧
    ∃ c ∈ h.daemon.containers, s.containerID = some c.id ∧ c.running = true ∧
      c.name = containerName id ∧ c.config = containerConfig cfg spec []

/-! ## Steps -/

theorem Installed.of_registry (hi : Installed id spec h) (hreg : h'.registry = h.registry) :
    Installed id spec h' := by
  rw [Installed, hreg]
  exact hi

theorem Installed.stopped {k : Nat} (hi : Installed id spec h) :
    Installed id spec (h.stopped id k) := by
  obtain ⟨s, hs, hspec⟩ := hi
  exact ⟨{ s with containerID := none, running := false }, by simp [Host.stopped, hs], hspec⟩

theorem Removal.installed {k : Nat} (hrem : Removal k h h') (hi : Installed id spec h) :
    Installed id spec h' := by
  cases hrem with
  | done _ | lost | failed _ => exact hi.of_registry rfl

theorem StopFailed.installed {k : Nat} (hfailed : StopFailed k h h') (hi : Installed id spec h) :
    Installed id spec h' := by
  cases hfailed with
  | failed _ _ => exact hi.of_registry rfl

theorem StartFailed.installed {config : ContainerConfig} (hfailed : StartFailed id config h h')
    (hi : Installed id spec h) : Installed id spec h' := by
  cases hfailed with
  | refused | lost _ _ | created _ _ _ _ => exact hi.of_registry rfl

theorem StopsOld.installed (hold : StopsOld id s h h') (hi : Installed id spec h) :
    Installed id spec h' := by
  cases hold with
  | nothing _ => exact hi
  | stopped _ _ hrem => exact hrem.installed hi.stopped

theorem register_installed {F : Err → Host → Prop} {P : Host → Prop} (hid : spec.id = id) :
    Triple (fun _ => True) P (register spec) (fun _ => Installed id spec) F := by
  apply Triple.modify
  intro h _
  refine ⟨trivial, h.registry.registered spec, by simp [hid], ?_⟩
  rw [Registry.registered]
  cases h.registry.get spec.id with
  | none | some _ => rfl

theorem soakStable_installed : SoakStable (Installed id spec) :=
  fun _ _ _ _ _ _ hi => hi.of_registry rfl

theorem runs_started {hname : ¬ h.daemon.Uses (containerName id)}
    (hs : h.registry.get id = some s) :
    Runs cfg id s.spec
      ((h.created id (containerConfig cfg s.spec []) hname).started id h.daemon.nextID) := by
  refine ⟨{ s with containerID := some h.daemon.nextID, running := true }, ?_, rfl, rfl,
    { id := h.daemon.nextID
      name := containerName id
      config := containerConfig cfg s.spec []
      running := true }, ?_, rfl, rfl, rfl, rfl⟩
  · simp [started, created, after, hs]
  · refine List.mem_map.mpr ⟨_, (Daemon.mem_add hname).mpr (Or.inr rfl), ?_⟩
    simp

theorem doStart_runs : Triple (fun _ => True) (Installed id spec) (doStart cfg id)
    (fun _ => Runs cfg id spec) fun _ => Installed id spec := by
  apply Triple.of_forall
  rintro h ⟨s, hs, rfl⟩
  apply (doStart_spec hs).post
  · rintro _ h' ⟨hname, rfl⟩
    exact runs_started hs
  · exact fun _ h' hfailed => hfailed.installed ⟨s, hs, rfl⟩

theorem Runs.installed (hr : Runs cfg id spec h) : Installed id spec h := by
  obtain ⟨s, hs, hspec, -⟩ := hr
  exact ⟨s, hs, hspec⟩

/-! ## Update -/

def RolledBack (cfg : ManagerConfig) (id : String) (spec : ConnectorSpec) (e : Err) (h : Host) :
    Prop :=
  ∀ cause, e = .rollbackTriggered id cause → Runs cfg id spec h

theorem wrapErr_rolledBack {α : Type} {context : String} {P G : Host → Prop}
    {p : Prog Host Err α} {Q : α → Host → Prop} (hp : Triple (fun _ => True) P p Q fun _ => G) :
    Triple (fun _ => True) P (wrapErr context p) Q (RolledBack cfg id spec) :=
  Triple.recover hp fun _ => Triple.fail fun _ _ _ he => nomatch he

theorem rollback_rolledBack {prevImage : String} {cause : Err} :
    Triple (fun _ => True) (Installed id spec) (rollback cfg id prevImage cause)
      (fun _ _ => True) (RolledBack cfg id { spec with image := prevImage }) := by
  apply Triple.of_forall
  rintro h ⟨s, hs, rfl⟩
  have hid : s.spec.id = id := Registry.spec_id_of_get hs
  apply getStatus_bind_some hs
  have hback : rollbackSpec id prevImage s = { s.spec with image := prevImage } := by
    subst hid
    rfl
  split
  · exact Triple.fail fun _ _ _ he => nomatch he
  rw [hback]
  apply Triple.bind (Q := fun _ => Installed id s.spec)
  · apply (tryStopOld_spec hs).post_ok
    rintro _ h' (hold | ⟨k, h₁, -, hfailed, hrem⟩)
    · exact hold.installed ⟨s, hs, rfl⟩
    · exact hrem.installed (hfailed.installed ⟨s, hs, rfl⟩)
  intro _
  apply Triple.bind (Q := fun _ => Installed id { s.spec with image := prevImage })
  · exact register_installed hid
  intro _
  apply Triple.bind (Q := fun _ => Runs cfg id { s.spec with image := prevImage })
  · apply Triple.recover doStart_runs
    exact fun _ => Triple.fail fun _ _ _ he => nomatch he
  · exact fun _ => Triple.fail fun _ hruns _ _ => hruns

theorem startUpdated_rolledBack {oldImage : String} {soakWindow : Option Nat} :
    Triple (fun _ => True) (Installed id spec) (startUpdated cfg id oldImage soakWindow)
      (fun _ _ => True) (RolledBack cfg id { spec with image := oldImage }) := by
  apply Triple.bind (Triple.attempt (Q := fun _ => Installed id spec)
    (doStart_runs.post_ok fun _ _ hruns => hruns.installed))
  intro r
  cases r with
  | error err => exact rollback_rolledBack
  | ok u =>
    apply Triple.get_bind
    intro h
    apply Triple.recover (G := fun _ => Installed id spec)
    · exact (soakCheck_triple soakStable_installed).conseq (fun _ hh => hh.2)
        (fun _ _ _ => trivial) fun _ _ hi => hi
    · exact fun _ => rollback_rolledBack

theorem inquiry_get {op : DockerOp} : Triple (fun _ => True)
    (fun h => h.registry.get id = some s) (inquiry op)
    (fun _ h => h.registry.get id = some s) fun _ _ => True := by
  apply Triple.of_forall
  intro h hs
  apply inquiry_triple.post
  · rintro _ h' ⟨-, rfl⟩
    exact hs
  · exact fun _ _ _ => trivial

def rolledBackSpec (manifest : Manifest) (s : ConnectorStatus) : ConnectorSpec :=
  { s.spec with prevImage := s.spec.image, permissions := manifest.permissions }

theorem update_rolledBack {manifest : Manifest} {allowed : List String} {version : String}
    {soakWindow : Option Nat} (hs : h.registry.get id = some s) :
    Triple (fun _ => True) (· = h) (update cfg id manifest allowed version soakWindow)
      (fun _ _ => True) (RolledBack cfg id (rolledBackSpec manifest s)) := by
  have hid : s.spec.id = id := Registry.spec_id_of_get hs
  have hback :
      { updateSpec id manifest s with image := s.spec.image } = rolledBackSpec manifest s := by
    subst hid
    rfl
  apply Triple.bind (Q := fun _ => (· = h))
  · apply wrapErr_rolledBack (G := fun _ => True)
    exact Triple.ofExcept (fun _ _ _ hh => hh) fun _ _ _ _ => trivial
  intro _
  apply checkReserved_bind
  · exact fun _ he => nomatch he
  apply getStatus_bind_some hs
  split
  · exact Triple.pure fun _ _ => trivial
  apply Triple.bind (wrapErr_rolledBack (inquiry_get.pre fun _ hh => hh ▸ hs))
  intro _
  apply Triple.bind (Q := fun _ h' => h'.registry.get id = some s)
  · exact Triple.when (fun _ => wrapErr_rolledBack inquiry_get) fun _ _ hs' => hs'
  intro _
  apply Triple.bind (Q := fun _ => Installed id s.spec)
  · apply Triple.of_forall
    intro h₁ hs₁
    apply Triple.when
    · intro _
      apply wrapErr_rolledBack (G := fun _ => True)
      exact (stopOld_spec hs₁).post (fun _ _ hold => hold.installed ⟨s, hs₁, rfl⟩)
        fun _ _ _ => trivial
    · exact fun _ _ hh => hh ▸ ⟨s, hs₁, rfl⟩
  intro _
  rw [← hback]
  apply Triple.bind (Q := fun _ => Installed id (updateSpec id manifest s))
  · exact register_installed rfl
  · exact fun _ => startUpdated_rolledBack

/-! ## When the rollback restores the connector -/

theorem Runs.spec_eq {spec' : ConnectorSpec} (hr : Runs cfg id spec h)
    (hr' : Runs cfg id spec' h) : spec = spec' := by
  obtain ⟨s, hs, rfl, -⟩ := hr
  obtain ⟨s', hs', rfl, -⟩ := hr'
  rw [Option.some.inj (hs.symm.trans hs')]

/-- An `Update` that ended with a rollback leaves the connector running with the spec it
    had before, in a container created from it, exactly if that spec had its own image as
    the previous one and the permissions of the manifest. -/
theorem rollback_restores_iff (cfg : ManagerConfig) {id : String} {h : Host} {s : ConnectorStatus}
    (hs : h.registry.get id = some s) (manifest : Manifest) (allowed : List String)
    (version : String) (soakWindow : Option Nat) (answers : Answers) (cause : Err)
    (hres : (h.perform cfg (.update manifest allowed version soakWindow : Op id) answers).result =
      .error (.rollbackTriggered id cause)) :
    Runs cfg id s.spec
        (h.perform cfg (.update manifest allowed version soakWindow : Op id) answers).state ↔
      s.spec.prevImage = s.spec.image ∧ s.spec.permissions = manifest.permissions := by
  have hruns : Runs cfg id (rolledBackSpec manifest s)
      (h.perform cfg (.update manifest allowed version soakWindow : Op id) answers).state :=
    (update_rolledBack (h := h.facing answers) hs).of_error rfl hres cause rfl
  constructor
  · intro hr
    have hspec := hr.spec_eq hruns
    exact ⟨congrArg ConnectorSpec.prevImage hspec, congrArg ConnectorSpec.permissions hspec⟩
  · rintro ⟨hprev, hperm⟩
    have hspec : rolledBackSpec manifest s =
        { s.spec with prevImage := s.spec.prevImage, permissions := s.spec.permissions } := by
      rw [hprev, hperm]
      rfl
    rwa [hspec] at hruns

def mountManifest : Manifest := { mqttManifest with permissions := { mounts := ["/etc/ssl"] } }

def startedHost (spec : ConnectorSpec) : Host :=
  (({ registry := ({} : Registry).register spec } : Host).perform {} (.start : Op "mqtt")
    .allOk).state

def mountUpdate : Op "mqtt" := .update mountManifest ["ghcr.io/nexus/"] "1.0.0" (some 0)

def exitsInSoak : Answers := Answers.allOk.on .inspect [.exited]

/-- After the rollback the connector has the permissions of the update it did not get, and
    its own image as the previous one. -/
theorem rollback_keeps_new_permissions :
    ∃ h s s', h = startedHost { id := "mqtt", image := "ghcr.io/nexus/mqtt:1" } ∧
      h.registry.get "mqtt" = some s ∧ s.containerID.isSome ∧
      (h.perform {} mountUpdate exitsInSoak).result = .error (.rollbackTriggered "mqtt"
        (.daemon "health soak: container exited within soak window")) ∧
      (h.perform {} mountUpdate exitsInSoak).state.registry.get "mqtt" = some s' ∧
      s.spec.image = "ghcr.io/nexus/mqtt:1" ∧ s'.spec.image = s.spec.image ∧
      s.spec.prevImage = "" ∧ s'.spec.prevImage = "ghcr.io/nexus/mqtt:1" ∧
      s.spec.permissions.mounts = [] ∧ s'.spec.permissions.mounts = ["/etc/ssl"] ∧
      (h.perform {} mountUpdate exitsInSoak).state.daemon.containers.map
        (fun c => (c.config.image, c.config.binds)) =
          [("ghcr.io/nexus/mqtt:1", ["/etc/ssl:/etc/ssl:ro"])] :=
  ⟨_, _, _, rfl, rfl, rfl, rfl, rfl, rfl, rfl, rfl, rfl, rfl, rfl, rfl⟩

def mountedSpec : ConnectorSpec :=
  { id := "mqtt"
    image := "ghcr.io/nexus/mqtt:1"
    prevImage := "ghcr.io/nexus/mqtt:1"
    permissions := { mounts := ["/etc/ssl"] } }

theorem rollback_restores_iff_same_permissions :
    Runs {} "mqtt" mountedSpec
      ((startedHost mountedSpec).perform {} mountUpdate exitsInSoak).state :=
  (rollback_restores_iff {} (s := ⟨mountedSpec, some 0, true⟩) rfl mountManifest
    ["ghcr.io/nexus/"] "1.0.0" (some 0) exitsInSoak _ rfl).mpr ⟨rfl, rfl⟩

end Host

end NexusGateway.Lifecycle
