/-
What an `Install` that failed leaves in the registry.

`Install` registers the new spec, starts the container, and removes the
entry again if the start fails.  `Register` has overwritten whatever stood
there, so the removal restores an absent entry only: a start that fails
takes an installed connector, running or not, out of the registry.  Up to
the registration nothing is changed.
-/

import NexusGateway.Lifecycle.Manager

namespace NexusGateway.Lifecycle

open Lib Lib.Prog Catalog

namespace Host

/-- `Install` comes to the registration: the manifest is valid, its name is not reserved,
    the image is there or can be pulled, and a signature that is asked for is verified. -/
structure Prepares (reserved : List String) (manifest : Manifest) (allowed : List String)
    (version : String) (answers : Answers) : Prop where
  valid : (manifest.validate allowed version).isOk = true
  unreserved : manifest.name ∉ reserved
  image : (answers.next .imageInspect).fails = false ∨ (answers.next .pull).fails = false
  signature : manifest.signatureRequired = true → (answers.next .verify).fails = false

section Failed

variable {cfg : ManagerConfig} {id : String} {h h₁ : Host} {manifest : Manifest}
  {allowed : List String} {version : String}

/-! ## Up to the registration -/

/-- The image was looked up or pulled: the registry stands, and the signature is next. -/
structure Fetched (h h' : Host) : Prop where
  found : (h.answers.next .imageInspect).fails = false ∨ (h.answers.next .pull).fails = false
  registry : h'.registry = h.registry
  verify : h'.answers.next .verify = h.answers.next .verify

theorem fetch_spec {context image ref : String} :
    Triple (fun _ => True) (· = h)
      (recover
        (do
          inquiry .imageInspect
          pure image)
        fun _ => do
          wrapErr context (inquiry .pull)
          pure ref)
      (fun _ => Fetched h)
      fun _ h' => ((h.answers.next .imageInspect).fails = true ∧
        (h.answers.next .pull).fails = true) ∧ h'.registry = h.registry := by
  apply Triple.recover (G := fun _ h' => (h.answers.next .imageInspect).fails = true ∧
    h' = h.after .imageInspect false h.daemon)
  · apply Triple.bind inquiry_triple
    intro _
    apply Triple.pure
    rintro h' ⟨hok, rfl⟩
    exact ⟨Or.inl hok, rfl, Answers.next_after_of_ne nofun⟩
  intro _
  apply Triple.of_forall
  rintro h' ⟨hfails, rfl⟩
  have hpull : (h.after .imageInspect false h.daemon).answers.next .pull =
      h.answers.next .pull := Answers.next_after_of_ne nofun
  apply Triple.bind (Q := fun _ => Fetched h)
  · apply wrapErr_triple
    apply inquiry_triple.post
    · rintro _ h' ⟨hok, rfl⟩
      rw [hpull] at hok
      refine ⟨Or.inr hok, rfl, ?_⟩
      calc ((h.answers.after .imageInspect).after .pull).next .verify
          = (h.answers.after .imageInspect).next .verify := Answers.next_after_of_ne nofun
        _ = h.answers.next .verify := Answers.next_after_of_ne nofun
    · rintro _ h' ⟨hfails', rfl⟩
      rw [hpull] at hfails'
      exact ⟨⟨hfails, hfails'⟩, rfl⟩
  · exact fun _ => Triple.pure fun _ hh => hh

theorem verify_spec {context : String} (hfetched : Fetched h h₁) :
    Triple (fun _ => True) (· = h₁)
      (when manifest.signatureRequired (wrapErr context (inquiry .verify)))
      (fun _ _ => manifest.signatureRequired = true → (h.answers.next .verify).fails = false)
      fun _ h' => (manifest.signatureRequired = true ∧ (h.answers.next .verify).fails = true) ∧
        h'.registry = h.registry := by
  apply Triple.when
  · intro hrequired
    apply wrapErr_triple
    apply inquiry_triple.post
    · rintro _ h' ⟨hok, -⟩ _
      exact hfetched.verify ▸ hok
    · rintro _ h' ⟨hfails, rfl⟩
      exact ⟨⟨hrequired, hfetched.verify ▸ hfails⟩, hfetched.registry⟩
  · intro hnot _ _ hrequired
    rw [hnot] at hrequired
    cases hrequired

/-! ## Install -/

/-- A failed `Install` did not come to the registration, or it did and then removed the
    entry. -/
def InstallFailed (h : Host) (manifest : Manifest) (allowed : List String) (version : String)
    (h' : Host) : Prop :=
  (¬ Prepares h.reserved manifest allowed version h.answers ∧ h'.registry = h.registry) ∨
    Prepares h.reserved manifest allowed version h.answers ∧
      h'.registry.get manifest.name = none

theorem startInstalled_failed {P : Host → Prop} :
    Triple (fun _ => True) P
      (recover (doStart cfg id) fun err => do
        unregister id
        Prog.fail err) (fun _ _ => True) fun _ h => h.registry.get id = none := by
  apply Triple.recover (G := fun _ _ => True) Triple.top
  intro err
  apply Triple.bind (Q := fun _ h => h.registry.get id = none)
  · apply Triple.modify
    intro h _
    refine ⟨trivial, ?_⟩
    simp
  · exact fun _ => Triple.fail fun _ hnone => hnone

theorem install_failed :
    Triple (fun _ => True) (· = h) (install cfg manifest allowed version)
      (fun _ _ => True) fun _ => InstallFailed h manifest allowed version := by
  apply Triple.bind (Q := fun _ h' => (manifest.validate allowed version).isOk = true ∧ h' = h)
  · apply wrapErr_triple
    apply Triple.ofExcept
    · intro _ hvalid _ hh
      refine ⟨?_, hh⟩
      cases hv : manifest.validate allowed version with
      | ok _ => rfl
      | error e => rw [hv] at hvalid; cases hvalid
    · rintro e hinvalid _ rfl
      refine Or.inl ⟨fun hprep => ?_, rfl⟩
      have hvalid := hprep.valid
      cases hv : manifest.validate allowed version with
      | ok _ => rw [hv] at hinvalid; cases hinvalid
      | error e => rw [hv] at hvalid; cases hvalid
  intro _
  apply Triple.of_fact
  intro hvalid
  apply checkReserved_cases
  · exact fun hreserved => Or.inl ⟨fun hprep => hprep.unreserved hreserved, rfl⟩
  intro hunreserved
  apply Triple.bind (fetch_spec.post_error _)
  · intro imageRef
    apply Triple.of_forall
    intro h₁ hfetched
    apply Triple.bind ((verify_spec hfetched).post_error _)
    · intro _
      apply Triple.of_forall
      intro h₂ hsignature
      have hprep : Prepares h.reserved manifest allowed version h.answers :=
        ⟨hvalid, hunreserved, hfetched.found, hsignature⟩
      apply Triple.bind (Q := fun _ _ => True)
      · exact Triple.modify fun _ _ => ⟨trivial, trivial⟩
      · exact fun _ => startInstalled_failed.post_error fun _ _ hnone => Or.inr ⟨hprep, hnone⟩
    · rintro _ h' ⟨⟨hrequired, hfails⟩, hreg⟩
      refine Or.inl ⟨fun hprep => ?_, hreg⟩
      rw [hprep.signature hrequired] at hfails
      cases hfails
  · rintro _ h' ⟨⟨hinspect, hpull⟩, hreg⟩
    refine Or.inl ⟨fun hprep => ?_, hreg⟩
    rcases hprep.image with hok | hok
    · rw [hok] at hinspect
      cases hinspect
    · rw [hok] at hpull
      cases hpull

end Failed

/-- A failed `Install` leaves the entry of the connector as it was exactly if there was
    none, or the manifest, the reservation or the answers kept it from the registration. -/
theorem failed_install_unchanged_iff (cfg : ManagerConfig) (h : Host) (manifest : Manifest)
    (allowed : List String) (version : String) (answers : Answers) (e : Err)
    (hres : (h.perform cfg (.install manifest rfl allowed version) answers).result = .error e) :
    (h.perform cfg (.install manifest rfl allowed version) answers).state.registry.get
        manifest.name = h.registry.get manifest.name ↔
      h.registry.get manifest.name = none ∨
        ¬ Prepares h.reserved manifest allowed version answers := by
  have hfailed : InstallFailed (h.facing answers) manifest allowed version _ :=
    install_failed.of_error rfl hres
  rcases hfailed with ⟨hnot, hreg⟩ | ⟨hprep, hnone⟩
  · exact iff_of_true (congrArg (Registry.get · manifest.name) hreg) (Or.inr hnot)
  · constructor
    · intro hget
      exact Or.inl (hget.symm.trans hnone)
    · rintro (hbefore | hnot)
      · exact hnone.trans hbefore.symm
      · exact absurd hprep hnot

/-- No Docker call is made to fail: the connector runs and is installed again.  The name of
    its container is in use, so the create is refused, and the connector that still runs is
    gone from the registry. -/
theorem failed_install_forgets_running :
    ∃ h s e, h = (({} : Host).perform {} installMqtt .allOk).state ∧
      h.registry.get "mqtt" = some s ∧ s.running = true ∧ s.containerID = some 0 ∧
      (h.perform {} installMqtt .allOk).result = .error e ∧
      (h.perform {} installMqtt .allOk).state.registry.get "mqtt" = none ∧
      (h.perform {} installMqtt .allOk).state.daemon.containers.map Container.running = [true] :=
  ⟨_, _, _, rfl, rfl, rfl, rfl, rfl, rfl, rfl⟩

def unreachable : Answers :=
  (Answers.allOk.on .imageInspect [.error "no such image"]).on .pull [.lost "unreachable"]

/-- The pull fails: the running connector stays as it was. -/
theorem failed_install_unchanged_pull :
    ∃ h s e, h = (({} : Host).perform {} installMqtt .allOk).state ∧
      h.registry.get "mqtt" = some s ∧ s.running = true ∧
      (h.perform {} installMqtt unreachable).result = .error e ∧
      (h.perform {} installMqtt unreachable).state.registry.get "mqtt" = some s := by
  refine ⟨_, _, _, rfl, rfl, rfl, rfl, ?_⟩
  refine (failed_install_unchanged_iff {} _ mqttManifest ["ghcr.io/nexus/"] "1.0.0"
    unreachable _ rfl).mpr (Or.inr ?_)
  intro hprep
  exact hprep.image.elim nofun nofun

end Host

end NexusGateway.Lifecycle
