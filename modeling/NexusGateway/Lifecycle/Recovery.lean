/-
Whether a leftover container can block the next start.

Every operation of the manager but `Stop` and `Install` is carried through
call by call with `Tidy`, which needs benign answers.  `Install` registers the
connector and unregisters it if the start fails, so it never ends with a
registered connector without a container; `Stop` forgets the container it
stopped.
-/

import NexusGateway.Lifecycle.Names

namespace NexusGateway.Lifecycle

open Lib Lib.Prog Catalog

namespace Host

/-! ## Programs -/

section Programs

variable {cfg : ManagerConfig} {id : String} {h : Host} {s : ConnectorStatus}

def Live (id : String) (h : Host) : Prop := Tidy id h ∧ (h.registry.get id).isSome

theorem doStart_tidy : Triple (fun _ => True) (Tidy id) (doStart cfg id)
    (fun _ => Tidy id) fun _ => Tidy id := by
  apply Triple.of_forall
  intro h ht
  cases hs : h.registry.get id with
  | none =>
    apply getStatus_bind
    · intro s hs'
      rw [hs] at hs'
      cases hs'
    · exact fun _ => ht
  | some s =>
    apply (doStart_spec hs).post
    · rintro _ h' ⟨hname, rfl⟩
      exact ht.started hs hname
    · exact fun _ h' hfailed => hfailed.tidy ht

theorem StopsOld.live {h' : Host} (hold : StopsOld id s h h') (ht : Tidy id h)
    (hs : h.registry.get id = some s) : Live id h' := by
  cases hold with
  | nothing _ => exact ⟨ht, by rw [hs]; rfl⟩
  | @stopped k _ hk hex hrem =>
    refine ⟨hrem.forgotten ht hs hk hex, ?_⟩
    have hget := get_stopped (k := k) hs
    cases hrem with
    | done _ | lost | failed _ => exact Option.isSome_iff_exists.mpr ⟨_, hget⟩

theorem stopOld_tidy (ht : Tidy id h) (hs : h.registry.get id = some s) :
    Triple (fun _ => True) (· = h) (stopOld id s.containerID) (fun _ => Live id)
      fun _ => Tidy id := by
  apply (stopOld_spec hs).post
  · exact fun _ h' hold => hold.live ht hs
  · rintro _ h' ⟨k, -, hfailed⟩
    exact hfailed.tidy ht

theorem tryStopOld_tidy {F : Err → Host → Prop} (ht : Tidy id h)
    (hs : h.registry.get id = some s) :
    Triple (fun _ => True) (· = h) (tryStopOld id s.containerID) (fun _ => Live id) F := by
  apply (tryStopOld_spec hs).post_ok
  rintro _ h' (hold | ⟨k, h₁, -, hfailed, hrem⟩)
  · exact hold.live ht hs
  · -- the stop failed: the container is still recorded while it is removed
    refine ⟨hrem.tidy (hfailed.tidy ht), ?_⟩
    cases hfailed with
    | failed d _ =>
      cases hrem with
      | done _ | lost | failed _ => exact Option.isSome_iff_exists.mpr ⟨s, hs⟩

theorem inquiry_tidy (op : DockerOp) (ht : Tidy id h) (hs : h.registry.get id = some s) :
    Triple (fun _ => True) (· = h) (inquiry op)
      (fun _ h' => Tidy id h' ∧ h'.registry.get id = some s) fun _ => Tidy id := by
  apply inquiry_triple.post
  · rintro _ h' ⟨-, rfl⟩
    exact ⟨ht.same op true, hs⟩
  · rintro _ h' ⟨-, rfl⟩
    exact ht.same op false

theorem register_bind {spec : ConnectorSpec} {f : Unit → Prog Host Err Unit}
    {R : Unit → Host → Prop} {F : Err → Host → Prop} (hid : spec.id = id)
    (hf : Triple (fun _ => True) (Tidy id) (f ()) R F) :
    Triple (fun _ => True) (Live id) (register spec >>= f) R F := by
  apply Triple.bind (Q := fun _ => Tidy id)
  · apply Triple.modify
    rintro h ⟨ht, hlive⟩
    obtain ⟨s, hs⟩ := Option.isSome_iff_exists.mp hlive
    exact ⟨trivial, ht.reregister hs hid⟩
  · exact fun _ => hf

/-! ## Operations -/

theorem start_tidy : Triple (fun _ => True) (Tidy id) (start cfg id)
    (fun _ => Tidy id) fun _ => Tidy id := by
  apply Triple.of_forall
  intro h ht
  apply checkReserved_bind ht
  exact doStart_tidy.pre fun _ hh => hh ▸ ht

theorem restart_tidy : Triple (fun _ => True) (Tidy id) (restart cfg id)
    (fun _ => Tidy id) fun _ => Tidy id := by
  apply Triple.of_forall
  intro h ht
  apply checkReserved_bind ht
  apply getStatus_bind
  · intro s hs
    cases hk : s.containerID with
    | none => exact doStart_tidy.pre fun _ hh => hh ▸ ht
    | some k =>
      apply Triple.bind
      · apply wrapErr_triple (G := Tidy id)
        apply containerStop_triple.post_error
        rintro _ h' ⟨d, hd, rfl⟩
        exact (StopFailed.failed d hd).tidy ht
      intro _
      apply Triple.of_forall
      rintro h₁ ⟨-, -, rfl⟩
      have ht₁ := ht.mark .stop true k false
      apply Triple.bind
      · apply wrapErr_triple (G := Tidy id)
        apply containerRemove_triple.post_error
        rintro _ h' (⟨hwhy, rfl⟩ | rfl)
        · exact ht₁.same .remove false
        · exact ht₁.drop .remove false k
      intro _
      apply Triple.bind (Q := fun _ => Tidy id)
      · apply Triple.modify
        rintro h₂ ⟨hex, rfl⟩
        exact ⟨trivial, ht₁.forgotten hs hk hex⟩
      · exact fun _ => doStart_tidy
  · exact fun _ => ht

theorem upgrade_tidy {newImage : String} : Triple (fun _ => True) (Tidy id)
    (upgrade cfg id newImage) (fun _ => Tidy id) fun _ => Tidy id := by
  apply Triple.of_forall
  intro h ht
  apply checkReserved_bind ht
  apply getStatus_bind
  · intro s hs
    apply Triple.bind (wrapErr_triple (inquiry_tidy .pull ht hs))
    intro _
    apply Triple.of_forall
    rintro h₁ ⟨ht₁, hs₁⟩
    apply Triple.bind (stopOld_tidy ht₁ hs₁)
    intro _
    exact register_bind rfl doStart_tidy
  · exact fun _ => ht

theorem rollback_tidy {prevImage : String} {cause : Err} : Triple (fun _ => True) (Tidy id)
    (rollback cfg id prevImage cause) (fun _ => Tidy id) fun _ => Tidy id := by
  apply Triple.of_forall
  intro h ht
  apply getStatus_bind
  · intro s hs
    split
    · exact Triple.fail fun _ hh => hh ▸ ht
    apply Triple.bind (tryStopOld_tidy ht hs)
    intro _
    apply register_bind
    · rfl
    apply Triple.bind (Q := fun _ => Tidy id)
    · exact Triple.recover doStart_tidy fun _ => Triple.fail fun _ ht => ht
    · exact fun _ => Triple.fail fun _ ht => ht
  · exact fun _ => ht

theorem soakStable_tidy : SoakStable (Tidy id) := by
  rintro h op ok d - (rfl | ⟨k, rfl⟩) ht
  · exact ht.same op ok
  · exact ht.mark op ok k false

theorem startUpdated_tidy {oldImage : String} {soakWindow : Option Nat} :
    Triple (fun _ => True) (Tidy id) (startUpdated cfg id oldImage soakWindow)
      (fun _ => Tidy id) fun _ => Tidy id := by
  apply Triple.bind (Triple.attempt (Q := fun _ => Tidy id) doStart_tidy)
  intro r
  cases r with
  | error err => exact rollback_tidy
  | ok u =>
    apply Triple.get_bind
    intro h
    apply Triple.recover
    · exact (soakCheck_triple soakStable_tidy).pre fun _ hh => hh.2
    · exact fun _ => rollback_tidy

theorem update_tidy {manifest : Manifest} {allowed : List String} {version : String}
    {soakWindow : Option Nat} : Triple (fun _ => True) (Tidy id)
      (update cfg id manifest allowed version soakWindow) (fun _ => Tidy id) fun _ => Tidy id := by
  apply Triple.of_forall
  intro h ht
  apply Triple.bind (Q := fun _ => (· = h))
  · apply wrapErr_triple
    exact Triple.ofExcept (fun _ _ _ hh => hh) fun _ _ _ hh => hh ▸ ht
  intro _
  apply checkReserved_bind ht
  apply getStatus_bind
  · intro s hs
    split
    · exact Triple.pure fun _ hh => hh ▸ ht
    apply Triple.bind (wrapErr_triple (inquiry_tidy .pull ht hs))
    intro _
    apply Triple.bind (Q := fun _ h' => Tidy id h' ∧ h'.registry.get id = some s)
    · apply Triple.of_forall
      rintro h₁ ⟨ht₁, hs₁⟩
      apply Triple.when
      · exact fun _ => wrapErr_triple (inquiry_tidy .verify ht₁ hs₁)
      · exact fun _ _ hh => hh ▸ ⟨ht₁, hs₁⟩
    intro _
    apply Triple.bind (Q := fun _ => Live id)
    · apply Triple.of_forall
      rintro h₂ ⟨ht₂, hs₂⟩
      apply Triple.when
      · exact fun _ => wrapErr_triple (stopOld_tidy ht₂ hs₂)
      · exact fun _ _ hh => hh ▸ ⟨ht₂, by rw [hs₂]; rfl⟩
    intro _
    exact register_bind rfl startUpdated_tidy
  · exact fun _ => ht

theorem rollbackTo_tidy : Triple (fun _ => True) (Tidy id) (rollbackTo cfg id)
    (fun _ => Tidy id) fun _ => Tidy id := by
  apply Triple.of_forall
  intro h ht
  apply checkReserved_bind ht
  apply getStatus_bind
  · intro s hs
    split
    · exact Triple.fail fun _ hh => hh ▸ ht
    apply Triple.bind (wrapErr_triple (stopOld_tidy ht hs))
    intro _
    exact register_bind rfl (wrapErr_triple doStart_tidy)
  · exact fun _ => ht

/-! ## Stop and Install -/

theorem StopFailed.settled {k : Nat} {h' : Host} (hfailed : StopFailed k h h')
    (hset : Settled id h) : Settled id h' := by
  obtain ⟨d, rfl | rfl⟩ := hfailed
  · exact hset.later rfl .refl fun hused => hused
  · exact hset.later rfl Daemon.later_mark Daemon.uses_mark.mp

theorem stop_settled (hset : Settled id h)
    (hcareful : id ∈ h.reserved ∨ h.recorded id = false ∨ (h.answers.next .stop).fails = true) :
    Triple (fun _ => True) (· = h) (stop id) (fun _ => Settled id) fun _ => Settled id := by
  apply checkReserved_cases
  · exact fun _ => hset
  intro hunreserved
  cases hs : h.registry.get id with
  | none =>
    apply getStatus_bind
    · intro s hs'
      rw [hs] at hs'
      cases hs'
    · exact fun _ => hset
  | some s =>
    apply (doStop_spec hs).post
    · rintro _ h' (⟨-, rfl⟩ | ⟨k, hk, -, hok, -⟩)
      · exact hset
      · -- the container was stopped, which the condition excludes
        rcases hcareful with hreserved | hnone | hfails
        · exact absurd hreserved hunreserved
        · rw [recorded_eq hs, hk] at hnone
          cases hnone
        · rw [hok] at hfails
          cases hfails
    · rintro _ h' ⟨k, -, hfailed⟩
      exact hfailed.settled hset

theorem inquiry_settled {op : DockerOp} : Triple (fun _ => True) (Settled id) (inquiry op)
    (fun _ => Settled id) fun _ => Settled id := by
  apply Triple.of_forall
  intro h hset
  have hkeep : ∀ ok, Settled id (h.after op ok h.daemon) :=
    fun _ => hset.later rfl .refl fun hused => hused
  apply inquiry_triple.post
  · rintro _ h' ⟨-, rfl⟩
    exact hkeep true
  · rintro _ h' ⟨-, rfl⟩
    exact hkeep false

theorem startInstalled_settled : Triple (fun _ => True) (fun h => (h.registry.get id).isSome)
    (recover (doStart cfg id) fun err => do
      unregister id
      Prog.fail err) (fun _ => Settled id) fun _ => Settled id := by
  apply Triple.recover (G := fun _ _ => True)
  · apply Triple.of_forall
    intro h hsome
    obtain ⟨s, hs⟩ := Option.isSome_iff_exists.mp hsome
    apply (doStart_spec hs).post
    · rintro _ h' ⟨hname, rfl⟩
      exact .started hs hname
    · exact fun _ _ _ => trivial
  · intro err
    apply Triple.bind (Q := fun _ => Settled id)
    · apply Triple.modify
      intro h _
      have hget : ∀ s, (h.registry.remove id).get id ≠ some s := by simp
      exact ⟨trivial, ⟨fun s k hs => absurd hs (hget s), fun s k hs => absurd hs (hget s)⟩,
        fun s hs => absurd hs (hget s)⟩
    · exact fun _ => Triple.fail fun _ hset => hset

theorem install_settled {manifest : Manifest} {allowed : List String} {version : String}
    (hname : manifest.name = id) :
    Triple (fun _ => True) (Settled id) (install cfg manifest allowed version)
      (fun _ => Settled id) fun _ => Settled id := by
  subst hname
  apply Triple.of_forall
  intro h hset
  apply Triple.bind (Q := fun _ => (· = h))
  · apply wrapErr_triple
    exact Triple.ofExcept (fun _ _ _ hh => hh) fun _ _ _ hh => hh ▸ hset
  intro _
  apply checkReserved_bind hset
  apply Triple.bind (Q := fun _ => Settled manifest.name)
  · apply Triple.recover (G := fun _ => Settled manifest.name)
    · apply Triple.bind (inquiry_settled.pre fun _ hh => hh ▸ hset)
      exact fun _ => Triple.pure fun _ hset => hset
    · intro _
      apply Triple.bind (wrapErr_triple inquiry_settled)
      exact fun _ => Triple.pure fun _ hset => hset
  intro imageRef
  apply Triple.bind (Q := fun _ => Settled manifest.name)
  · exact Triple.when (fun _ => wrapErr_triple inquiry_settled) fun _ _ hset => hset
  intro _
  apply Triple.bind (Q := fun _ h => (h.registry.get manifest.name).isSome)
  · apply Triple.modify
    intro h _
    refine ⟨trivial, ?_⟩
    simp
  · exact fun _ => startInstalled_settled

end Programs

end Host

/-! ## Calls and histories -/

/-- What a call must meet, by the host it is made on and the answers to come: a `Stop` has
    no container to stop or fails to, and every other call but `Install` meets benign
    answers. -/
def Op.Careful {id : String} (h : Host) (answers : Answers) : Op id → Prop
  | .install .. => True
  | .stop => id ∈ h.reserved ∨ h.recorded id = false ∨ (answers.next .stop).fails = true
  | _ => answers.Benign

/-- A call of a history, with the host before and after it. -/
structure Performed (id : String) where
  before : Host
  op : Op id
  answers : Answers
  after : Host

namespace Host

def history (cfg : ManagerConfig) {id : String} (h : Host) :
    List (Op id × Answers) → List (Performed id)
  | [] => []
  | (op, answers) :: rest =>
    let h' := (h.perform cfg op answers).state
    ⟨h, op, answers, h'⟩ :: history cfg h' rest

section Histories

variable {id : String} {h : Host}

theorem Settled.facing (hset : Settled id h) (answers : Answers) :
    Settled id (h.facing answers) :=
  hset.later rfl .refl fun hused => hused

theorem perform_settled (cfg : ManagerConfig) (hset : Settled id h) (op : Op id)
    (answers : Answers) (hcareful : op.Careful h answers) :
    Settled id (h.perform cfg op answers).state := by
  have htidy : ∀ {p : Prog Host Err Unit}, answers.Benign →
      Triple (fun _ => True) (Tidy id) p (fun _ => Tidy id) (fun _ => Tidy id) →
      Settled id (p (h.facing answers)).state :=
    fun hbenign hp => (hp.state ⟨hset.facing answers, hbenign⟩).toSettled
  cases op with
  | start => exact htidy hcareful start_tidy
  | restart => exact htidy hcareful restart_tidy
  | upgrade newImage => exact htidy hcareful upgrade_tidy
  | update manifest allowed version soak => exact htidy hcareful update_tidy
  | rollback => exact htidy hcareful rollbackTo_tidy
  | stop => exact (stop_settled (hset.facing answers) hcareful).state rfl
  | install manifest hname allowed version =>
    exact (install_settled hname).state (hset.facing answers)

theorem history_settled (cfg : ManagerConfig) (hset : Settled id h)
    (calls : List (Op id × Answers))
    (hcareful : ∀ x ∈ h.history cfg calls, x.op.Careful x.before x.answers) :
    ∀ x ∈ h.history cfg calls, Settled id x.after := by
  induction calls generalizing h with
  | nil => exact List.forall_mem_nil _
  | cons call rest ih =>
    obtain ⟨op, answers⟩ := call
    rw [history, List.forall_mem_cons] at hcareful ⊢
    have hnext := perform_settled cfg hset op answers hcareful.1
    exact ⟨hnext, ih hnext hcareful.2⟩

end Histories

/-- Starting without a container under the connector's name: over any history of careful
    calls, with any other Docker calls failing, carried out or not, every call returns with
    the name free if no container is recorded. -/
theorem name_free_of_careful (cfg : ManagerConfig) {id : String} {h : Host}
    (hname : ¬ h.daemon.Uses (containerName id)) (hnone : h.recorded id = false)
    (calls : List (Op id × Answers))
    (hcareful : ∀ x ∈ h.history cfg calls, x.op.Careful x.before x.answers) :
    ∀ x ∈ h.history cfg calls, NameFree id x.after := by
  have hcontra : ∀ s k, h.registry.get id = some s → s.containerID ≠ some k := by
    intro s k hs hk
    rw [recorded_eq hs, hk] at hnone
    cases hnone
  have hset : Settled id h := by
    refine ⟨⟨?_, ?_⟩, fun _ _ _ => hname⟩
    · exact fun s k hs hk => absurd hk (hcontra s k hs)
    · exact fun s k hs hk => absurd hk (hcontra s k hs)
  exact fun x hx => (history_settled cfg hset calls hcareful x hx).free

/-- No Docker call fails, and still a stopped connector cannot be started again: `Stop`
    forgets the container without removing it. -/
theorem stopped_name_in_use :
    ∃ x, (({} : Host).history {} [(installMqtt, .allOk), (.stop, .allOk)])[1]? = some x ∧
      (x.after.registry.get "mqtt").map ConnectorStatus.containerID = some none ∧
      x.after.daemon.Uses (containerName "mqtt") ∧ ¬ NameFree "mqtt" x.after ∧
      (x.after.perform {} (.start : Op "mqtt") .allOk).result.isOk = false := by
  refine ⟨_, rfl, rfl, by decide, ?_, rfl⟩
  exact fun hfree => hfree _ rfl rfl (by decide)

/-- An upgrade whose removal is carried out with the reply lost and whose create fails, then
    a start, and a stop that times out. -/
def troubled : List (Op "mqtt" × Answers) :=
  [(installMqtt, .allOk),
    (.upgrade "ghcr.io/nexus/mqtt:2", (Answers.allOk.on .remove [.lost "timeout"]).on .create
      [.error "no space left on device"]),
    (.start, .allOk),
    (.stop, Answers.allOk.on .stop [.lost "timeout"])]

theorem name_free_of_careful_troubled :
    ∃ x, (({} : Host).history {} troubled)[1]? = some x ∧
      (x.after.registry.get "mqtt").map ConnectorStatus.containerID = some none ∧
      x.after.daemon.containers = [] ∧ NameFree "mqtt" x.after := by
  have hfree := name_free_of_careful {} (h := {}) (by decide) rfl troubled (by
    intro x hx
    simp only [troubled, history, List.mem_cons, List.not_mem_nil, or_false] at hx
    rcases hx with rfl | rfl | rfl | rfl
    · trivial
    · exact ⟨by decide, by decide, by decide⟩
    · exact ⟨by decide, by decide, by decide⟩
    · exact Or.inr (Or.inr rfl))
  exact ⟨_, rfl, rfl, rfl, hfree _ (List.mem_of_getElem? (i := 1) rfl)⟩

end Host

end NexusGateway.Lifecycle
