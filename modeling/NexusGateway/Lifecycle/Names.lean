/-
When the fixed container name of a connector is left in use.

The registry forgets a container that is still there in three places: `Stop`
never removes what it stops, a start may fail after the create, and a removal
may fail after the stop has cleared the record.  Benign answers rule out the
last two.  What is kept during an operation is that the name is free unless a
container is recorded, and that the answers to come are benign.
-/

import NexusGateway.Lifecycle.Manager

namespace NexusGateway.Lifecycle

open Lib Lib.Prog Catalog

/-- No create is carried out with its reply lost, no start fails, and no removal fails
    before the daemon carried it out. -/
structure Answers.Benign (answers : Answers) : Prop where
  create : ∀ a ∈ answers .create, a.isLost = false
  start : ∀ a ∈ answers .start, a.fails = false
  remove : ∀ a ∈ answers .remove, a.isError = false

namespace Answers

variable {answers : Answers} {op op' : DockerOp} {a : Answer}

theorem mem_of_mem_after (ha : a ∈ (answers.after op) op') : a ∈ answers op' := by
  rw [after, on] at ha
  split at ha
  next heq => exact heq ▸ List.mem_of_mem_tail ha
  · exact ha

theorem next_eq_ok_or_mem (answers : Answers) (op : DockerOp) :
    answers.next op = .ok ∨ answers.next op ∈ answers op := by
  rw [next]
  cases answers op with
  | nil => exact Or.inl rfl
  | cons a _ => exact Or.inr List.mem_cons_self

theorem Benign.after (hb : answers.Benign) (op : DockerOp) : (answers.after op).Benign where
  create a ha := hb.create a (mem_of_mem_after ha)
  start a ha := hb.start a (mem_of_mem_after ha)
  remove a ha := hb.remove a (mem_of_mem_after ha)

theorem Benign.next_create (hb : answers.Benign) : (answers.next .create).isLost = false := by
  rcases next_eq_ok_or_mem answers .create with hok | hmem
  · rw [hok]
    rfl
  · exact hb.create _ hmem

theorem Benign.next_start (hb : answers.Benign) : (answers.next .start).fails = false := by
  rcases next_eq_ok_or_mem answers .start with hok | hmem
  · rw [hok]
    rfl
  · exact hb.start _ hmem

theorem Benign.next_remove (hb : answers.Benign) : (answers.next .remove).isError = false := by
  rcases next_eq_ok_or_mem answers .remove with hok | hmem
  · rw [hok]
    rfl
  · exact hb.remove _ hmem

end Answers

namespace Host

def recorded (h : Host) (id : String) : Bool :=
  (h.registry.get id).any fun s => s.containerID.isSome

def NameFree (id : String) (h : Host) : Prop :=
  ∀ s, h.registry.get id = some s → s.containerID = none → ¬ h.daemon.Uses (containerName id)

structure Sane (id : String) (h : Host) : Prop where
  fresh : ∀ s k, h.registry.get id = some s → s.containerID = some k → k < h.daemon.nextID
  named : ∀ s k, h.registry.get id = some s → s.containerID = some k →
    ∀ c ∈ h.daemon.containers, c.id = k → c.name = containerName id

/-- Between calls: what the registry records of the connector is its container, and its
    name is not left in use. -/
structure Settled (id : String) (h : Host) : Prop where
  sane : Sane id h
  free : NameFree id h

/-- During an operation whose answers are benign. -/
structure Tidy (id : String) (h : Host) : Prop extends Settled id h where
  benign : h.answers.Benign

section States

variable {id : String} {h h' : Host} {s : ConnectorStatus} {k : Nat}

theorem recorded_eq (hs : h.registry.get id = some s) : h.recorded id = s.containerID.isSome := by
  rw [recorded, hs, Option.any_some]

/-! ## Calls that leave the registry -/

theorem Sane.later (hsane : Sane id h) (hreg : h'.registry.get id = h.registry.get id)
    (hd : Daemon.Later h.daemon h'.daemon) : Sane id h' := by
  constructor
  · intro s k hs hk
    exact Nat.lt_of_lt_of_le (hsane.fresh s k (hreg ▸ hs) hk) hd.nextID
  · intro s k hs hk c hc hid
    have hs' := hreg ▸ hs
    obtain ⟨c', hc', hid', hname⟩ := hd.old c hc (hid ▸ hsane.fresh s k hs' hk)
    rw [← hname]
    exact hsane.named s k hs' hk c' hc' (hid'.trans hid)

theorem Settled.later (hset : Settled id h) (hreg : h'.registry.get id = h.registry.get id)
    (hd : Daemon.Later h.daemon h'.daemon)
    (huses : h'.daemon.Uses (containerName id) → h.daemon.Uses (containerName id)) :
    Settled id h' := by
  refine ⟨hset.sane.later hreg hd, ?_⟩
  intro s hs hnone hused
  exact hset.free s (hreg ▸ hs) hnone (huses hused)

theorem Tidy.after (ht : Tidy id h) {op : DockerOp} {ok : Bool} {d : Daemon}
    (hd : Daemon.Later h.daemon d)
    (huses : d.Uses (containerName id) → h.daemon.Uses (containerName id)) :
    Tidy id (h.after op ok d) :=
  ⟨ht.toSettled.later rfl hd huses, ht.benign.after op⟩

theorem Tidy.same (ht : Tidy id h) (op : DockerOp) (ok : Bool) :
    Tidy id (h.after op ok h.daemon) :=
  ht.after .refl fun hused => hused

theorem Tidy.mark (ht : Tidy id h) (op : DockerOp) (ok : Bool) (k : Nat) (b : Bool) :
    Tidy id (h.after op ok (h.daemon.mark k b)) :=
  ht.after Daemon.later_mark Daemon.uses_mark.mp

theorem Tidy.drop (ht : Tidy id h) (op : DockerOp) (ok : Bool) (k : Nat) :
    Tidy id (h.after op ok (h.daemon.drop k)) :=
  ht.after Daemon.later_drop Daemon.uses_of_drop

theorem StopFailed.tidy (hfailed : StopFailed k h h') (ht : Tidy id h) : Tidy id h' := by
  obtain ⟨d, rfl | rfl⟩ := hfailed
  · exact ht.same .stop false
  · exact ht.mark .stop false k false

/-- While the container stays on record, a removal may go either way. -/
theorem Removal.tidy (hrem : Removal k h h') (ht : Tidy id h) : Tidy id h' := by
  cases hrem with
  | done _ => exact ht.drop .remove true k
  | lost => exact ht.drop .remove false k
  | failed _ => exact ht.same .remove false

/-! ## Start -/

section Start

variable {config : ContainerConfig}

theorem Settled.started (hs : h.registry.get id = some s)
    (hname : ¬ h.daemon.Uses (containerName id)) :
    Settled id ((h.created id config hname).started id h.daemon.nextID) := by
  have hget : ∀ s', ((h.created id config hname).started id h.daemon.nextID).registry.get id =
      some s' → s'.containerID = some h.daemon.nextID := by
    intro s' hs'
    simp only [Host.started, Host.created, Host.after, Registry.get_setRunning, if_true, hs,
      Option.map_some, Option.some.injEq] at hs'
    rw [← hs']
  refine ⟨⟨?_, ?_⟩, ?_⟩
  · intro s' k hs' hk
    cases (hget s' hs').symm.trans hk
    exact Nat.lt_succ_self _
  · intro s' k hs' hk c hc hid
    cases (hget s' hs').symm.trans hk
    obtain ⟨c', hc', hid', hname', -⟩ := Daemon.mem_mark hc
    rcases (Daemon.mem_add hname).mp hc' with hmem | rfl
    · -- an older container has a smaller id
      have := h.daemon.fresh c' hmem
      omega
    · exact hname'.symm
  · intro s' hs' hnone
    cases (hget s' hs').symm.trans hnone

theorem Tidy.started (ht : Tidy id h) (hs : h.registry.get id = some s)
    (hname : ¬ h.daemon.Uses (containerName id)) :
    Tidy id ((h.created id config hname).started id h.daemon.nextID) :=
  ⟨.started hs hname, (ht.benign.after .create).after .start⟩

theorem StartFailed.tidy (hfailed : StartFailed id config h h') (ht : Tidy id h) :
    Tidy id h' := by
  cases hfailed with
  | refused => exact ht.same .create false
  | lost hname hlost =>
    rw [ht.benign.next_create] at hlost
    cases hlost
  | created hname d hfails _ =>
    rw [ht.benign.next_start] at hfails
    cases hfails

end Start

/-! ## Stop and remove -/

theorem Settled.of_forgotten (hs : h.registry.get id = some s) (hnone : s.containerID = none)
    (hfree : ¬ h.daemon.Uses (containerName id)) : Settled id h := by
  have hcontra : ∀ s' k, h.registry.get id = some s' → s'.containerID ≠ some k := by
    intro s' k hs' hk
    rw [hs] at hs'
    cases hs'
    rw [hnone] at hk
    cases hk
  exact ⟨⟨fun s' k hs' hk => absurd hk (hcontra s' k hs'),
    fun s' k hs' hk => absurd hk (hcontra s' k hs')⟩, fun _ _ _ => hfree⟩

theorem get_stopped (hs : h.registry.get id = some s) :
    (h.stopped id k).registry.get id = some { s with containerID := none, running := false } := by
  simp [stopped, after, hs]

theorem Sane.not_uses_drop (hsane : Sane id h) (hs : h.registry.get id = some s)
    (hk : s.containerID = some k) {c : Container} (hc : c ∈ h.daemon.containers)
    (hid : c.id = k) : ¬ (h.daemon.drop k).Uses (containerName id) := by
  have hdrop := Daemon.not_uses_drop hc
  rwa [hid, hsane.named s k hs hk c hc hid] at hdrop

/-- The container was stopped and forgotten: it is removed then, whether the manager learns
    of it or not. -/
theorem Removal.forgotten (hrem : Removal k (h.stopped id k) h') (ht : Tidy id h)
    (hs : h.registry.get id = some s) (hk : s.containerID = some k)
    (hex : ∃ c ∈ h.daemon.containers, c.id = k) : Tidy id h' := by
  obtain ⟨c, hc, hid⟩ := hex
  obtain ⟨c', hc', hid', hname', -⟩ := Daemon.exists_mem_mark (k := k) (b := false) hc
  have hsane : Sane id (h.after .stop true (h.daemon.mark k false)) :=
    ht.sane.later rfl Daemon.later_mark
  have hdrop : ¬ ((h.stopped id k).daemon.drop k).Uses (containerName id) :=
    hsane.not_uses_drop hs hk hc' (hid'.trans hid)
  have hbenign := (ht.benign.after .stop).after .remove
  cases hrem with
  | done _ => exact ⟨.of_forgotten (get_stopped (k := k) hs) rfl hdrop, hbenign⟩
  | lost => exact ⟨.of_forgotten (get_stopped (k := k) hs) rfl hdrop, hbenign⟩
  | failed hwhy =>
    have hanswer : ((h.stopped id k).answers.next .remove).isError = false :=
      (ht.benign.after .stop).next_remove
    rcases hwhy with herror | hrunning
    · rw [hanswer] at herror
      cases herror
    · obtain ⟨c₁, hfind, hnot⟩ := Daemon.exists_find_mark (b := false) hc hid
      have hrunning := hrunning c₁ hfind
      rw [hnot] at hrunning
      cases hrunning

/-- `Restart` forgets the container after it removed it. -/
theorem Tidy.forgotten (ht : Tidy id h) (hs : h.registry.get id = some s)
    (hk : s.containerID = some k) (hex : ∃ c ∈ h.daemon.containers, c.id = k) :
    Tidy id { h.after .remove true (h.daemon.drop k) with
      registry := h.registry.setRunning id none false } := by
  obtain ⟨c, hc, hid⟩ := hex
  have hget : (h.registry.setRunning id none false).get id =
      some { s with containerID := none, running := false } := by
    simp [hs]
  exact ⟨.of_forgotten hget rfl (ht.sane.not_uses_drop hs hk hc hid), ht.benign.after .remove⟩

theorem Tidy.reregister (ht : Tidy id h) (hs : h.registry.get id = some s) {spec : ConnectorSpec}
    (hid : spec.id = id) : Tidy id { h with registry := h.registry.register spec } := by
  have hget : (h.registry.register spec).get id = some { s with spec := spec } := by
    subst hid
    simp [Registry.registered, hs]
  refine ⟨⟨⟨?_, ?_⟩, ?_⟩, ht.benign⟩
  · intro s' k hs' hk
    cases hget.symm.trans hs'
    exact ht.sane.fresh s k hs hk
  · intro s' k hs' hk
    cases hget.symm.trans hs'
    exact ht.sane.named s k hs hk
  · intro s' hs' hnone
    cases hget.symm.trans hs'
    exact ht.free s hs hnone

end States

end Host

end NexusGateway.Lifecycle
