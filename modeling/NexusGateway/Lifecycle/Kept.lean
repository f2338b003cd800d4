/-
Conditions on the host that only a create or a registration can end.

Of the calls of the manager only `ContainerCreate` brings a container into
being, and besides `Register` and `Remove` only `SetRunning` writes the
registry.  A condition that the other calls and `SetRunning` keep holds in
every state of the stops, removals, soaks and starts it holds before.
-/

import NexusGateway.Lifecycle.Manager

namespace NexusGateway.Lifecycle

open Lib Lib.Prog

namespace Daemon

/-- `d'` has no containers but those of `d`, and gave out no id. -/
structure Within (d' d : Daemon) : Prop where
  nextID : d'.nextID = d.nextID
  mem : ∀ c ∈ d'.containers, ∃ c' ∈ d.containers, c'.id = c.id ∧ c'.config = c.config

theorem Within.refl (d : Daemon) : Within d d := ⟨rfl, fun c hc => ⟨c, hc, rfl, rfl⟩⟩

theorem within_mark (d : Daemon) (k : Nat) (b : Bool) : Within (d.mark k b) d := by
  refine ⟨rfl, fun c hc => ?_⟩
  obtain ⟨c', hc', hid, -, hconfig⟩ := mem_mark hc
  exact ⟨c', hc', hid, hconfig⟩

theorem within_drop (d : Daemon) (k : Nat) : Within (d.drop k) d :=
  ⟨rfl, fun c hc => ⟨c, (List.mem_filter.mp hc).1, rfl, rfl⟩⟩

end Daemon

namespace Host

/-- Calls that create nothing keep it, and so does recording a container.  The look for a
    local image is left out: what `Install` registers depends on it. -/
structure Kept (id : String) (G : Host → Prop) : Prop where
  call : ∀ h op ok d, op ≠ .create → op ≠ .imageInspect → d.Within h.daemon → G h →
    G (h.after op ok d)
  setRunning : ∀ h k b, G h → G { h with registry := h.registry.setRunning id k b }

section Kept

variable {cfg : ManagerConfig} {id : String} {P G : Host → Prop} {h : Host}

theorem Kept.and {G' : Host → Prop} (hG : Kept id G) (hG' : Kept id G') :
    Kept id fun h => G h ∧ G' h where
  call h op ok d hop hop' hd hh := ⟨hG.call h op ok d hop hop' hd hh.1,
    hG'.call h op ok d hop hop' hd hh.2⟩
  setRunning h k b hh := ⟨hG.setRunning h k b hh.1, hG'.setRunning h k b hh.2⟩

inductive Quiet (h : Host) : Host → Prop
  | call (op : DockerOp) (ok : Bool) (d : Daemon) : op ≠ .create → op ≠ .imageInspect →
      d.Within h.daemon → Quiet h (h.after op ok d)

theorem Kept.of_quiet {α : Type} (hG : Kept id G) {f : Host → Except Err α × Host}
    (hf : ∀ h, Triple (fun _ => True) (· = h) (act f) (fun _ => Quiet h) fun _ => Quiet h) :
    Triple G G (act f) (fun _ => G) fun _ => G := by
  apply Triple.of_forall
  intro h hh
  have hkeep : ∀ h', Quiet h h' → G h' := by
    rintro h' ⟨op, ok, d, hop, hop', hd⟩
    exact hG.call h op ok d hop hop' hd hh
  have hcall : Triple (fun _ => True) (· = h) (act f) (fun _ => G) fun _ => G :=
    (hf h).post (fun _ => hkeep) fun _ => hkeep
  exact hcall.act_inv (fun _ _ hg => hg) fun _ _ hg => hg

theorem inquiry_kept (hG : Kept id G) {op : DockerOp} (hop : op ≠ .create)
    (hop' : op ≠ .imageInspect) : Triple G G (inquiry op) (fun _ => G) fun _ => G := by
  apply hG.of_quiet
  intro h
  apply inquiry_triple.post
  · rintro _ h' ⟨-, rfl⟩
    exact .call op true _ hop hop' (.refl _)
  · rintro _ h' ⟨-, rfl⟩
    exact .call op false _ hop hop' (.refl _)

theorem containerStart_kept (hG : Kept id G) (k : Nat) :
    Triple G G (containerStart k) (fun _ => G) fun _ => G := by
  apply hG.of_quiet
  intro h
  apply containerStart_triple.post
  · rintro _ h' rfl
    exact .call .start true _ nofun nofun (Daemon.within_mark _ k true)
  · rintro _ h' ⟨-, d, rfl | rfl, rfl⟩
    · exact .call .start false _ nofun nofun (.refl _)
    · exact .call .start false _ nofun nofun (Daemon.within_mark _ k true)

theorem containerStop_kept (hG : Kept id G) (k : Nat) :
    Triple G G (containerStop k) (fun _ => G) fun _ => G := by
  apply hG.of_quiet
  intro h
  apply containerStop_triple.post
  · rintro _ h' ⟨-, -, rfl⟩
    exact .call .stop true _ nofun nofun (Daemon.within_mark _ k false)
  · rintro _ h' ⟨d, rfl | rfl, rfl⟩
    · exact .call .stop false _ nofun nofun (.refl _)
    · exact .call .stop false _ nofun nofun (Daemon.within_mark _ k false)

theorem containerRemove_kept (hG : Kept id G) (k : Nat) :
    Triple G G (containerRemove k) (fun _ => G) fun _ => G := by
  apply hG.of_quiet
  intro h
  apply containerRemove_triple.post
  · rintro _ h' ⟨-, rfl⟩
    exact .call .remove true _ nofun nofun (Daemon.within_drop _ k)
  · rintro _ h' (⟨-, rfl⟩ | rfl)
    · exact .call .remove false _ nofun nofun (.refl _)
    · exact .call .remove false _ nofun nofun (Daemon.within_drop _ k)

theorem containerInspect_kept (hG : Kept id G) (k : Nat) :
    Triple G G (containerInspect k) (fun _ => G) fun _ => G := by
  apply hG.of_quiet
  intro h
  apply containerInspect_triple.post
  · rintro _ h' (rfl | rfl)
    · exact .call .inspect true _ nofun nofun (.refl _)
    · exact .call .inspect true _ nofun nofun (Daemon.within_mark _ k false)
  · rintro _ h' rfl
    exact .call .inspect false _ nofun nofun (.refl _)

theorem setRunning_kept (hG : Kept id G) (k : Option Nat) (b : Bool) :
    Triple G G (setRunning id k b) (fun _ => G) fun _ => G := by
  apply Triple.modify
  intro h hh
  have hset := hG.setRunning h k b hh
  exact ⟨hset, hset⟩

theorem doStop_kept (hG : Kept id G) : Triple G G (doStop id) (fun _ => G) fun _ => G := by
  apply Triple.of_forall
  intro h hh
  apply getStatus_bind
  · intro s hs
    cases s.containerID with
    | none => exact Triple.pure fun _ hh' => hh' ▸ hh
    | some k =>
      have hstop := (containerStop_kept hG k).pre fun h' (hh' : h' = h) => hh' ▸ hh
      apply Triple.bind (wrapErr_triple hstop)
      exact fun _ => setRunning_kept hG none false
  · exact fun _ => hh

theorem removeOld_kept {F : Err → Host → Prop} (hG : Kept id G) (k : Option Nat) :
    Triple G G (removeOld k) (fun _ => G) F := by
  cases k with
  | none => exact Triple.pure fun _ hh => hh
  | some k => exact ignore_triple (containerRemove_kept hG k)

theorem stopOld_kept (hG : Kept id G) (k : Option Nat) :
    Triple G G (stopOld id k) (fun _ => G) fun _ => G :=
  (doStop_kept hG).bind fun _ => removeOld_kept hG k

theorem tryStopOld_kept {F : Err → Host → Prop} (hG : Kept id G) (k : Option Nat) :
    Triple G G (tryStopOld id k) (fun _ => G) F :=
  (ignore_triple (doStop_kept hG)).bind fun _ => removeOld_kept hG k

theorem soakPoll_kept (hG : Kept id G) (k : Nat) :
    Triple G G (soakPoll k) (fun _ => G) fun _ => G := by
  apply Triple.bind (wrapErr_triple (containerInspect_kept hG k))
  exact fun _ => Triple.check (fun _ _ hh => hh) fun _ hh => hh

theorem soakCheck_kept (hG : Kept id G) (k polls : Option Nat) :
    Triple G G (soakCheck k polls) (fun _ => G) fun _ => G := by
  cases k with
  | none => exact Triple.pure fun _ hh => hh
  | some k =>
    cases polls with
    | none => exact Triple.pure fun _ hh => hh
    | some polls =>
      show Triple G G (soakPolls k polls) (fun _ => G) fun _ => G
      induction polls with
      | zero => exact soakPoll_kept hG k
      | succ polls ih =>
        apply Triple.bind (soakPoll_kept hG k)
        intro _
        apply Triple.bind (inquiry_kept hG (by decide) (by decide))
        exact fun _ => ih

theorem doStart_kept (hG : Kept id G) (hsome : ∀ h, P h → (h.registry.get id).isSome)
    (hfailed : ∀ h, P h → G (h.after .create false h.daemon))
    (hcreated : ∀ h s ok hname, P h → h.registry.get id = some s →
      G (h.after .create ok
        (h.daemon.add (containerName id) (containerConfig cfg s.spec []) hname))) :
    Triple G P (doStart cfg id) (fun _ => G) fun _ => G := by
  apply Triple.of_forall
  intro h hh
  apply getStatus_bind
  · intro s hs
    have hid : s.spec.id = id := Registry.spec_id_of_get hs
    have hcall : Triple (fun _ => True) (· = h) (create cfg s.spec) (fun _ => G) fun _ => G := by
      apply containerCreate_triple.post
      · rintro k h' ⟨hname, -, rfl⟩
        subst hid
        exact hcreated h s true hname hh hs
      · rintro e h' (rfl | ⟨-, hname, rfl⟩)
        · exact hfailed h hh
        · subst hid
          exact hcreated h s false hname hh hs
    apply Triple.bind (wrapErr_triple (hcall.act_inv (fun _ _ hg => hg) fun _ _ hg => hg))
    intro k
    apply Triple.bind (wrapErr_triple (containerStart_kept hG k))
    exact fun _ => setRunning_kept hG (some k) true
  · intro hnone
    have hreg := hsome h hh
    rw [hnone] at hreg
    cases hreg

end Kept

end Host

end NexusGateway.Lifecycle
