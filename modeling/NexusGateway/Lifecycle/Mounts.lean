/-
Which mounts the containers of a connector are created with.

The registry keeps the permissions next to the image, and `Install` and
`Update` replace both.  Only the image is remembered for a rollback: the
automatic one of `Update` and the manual one put the former image back and
leave the permissions.  The mounts of a container are those its image was
installed with as long as both images of every rollback declared the same.
-/

import NexusGateway.Lib.Run
import NexusGateway.Lifecycle.Kept
import NexusGateway.Lifecycle.Rollback

namespace NexusGateway.Lifecycle

open Lib Lib.Prog Catalog

/-! ## What was declared -/

abbrev Declared : Type := Dict String (List String)

def bindMounts (mounts : List String) : List String :=
  mounts.map fun mount => mount ++ ":" ++ mount ++ ":ro"

def Host.TriesCreate (calls : List DockerCall) : Prop := ∃ c ∈ calls, c.op = .create

instance (calls : List DockerCall) : Decidable (Host.TriesCreate calls) :=
  inferInstanceAs (Decidable (∃ c ∈ calls, c.op = .create))

def Declared.Allows (d : Declared) (config : ContainerConfig) : Prop :=
  ∃ mounts, d.lookup config.image = some mounts ∧ config.binds = bindMounts mounts

/-- The reference an `Install` registers, by the calls it made: the tag if the image was
    found locally. -/
def installRef (manifest : Manifest) (calls : List DockerCall) : String :=
  if ∃ c ∈ calls, c.op = .imageInspect ∧ c.ok = true then manifest.image else manifest.imageRef

/-- The declarations after the calls an operation made so far.  `Install` and `Update`
    register the manifest right before they create its container. -/
def Op.declare {id : String} (op : Op id) (calls : List DockerCall) (d : Declared) : Declared :=
  match op with
  | .install manifest .. =>
    if Host.TriesCreate calls then
      d.insert (installRef manifest calls) manifest.permissions.mounts
    else d
  | .update manifest .. =>
    if Host.TriesCreate calls then d.insert manifest.imageRef manifest.permissions.mounts else d
  | _ => d

def Err.isRollback : Err → Bool
  | .rollbackTriggered .. => true
  | .rollbackFailed .. => true
  | _ => false

namespace Host

/-! ## Before and after the create -/

theorem triesCreate_append {calls : List DockerCall} {c : DockerCall} :
    TriesCreate (calls ++ [c]) ↔ TriesCreate calls ∨ c.op = .create := by
  simp [TriesCreate, or_and_right, exists_or]

theorem StartFailed.triesCreate {id : String} {config : ContainerConfig} {h h' : Host}
    (hfailed : StartFailed id config h h') : TriesCreate h'.calls := by
  have hcreate : ∀ ok, TriesCreate (h.calls ++ [⟨.create, ok⟩]) :=
    fun _ => triesCreate_append.mpr (Or.inr rfl)
  cases hfailed with
  | refused | lost _ _ => exact hcreate false
  | created _ _ _ _ => exact triesCreate_append.mpr (Or.inl (hcreate true))

theorem doStart_triesCreate {cfg : ManagerConfig} {id : String} :
    Triple (fun _ => True) (fun h => (h.registry.get id).isSome) (doStart cfg id)
      (fun _ h => TriesCreate h.calls) fun _ h => TriesCreate h.calls := by
  apply Triple.of_forall
  intro h hsome
  obtain ⟨s, hs⟩ := Option.isSome_iff_exists.mp hsome
  apply (doStart_spec hs).post
  · rintro _ h' ⟨hname, rfl⟩
    exact triesCreate_append.mpr (Or.inl (triesCreate_append.mpr (Or.inr rfl)))
  · exact fun _ h' hfailed => hfailed.triesCreate

def Mounted (n : Nat) (d : Declared) (h : Host) : Prop :=
  ∀ c ∈ h.daemon.containers, n ≤ c.id → d.Allows c.config

def Registered (id : String) (d : Declared) (h : Host) : Prop :=
  ∀ s, h.registry.get id = some s → d.lookup s.spec.image = some s.spec.permissions.mounts

structure Fits (id : String) (n : Nat) (d : Declared) (h : Host) : Prop where
  mounted : Mounted n d h
  registered : Registered id d h

/-- No container was to be created, and the next one gets id `n`. -/
structure Before (n : Nat) (h : Host) : Prop where
  calls : ¬ TriesCreate h.calls
  nextID : h.daemon.nextID = n

/-- A create was tried, all fits, and `K` still holds. -/
structure Tried (id : String) (n : Nat) (d : Declared) (K : Host → Prop) (h : Host) : Prop where
  tried : TriesCreate h.calls
  fits : Fits id n d h
  kept : K h

section Phases

variable {cfg : ManagerConfig} {id : String} {n : Nat} {d : Declared} {h : Host}
  {s : ConnectorStatus} {spec : ConnectorSpec} {K : Host → Prop}

theorem mounted_of_nextID (hn : h.daemon.nextID ≤ n) : Mounted n d h := by
  intro c hc hle
  have hfresh := h.daemon.fresh c hc
  omega

theorem Before.mounted (hb : Before n h) : Mounted n d h :=
  mounted_of_nextID (Nat.le_of_eq hb.nextID)

theorem kept_mounted : Kept id (Mounted n d) where
  call h op ok d' _ _ hd hh := by
    intro c hc hle
    obtain ⟨c', hc', hid, hconfig⟩ := hd.mem c hc
    rw [← hconfig]
    exact hh c' hc' (hid ▸ hle)
  setRunning h k b hh := hh

theorem kept_registered : Kept id (Registered id d) where
  call h op ok d' _ _ _ hh := hh
  setRunning h k b hh := by
    intro s hs
    rw [Registry.get_setRunning, if_pos rfl] at hs
    obtain ⟨s', hs', rfl⟩ := Option.map_eq_some_iff.mp hs
    exact hh s' hs'

theorem kept_installed : Kept id (Installed id spec) where
  call h op ok d' _ _ _ hh := hh.of_registry rfl
  setRunning h k b hh := by
    obtain ⟨s, hs, hspec⟩ := hh
    exact ⟨{ s with containerID := k, running := b }, by simp [hs], hspec⟩

theorem kept_fits : Kept id (Fits id n d) where
  call h op ok d' hop hop' hd hh :=
    ⟨(kept_mounted : Kept id _).call h op ok d' hop hop' hd hh.mounted,
      kept_registered.call h op ok d' hop hop' hd hh.registered⟩
  setRunning h k b hh :=
    ⟨kept_mounted.setRunning h k b hh.mounted, kept_registered.setRunning h k b hh.registered⟩

theorem kept_before : Kept id (Before n) where
  call h op ok d' hop _ hd hh := by
    refine ⟨fun htries => ?_, hd.nextID.trans hh.nextID⟩
    rcases triesCreate_append.mp htries with hold | hnew
    · exact hh.calls hold
    · exact hop hnew
  setRunning h k b hh := ⟨hh.calls, hh.nextID⟩

theorem kept_tried (hK : Kept id K) : Kept id (Tried id n d K) where
  call h op ok d' hop hop' hd hh :=
    ⟨triesCreate_append.mpr (Or.inl hh.tried), kept_fits.call h op ok d' hop hop' hd hh.fits,
      hK.call h op ok d' hop hop' hd hh.kept⟩
  setRunning h k b hh :=
    ⟨hh.tried, kept_fits.setRunning h k b hh.fits, hK.setRunning h k b hh.kept⟩

theorem Fits.created (hfits : Fits id n d h) (hs : h.registry.get id = some s) (ok : Bool)
    (hname : ¬ h.daemon.Uses (containerName id)) :
    Fits id n d (h.after .create ok
      (h.daemon.add (containerName id) (containerConfig cfg s.spec []) hname)) where
  mounted := by
    intro c hc hle
    rcases (Daemon.mem_add hname).mp hc with hold | hnew
    · exact hfits.mounted c hold hle
    · rw [hnew]
      exact ⟨s.spec.permissions.mounts, hfits.registered s hs, rfl⟩
  registered := hfits.registered

theorem doStart_tried (hK : Kept id K)
    (hcreate : ∀ h ok d', K h → K (h.after .create ok d')) :
    Triple (Tried id n d K) (fun h => (h.registry.get id).isSome ∧ Fits id n d h ∧ K h)
      (doStart cfg id) (fun _ => Tried id n d K) fun _ => Tried id n d K := by
  have htries : ∀ (h : Host) ok d', TriesCreate (h.after .create ok d').calls :=
    fun _ _ _ => triesCreate_append.mpr (Or.inr rfl)
  apply doStart_kept (kept_tried hK)
  · exact fun h hh => hh.1
  · intro h hh
    exact ⟨htries h _ _, ⟨hh.2.1.mounted, hh.2.1.registered⟩, hcreate h _ _ hh.2.2⟩
  · intro h s ok hname hh hs
    exact ⟨htries h _ _, hh.2.1.created hs ok hname, hcreate h _ _ hh.2.2⟩

theorem doStart_tries : Triple (Tried id n d fun _ => True)
    (fun h => (h.registry.get id).isSome ∧ Fits id n d h ∧ True) (doStart cfg id)
    (fun _ => Tried id n d fun _ => True) fun _ => Tried id n d fun _ => True :=
  doStart_tried ⟨fun _ _ _ _ _ _ _ _ => trivial, fun _ _ _ _ => trivial⟩ fun _ _ _ _ => trivial

theorem doStart_fits : Triple (Fits id n d) (Fits id n d) (doStart cfg id)
    (fun _ => Fits id n d) fun _ => Fits id n d := by
  apply Triple.of_forall
  intro h hfits
  cases hs : h.registry.get id with
  | none =>
    apply getStatus_bind
    · intro s hs'
      rw [hs] at hs'
      cases hs'
    · exact fun _ => hfits
  | some s =>
    apply (doStart_tries.inv fun _ ht => ht.fits).conseq
    · rintro h' rfl
      exact ⟨by rw [hs]; rfl, hfits, trivial⟩
    · exact fun _ _ ht => ht.fits
    · exact fun _ _ ht => ht.fits

theorem Fits.register (hfits : Fits id n d h) (spec : ConnectorSpec) (hid : spec.id = id)
    (hspec : d.lookup spec.image = some spec.permissions.mounts) :
    Fits id n d { h with registry := h.registry.register spec } where
  mounted := hfits.mounted
  registered := by
    intro s hs
    rw [Registry.get_register, if_pos hid.symm] at hs
    rw [← Option.some.inj hs, Registry.registered]
    cases h.registry.get spec.id with
    | none | some _ => exact hspec

end Phases

/-! ## Operations that register no manifest -/

section Operations

variable {cfg : ManagerConfig} {id : String} {n : Nat} {d : Declared} {h : Host}
  {s : ConnectorStatus} {spec : ConnectorSpec} {I : Host → Prop} {F : Err → Host → Prop}
  {op : Op id} {manifest : Manifest}

theorem checkReserved_keeps (herr : F .managed h) :
    Triple I (· = h) (checkReserved id) (fun _ h' => h' = h) F := by
  apply Triple.get_bind_eq
  apply Triple.check
  · exact fun _ _ hh => hh
  · rintro _ rfl
    exact herr

theorem getStatus_keeps {err : Err} (hnone : h.registry.get id = none → F err h) :
    Triple I (· = h) (getStatus id err) (fun s h' => h.registry.get id = some s ∧ h' = h) F := by
  apply Triple.get_bind_eq
  cases hs : h.registry.get id with
  | some s => exact Triple.pure fun _ hh => ⟨rfl, hh⟩
  | none =>
    apply Triple.fail
    rintro _ rfl
    exact hnone hs

theorem start_fits : Triple (Fits id n d) (Fits id n d) (start cfg id)
    (fun _ => Fits id n d) fun _ => Fits id n d := by
  apply Triple.of_forall
  intro h hfits
  apply checkReserved_bind hfits
  exact doStart_fits.pre fun _ hh => hh ▸ hfits

theorem stop_fits : Triple (Fits id n d) (Fits id n d) (stop id)
    (fun _ => Fits id n d) fun _ => Fits id n d := by
  apply Triple.of_forall
  intro h hfits
  apply checkReserved_bind hfits
  exact (doStop_kept kept_fits).pre fun _ hh => hh ▸ hfits

theorem restart_fits : Triple (Fits id n d) (Fits id n d) (restart cfg id)
    (fun _ => Fits id n d) fun _ => Fits id n d := by
  apply Triple.of_forall
  intro h hfits
  apply checkReserved_bind hfits
  apply getStatus_bind
  · intro s hs
    cases s.containerID with
    | none => exact doStart_fits.pre fun _ hh => hh ▸ hfits
    | some k =>
      have hstop := (containerStop_kept kept_fits k).pre fun h' (hh : h' = h) => hh ▸ hfits
      apply Triple.bind (wrapErr_triple hstop)
      intro _
      apply Triple.bind (wrapErr_triple (containerRemove_kept kept_fits k))
      intro _
      apply Triple.bind (setRunning_kept kept_fits none false)
      exact fun _ => doStart_fits
  · exact fun _ => hfits

theorem rollbackTo_fits (hfits : Fits id n d h) :
    TripleOr (fun _ h' => TriesCreate h'.calls ∧ ∃ s, h.registry.get id = some s ∧
        d.lookup s.spec.prevImage ≠ d.lookup s.spec.image)
      (Fits id n d) (· = h) (rollbackTo cfg id) (fun _ => Fits id n d) fun _ => Fits id n d := by
  apply TripleOr.bind (checkReserved_keeps hfits)
  intro _
  apply TripleOr.bind (getStatus_keeps fun _ => hfits)
  intro s
  apply TripleOr.of_fact
  intro hs
  split
  · apply TripleOr.of_triple
    exact Triple.fail fun _ hh => hh ▸ hfits
  have hstop := (stopOld_kept kept_fits s.containerID).pre fun h' (hh : h' = h) => hh ▸ hfits
  apply TripleOr.bind (wrapErr_triple hstop)
  intro _
  by_cases hsame : d.lookup s.spec.prevImage = d.lookup s.spec.image
  · apply TripleOr.of_triple
    apply Triple.bind (Q := fun _ => Fits id n d)
    · apply Triple.modify
      intro h' hfits'
      have hput := hfits'.register
        { id := id
          image := s.spec.prevImage
          prevImage := s.spec.image
          env := s.spec.env
          permissions := s.spec.permissions }
        rfl (hsame.trans (hfits.registered s hs))
      exact ⟨hput, hput⟩
    · exact fun _ => wrapErr_triple doStart_fits
  · apply TripleOr.of_ends (J := fun _ => True)
    apply Triple.bind (Q := fun _ h => (h.registry.get id).isSome)
    · apply Triple.modify
      intro h' _
      refine ⟨trivial, ?_⟩
      simp
    · intro _
      apply wrapErr_triple
      exact doStart_triesCreate.post (fun _ _ htries => ⟨htries, s, hs, hsame⟩)
        fun _ _ htries => ⟨htries, s, hs, hsame⟩

/-! ## Operations that register a manifest -/

def Matches (op : Op id) (n : Nat) (d : Declared) (h : Host) : Prop :=
  Mounted n (op.declare h.calls d) h

def Leaves (op : Op id) (d : Declared) (h : Host) : Prop :=
  Registered id (op.declare h.calls d) h

/-- Up to the registration: nothing is created, and the old entry stands. -/
structure Pending (id : String) (n : Nat) (d : Declared) (h : Host) : Prop where
  before : Before n h
  registered : Registered id d h

theorem kept_pending : Kept id (Pending id n d) where
  call h op ok d' hop hop' hd hh :=
    ⟨(kept_before : Kept id _).call h op ok d' hop hop' hd hh.before,
      kept_registered.call h op ok d' hop hop' hd hh.registered⟩
  setRunning h k b hh :=
    ⟨kept_before.setRunning h k b hh.before, kept_registered.setRunning h k b hh.registered⟩

theorem declare_of_not_tries {calls : List DockerCall} (hnot : ¬ TriesCreate calls) :
    op.declare calls d = d := by
  cases op with
  | install | update => exact if_neg hnot
  | start | stop | restart | upgrade | rollback => rfl

theorem Pending.leaves (hp : Pending id n d h) (op : Op id) : Leaves op d h := by
  rw [Leaves, declare_of_not_tries hp.before.calls]
  exact hp.registered

theorem Tried.matches {K : Host → Prop} {d' : Declared} (ht : Tried id n d' K h)
    (hd : op.declare h.calls d = d') : Matches op n d h := by
  rw [Matches, hd]
  exact ht.fits.mounted

theorem Tried.leaves {K : Host → Prop} {d' : Declared} (ht : Tried id n d' K h)
    (hd : op.declare h.calls d = d') : Leaves op d h := by
  rw [Leaves, hd]
  exact ht.fits.registered

theorem pending_call {context : String} {p : Prog Host Err Unit} {P : Host → Prop}
    (hpending : ∀ h, P h → Pending id n d h) (hp : Triple P P p (fun _ => P) fun _ => P) :
    Triple (Matches op n d) P (wrapErr context p) (fun _ => P) fun _ => Leaves op d := by
  apply wrapErr_triple
  apply (hp.inv fun h hh => (hpending h hh).before.mounted).conseq
  · exact fun _ hh => hh
  · exact fun _ _ hh => hh
  · exact fun _ h hh => (hpending h hh).leaves op

theorem Pending.register (hp : Pending id n d h) (spec : ConnectorSpec) (hid : spec.id = id) :
    ((h.registry.register spec).get id).isSome ∧
      Fits id n (d.insert spec.image spec.permissions.mounts)
        { h with registry := h.registry.register spec } ∧
      Installed id spec { h with registry := h.registry.register spec } := by
  have hget : (h.registry.register spec).get id = some (h.registry.registered spec) := by
    simp [hid]
  have hspec : (h.registry.registered spec).spec = spec := by
    rw [Registry.registered]
    cases h.registry.get spec.id with
    | none | some _ => rfl
  refine ⟨by rw [hget]; rfl, ⟨hp.before.mounted, ?_⟩, _, hget, hspec⟩
  intro s hs
  rw [← Option.some.inj (hget.symm.trans hs), hspec]
  exact AList.lookup_insert _

/-! ## Update -/

/-- The way out of an `Update`: it put an image back for which not `mounts` are declared. -/
def PutsBack (d : Declared) (image : String) (mounts : List String) (r : Except Err Unit)
    (_ : Host) : Prop :=
  (∃ e, r = .error e ∧ e.isRollback = true) ∧ d.lookup image ≠ some mounts

theorem rollback_fits {prevImage : String} {cause : Err} :
    TripleOr (PutsBack d prevImage spec.permissions.mounts) (Tried id n d fun _ => True)
      (Tried id n d (Installed id spec)) (rollback cfg id prevImage cause)
      (fun _ => Tried id n d fun _ => True) fun _ => Tried id n d fun _ => True := by
  apply TripleOr.of_forall
  intro h ht
  have ht' : Tried id n d (fun _ => True) h := ⟨ht.tried, ht.fits, trivial⟩
  obtain ⟨s', hs', rfl⟩ := ht.kept
  apply TripleOr.bind (getStatus_keeps fun _ => ht')
  intro s
  apply TripleOr.of_fact
  intro hs
  obtain rfl : s' = s := Option.some.inj (hs'.symm.trans hs)
  split
  · apply TripleOr.of_triple
    exact Triple.fail fun _ hh => hh ▸ ht'
  have hkept : Kept id (Tried id n d fun _ => True) :=
    kept_tried ⟨fun _ _ _ _ _ _ _ _ => trivial, fun _ _ _ _ => trivial⟩
  apply TripleOr.bind ((tryStopOld_kept hkept s'.containerID).pre fun h' (hh : h' = h) => hh ▸ ht')
  intro _
  by_cases hsame : d.lookup prevImage = some s'.spec.permissions.mounts
  · apply TripleOr.of_triple
    apply Triple.bind (Q := fun _ h => (h.registry.get id).isSome ∧ Fits id n d h ∧ True)
    · apply Triple.modify
      intro h₁ ht₁
      have hput := ht₁.fits.register (rollbackSpec id prevImage s') rfl hsame
      refine ⟨⟨ht₁.tried, hput, trivial⟩, ?_, hput, trivial⟩
      simp [rollbackSpec]
    · intro _
      apply Triple.bind (Triple.recover doStart_tries fun _ => Triple.fail fun _ hh => hh)
      exact fun _ => Triple.fail fun _ hh => hh
  · apply TripleOr.of_ends (J := fun _ => True)
    apply Triple.bind (Q := fun _ _ => True) (Triple.modify fun _ _ => ⟨trivial, trivial⟩)
    intro _
    apply Triple.bind (Q := fun _ _ => True)
    · apply Triple.recover Triple.top
      exact fun e => Triple.fail fun _ _ => ⟨⟨_, rfl, rfl⟩, hsame⟩
    · exact fun _ => Triple.fail fun _ _ => ⟨⟨_, rfl, rfl⟩, hsame⟩

theorem startUpdated_fits {oldImage : String} {soakWindow : Option Nat} :
    TripleOr (PutsBack d oldImage spec.permissions.mounts) (Tried id n d fun _ => True)
      (fun h => (h.registry.get id).isSome ∧ Fits id n d h ∧ Installed id spec h)
      (startUpdated cfg id oldImage soakWindow)
      (fun _ => Tried id n d fun _ => True) fun _ => Tried id n d fun _ => True := by
  have hforget : ∀ h, Tried id n d (Installed id spec) h → Tried id n d (fun _ => True) h :=
    fun _ ht => ⟨ht.tried, ht.fits, trivial⟩
  have hstart : Triple (Tried id n d (Installed id spec)) _ (doStart cfg id) _ _ :=
    doStart_tried kept_installed fun _ _ _ hi => hi.of_registry rfl
  apply TripleOr.bind (Triple.attempt (Q := fun _ => Tried id n d (Installed id spec))
    (hstart.inv hforget))
  intro r
  cases r with
  | error err => exact rollback_fits
  | ok u =>
    apply TripleOr.bind Triple.get
    intro h'
    have hkept : Kept id (Tried id n d (Installed id spec)) := kept_tried kept_installed
    have hsoak := soakCheck_kept hkept
      ((h'.registry.get id).bind ConnectorStatus.containerID) soakWindow
    apply TripleOr.recover (G := fun _ => Tried id n d (Installed id spec))
    · exact (hsoak.inv hforget).conseq (fun _ hh => hh.2) (fun _ => hforget) fun _ _ hh => hh
    · exact fun _ => rollback_fits

theorem update_fits {allowed : List String} {version : String} {soakWindow : Option Nat}
    (hp : Pending id n d h) :
    TripleOr (fun r h' => ∃ s, h.registry.get id = some s ∧
        PutsBack (d.insert manifest.imageRef manifest.permissions.mounts) s.spec.image
          manifest.permissions.mounts r h')
      (Matches (.update manifest allowed version soakWindow : Op id) n d) (· = h)
      (update cfg id manifest allowed version soakWindow)
      (fun _ => Leaves (.update manifest allowed version soakWindow : Op id) d)
      fun _ => Leaves (.update manifest allowed version soakWindow : Op id) d := by
  apply TripleOr.bind (Q := fun _ h' => h' = h)
  · apply wrapErr_triple
    exact Triple.ofExcept (fun _ _ _ hh => hh) fun _ _ h' hh => hh ▸ hp.leaves _
  intro _
  apply TripleOr.bind (checkReserved_keeps (hp.leaves _))
  intro _
  apply TripleOr.bind (getStatus_keeps fun _ => hp.leaves _)
  intro s
  apply TripleOr.of_fact
  intro hs
  split
  · apply TripleOr.of_triple
    exact Triple.pure fun h' hh => hh ▸ hp.leaves _
  have hkept : Kept id (Pending id n d) := kept_pending
  have hpull := inquiry_kept hkept (show DockerOp.pull ≠ .create by decide) (by decide)
  have hverify := inquiry_kept hkept (show DockerOp.verify ≠ .create by decide) (by decide)
  have hstop := stopOld_kept hkept s.containerID
  have hself : ∀ h, Pending id n d h → Pending id n d h := fun _ hh => hh
  apply TripleOr.bind ((pending_call hself hpull).pre fun h' (hh : h' = h) => hh ▸ hp)
  intro _
  apply TripleOr.bind (Triple.when (fun _ => pending_call hself hverify) fun _ _ hh => hh)
  intro _
  apply TripleOr.bind (Triple.when (fun _ => pending_call hself hstop) fun _ _ hh => hh)
  intro _
  apply TripleOr.bind (Q := fun _ h' => (h'.registry.get id).isSome ∧
    Fits id n (d.insert manifest.imageRef manifest.permissions.mounts) h' ∧
      Installed id (updateSpec id manifest s) h')
  · apply Triple.modify
    intro h' hp'
    have hput := hp'.register (updateSpec id manifest s) rfl
    exact ⟨hp'.before.mounted, hput⟩
  · intro _
    apply startUpdated_fits.conseq
    · exact fun _ _ hback => ⟨s, hs, hback⟩
    · exact fun h' ht => ht.matches (if_pos ht.tried)
    · exact fun _ h' ht => ht.leaves (if_pos ht.tried)
    · exact fun _ h' ht => ht.leaves (if_pos ht.tried)

/-! ## Install -/

theorem installRef_append {calls : List DockerCall} {c : DockerCall}
    (hc : ¬ (c.op = .imageInspect ∧ c.ok = true)) :
    installRef manifest (calls ++ [c]) = installRef manifest calls := by
  have hiff : (∃ c' ∈ calls ++ [c], c'.op = .imageInspect ∧ c'.ok = true) ↔
      ∃ c' ∈ calls, c'.op = .imageInspect ∧ c'.ok = true := by
    simp [or_and_right, exists_or, hc]
  simp only [installRef, hiff]

def PendingRef (manifest : Manifest) (n : Nat) (d : Declared) (ref : String) (h : Host) : Prop :=
  Pending manifest.name n d h ∧ installRef manifest h.calls = ref

theorem kept_ref {ref : String} :
    Kept id fun h => installRef manifest h.calls = ref where
  call h op ok d' _ hop' _ hh := by
    have hc : ¬ (op = .imageInspect ∧ ok = true) := fun hc => hop' hc.1
    exact (installRef_append hc).trans hh
  setRunning h k b hh := hh

theorem imageInspect_pending (hp : Pending manifest.name n d h) (hcalls : h.calls = []) :
    Triple (Pending manifest.name n d) (· = h) (inquiry .imageInspect)
      (fun _ => PendingRef manifest n d manifest.image)
      fun _ => PendingRef manifest n d manifest.imageRef := by
  have hafter : ∀ ok, Pending manifest.name n d
      (h.after .imageInspect ok h.daemon) := by
    intro ok
    refine ⟨⟨fun htries => ?_, hp.before.nextID⟩, hp.registered⟩
    rcases triesCreate_append.mp htries with hold | hnew
    · exact hp.before.calls hold
    · cases hnew
  have hcall : Triple (fun _ => True) (· = h) (inquiry .imageInspect)
      (fun _ => PendingRef manifest n d manifest.image)
      fun _ => PendingRef manifest n d manifest.imageRef := by
    apply inquiry_triple.post
    · rintro _ h' ⟨-, rfl⟩
      refine ⟨hafter true, ?_⟩
      simp [installRef, after]
    · rintro _ h' ⟨-, rfl⟩
      refine ⟨hafter false, ?_⟩
      simp [installRef, after, hcalls]
  exact hcall.act_inv (fun _ _ hh => hh.1) fun _ _ hh => hh.1

theorem install_fits {hname : manifest.name = id} {allowed : List String} {version : String}
    (hp : Pending id n d h) (hcalls : h.calls = []) :
    Triple (Matches (.install manifest hname allowed version) n d) (· = h)
      (install cfg manifest allowed version)
      (fun _ => Leaves (.install manifest hname allowed version) d)
      fun _ => Leaves (.install manifest hname allowed version) d := by
  subst hname
  have hpending : ∀ {ref} h, PendingRef manifest n d ref h → Pending manifest.name n d h :=
    fun _ hh => hh.1
  have hkept : ∀ ref, Kept manifest.name (PendingRef manifest n d ref) :=
    fun _ => kept_pending.and kept_ref
  apply Triple.bind (Q := fun _ h' => h' = h)
  · apply wrapErr_triple
    exact Triple.ofExcept (fun _ _ _ hh => hh) fun _ _ h' hh => hh ▸ hp.leaves _
  intro _
  apply checkReserved_bind (hp.leaves _)
  apply Triple.bind (Q := PendingRef manifest n d)
  · apply Triple.recover (G := fun _ => PendingRef manifest n d manifest.imageRef)
    · apply Triple.bind ((imageInspect_pending hp hcalls).inv fun _ hh => hh.before.mounted)
      exact fun _ => Triple.pure fun _ hh => hh
    · intro _
      have hpull := inquiry_kept (hkept manifest.imageRef)
        (show DockerOp.pull ≠ .create by decide) (by decide)
      apply Triple.bind (pending_call hpending hpull)
      exact fun _ => Triple.pure fun _ hh => hh
  intro ref
  have hverify := inquiry_kept (hkept ref)
    (show DockerOp.verify ≠ .create by decide) (by decide)
  apply Triple.bind (Triple.when (fun _ => pending_call hpending hverify) fun _ _ hh => hh)
  intro _
  have hstart : Triple (Tried manifest.name n (d.insert ref manifest.permissions.mounts)
      fun h => installRef manifest h.calls = ref) _ (doStart cfg manifest.name) _ _ :=
    doStart_tried kept_ref fun h ok d' hh => (installRef_append (by simp)).trans hh
  have hdeclare : ∀ {h'}, Tried manifest.name n (d.insert ref manifest.permissions.mounts)
      (fun h => installRef manifest h.calls = ref) h' →
      (Op.install manifest rfl allowed version).declare h'.calls d =
        d.insert ref manifest.permissions.mounts := by
    intro h' ht
    rw [Op.declare, if_pos ht.tried, ht.kept]
  apply Triple.bind (Q := fun _ h' => (h'.registry.get manifest.name).isSome ∧
    Fits manifest.name n (d.insert ref manifest.permissions.mounts) h' ∧
      installRef manifest h'.calls = ref)
  · apply Triple.modify
    intro h' hp'
    have hput := hp'.1.register
      { id := manifest.name, image := ref, permissions := manifest.permissions } rfl
    exact ⟨hp'.1.before.mounted, hput.1, hput.2.1, hp'.2⟩
  · intro _
    apply Triple.recover ((hstart.inv fun _ ht => ht.matches (hdeclare ht)).post_ok
      (fun _ _ ht => ht.leaves (hdeclare ht)))
    intro err
    -- the entry is removed again; the containers are not
    apply Triple.bind (Q := fun _ => Leaves (.install manifest rfl allowed version) d)
    · apply Triple.modify
      intro h' ht
      refine ⟨ht.matches (hdeclare ht), fun s hs => ?_⟩
      rw [Registry.get_remove, if_pos rfl] at hs
      cases hs
    · exact fun _ => Triple.fail fun _ hh => hh

end Operations

end Host

/-! ## Histories -/

/-- A host, and what was declared for the images of one connector. -/
structure Managed where
  host : Host
  declared : Declared := ∅

namespace Managed

open Host

variable {cfg : ManagerConfig} {id : String} {m m' : Managed}

def perform (cfg : ManagerConfig) (m : Managed) (op : Op id) (answers : Answers) : Managed where
  host := (m.host.perform cfg op answers).state
  declared := op.declare (m.host.perform cfg op answers).state.calls m.declared

def Steps (cfg : ManagerConfig) (m : Managed) (call : Op id × Answers) (m' : Managed) : Prop :=
  m' = m.perform cfg call.1 call.2

/-- What a call must meet.  An `Update` that puts the old image back, and a `Rollback` that
    comes to the create, do so between images that declared the same mounts.  `Upgrade`
    has no manifest and is left out. -/
def Careful (cfg : ManagerConfig) (m : Managed) : Op id × Answers → Prop
  | (.rollback, answers) =>
    TriesCreate (m.host.perform cfg (.rollback : Op id) answers).state.calls →
      ∀ s, m.host.registry.get id = some s →
        m.declared.lookup s.spec.prevImage = m.declared.lookup s.spec.image
  | (.update manifest allowed version soak, answers) =>
    (∃ e, (m.host.perform cfg (.update manifest allowed version soak : Op id) answers).result =
        .error e ∧ e.isRollback = true) →
      ∀ s, m.host.registry.get id = some s →
        s.spec.image = manifest.imageRef ∨
          m.declared.lookup s.spec.image = some manifest.permissions.mounts
  | (.upgrade _, _) => False
  | _ => True

theorem pending (hreg : Registered id m.declared m.host) (answers : Answers) :
    Pending id m.host.daemon.nextID m.declared (m.host.facing answers) :=
  ⟨⟨by simp [TriesCreate, facing], rfl⟩, hreg⟩

theorem fits (hreg : Registered id m.declared m.host) (answers : Answers) :
    Fits id m.host.daemon.nextID m.declared (m.host.facing answers) :=
  ⟨(pending hreg answers).before.mounted, hreg⟩

theorem perform_careful_fits (hreg : Registered id m.declared m.host) (op : Op id)
    (answers : Answers) (hcareful : m.Careful cfg (op, answers)) :
    (∀ t ∈ (m.host.perform cfg op answers).trace,
        Matches op m.host.daemon.nextID m.declared t) ∧
      Leaves op m.declared (m.host.perform cfg op answers).state := by
  have hfits := fits hreg answers
  have hpending := pending hreg answers
  cases op with
  | start =>
    exact ⟨fun t ht => (start_fits.trace hfits ht).mounted, (start_fits.state hfits).registered⟩
  | stop =>
    exact ⟨fun t ht => (stop_fits.trace hfits ht).mounted, (stop_fits.state hfits).registered⟩
  | restart =>
    exact ⟨fun t ht => (restart_fits.trace hfits ht).mounted,
      (restart_fits.state hfits).registered⟩
  | upgrade => exact hcareful.elim
  | install manifest hname allowed version =>
    exact ⟨fun t ht => (install_fits hpending rfl).trace rfl ht,
      (install_fits hpending rfl).state rfl⟩
  | rollback =>
    have hrollback : TripleOr _ _ _ (rollbackTo cfg id) _ _ := rollbackTo_fits hfits
    obtain ⟨htrace, hend⟩ := hrollback.state rfl
      fun ⟨htries, s, hs, hne⟩ => hne (hcareful htries s hs)
    exact ⟨fun t ht => (htrace t ht).mounted, hend.registered⟩
  | update manifest allowed version soak =>
    apply (update_fits hpending).state rfl
    rintro ⟨s, hs, hback, hne⟩
    apply hne
    rw [Dict.lookup_insert_ite]
    rcases hcareful hback s hs with hsame | hdecl
    · rw [if_pos hsame]
    · split
      · rfl
      · exact hdecl

theorem registered_step {call : Op id × Answers} (hreg : Registered id m.declared m.host)
    (hstep : Meeting (Steps cfg) (Careful cfg) m call m') : Registered id m'.declared m'.host := by
  obtain ⟨rfl, hcareful⟩ := hstep
  exact (perform_careful_fits hreg call.1 call.2 hcareful).2

theorem registered_of_run {h : Host} (hnone : h.registry.get id = none)
    {calls : List (Op id × Answers)}
    (hrun : Run (Meeting (Steps cfg) (Careful cfg)) { host := h } calls m) :
    Registered id m.declared m.host := by
  apply hrun.invariant (I := fun m => Registered id m.declared m.host)
  · intro s hs
    rw [hnone] at hs
    cases hs
  · exact fun _ _ _ hreg hstep => registered_step hreg hstep

/-- Over every history of careful calls for a connector that was not registered, every
    container that a call creates has, in all states the call goes through, exactly the
    mounts of the manifest its image was last installed or updated to with. -/
theorem mounts_declared (cfg : ManagerConfig) {id : String} {h : Host}
    (hnone : h.registry.get id = none) {calls : List (Op id × Answers)} {m : Managed}
    (hrun : Run (Meeting (Steps cfg) (Careful cfg)) { host := h } calls m) (op : Op id)
    (answers : Answers) (hcareful : m.Careful cfg (op, answers)) :
    ∀ t ∈ (m.host.perform cfg op answers).trace, ∀ c ∈ t.daemon.containers,
      m.host.daemon.nextID ≤ c.id → (op.declare t.calls m.declared).Allows c.config := by
  have hreg := registered_of_run hnone hrun
  exact (perform_careful_fits hreg op answers hcareful).1

/-- An update to a manifest without mounts whose container exits in the soak: the old image
    declared none either. -/
def plainUpdate : Op "mqtt" := .update mqttManifest ["ghcr.io/nexus/"] "1.0.0" (some 0)

theorem mounts_declared_same_mounts :
    ∃ m, m = ({ host := {} } : Managed).perform {} installMqtt .allOk ∧
      (m.host.perform {} plainUpdate exitsInSoak).result = .error (.rollbackTriggered "mqtt"
        (.daemon "health soak: container exited within soak window")) ∧
      ∀ t ∈ (m.host.perform {} plainUpdate exitsInSoak).trace, ∀ c ∈ t.daemon.containers,
        1 ≤ c.id → (plainUpdate.declare t.calls m.declared).Allows c.config := by
  refine ⟨_, rfl, rfl, ?_⟩
  have hrun : Run (Meeting (Steps {}) (Careful {})) { host := {} } [(installMqtt, .allOk)] _ :=
    Run.single ⟨rfl, trivial⟩
  refine mounts_declared {} rfl hrun plainUpdate exitsInSoak ?_
  intro _ s hs
  cases hs
  exact Or.inr rfl

/-- An image is installed without mounts, and an update whose manifest asks for one exits in
    the soak: the old image runs again, with the mount. -/
theorem rollback_mounts_undeclared :
    ∃ m c, m = (({ host := {} } : Managed).perform {} installMqtt .allOk).perform {} mountUpdate
        exitsInSoak ∧
      m.host.daemon.containers = [c] ∧ c.running = true ∧
      c.config.image = "ghcr.io/nexus/mqtt" ∧ c.config.binds = ["/etc/ssl:/etc/ssl:ro"] ∧
      m.declared.lookup "ghcr.io/nexus/mqtt" = some [] ∧ ¬ m.declared.Allows c.config := by
  refine ⟨_, _, rfl, rfl, rfl, rfl, rfl, rfl, ?_⟩
  rintro ⟨mounts, hlookup, hbinds⟩
  cases hlookup
  cases hbinds

/-! ## The condition is needed -/

theorem bindMounts_injective : Function.Injective bindMounts := by
  apply List.map_injective_iff.mpr
  intro a b hab
  have hchars : a.toList ++ ':' :: (a.toList ++ [':', 'r', 'o']) =
      b.toList ++ ':' :: (b.toList ++ [':', 'r', 'o']) := by
    simpa using congrArg String.toList hab
  have hlength : a.toList.length = b.toList.length := by
    have := congrArg List.length hchars
    simp only [List.length_append, List.length_cons, List.length_nil] at this
    omega
  exact String.ext (List.append_inj_left hchars hlength)

theorem rollbackTo_runs {h : Host} {s : ConnectorStatus} (hs : h.registry.get id = some s) :
    Triple (fun _ => True) (· = h) (rollbackTo cfg id)
      (fun _ => Runs cfg id { s.spec with image := s.spec.prevImage, prevImage := s.spec.image })
      fun _ _ => True := by
  have hid : s.spec.id = id := Registry.spec_id_of_get hs
  apply checkReserved_bind trivial
  apply getStatus_bind
  · intro s' hs'
    obtain rfl : s = s' := Option.some.inj (hs.symm.trans hs')
    split
    · exact Triple.fail fun _ _ => trivial
    · apply Triple.bind (Q := fun _ _ => True)
      · apply wrapErr_triple (G := fun _ => True)
        exact Triple.top
      · intro _
        apply Triple.bind (register_installed rfl)
        intro _
        apply wrapErr_triple (G := fun _ => True)
        subst hid
        exact doStart_runs.conseq (fun _ hh => hh) (fun _ _ hh => hh) fun _ _ _ => trivial
  · exact fun _ => trivial

/-- The call put an image back and started it. -/
def PutBack (op : Op id) (result : Except Err Unit) : Prop :=
  match op with
  | .rollback => result = .ok ()
  | .update .. => ∃ cause, result = .error (.rollbackTriggered id cause)
  | _ => False

theorem exists_undeclared {h : Host} {d : Declared} {spec : ConnectorSpec}
    (hruns : Runs cfg id spec h) (hne : d.lookup spec.image ≠ some spec.permissions.mounts) :
    ∃ c ∈ h.daemon.containers, c.running = true ∧ ¬ d.Allows c.config := by
  obtain ⟨s, -, -, -, c, hc, -, hrunning, -, hconfig⟩ := hruns
  refine ⟨c, hc, hrunning, ?_⟩
  rintro ⟨mounts, hlookup, hbinds⟩
  rw [hconfig] at hlookup hbinds
  have hmounts : spec.permissions.mounts = mounts := bindMounts_injective hbinds
  rw [← hmounts] at hlookup
  exact hne hlookup

/-- After careful calls, one that puts an image back without meeting the condition leaves a
    container running with mounts that were not declared for its image. -/
theorem careless_put_back (cfg : ManagerConfig) {id : String} {h : Host}
    (hnone : h.registry.get id = none) {calls : List (Op id × Answers)} {m : Managed}
    (hrun : Run (Meeting (Steps cfg) (Careful cfg)) { host := h } calls m) (op : Op id)
    (answers : Answers) (hcareless : ¬ m.Careful cfg (op, answers))
    (hback : PutBack op (m.host.perform cfg op answers).result) :
    ∃ c ∈ (m.perform cfg op answers).host.daemon.containers, c.running = true ∧
      ¬ (m.perform cfg op answers).declared.Allows c.config := by
  have hreg := registered_of_run hnone hrun
  cases op with
  | rollback =>
    simp only [Careful, not_forall] at hcareless
    obtain ⟨-, s, hs, hne⟩ := hcareless
    have hruns := (rollbackTo_runs (h := m.host.facing answers) hs).of_ok rfl hback
    apply exists_undeclared hruns
    exact fun hsame => hne (hsame.trans (hreg s hs).symm)
  | update manifest allowed version soak =>
    obtain ⟨cause, hres⟩ := hback
    simp only [Careful, not_forall, not_or] at hcareless
    obtain ⟨-, s, hs, himage, hne⟩ := hcareless
    have hruns := (update_rolledBack (h := m.host.facing answers) hs).of_error rfl hres cause rfl
    apply exists_undeclared hruns
    intro hsame
    have hlookup : (m.perform cfg (.update manifest allowed version soak : Op id)
        answers).declared.lookup s.spec.image = m.declared.lookup s.spec.image := by
      simp only [perform, Op.declare]
      split
      · rw [Dict.lookup_insert_ite, if_neg himage]
      · rfl
    exact hne (hlookup.symm.trans hsame)
  | start => exact hback.elim
  | stop => exact hback.elim
  | restart => exact hback.elim
  | upgrade => exact hback.elim
  | install => exact hback.elim

theorem careless_put_back_mounted :
    ∃ m, m = ({ host := {} } : Managed).perform {} installMqtt .allOk ∧
      ∃ c ∈ (m.perform {} mountUpdate exitsInSoak).host.daemon.containers, c.running = true ∧
        ¬ (m.perform {} mountUpdate exitsInSoak).declared.Allows c.config := by
  have hrun : Run (Meeting (Steps {}) (Careful {})) { host := {} } [(installMqtt, .allOk)]
      (({ host := {} } : Managed).perform {} installMqtt .allOk) := Run.single ⟨rfl, trivial⟩
  have hres : ((({ host := {} } : Managed).perform {} installMqtt .allOk).host.perform {}
      mountUpdate exitsInSoak).result = .error (.rollbackTriggered "mqtt"
        (.daemon "health soak: container exited within soak window")) := rfl
  refine ⟨_, rfl, careless_put_back {} rfl hrun mountUpdate exitsInSoak (fun hcareful => ?_)
    ⟨_, hres⟩⟩
  rcases hcareful ⟨_, hres, rfl⟩ _ rfl with himage | hmounts
  · revert himage
    decide
  · cases hmounts

end Managed

end NexusGateway.Lifecycle
