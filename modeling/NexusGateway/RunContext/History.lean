/-
The history of a run ledger is monotone and invalidation is permanent.

The committed context and the invalidated runs are read off the file: it
is the only thing a crash or a failed `persist` leaves.  Every write
extends the file (`Extends`), a ledger that has not failed agrees with it
(`Inv`), and a failed one answers nothing.
-/

import NexusGateway.RunContext.Ledger

namespace NexusGateway.RunContext

open Lib Lib.Prog

/-! ## What the file says -/

section File

variable (decode : List UInt8 → Except String Context)

def State.committed (d : State) : Option Context :=
  d.envelope.bind fun e => (verify decode d.scope e).toOption

/-- The receipts of a committed context: its times fit its lifetime, and a revoked
    context has its run invalidated. -/
structure Receipts (d : State) (c : Context) : Prop where
  committed_from : d.committedAt.before c.issuedAt = false
  committed_until : d.committedAt.before c.expiresAt = true
  applied : ∀ t, d.appliedAt = some t →
    t.before d.committedAt = false ∧ t.before c.expiresAt = true
  revoked : c.status = "revoked" → d.invalidated c.runID = true

structure WellFormed (scope : Scope) (d : State) : Prop where
  version : d.version = ledgerVersion
  scope : d.scope = scope
  committed : ∀ e, d.envelope = some e → ∃ c, verify decode d.scope e = .ok c ∧ Receipts d c
  empty : d.envelope = none → d.committedAt.isZero = true ∧ d.appliedAt = none

/-- One write: the committed context stays or moves to a higher generation, the first
    one has generation 1, and no run is taken off the invalidated ones. -/
structure Extends (d d' : State) : Prop where
  generation : ∀ c, d.committed decode = some c →
    ∃ c', d'.committed decode = some c' ∧ (c' = c ∨ c.generation < c'.generation)
  first : d.committed decode = none → ∀ c, d'.committed decode = some c → c.generation = 1
  invalidated : ∀ r, d.invalidated r = true → d'.invalidated r = true

variable {decode} {scope : Scope} {d : State}

theorem committed_eq_some {c : Context} {e : Envelope} (he : d.envelope = some e)
    (hv : verify decode d.scope e = .ok c) : d.committed decode = some c := by
  simp [State.committed, he, hv, Except.toOption]

theorem Extends.of_committed_eq {d' : State} (hc : d'.committed decode = d.committed decode)
    (hinv : ∀ r, d.invalidated r = true → d'.invalidated r = true) : Extends decode d d' := by
  refine ⟨fun c h => ⟨c, hc.trans h, Or.inl rfl⟩, fun hnone c h => ?_, hinv⟩
  rw [hc, hnone] at h
  cases h

theorem Extends.refl : Extends decode d d := .of_committed_eq rfl fun _ h => h

theorem WellFormed.receipts (h : WellFormed decode scope d) {c : Context}
    (hc : d.committed decode = some c) : Receipts d c := by
  cases he : d.envelope with
  | none => simp [State.committed, he] at hc
  | some e =>
    obtain ⟨c', hv, hr⟩ := h.committed e he
    rw [committed_eq_some he hv] at hc
    cases hc
    exact hr

theorem openLedger_scope {scope' : Scope} {l : Ledger}
    (h : openLedger decode d scope' = .ok l) : d.scope = scope' := by
  rw [openLedger] at h
  split at h
  · cases h
  next hok =>
    by_contra hne
    exact hok (Or.inr hne)

theorem WellFormed.opens (h : WellFormed decode scope d) :
    openLedger decode d scope = .ok { data := d, context := d.committed decode } := by
  have hok : ¬ (d.version ≠ ledgerVersion ∨ d.scope ≠ scope) := by
    simp [h.version, h.scope]
  rw [openLedger, if_neg hok]
  cases he : d.envelope with
  | none =>
    obtain ⟨hzero, happlied⟩ := h.empty he
    simp [hzero, happlied, State.committed, he]
  | some e =>
    obtain ⟨c, hv, hr⟩ := h.committed e he
    have happlied : (d.appliedAt.any fun t => t.before d.committedAt || !t.before c.expiresAt) =
        false := by
      cases ht : d.appliedAt with
      | none => rfl
      | some t => simp [hr.applied t ht]
    simp [hv, hr.committed_from, hr.committed_until, happlied, committed_eq_some he hv]

theorem invalidated_mark (r r' : String) :
    ({ d with invalidRuns := d.mark r } : State).invalidated r' =
      (decide (r' = r) || d.invalidated r') := by
  simp only [State.invalidated, State.mark, Dict.lookup_insert_ite]
  by_cases hr : r' = r
  · simp [hr]
  · simp [hr]

-- The three kinds of write.

theorem WellFormed.mark (h : WellFormed decode scope d) (r : String) :
    WellFormed decode scope { d with invalidRuns := d.mark r } := by
  refine { h with committed := fun e he => ?_ }
  obtain ⟨c, hv, hr⟩ := h.committed e he
  refine ⟨c, hv, hr.committed_from, hr.committed_until, hr.applied, fun hrev => ?_⟩
  rw [invalidated_mark, hr.revoked hrev, Bool.or_true]

theorem extends_mark (r : String) : Extends decode d { d with invalidRuns := d.mark r } := by
  refine .of_committed_eq rfl fun r' hr' => ?_
  rw [invalidated_mark, hr', Bool.or_true]

theorem WellFormed.apply (h : WellFormed decode scope d) {c : Context} {t : Time}
    (hc : d.committed decode = some c) (hfrom : t.before d.committedAt = false)
    (huntil : t.before c.expiresAt = true) :
    WellFormed decode scope { d with appliedAt := some t } := by
  refine ⟨h.version, h.scope, fun e he => ?_, fun he => ?_⟩
  · obtain ⟨c', hv, hr⟩ := h.committed e he
    have hcc : c' = c := by
      have := committed_eq_some (d := d) he hv
      rw [hc] at this
      cases this
      rfl
    subst hcc
    refine ⟨c', hv, hr.committed_from, hr.committed_until, fun u hu => ?_, hr.revoked⟩
    cases hu
    exact ⟨hfrom, huntil⟩
  · rw [State.committed, show d.envelope = none from he] at hc
    cases hc

theorem extends_apply (t : Time) : Extends decode d { d with appliedAt := some t } :=
  .of_committed_eq rfl fun _ h => h

section Commit

variable {e : Envelope} {t : Time} {c : Context}

theorem invalidated_commit (r : String) : (d.commit e t c).invalidated r =
    (decide (c.status = "revoked" ∧ r = c.runID) || d.invalidated r) := by
  by_cases hrev : c.status = "revoked"
  · have := invalidated_mark (d := d) c.runID r
    simp only [State.commit, hrev, if_true, true_and]
    exact this
  · simp [State.commit, hrev, State.invalidated]

theorem WellFormed.commit (h : WellFormed decode scope d) (hv : verify decode d.scope e = .ok c)
    (hfrom : t.before c.issuedAt = false) (huntil : t.before c.expiresAt = true) :
    WellFormed decode scope (d.commit e t c) := by
  refine ⟨h.version, h.scope, fun e' he => ?_, fun he => ?_⟩
  · cases he
    refine ⟨c, hv, hfrom, huntil, fun u hu => ?_, fun hrev => ?_⟩
    · cases hu
    · rw [invalidated_commit]
      simp [hrev]
  · cases he

theorem committed_commit (hv : verify decode d.scope e = .ok c) :
    (d.commit e t c).committed decode = some c :=
  committed_eq_some rfl hv

theorem extends_commit (hv : verify decode d.scope e = .ok c)
    (hfirst : d.committed decode = none → c.generation = 1)
    (hnext : ∀ c', d.committed decode = some c' → c'.generation < c.generation) :
    Extends decode d (d.commit e t c) := by
  have hc : (d.commit e t c).committed decode = some c := committed_commit hv
  refine ⟨fun c' hc' => ⟨c, hc, Or.inr (hnext c' hc')⟩, fun hnone c' hc' => ?_, fun r hr => ?_⟩
  · rw [hc] at hc'
    cases hc'
    exact hfirst hnone
  · rw [invalidated_commit, hr, Bool.or_true]

end Commit

end File

/-! ## One call -/

section Call

variable {decode : List UInt8 → Except String Context} {scope : Scope} {s₀ : Store} {fault : Fault}

/-- The file is well formed, and a ledger that has not failed agrees with it. -/
structure Inv (decode : List UInt8 → Except String Context) (scope : Scope) (s : Store) :
    Prop where
  disk : WellFormed decode scope s.disk
  data : s.ledger.failed = false → s.ledger.data = s.disk
  context : s.ledger.failed = false → s.ledger.context = s.disk.committed decode

structure After (decode : List UInt8 → Except String Context) (scope : Scope) (s₀ s : Store) :
    Prop where
  inv : Inv decode scope s
  extends_disk : Extends decode s₀.disk s.disk

theorem Inv.after (h : Inv decode scope s₀) : After decode scope s₀ s₀ := ⟨h, .refl⟩

theorem Inv.of_failed {s : Store} (hd : WellFormed decode scope s.disk)
    (hf : s.ledger.failed = true) : Inv decode scope s := by
  refine ⟨hd, fun h => ?_, fun h => ?_⟩ <;> simp [hf] at h

theorem failPersist_triple {P : Store → Prop} {Q : Unit → Store → Prop} {err : String}
    (hP : ∀ s, P s → WellFormed decode scope s.disk ∧ Extends decode s₀.disk s.disk) :
    Triple (fun _ => True) P (Store.failPersist err) Q fun _ => After decode scope s₀ := by
  refine Triple.bind (Q := fun _ => After decode scope s₀) (Triple.modify fun s hs => ?_)
    fun _ => Triple.fail fun _ hs => hs
  obtain ⟨hwf, hext⟩ := hP s hs
  exact ⟨trivial, Inv.of_failed hwf rfl, hext⟩

theorem persist_triple {next : State} (hs₀ : Inv decode scope s₀)
    (hwf : WellFormed decode scope next) (hext : Extends decode s₀.disk next) :
    Triple (fun _ => True) (· = s₀) (Store.persist next fault)
      (fun _ s => s = { disk := next, ledger := { s₀.ledger with data := next } })
      fun _ => After decode scope s₀ := by
  have hold : ∀ s, s = s₀ → WellFormed decode scope s.disk ∧ Extends decode s₀.disk s.disk := by
    rintro s rfl
    exact ⟨hs₀.disk, .refl⟩
  cases fault with
  | none =>
    refine Triple.modify fun s hs => ⟨trivial, ?_⟩
    rw [hs]
  | staging err | beforeRename err => exact failPersist_triple hold
  | afterRename err =>
    refine Triple.bind (Q := fun _ s => s.disk = next) (Triple.modify fun s _ => ⟨trivial, rfl⟩)
      fun _ => failPersist_triple fun s hs => ?_
    rw [hs]
    exact ⟨hwf, hext⟩

theorem persist_after {next : State} (hs₀ : Inv decode scope s₀)
    (hlive : s₀.ledger.failed = false) (hwf : WellFormed decode scope next)
    (hext : Extends decode s₀.disk next)
    (hc : next.committed decode = s₀.disk.committed decode) :
    Triple (fun _ => True) (· = s₀) (Store.persist next fault)
      (fun _ s => After decode scope s₀ s ∧ s.disk = next) fun _ => After decode scope s₀ := by
  refine (persist_triple hs₀ hwf hext).post_ok fun _ s hs => ?_
  subst hs
  exact ⟨⟨⟨hwf, fun _ => rfl, fun h => (hs₀.context hlive).trans hc.symm⟩, hext⟩, rfl⟩

variable {e : Envelope} {t : Time} {r : String}

theorem invalidateRun_triple (hs₀ : Inv decode scope s₀) :
    Triple (fun _ => True) (· = s₀) (Store.invalidateRun r fault)
      (fun _ s => After decode scope s₀ s ∧ s.disk.invalidated r = true)
      fun _ => After decode scope s₀ := by
  have herr : ∀ s, s = s₀ → After decode scope s₀ s := fun s hs => hs ▸ hs₀.after
  refine Triple.get_bind_eq (Triple.check_bind herr fun hlive => Triple.check_bind herr fun _ => ?_)
  rw [Bool.not_eq_true'] at hlive
  rw [hs₀.data hlive]
  refine (persist_after hs₀ hlive (hs₀.disk.mark r) (extends_mark r) rfl).post_ok
    fun _ s hs => ⟨hs.1, ?_⟩
  rw [hs.2, invalidated_mark]
  simp

theorem invalidateContext_triple (hs₀ : Inv decode scope s₀) :
    Triple (fun _ => True) (· = s₀) (Store.invalidateContext decode e fault)
      (fun _ s => After decode scope s₀ s ∧
        ∀ c, verify decode scope e = .ok c → s.disk.invalidated c.runID = true)
      fun _ => After decode scope s₀ := by
  have herr : ∀ s, s = s₀ → After decode scope s₀ s := fun s hs => hs ▸ hs₀.after
  refine Triple.get_bind_eq (Triple.check_bind herr fun hok => ?_)
  rw [Bool.and_eq_true, Bool.not_eq_true'] at hok
  rw [hs₀.data hok.1, hs₀.disk.scope]
  refine Triple.ofExcept_bind (fun _ _ => herr) fun c hv => Triple.check_bind herr fun _ => ?_
  refine (persist_after hs₀ hok.1 (hs₀.disk.mark c.runID) (extends_mark c.runID) rfl).post_ok
    fun _ s hs => ⟨hs.1, fun c' hv' => ?_⟩
  rw [hv] at hv'
  cases hv'
  rw [hs.2, invalidated_mark]
  simp

theorem apply_triple (hs₀ : Inv decode scope s₀) :
    Triple (fun _ => True) (· = s₀) (Store.apply t fault)
      (fun _ => After decode scope s₀) fun _ => After decode scope s₀ := by
  have herr : ∀ s, s = s₀ → After decode scope s₀ s := fun s hs => hs ▸ hs₀.after
  refine Triple.get_bind_eq (Triple.check_bind herr fun hlive =>
    Triple.check_bind herr fun hok => ?_)
  rw [Bool.not_eq_true'] at hlive
  rw [hs₀.data hlive, hs₀.context hlive, Option.any_eq_true] at hok
  obtain ⟨c, hc, hbounds⟩ := hok
  rw [Bool.and_eq_true, Bool.not_eq_true'] at hbounds
  split
  · exact Triple.pure herr
  · rw [hs₀.data hlive]
    exact (persist_after hs₀ hlive (hs₀.disk.apply hc hbounds.1 hbounds.2) (extends_apply t)
      rfl).post_ok fun _ s hs => hs.1

structure Committed (decode : List UInt8 → Except String Context) (scope : Scope) (c : Context)
    (s₀ s : Store) : Prop extends After decode scope s₀ s where
  revoked : c.status = "revoked" → s.disk.invalidated c.runID = true
  same : ∀ c', s₀.disk.committed decode = some c' → c.generation = c'.generation → c = c'

theorem commitNext_triple {c : Context} (hs₀ : Inv decode scope s₀)
    (hlive : s₀.ledger.failed = false) (hv : verify decode s₀.disk.scope e = .ok c)
    (hfrom : t.before c.issuedAt = false) (huntil : t.before c.expiresAt = true)
    (hfirst : s₀.disk.committed decode = none → c.generation = 1)
    (hnext : ∀ c', s₀.disk.committed decode = some c' → c'.generation < c.generation) :
    Triple (fun _ => True) (· = s₀) (Store.commitNext s₀.ledger e t c fault)
      (fun _ => Committed decode scope c s₀) fun _ => After decode scope s₀ := by
  have hwf := hs₀.disk.commit hv hfrom huntil
  have hext : Extends decode s₀.disk (s₀.disk.commit e t c) := extends_commit hv hfirst hnext
  rw [Store.commitNext, hs₀.data hlive]
  refine Triple.bind (persist_triple hs₀ hwf hext) fun _ => Triple.modify fun s hs => ⟨trivial, ?_⟩
  subst hs
  refine ⟨⟨⟨hwf, fun _ => rfl, fun _ => (committed_commit hv).symm⟩, hext⟩, fun hrev => ?_,
    fun c' hc' hgen => ?_⟩
  · show (s₀.disk.commit e t c).invalidated c.runID = true
    rw [invalidated_commit]
    simp [hrev]
  · have := hnext c' hc'
    omega

theorem commit_triple (hs₀ : Inv decode scope s₀) :
    Triple (fun _ => True) (· = s₀) (Store.commit decode e t fault)
      (fun _ s => ∃ c, verify decode scope e = .ok c ∧ Committed decode scope c s₀ s)
      fun _ => After decode scope s₀ := by
  have herr : ∀ s, s = s₀ → After decode scope s₀ s := fun s hs => hs ▸ hs₀.after
  refine Triple.get_bind_eq (Triple.check_bind herr fun hlive => ?_)
  rw [Bool.not_eq_true'] at hlive
  refine Triple.ofExcept_bind (fun _ _ => herr) fun c hv => Triple.check_bind herr fun hbounds => ?_
  rw [hs₀.data hlive] at hv
  rw [Bool.and_eq_true, Bool.not_eq_true'] at hbounds
  have hv' : verify decode scope e = .ok c := hs₀.disk.scope ▸ hv
  cases hctx : s₀.ledger.context with
  | none =>
    have hnone : s₀.disk.committed decode = none := (hs₀.context hlive).symm.trans hctx
    refine Triple.check_bind herr fun hgen => ?_
    refine (commitNext_triple hs₀ hlive hv hbounds.1 hbounds.2 (fun _ => by simpa using hgen)
      fun c' hc' => ?_).post_ok fun _ s hs => ⟨c, hv', hs⟩
    rw [hnone] at hc'
    cases hc'
  | some cur =>
    have hcur : s₀.disk.committed decode = some cur := (hs₀.context hlive).symm.trans hctx
    simp only []
    split
    · exact Triple.fail herr
    split
    · -- the committed generation again: only the same context passes
      refine Triple.check (fun hsame s hs => ?_) herr
      have hcc : cur = c := Context.marshal_injective (beq_iff_eq.mp hsame)
      subst hs hcc
      refine ⟨cur, hv', hs₀.after, (hs₀.disk.receipts hcur).revoked, fun c' hc' _ => ?_⟩
      rw [hcur] at hc'
      cases hc'
      rfl
    · refine (commitNext_triple hs₀ hlive hv hbounds.1 hbounds.2 (fun hnone => ?_)
        fun c' hc' => ?_).post_ok fun _ s hs => ⟨c, hv', hs⟩
      · rw [hcur] at hnone
        cases hnone
      · rw [hcur] at hc'
        cases hc'
        omega

def Op.Revokes (decode : List UInt8 → Except String Context) (scope : Scope) (r : String) :
    Op → Prop
  | .commit e _ _ => ∃ c, verify decode scope e = .ok c ∧ c.status = "revoked" ∧ c.runID = r
  | .apply .. => False
  | .invalidateRun r' _ => r' = r
  | .invalidateContext e _ => ∃ c, verify decode scope e = .ok c ∧ c.runID = r

theorem op_triple (op : Op) (hs₀ : Inv decode scope s₀) :
    Triple (fun _ => True) (· = s₀) (op.prog decode)
      (fun _ s => After decode scope s₀ s ∧
        ∀ r, op.Revokes decode scope r → s.disk.invalidated r = true)
      fun _ => After decode scope s₀ := by
  cases op with
  | commit e t fault =>
    refine (commit_triple hs₀).post_ok fun _ s hs => ?_
    obtain ⟨c, hv, hcommitted⟩ := hs
    refine ⟨hcommitted.toAfter, fun r hr => ?_⟩
    obtain ⟨c', hv', hrev, rfl⟩ := hr
    rw [hv] at hv'
    cases hv'
    exact hcommitted.revoked hrev
  | apply t fault =>
    exact (apply_triple hs₀).post_ok fun _ s hs => ⟨hs, fun r hr => hr.elim⟩
  | invalidateRun r fault =>
    exact (invalidateRun_triple hs₀).post_ok fun _ s hs => ⟨hs.1, fun r' hr => hr ▸ hs.2⟩
  | invalidateContext e fault =>
    refine (invalidateContext_triple hs₀).post_ok fun _ s hs => ⟨hs.1, fun r hr => ?_⟩
    obtain ⟨c, hv, rfl⟩ := hr
    exact hs.2 c hv

end Call

/-! ## What a ledger answers -/

section Answers

variable {decode : List UInt8 → Except String Context} {scope : Scope} {d : State} {l : Ledger}

theorem Inv.current (h : Inv decode scope ⟨d, l⟩) {c : Context} (hc : l.current = .ok c) :
    d.committed decode = some c := by
  rw [Ledger.current] at hc
  split at hc
  · cases hc
  next hlive =>
    rw [Bool.not_eq_true] at hlive
    rw [← h.context hlive]
    split at hc
    next => cases hc
    next hctx =>
      cases hc
      exact hctx

theorem Inv.invalidated (h : Inv decode scope ⟨d, l⟩) {r : String} {b : Bool}
    (hb : l.invalidated r = .ok b) : d.invalidated r = b := by
  rw [Ledger.invalidated] at hb
  split at hb
  · cases hb
  next hlive =>
    rw [Bool.not_eq_true] at hlive
    rw [h.data hlive] at hb
    cases hb
    rfl

theorem Inv.evaluate (h : Inv decode scope ⟨d, l⟩) {revision r : String} {start stop : Time}
    {gen : Nat} (hvalid : l.evaluate revision start stop = .valid r gen) :
    d.invalidated r = false := by
  rw [Ledger.evaluate] at hvalid
  split at hvalid
  · cases hvalid
  next hlive =>
    rw [Bool.not_eq_true] at hlive
    rw [h.data hlive] at hvalid
    -- only the last branch is valid, and it has looked the run up
    repeat' split at hvalid
    all_goals cases hvalid
    next hinv => exact Bool.not_eq_true _ ▸ hinv

end Answers

/-! ## Runs -/

section Runs

variable {decode : List UInt8 → Except String Context} {scope : Scope} {u v : System}

/-- The file is well formed, and the process's ledger, if any, fits it. -/
structure System.Inv (decode : List UInt8 → Except String Context) (scope : Scope) (u : System) :
    Prop where
  disk : WellFormed decode scope u.disk
  ledger : ∀ l, u.ledger = some l → RunContext.Inv decode scope ⟨u.disk, l⟩

theorem inv_init (h : System.init scope = .ok u) :
    u.Inv decode scope ∧ u.disk.committed decode = none := by
  rw [System.init, initializeLedger] at h
  split at h
  · cases h
  · cases h
    have hwf : WellFormed decode scope { scope := scope } :=
      ⟨rfl, rfl, nofun, fun _ => ⟨rfl, rfl⟩⟩
    refine ⟨⟨hwf, fun l hl => ?_⟩, rfl⟩
    cases hl
    exact ⟨hwf, fun _ => rfl, fun _ => rfl⟩

theorem step_call {op : Op} {res : Except String Unit} (hu : u.Inv decode scope)
    (h : u.step decode (.call op) = some (res, v)) :
    v.Inv decode scope ∧ Extends decode u.disk v.disk ∧
      (res = .ok () → ∀ r, op.Revokes decode scope r → v.disk.invalidated r = true) := by
  cases hl : u.ledger with
  | none => simp [System.step, hl] at h
  | some l =>
    have htriple := op_triple op (hu.ledger l hl)
    simp only [System.step, hl, Option.map_some, Option.some.injEq, Prod.mk.injEq] at h
    obtain ⟨rfl, rfl⟩ := h
    have hafter : After decode scope ⟨u.disk, l⟩ (op.prog decode ⟨u.disk, l⟩).state :=
      (htriple.post_ok (fun _ _ h => h.1)).state rfl
    refine ⟨⟨hafter.inv.disk, fun l' hl' => ?_⟩, hafter.extends_disk, fun hres => ?_⟩
    · cases hl'
      exact hafter.inv
    · exact (htriple.of_ok rfl hres).2

theorem step_commit {e : Envelope} {t : Time} {fault : Fault} (hu : u.Inv decode scope)
    (h : u.step decode (.call (.commit e t fault)) = some (.ok (), v)) :
    ∃ c, verify decode scope e = .ok c ∧
      ∀ c', u.disk.committed decode = some c' → c.generation = c'.generation → c = c' := by
  cases hl : u.ledger with
  | none => simp [System.step, hl] at h
  | some l =>
    simp only [System.step, hl, Option.map_some, Option.some.injEq, Prod.mk.injEq] at h
    obtain ⟨c, hv, hcommitted⟩ := (commit_triple (hu.ledger l hl)).of_ok rfl h.1
    exact ⟨c, hv, hcommitted.same⟩

theorem step_inv {a : Action} (hu : u.Inv decode scope) (h : u.Steps decode a v) :
    v.Inv decode scope ∧ Extends decode u.disk v.disk := by
  obtain ⟨res, h⟩ := h
  cases a with
  | call op =>
    obtain ⟨hv, hext, -⟩ := step_call hu h
    exact ⟨hv, hext⟩
  | crash =>
    simp only [System.step, Option.some.injEq, Prod.mk.injEq] at h
    obtain ⟨-, rfl⟩ := h
    exact ⟨⟨hu.disk, fun l hl => nomatch (show none = some l from hl)⟩, .refl⟩
  | reopen scope' =>
    rw [System.step] at h
    cases hopen : openLedger decode u.disk scope' with
    | error err =>
      simp only [hopen, Option.some.injEq, Prod.mk.injEq] at h
      obtain ⟨-, rfl⟩ := h
      exact ⟨hu, .refl⟩
    | ok l =>
      simp only [hopen, Option.some.injEq, Prod.mk.injEq] at h
      obtain ⟨-, rfl⟩ := h
      -- only its own scope opens the file, and the new ledger agrees with it
      have hl : l = { data := u.disk, context := u.disk.committed decode } := by
        rw [← hu.disk.scope.symm.trans (openLedger_scope hopen), hu.disk.opens] at hopen
        cases hopen
        rfl
      refine ⟨⟨hu.disk, fun l' hl' => ?_⟩, .refl⟩
      have hl'' : l = l' := Option.some.inj hl'
      subst hl'' hl
      exact ⟨hu.disk, fun _ => rfl, fun _ => rfl⟩

theorem inv_of_run {as : List Action} (hrun : Run (System.Steps decode) u as v)
    (hu : u.Inv decode scope) : v.Inv decode scope :=
  hrun.invariant hu fun _ _ _ h hstep => (step_inv h hstep).1

/-- Any number of writes: generations do not fall and runs stay invalidated. -/
structure Later (decode : List UInt8 → Except String Context) (d d' : State) : Prop where
  generation : ∀ c, d.committed decode = some c →
    ∃ c', d'.committed decode = some c' ∧ c.generation ≤ c'.generation
  invalidated : ∀ r, d.invalidated r = true → d'.invalidated r = true

theorem Extends.later {d d' : State} (h : Extends decode d d') : Later decode d d' := by
  refine ⟨fun c hc => ?_, h.invalidated⟩
  obtain ⟨c', hc', hgen⟩ := h.generation c hc
  refine ⟨c', hc', ?_⟩
  rcases hgen with rfl | hlt
  · exact Nat.le_refl _
  · exact Nat.le_of_lt hlt

theorem Later.trans {d d' d'' : State} (h : Later decode d d') (h' : Later decode d' d'') :
    Later decode d d'' := by
  refine ⟨fun c hc => ?_, fun r hr => h'.invalidated r (h.invalidated r hr)⟩
  obtain ⟨c', hc', hle⟩ := h.generation c hc
  obtain ⟨c'', hc'', hle'⟩ := h'.generation c' hc'
  exact ⟨c'', hc'', Nat.le_trans hle hle'⟩

theorem later_of_run {as : List Action} (hrun : Run (System.Steps decode) u as v)
    (hu : u.Inv decode scope) : Later decode u.disk v.disk :=
  hrun.mono hu (fun _ _ _ h hstep => (step_inv h hstep).1) (fun _ => Extends.refl.later)
    (fun _ _ _ h h' => h.trans h') fun _ _ _ h hstep => (step_inv h hstep).2.later

/-- For every decoder, scope and run from Initialize through `u` to `v`, with any
    faults, crashes and re-opens: the generation Current reports does not fall; the
    first generation committed is 1; a Commit of the committed generation succeeds
    only for the committed context; invalidated runs stay invalidated; and once a call
    that invalidates a run has returned nil, no later Evaluate is valid for it. -/
theorem history_monotone {u₀ : System} {as bs : List Action}
    (hinit : System.init scope = .ok u₀) (hu : Run (System.Steps decode) u₀ as u)
    (hv : Run (System.Steps decode) u bs v) :
    (∀ l l' c c', u.ledger = some l → v.ledger = some l' → l.current = .ok c →
      l'.current = .ok c' → c.generation ≤ c'.generation) ∧
    (u₀.disk.committed decode = none ∧ ∀ a w c, u.Steps decode a w →
      u.disk.committed decode = none → w.disk.committed decode = some c → c.generation = 1) ∧
    (∀ l c c' e t fault w, u.ledger = some l → l.current = .ok c →
      u.step decode (.call (.commit e t fault)) = some (.ok (), w) →
      verify decode scope e = .ok c' → c'.generation = c.generation → c' = c) ∧
    (∀ r, (u.disk.invalidated r = true → v.disk.invalidated r = true) ∧
      ∀ l l', u.ledger = some l → v.ledger = some l' → l.invalidated r = .ok true →
        l'.invalidated r ≠ .ok false) ∧
    (∀ op r w cs x l, u.step decode (.call op) = some (.ok (), w) → op.Revokes decode scope r →
      Run (System.Steps decode) w cs x → x.ledger = some l →
      ∀ revision start stop generation,
        l.evaluate revision start stop ≠ .valid r generation) := by
  have hI := inv_of_run hu (inv_init hinit).1
  have hI' := inv_of_run hv hI
  have hlater := later_of_run hv hI
  refine ⟨?_, ⟨(inv_init hinit).2, ?_⟩, ?_, ?_, ?_⟩
  · intro l l' c c' hl hl' hc hc'
    obtain ⟨c'', hc'', hle⟩ := hlater.generation c ((hI.ledger l hl).current hc)
    rw [(hI'.ledger l' hl').current hc'] at hc''
    cases hc''
    exact hle
  · intro a w c hstep hnone hc
    exact (step_inv hI hstep).2.first hnone c hc
  · intro l c c' e t fault w hl hc hstep hverify hgen
    obtain ⟨c'', hverify', hsame⟩ := step_commit hI hstep
    rw [hverify] at hverify'
    cases hverify'
    exact hsame c ((hI.ledger l hl).current hc) hgen
  · intro r
    refine ⟨hlater.invalidated r, fun l l' hl hl' hr hr' => ?_⟩
    have := hlater.invalidated r ((hI.ledger l hl).invalidated hr)
    rw [(hI'.ledger l' hl').invalidated hr'] at this
    cases this
  · intro op r w cs x l hstep hrev hrun hl revision start stop generation hvalid
    obtain ⟨hIw, -, hmarked⟩ := step_call hI hstep
    have hIx := inv_of_run hrun hIw
    have hx := (later_of_run hrun hIw).invalidated r (hmarked rfl r hrev)
    rw [(hIx.ledger l hl).evaluate hvalid] at hx
    cases hx

def sampleContext (generation : Nat) (status : String) : Context :=
  { schemaVersion := schema, gatewayID := "gw", clockID := "clock",
    provisioningRevision := "rev", runID := "r", generation := generation, status := status,
    issuedAt := { instant := 1 }, validFrom := { instant := 2 }, expiresAt := { instant := 100 } }

def sampleDecode : List UInt8 → Except String Context
  | [1] => .ok (sampleContext 1 "active")
  | [2] => .ok (sampleContext 2 "revoked")
  | _ => .error "unexpected"

/-- The revocation of `r` holds across a crash: before it `r` is valid, and after the
    re-open no verdict is valid for it. -/
theorem history_monotone_revoked :
    ∃ u₀ u w x l l', System.init ⟨"gw", "clock"⟩ = .ok u₀ ∧
      Run (System.Steps sampleDecode) u₀
        [.call (.commit ⟨[1]⟩ { instant := 5 } .none), .call (.apply { instant := 6 } .none)] u ∧
      u.ledger = some l ∧ l.evaluate "rev" { instant := 10 } { instant := 11 } = .valid "r" 1 ∧
      u.step sampleDecode (.call (.commit ⟨[2]⟩ { instant := 7 } .none)) = some (.ok (), w) ∧
      Run (System.Steps sampleDecode) w [.crash, .reopen ⟨"gw", "clock"⟩] x ∧
      x.ledger = some l' ∧ ∀ revision start stop generation,
        l'.evaluate revision start stop ≠ .valid "r" generation := by
  obtain ⟨u₀, u, w, x, l, l', hinit, hu, hl, hvalid, hstep, hx, hl'⟩ :
      ∃ u₀ u w x l l', System.init ⟨"gw", "clock"⟩ = .ok u₀ ∧
        Run (System.Steps sampleDecode) u₀
          [.call (.commit ⟨[1]⟩ { instant := 5 } .none), .call (.apply { instant := 6 } .none)] u ∧
        u.ledger = some l ∧ l.evaluate "rev" { instant := 10 } { instant := 11 } = .valid "r" 1 ∧
        u.step sampleDecode (.call (.commit ⟨[2]⟩ { instant := 7 } .none)) = some (.ok (), w) ∧
        Run (System.Steps sampleDecode) w [.crash, .reopen ⟨"gw", "clock"⟩] x ∧
        x.ledger = some l' :=
    ⟨_, _, _, _, _, _, rfl, .cons ⟨_, rfl⟩ (.single ⟨_, rfl⟩), rfl, rfl, rfl,
      .cons ⟨_, rfl⟩ (.single ⟨_, rfl⟩), rfl⟩
  obtain ⟨-, -, -, -, hpermanent⟩ := history_monotone hinit hu (.nil u)
  refine ⟨u₀, u, w, x, l, l', hinit, hu, hl, hvalid, hstep, hx, hl', ?_⟩
  exact hpermanent _ "r" w _ x l' hstep ⟨sampleContext 2 "revoked", rfl, rfl, rfl⟩ hx hl'

end Runs

end NexusGateway.RunContext
