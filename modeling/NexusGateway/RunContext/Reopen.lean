/-
The ledger file always opens again to what was acknowledged.

The file of a run is one the ledger wrote (`WellFormed`), so it opens; a
ledger that has not failed agrees with it (`Inv`), so the reopened ledger
answers as the live one does.  `call_triple` says what a call that returns
an error leaves: everything as it was, or, when its `persist` failed, a
failed ledger over the old file or the one the call would have written.
-/

import NexusGateway.RunContext.History

namespace NexusGateway.RunContext

open Lib Lib.Prog

/-! ## A call whose `persist` fails -/

def Op.fault : Op → Fault
  | .commit _ _ fault => fault
  | .apply _ fault => fault
  | .invalidateRun _ fault => fault
  | .invalidateContext _ fault => fault

def Op.faultless : Op → Op
  | .commit envelope at' _ => .commit envelope at' .none
  | .apply at' _ => .apply at' .none
  | .invalidateRun runID _ => .invalidateRun runID .none
  | .invalidateContext envelope _ => .invalidateContext envelope .none

section Call

variable {decode : List UInt8 → Except String Context} {s₀ s : Store}

/-- The `persist` of the call failed: the ledger has failed, and the file is the old one
    or the one the call writes when its `persist` succeeds. -/
structure PersistFailed (decode : List UInt8 → Except String Context) (op : Op)
    (s₀ s : Store) : Prop where
  fault : op.fault ≠ .none
  failed : s.ledger.failed = true
  accepted : (op.faultless.prog decode s₀).result = .ok ()
  disk : s.disk = s₀.disk ∨ s.disk = (op.faultless.prog decode s₀).state.disk

/-- A refused call changes nothing; the others fail in their `persist`. -/
def Unacknowledged (decode : List UInt8 → Except String Context) (op : Op) (s₀ s : Store) : Prop :=
  s = s₀ ∨ PersistFailed decode op s₀ s

theorem failPersist_failed {P : Store → Prop} {Q : Unit → Store → Prop} {err : String} :
    Triple (fun _ => True) P (Store.failPersist err) Q
      fun _ s => s.ledger.failed = true ∧ ∃ s', P s' ∧ s.disk = s'.disk := by
  refine Triple.bind (Q := fun _ s => s.ledger.failed = true ∧ ∃ s', P s' ∧ s.disk = s'.disk)
    (Triple.modify fun s hs => ⟨trivial, rfl, s, hs, rfl⟩) fun _ => Triple.fail fun _ hs => hs

theorem persist_unacknowledged (op : Op) {next : State} (hlive : s₀.ledger.failed = false)
    (haccepted : (op.faultless.prog decode s₀).result = .ok ())
    (hnext : (op.faultless.prog decode s₀).state.disk = next) :
    Triple (fun _ => True) (· = s₀) (Store.persist next op.fault)
      (fun _ s => s.ledger.failed = false) fun _ => Unacknowledged decode op s₀ := by
  have hfails {fault : Fault} {P : Store → Prop} {err : String} (hfault : op.fault = fault)
      (hne : fault ≠ .none) (hP : ∀ s, P s → s.disk = s₀.disk ∨ s.disk = next) :
      Triple (fun _ => True) P (Store.failPersist err) (fun _ s => s.ledger.failed = false)
        fun _ => Unacknowledged decode op s₀ := by
    refine failPersist_failed.post_error fun _ s hs => Or.inr ?_
    obtain ⟨hfailed, s', hs', hdisk⟩ := hs
    refine ⟨hfault ▸ hne, hfailed, haccepted, ?_⟩
    rw [hdisk, hnext]
    exact hP s' hs'
  have hold : ∀ s, s = s₀ → s.disk = s₀.disk ∨ s.disk = next := fun s hs => Or.inl (hs ▸ rfl)
  cases hfault : op.fault with
  | none =>
    refine Triple.modify fun s hs => ⟨trivial, ?_⟩
    rw [hs]
    exact hlive
  | staging err | beforeRename err => exact hfails hfault (by simp) hold
  | afterRename err =>
    have hmodify : Triple (fun _ => True) (· = s₀)
        (Prog.modify fun s => { s with disk := next } : Prog Store String Unit)
        (fun _ s => s.disk = next) fun _ => Unacknowledged decode op s₀ :=
      Triple.modify fun s _ => ⟨trivial, rfl⟩
    exact hmodify.bind fun _ => hfails hfault (by simp) fun s hs => Or.inr hs

theorem commitNext_unacknowledged {e : Envelope} {t : Time} {fault : Fault} {c : Context}
    (hlive : s₀.ledger.failed = false)
    (hwrites : (Op.commit e t .none).prog decode s₀ =
      Store.commitNext s₀.ledger e t c .none s₀) :
    Triple (fun _ => True) (· = s₀) (Store.commitNext s₀.ledger e t c fault)
      (fun _ s => s.ledger.failed = false)
      fun _ => Unacknowledged decode (.commit e t fault) s₀ := by
  have haccepted : ((Op.commit e t fault).faultless.prog decode s₀).result = .ok () := by
    rw [Op.faultless, hwrites]
    rfl
  have hdisk : ((Op.commit e t fault).faultless.prog decode s₀).state.disk =
      s₀.ledger.data.commit e t c := by
    rw [Op.faultless, hwrites]
    rfl
  exact (persist_unacknowledged (.commit e t fault) hlive haccepted hdisk).bind
    fun _ => Triple.modify fun s hs => ⟨trivial, hs⟩

theorem call_triple (op : Op) (hlive : s₀.ledger.failed = false) :
    Triple (fun _ => True) (· = s₀) (op.prog decode) (fun _ s => s.ledger.failed = false)
      fun _ => Unacknowledged decode op s₀ := by
  have hsame : ∀ s, s = s₀ → Unacknowledged decode op s₀ s := fun s hs => Or.inl hs
  cases op with
  | apply t fault =>
    refine Triple.get_bind_eq (Triple.check_bind hsame fun hok => Triple.check_bind hsame
      fun hbounds => ?_)
    split
    · exact Triple.pure fun s hs => hs ▸ hlive
    next hfresh =>
      apply persist_unacknowledged (.apply t fault) hlive
      all_goals
        simp only [Op.faultless, Op.prog, Store.apply, get_bind_apply, hok, hbounds,
          check_true_bind_apply, hfresh]
        rfl
  | invalidateRun r fault =>
    refine Triple.get_bind_eq (Triple.check_bind hsame fun hok => Triple.check_bind hsame
      fun hrun => ?_)
    apply persist_unacknowledged (.invalidateRun r fault) hlive
    all_goals
      simp only [Op.faultless, Op.prog, Store.invalidateRun, get_bind_apply, hok, hrun,
        check_true_bind_apply]
      rfl
  | invalidateContext e fault =>
    refine Triple.get_bind_eq (Triple.check_bind hsame fun hok =>
      Triple.ofExcept_bind (fun _ _ => hsame) fun c hv => Triple.check_bind hsame fun hgen => ?_)
    apply persist_unacknowledged (.invalidateContext e fault) hlive
    all_goals
      simp only [Op.faultless, Op.prog, Store.invalidateContext, get_bind_apply, hok, hv, hgen,
        check_true_bind_apply, ofExcept_ok_bind_apply]
      rfl
  | commit e t fault =>
    refine Triple.get_bind_eq (Triple.check_bind hsame fun hok =>
      Triple.ofExcept_bind (fun _ _ => hsame) fun c hv => Triple.check_bind hsame
        fun hbounds => ?_)
    cases hctx : s₀.ledger.context with
    | none =>
      refine Triple.check_bind hsame fun hgen => ?_
      apply commitNext_unacknowledged hlive
      simp only [Op.prog, Store.commit, get_bind_apply, hok, hv, hbounds, hctx, hgen,
        check_true_bind_apply, ofExcept_ok_bind_apply]
    | some current =>
      simp only []
      split
      · exact Triple.fail hsame
      next hrollback =>
        split
        · exact Triple.check (fun _ s hs => hs ▸ hlive) hsame
        next hnew =>
          apply commitNext_unacknowledged hlive
          simp only [Op.prog, Store.commit, get_bind_apply, hok, hv, hbounds, hctx, hrollback,
            hnew, if_false, check_true_bind_apply, ofExcept_ok_bind_apply]

theorem call_failed (op : Op) (hfailed : s₀.ledger.failed = true) :
    ∃ err, (op.prog decode s₀).result = .error err ∧ (op.prog decode s₀).state = s₀ := by
  cases op with
  | commit e t fault =>
    simp only [Op.prog, Store.commit, get_bind_apply, hfailed]
    exact ⟨_, rfl, rfl⟩
  | apply t fault =>
    simp only [Op.prog, Store.apply, get_bind_apply, hfailed]
    exact ⟨_, rfl, rfl⟩
  | invalidateRun r fault =>
    simp only [Op.prog, Store.invalidateRun, get_bind_apply, hfailed]
    exact ⟨_, rfl, rfl⟩
  | invalidateContext e fault =>
    simp only [Op.prog, Store.invalidateContext, get_bind_apply, hfailed]
    exact ⟨_, rfl, rfl⟩

end Call

/-! ## Opening the file again -/

section Reopen

variable {decode : List UInt8 → Except String Context} {scope : Scope} {d : State} {l r : Ledger}

structure SameAnswers (l r : Ledger) : Prop where
  evaluate : ∀ revision start stop, r.evaluate revision start stop = l.evaluate revision start stop
  current : r.current = l.current
  invalidated : ∀ runID, r.invalidated runID = l.invalidated runID
  receiverTimes : r.receiverTimes = l.receiverTimes
  currentEnvelope : r.currentEnvelope = l.currentEnvelope

theorem SameAnswers.refl (l : Ledger) : SameAnswers l l :=
  ⟨fun _ _ _ => rfl, rfl, fun _ => rfl, rfl, rfl⟩

theorem Inv.ledger_eq (h : Inv decode scope ⟨d, l⟩) (hlive : l.failed = false) :
    l = { data := d, context := d.committed decode } := by
  have hdata : l.data = d := h.data hlive
  have hcontext : l.context = d.committed decode := h.context hlive
  rw [← hdata] at hcontext ⊢
  rw [← hcontext, ← hlive]

theorem Inv.archive_reopens (h : Inv decode scope ⟨d, l⟩) {t : Time} {d' : State}
    (harchive : l.archive t = .ok d') :
    openLedger decode d' scope = .ok { l with data := { l.data with appliedAt := some t } } := by
  rw [Ledger.archive] at harchive
  split at harchive
  · cases harchive
  next hready =>
    cases harchive
    simp only [Bool.or_eq_true, Bool.not_eq_true', not_or, Bool.not_eq_true, Bool.not_eq_false,
      Option.any_eq_true] at hready
    obtain ⟨⟨⟨hlive, -⟩, hfrom⟩, c, hc, huntil⟩ := hready
    have hdata : l.data = d := h.data hlive
    have hcommitted : d.committed decode = some c := by
      rw [← h.context hlive]
      exact hc
    rw [hdata] at hfrom
    have hopens := (h.disk.apply hcommitted hfrom huntil).opens
    have hsame : ({ d with appliedAt := some t } : State).committed decode = l.context :=
      hcommitted.trans hc.symm
    rw [hsame] at hopens
    rw [hdata, hopens, ← hlive]

/-- The ledger of the process refuses every call and no verdict of it is valid. -/
structure Dead (decode : List UInt8 → Except String Context) (u : System) : Prop where
  refuses : ∀ op, ∃ err, u.step decode (.call op) = some (.error err, u)
  never_valid : ∀ l, u.ledger = some l → ∀ revision start stop runID generation,
    l.evaluate revision start stop ≠ .valid runID generation

theorem dead_of_failed {u : System} (hl : u.ledger = some l) (hfailed : l.failed = true) :
    Dead decode u := by
  constructor
  · intro op
    obtain ⟨err, hresult, hstate⟩ : ∃ err, (op.prog decode ⟨u.disk, l⟩).result = .error err ∧
        (op.prog decode ⟨u.disk, l⟩).state = ⟨u.disk, l⟩ := call_failed op hfailed
    refine ⟨err, ?_⟩
    rw [System.step, hl, Option.map_some]
    simp only [hresult, hstate]
    rw [← hl]
  · intro l' hl' revision start stop runID generation hvalid
    rw [hl] at hl'
    cases hl'
    rw [Ledger.evaluate, if_pos hfailed] at hvalid
    cases hvalid

theorem step_call_eq {u v : System} {op : Op} {res : Except String Unit} (hl : u.ledger = some l) :
    u.step decode (.call op) = some (res, v) ↔
      (op.prog decode ⟨u.disk, l⟩).result = res ∧
        ⟨(op.prog decode ⟨u.disk, l⟩).state.disk, some (op.prog decode ⟨u.disk, l⟩).state.ledger⟩ =
          v := by
  rw [System.step, hl, Option.map_some, Option.some.injEq, Prod.mk.injEq]

/-- For every decoder, scope and run from Initialize to `u`, with any calls, faults,
    crashes and re-opens: the file opens again, to a ledger that answers as the live one
    does; what Archive writes at an accepted time opens likewise, with only the applied
    time replaced; and a call that returns an error has changed nothing, or its `persist`
    failed: then the ledger refuses every later call and is never valid, and the file
    opens to what it held before the call or to what the call writes when it succeeds. -/
theorem file_reopens {u₀ u : System} {as : List Action} (hinit : System.init scope = .ok u₀)
    (hrun : Run (System.Steps decode) u₀ as u) :
    (∃ r, openLedger decode u.disk scope = .ok r ∧ r.failed = false ∧
      ∀ l, u.ledger = some l → l.failed = false → SameAnswers l r) ∧
    (∀ l t d, u.ledger = some l → l.archive t = .ok d →
      ∃ r, openLedger decode d scope = .ok r ∧
        SameAnswers { l with data := { l.data with appliedAt := some t } } r) ∧
    (∀ l op err v, u.ledger = some l → l.failed = false →
      u.step decode (.call op) = some (.error err, v) →
      v = u ∨ op.fault ≠ .none ∧ Dead decode v ∧
        ∃ w r, u.step decode (.call op.faultless) = some (.ok (), w) ∧
          openLedger decode v.disk scope = .ok r ∧
          (openLedger decode u.disk scope = .ok r ∨ openLedger decode w.disk scope = .ok r)) := by
  have hI := inv_of_run hrun (inv_init hinit).1
  refine ⟨⟨_, hI.disk.opens, rfl, ?_⟩, ?_, ?_⟩
  · intro l hl hlive
    rw [← (hI.ledger l hl).ledger_eq hlive]
    exact .refl l
  · intro l t d hl harchive
    exact ⟨_, (hI.ledger l hl).archive_reopens harchive, .refl _⟩
  · intro l op err v hl hlive hstep
    obtain ⟨hresult, hv⟩ := (step_call_eq hl).mp hstep
    have hcall : Unacknowledged decode op ⟨u.disk, l⟩ (op.prog decode ⟨u.disk, l⟩).state :=
      (call_triple op hlive).of_error rfl hresult
    rcases hcall with hsame | hfailed
    · left
      rw [← hv, hsame, ← hl]
    · right
      have hdead : Dead decode v := by
        subst hv
        exact dead_of_failed rfl hfailed.failed
      have hopens := (step_call hI hstep).1.disk.opens
      refine ⟨hfailed.fault, hdead, _, _, (step_call_eq hl).mpr ⟨hfailed.accepted, rfl⟩, hopens, ?_⟩
      subst hv
      rcases hfailed.disk with hold | hnew
      · left
        rw [← hopens]
        exact congrArg (openLedger decode · scope) hold.symm
      · right
        rw [← hopens]
        exact congrArg (openLedger decode · scope) hnew.symm

/-- A Commit, then an Apply whose directory sync fails after the rename: the ledger is
    dead, and the file opens to what it held before the Apply or after it. -/
theorem file_reopens_sync_failed :
    ∃ u₀ u v, System.init ⟨"gw", "clock"⟩ = .ok u₀ ∧
      Run (System.Steps sampleDecode) u₀ [.call (.commit ⟨[1]⟩ { instant := 5 } .none)] u ∧
      u.step sampleDecode (.call (.apply { instant := 6 } (.afterRename "sync"))) =
        some (.error "run ledger persistence: sync", v) ∧
      v ≠ u ∧ Dead sampleDecode v ∧
      ∃ w r, u.step sampleDecode (.call (.apply { instant := 6 } .none)) = some (.ok (), w) ∧
        openLedger sampleDecode v.disk ⟨"gw", "clock"⟩ = .ok r ∧
        (openLedger sampleDecode u.disk ⟨"gw", "clock"⟩ = .ok r ∨
          openLedger sampleDecode w.disk ⟨"gw", "clock"⟩ = .ok r) := by
  obtain ⟨u₀, u, v, l, hinit, hu, hl, hlive, hstep, hne⟩ :
      ∃ u₀ u v l, System.init ⟨"gw", "clock"⟩ = .ok u₀ ∧
        Run (System.Steps sampleDecode) u₀ [.call (.commit ⟨[1]⟩ { instant := 5 } .none)] u ∧
        u.ledger = some l ∧ l.failed = false ∧
        u.step sampleDecode (.call (.apply { instant := 6 } (.afterRename "sync"))) =
          some (.error "run ledger persistence: sync", v) ∧
        (v.ledger.map Ledger.failed ≠ u.ledger.map Ledger.failed) :=
    ⟨_, _, _, _, rfl, .single ⟨_, rfl⟩, rfl, rfl, rfl, by decide⟩
  have hvu : v ≠ u := fun h => hne (congrArg (fun x => x.ledger.map Ledger.failed) h)
  obtain ⟨-, -, hfails⟩ := file_reopens hinit hu
  rcases hfails l _ _ v hl hlive hstep with hsame | ⟨-, hdead, hdisk⟩
  · exact absurd hsame hvu
  · exact ⟨u₀, u, v, hinit, hu, hstep, hvu, hdead, hdisk⟩

end Reopen

end NexusGateway.RunContext
