/-
What the status says when a `Sync` has succeeded.

Between calls a claimed revision is the one of the last good snapshot, and
the phase is the one that came with the claim: active after an apply,
retry pending after a rollback.  `Sync` returns early when the claimed
revision is already the desired one, and then only clears the error; so a
server that goes back to the snapshot a rollback restored leaves the status
at retry pending.
-/

import NexusGateway.ClockSync.Admission
import NexusGateway.Provisioning.Revision

namespace NexusGateway.ClockSync

open Lib Lib.Prog PointList Provisioning
open ResolverRuntime (call hold stop drain start verify resume)

namespace Controller

variable {E α : Type} {a : Adapters E} {stageClock : List UInt8 → Except String ClockSnapshot}
  {c c₀ : Controller E}

/-! ## Fetched snapshots -/

def fetchAnswer (a : Adapters E) (c : Controller E) : Except String (Option ClockSnapshot) :=
  let answer := a.fetch ((c.desired.map ClockSnapshot.revision).getD "") c.runtime.env
  match answer.1 with
  | .error err => .error err
  | .ok fetched =>
    match (a.ctxErr answer.2).1 with
    | .error err => .error err
    | .ok () => .ok fetched

/-- The snapshot that a fetch from here brings and that staging accepts. -/
def acceptedNow (a : Adapters E) (stageClock : List UInt8 → Except String ClockSnapshot)
    (c : Controller E) : Option ClockSnapshot :=
  match fetchAnswer a c with
  | .ok (some fetched) => (stageClock fetched.raw).toOption
  | _ => none

def accepted (a : Adapters E) (stageClock : List UInt8 → Except String ClockSnapshot)
    (c : Controller E) : Op → Option ClockSnapshot
  | .restoreLastGood _ => none
  | .sync =>
    match (initialHold a c).result with
    | .error _ => none
    | .ok () => acceptedNow a stageClock (initialHold a c).state

def latest (a : Adapters E) (stageClock : List UInt8 → Except String ClockSnapshot) :
    Controller E → List Op → Option ClockSnapshot → Option ClockSnapshot
  | _, [], known => known
  | c, op :: ops, known =>
    latest a stageClock (op.prog a stageClock c).state ops
      ((accepted a stageClock c op).or known)

/-! ## Frames -/

structure Detached (K : Controller E → Prop) : Prop where
  runtime : ∀ c r, K c → K { c with runtime := r }
  phase : ∀ c p, K c → K { c with status := { c.status with phase := p } }

section Detached

variable {K : Controller E → Prop} (hK : Detached K)

include hK in
theorem Detached.onRuntime (p : Prog (ResolverRuntime E) String α) :
    Triple (fun _ => True) K (onRuntime p) (fun _ => K) fun _ => K := by
  apply Triple.zoom
  intro c hc
  apply Triple.top.conseq (fun _ _ => trivial)
  · intro _ r _
    exact hK.runtime c r hc
  · intro _ r _
    exact hK.runtime c r hc

include hK in
theorem Detached.setPhase {p : Phase} {F : String → Controller E → Prop} :
    Triple (fun _ => True) K (Controller.phase p) (fun _ => K) F := by
  apply Triple.modify
  intro c hc
  exact ⟨trivial, hK.phase c p hc⟩

include hK in
theorem Detached.step {p : Phase} {fn : Prog (Controller E) String Unit}
    (hfn : Triple (fun _ => True) K fn (fun _ => K) fun _ => K) :
    Triple (fun _ => True) K (step a p fn) (fun _ => K) fun _ => K := by
  apply hK.setPhase.bind
  intro _
  apply Triple.recover (G := fun _ => K)
  · exact (hK.onRuntime _).bind fun _ => hfn
  · intro _
    exact Triple.fail fun _ hc => hc

include hK in
theorem Detached.configure (S : ClockSnapshot) :
    Triple (fun _ => True) K (configure a S) (fun _ => K) fun _ => K :=
  (hK.onRuntime _).bind fun _ => hK.onRuntime _

omit hK in
theorem runAll_keeps {ps : List (Prog (Controller E) String Unit)}
    (hps : ∀ p ∈ ps, Triple (fun _ => True) K p (fun _ => K) fun _ => K) :
    Triple (fun _ => True) K (runAll ps) (fun _ => K) fun _ => K := by
  induction ps with
  | nil => exact Triple.runAll_nil fun _ hc => hc
  | cons p ps ih =>
    have hp := hps p List.mem_cons_self
    exact Triple.runAll_cons hp (ih fun q hq => hps q (List.mem_cons_of_mem p hq))

end Detached

structure Keeps (c₀ c : Controller E) : Prop where
  desired : c.desired = c₀.desired
  good : c.good = c₀.good
  initialized : c.initialized = c₀.initialized
  desiredRevision : c.status.desiredRevision = c₀.status.desiredRevision
  lastGoodRevision : c.status.lastGoodRevision = c₀.status.lastGoodRevision

def Unclaimed (c₀ c : Controller E) : Prop := Keeps c₀ c ∧ c.status.appliedRevision = ""

theorem detached_unclaimed : Detached (Unclaimed c₀) where
  runtime _ _ h := ⟨{ h.1 with }, h.2⟩
  phase _ _ h := ⟨{ h.1 with }, h.2⟩

theorem apply_unclaimed (S : ClockSnapshot) :
    Triple (fun _ => True) (Keeps c₀) (apply a S) (fun _ => Unclaimed c₀)
      fun _ => Unclaimed c₀ := by
  have hK : Detached (Unclaimed c₀) := detached_unclaimed
  apply Triple.bind (Q := fun _ => Unclaimed c₀)
  · apply Triple.modify
    intro c hc
    exact ⟨trivial, { hc with }, rfl⟩
  intro _
  apply runAll_keeps
  simp only [List.forall_mem_cons, List.not_mem_nil, false_imp_iff, forall_true_iff, and_true]
  exact ⟨hK.step (hK.onRuntime _), hK.step (hK.onRuntime _), hK.step (hK.onRuntime _),
    hK.step (hK.configure S), hK.step (hK.onRuntime _), hK.step (hK.onRuntime _),
    hK.step (hK.onRuntime _)⟩

def RolledBack (c₀ c : Controller E) : Prop :=
  Keeps c₀ c ∧ (c.status.appliedRevision = "" ∨ c.status.phase = .retryPending ∧
    ∃ good, c₀.good = some good ∧ c.status.appliedRevision = good.revision)

theorem Unclaimed.rolledBack (h : Unclaimed c₀ c) : RolledBack c₀ c := ⟨h.1, Or.inl h.2⟩

theorem rollback_rolledBack :
    Triple (fun _ => True) (Unclaimed c₀) (rollback a) (fun _ => RolledBack c₀)
      fun _ => RolledBack c₀ := by
  have hK : Detached (Unclaimed c₀) := detached_unclaimed
  have hfail : ∀ {Q : Unit → Controller E → Prop} (err : String),
      Triple (fun _ => True) (Unclaimed c₀) (rollbackFail a err) Q fun _ => RolledBack c₀ := by
    intro Q err
    apply Triple.bind (Q := fun _ => Unclaimed c₀) (Triple.attempt (hK.onRuntime _))
    intro _
    apply Triple.bind (Q := fun _ => Unclaimed c₀) (Triple.attempt (hK.onRuntime _))
    intro _
    apply Triple.bind (Q := fun _ => Unclaimed c₀)
    · apply Triple.modify
      intro c hc
      exact ⟨trivial, { hc.1 with }, rfl⟩
    · intro _
      exact Triple.fail fun _ hc => hc.rolledBack
  have hguard : ∀ {p : Prog (Controller E) String Unit},
      Triple (fun _ => True) (Unclaimed c₀) p (fun _ => Unclaimed c₀) (fun _ => Unclaimed c₀) →
      Triple (fun _ => True) (Unclaimed c₀) (recover p (rollbackFail a))
        (fun _ => Unclaimed c₀) fun _ => RolledBack c₀ :=
    fun hp => Triple.recover hp hfail
  apply hK.setPhase.bind
  intro _
  apply (hguard (runAll_keeps ?_)).bind
  · intro _
    apply Triple.get_bind
    intro c
    cases hgood : c.good with
    | none =>
      apply (hK.setPhase).conseq (fun _ hc => hc.2) (fun _ _ hc => hc.rolledBack)
      exact fun _ _ hc => hc
    | some good =>
      apply Triple.pre (P := fun c' => c₀.good = some good ∧ Unclaimed c₀ c')
      · apply Triple.of_fact
        intro hgood₀
        apply (hguard (hK.configure good)).bind
        intro _
        apply (hguard (runAll_keeps ?_)).bind
        · intro _
          apply Triple.modify
          intro c hc
          exact ⟨trivial, { hc.1 with }, Or.inr ⟨rfl, good, hgood₀, rfl⟩⟩
        · simp only [List.forall_mem_cons, List.not_mem_nil, false_imp_iff, forall_true_iff,
            and_true]
          exact ⟨hK.onRuntime _, hK.onRuntime _, hK.onRuntime _⟩
      · rintro c' ⟨rfl, hc⟩
        exact ⟨hc.1.good.symm.trans hgood, hc⟩
  · simp only [List.forall_mem_cons, List.not_mem_nil, false_imp_iff, forall_true_iff, and_true]
    exact ⟨hK.onRuntime _, hK.onRuntime _, hK.onRuntime _⟩

/-! ## Between calls -/

structure Claimed (c : Controller E) : Prop where
  initialized : c.initialized = true
  phase : c.status.phase = .active ∨ c.status.phase = .retryPending
  good : ∃ good, c.good = some good ∧ c.status.appliedRevision = good.revision

structure Settled (c : Controller E) : Prop where
  desired : c.status.desiredRevision = (c.desired.map ClockSnapshot.revision).getD ""
  desired_ne : ∀ d, c.desired = some d → d.revision ≠ ""
  lastGood : c.status.lastGoodRevision = (c.good.map ClockSnapshot.revision).getD ""
  claim : c.status.appliedRevision = "" ∨ Claimed c

theorem Settled.recorded (h : Settled c) (err : String) :
    Settled { c with status := { c.status with lastError := err } } where
  desired := h.desired
  desired_ne := h.desired_ne
  lastGood := h.lastGood
  claim := h.claim.imp id fun hc => { hc with }

theorem Settled.runtime (h : Settled c) (r : ResolverRuntime E) :
    Settled { c with runtime := r } where
  desired := h.desired
  desired_ne := h.desired_ne
  lastGood := h.lastGood
  claim := h.claim.imp id fun hc => { hc with }

theorem Settled.of_keeps (h : Settled c₀) (hkeeps : Keeps c₀ c)
    (hclaim : c.status.appliedRevision = "" ∨ Claimed c) : Settled c where
  desired := by rw [hkeeps.desiredRevision, hkeeps.desired, h.desired]
  desired_ne := hkeeps.desired ▸ h.desired_ne
  lastGood := by rw [hkeeps.lastGoodRevision, hkeeps.good, h.lastGood]
  claim := hclaim

structure Passed (c c' : Controller E) : Prop where
  settled : Settled c'
  desired : c'.desired = c.desired
  unclaimed : c.status.appliedRevision = "" → c'.status.appliedRevision = ""
  same : c.status.appliedRevision ≠ "" → c' = c

theorem initialHold_passed (hs : Settled c) :
    Triple (fun _ => True) (· = c) (initialHold a)
      (fun _ c' => Passed c c' ∧ c'.initialized = true) fun _ => Passed c := by
  have hK : Detached (Unclaimed c) := detached_unclaimed
  apply Triple.get_bind_eq
  cases hinit : c.initialized with
  | true =>
    apply Triple.pure
    rintro c' rfl
    exact ⟨⟨hs, rfl, id, fun _ => rfl⟩, hinit⟩
  | false =>
    have hnone : c.status.appliedRevision = "" := by
      rcases hs.claim with hnone | hclaim
      · exact hnone
      · exact absurd hclaim.initialized (by simp [hinit])
    have hpassed : ∀ {c' : Controller E}, Unclaimed c c' → Passed c c' := by
      intro c' hc'
      exact ⟨hs.of_keeps hc'.1 (Or.inl hc'.2), hc'.1.desired, fun _ => hc'.2,
        fun hne => absurd hnone hne⟩
    apply Triple.bind (Q := fun _ => Unclaimed c)
    · apply Triple.recover (G := fun _ => Unclaimed c)
      · apply (hK.step (hK.onRuntime _)).pre
        rintro c' rfl
        exact ⟨⟨rfl, rfl, rfl, rfl, rfl⟩, hnone⟩
      · intro err
        apply Triple.bind (Q := fun _ => Unclaimed c)
        · apply Triple.modify
          intro c' hc'
          exact ⟨trivial, { hc'.1 with }, hc'.2⟩
        · intro _
          exact Triple.fail fun _ hc' => hpassed hc'
    · intro _
      apply hK.setPhase.bind
      intro _
      apply Triple.modify
      intro c' hc'
      have hsettled : Settled c' := (hpassed hc').settled
      refine ⟨trivial, ⟨{ hsettled with claim := Or.inl hc'.2 }, hc'.1.desired, fun _ => hc'.2,
        fun hne => absurd hnone hne⟩, rfl⟩

structure Fetched (a : Adapters E) (stageClock : List UInt8 → Except String ClockSnapshot)
    (c c' : Controller E) : Prop where
  settled : Settled c'
  desired : c'.desired = (acceptedNow a stageClock c).or c.desired
  initialized : c'.initialized = c.initialized
  phase : c'.status.phase = c.status.phase
  applied : c'.status.appliedRevision = c.status.appliedRevision

def called (c : Controller E) (x : Call E α) : Controller E :=
  { c with runtime := { c.runtime with env := (x c.runtime.env).2 } }

theorem onRuntime_call (x : Call E α) :
    Triple (fun _ => True) (· = c) (onRuntime (call x))
      (fun v c' => (x c.runtime.env).1 = .ok v ∧ c' = called c x)
      fun err c' => (x c.runtime.env).1 = .error err ∧ c' = called c x := by
  intro s hs
  subst hs
  refine ⟨fun _ _ => trivial, ?_⟩
  show Ends _ _ (x s.runtime.env).1 (called s x)
  cases hx : (x s.runtime.env).1 with
  | ok v | error err => exact ⟨rfl, rfl⟩

theorem fetch_answer :
    Triple (fun _ => True) (· = c)
      (do
        let fetched ← onRuntime (call (a.fetch ((c.desired.map ClockSnapshot.revision).getD "")))
        onRuntime (call a.ctxErr)
        pure fetched)
      (fun fetched c' => fetchAnswer a c = .ok fetched ∧ ∃ r, c' = { c with runtime := r })
      fun err c' => fetchAnswer a c = .error err ∧ ∃ r, c' = { c with runtime := r } := by
  apply ((onRuntime_call _).post_error _).bind
  · intro fetched
    apply Triple.of_fact
    intro hfetch
    apply ((onRuntime_call _).post_error _).bind
    · rintro ⟨⟩
      apply Triple.pure
      rintro c' ⟨hctx, rfl⟩
      refine ⟨?_, _, rfl⟩
      simp only [fetchAnswer, hfetch]
      rw [show (a.ctxErr (a.fetch _ c.runtime.env).2).1 = .ok () from hctx]
    · rintro err c' ⟨hctx, rfl⟩
      refine ⟨?_, _, rfl⟩
      simp only [fetchAnswer, hfetch]
      rw [show (a.ctxErr (a.fetch _ c.runtime.env).2).1 = .error err from hctx]
  · rintro err c' ⟨hfetch, rfl⟩
    refine ⟨?_, _, rfl⟩
    simp only [fetchAnswer, hfetch]

theorem recordError_keeps {K : Controller E → Prop} {err : String} {Q : α → Controller E → Prop}
    (hK : ∀ c, K c → K { c with status := { c.status with lastError := err } }) :
    Triple (fun _ => True) K (recordError err) Q fun _ => K := by
  apply Triple.bind (Q := fun _ => K)
  · apply Triple.modify
    intro c hc
    exact ⟨trivial, hK c hc⟩
  · intro _
    exact Triple.fail fun _ hc => hc

theorem fetchDesired_fetched (hne : ∀ data S, stageClock data = .ok S → S.revision ≠ "")
    (hs : Settled c) :
    Triple (fun _ => True) (· = c) (fetchDesired a stageClock)
      (fun _ => Fetched a stageClock c) fun _ => Fetched a stageClock c := by
  have hrecorded : ∀ {err : String} {β : Type} {Q : β → Controller E → Prop},
      Triple (fun _ => True) (Fetched a stageClock c) (recordError err) Q
        fun _ => Fetched a stageClock c := by
    intro err β Q
    apply recordError_keeps
    intro c' hc'
    exact ⟨hc'.settled.recorded err, hc'.desired, hc'.initialized, hc'.phase, hc'.applied⟩
  -- nothing was accepted: only the runtime moved
  have hnothing : acceptedNow a stageClock c = none → ∀ r,
      Fetched a stageClock c { c with runtime := r } := by
    intro hnone r
    refine ⟨hs.runtime r, ?_, rfl, rfl, rfl⟩
    rw [hnone]
    rfl
  apply Triple.get_bind_eq
  apply Triple.bind (Q := fun fetched c' => fetchAnswer a c = .ok fetched ∧
    ∃ r, c' = { c with runtime := r })
  · apply Triple.recover fetch_answer
    intro err
    apply hrecorded.pre
    rintro c' ⟨hanswer, r, rfl⟩
    apply hnothing
    rw [acceptedNow, hanswer]
  · intro fetched
    apply Triple.of_fact
    intro hanswer
    cases fetched with
    | none =>
      apply Triple.pure
      rintro c' ⟨r, rfl⟩
      apply hnothing
      rw [acceptedNow, hanswer]
    | some fetched =>
      simp only [stageFetched]
      cases hstage : stageClock fetched.raw with
      | error err =>
        apply hrecorded.pre
        rintro c' ⟨r, rfl⟩
        apply hnothing
        rw [acceptedNow, hanswer]
        simp only [hstage, Except.toOption]
      | ok snapshot =>
        have haccepted : acceptedNow a stageClock c = some snapshot := by
          rw [acceptedNow, hanswer]
          simp only [hstage, Except.toOption]
        apply Triple.bind (Q := fun _ c' => ∃ r,
          c' = { c with runtime := r, desired := some snapshot })
        · apply Triple.modify
          rintro c' ⟨r, rfl⟩
          exact ⟨trivial, r, rfl⟩
        · intro _
          apply Triple.modify
          rintro c' ⟨r, rfl⟩
          refine ⟨trivial, ⟨rfl, ?_, hs.lastGood, ?_⟩, ?_, rfl, rfl, rfl⟩
          · rintro d hd
            cases hd
            exact hne _ _ hstage
          · exact hs.claim.imp id fun hc => { hc with }
          · rw [haccepted]
            rfl

/-! ## Sync -/

structure Reports (d : ClockSnapshot) (c : Controller E) : Prop where
  lastError : c.status.lastError = ""
  desired : c.status.desiredRevision = d.revision
  applied : c.status.appliedRevision = d.revision
  lastGood : c.status.lastGoodRevision = d.revision

theorem applyDesired_reports (hs : Settled c) (hinit : c.initialized = true) {d : ClockSnapshot}
    (hd : c.desired = some d) :
    Triple (fun _ => True) (· = c) (applyDesired a d)
      (fun _ c' => Settled c' ∧ c'.desired = c.desired ∧ Reports d c' ∧ c'.status.phase = .active)
      fun _ c' => Settled c' ∧ c'.desired = c.desired := by
  have hrevision : c.status.desiredRevision = d.revision := by
    rw [hs.desired, hd]
    rfl
  apply Triple.bind (Q := fun _ => Keeps c)
  · apply Triple.modify
    rintro c' rfl
    exact ⟨trivial, rfl, rfl, rfl, rfl, rfl⟩
  intro _
  apply Triple.bind (Q := fun _ => Unclaimed c) (Triple.attempt (apply_unclaimed d))
  intro result
  cases result with
  | ok _ =>
    apply Triple.bind (Q := fun _ c' => c'.good = some d ∧ c'.initialized = true ∧
      c'.desired = c.desired ∧ c'.status.desiredRevision = d.revision)
    · apply Triple.modify
      intro c' hc'
      exact ⟨trivial, rfl, hc'.1.initialized.trans hinit, hc'.1.desired,
        hc'.1.desiredRevision.trans hrevision⟩
    intro _
    apply Triple.modify
    rintro c' ⟨hgood, hinit', hdesired, hrevision'⟩
    refine ⟨trivial, ⟨?_, hdesired ▸ hs.desired_ne, ?_, Or.inr ⟨hinit', Or.inl rfl, d, hgood,
      rfl⟩⟩, hdesired, ⟨rfl, hrevision', rfl, rfl⟩, rfl⟩
    · show c'.status.desiredRevision = (c'.desired.map ClockSnapshot.revision).getD ""
      rw [hdesired, hd, hrevision']
      rfl
    · show d.revision = (c'.good.map ClockSnapshot.revision).getD ""
      rw [hgood]
      rfl
  | error err =>
    apply Triple.bind (Q := fun _ => RolledBack c) (Triple.attempt rollback_rolledBack)
    intro rolledBack
    apply recordError_keeps (K := RolledBack c) _ |>.post_error
    · rintro _ c' ⟨hkeeps, hclaim⟩
      refine ⟨hs.of_keeps hkeeps ?_, hkeeps.desired⟩
      rcases hclaim with hnone | ⟨hphase, good, hgood, happlied⟩
      · exact Or.inl hnone
      · exact Or.inr ⟨hkeeps.initialized.trans hinit, Or.inr hphase, good,
          hkeeps.good.trans hgood, happlied⟩
    · rintro c' ⟨hkeeps, hclaim⟩
      exact ⟨{ hkeeps with }, hclaim⟩

structure Succeeded (c : Controller E) (d : ClockSnapshot) (c' : Controller E) : Prop where
  reports : Reports d c'
  active_iff : c'.status.phase = .active ↔
    ¬ (c.status.phase = .retryPending ∧ c.status.appliedRevision = d.revision)

structure After (a : Adapters E) (stageClock : List UInt8 → Except String ClockSnapshot)
    (c : Controller E) (op : Op) (c' : Controller E) : Prop where
  settled : Settled c'
  desired : c'.desired = (accepted a stageClock c op).or c.desired

theorem accepted_of_error {err : String} (hr : (initialHold a c).result = .error err) :
    accepted a stageClock c .sync = none := by
  simp only [accepted, hr]

theorem accepted_of_ok (hr : (initialHold a c).result = .ok ()) :
    accepted a stageClock c .sync = acceptedNow a stageClock (initialHold a c).state := by
  simp only [accepted, hr]

theorem initialHold_run (hs : Settled c) :
    Triple (fun _ => True) (· = c) (initialHold a)
      (fun _ c₁ => Passed c c₁ ∧ c₁.initialized = true ∧
        accepted a stageClock c .sync = acceptedNow a stageClock c₁)
      fun _ => After a stageClock c .sync := by
  intro s hc
  subst hc
  refine ⟨fun _ _ => trivial, ?_⟩
  cases hr : (initialHold a s).result with
  | ok _ =>
    obtain ⟨hpassed, hinit⟩ := (initialHold_passed hs).of_ok rfl hr
    exact ⟨hpassed, hinit, accepted_of_ok hr⟩
  | error err =>
    have hpassed := (initialHold_passed hs).of_error rfl hr
    refine ⟨hpassed.settled, ?_⟩
    rw [hpassed.desired, accepted_of_error hr]
    rfl

theorem Fetched.succeeded {c₁ c₂ : Controller E} {d : ClockSnapshot}
    (hfetched : Fetched a stageClock c₁ c₂) (hpassed : Passed c c₁) (hdesired : c₂.desired = some d)
    (heq : c₂.status.appliedRevision = d.revision) :
    Succeeded c d { c₂ with status := { c₂.status with lastError := "" } } := by
  have hdne : d.revision ≠ "" := hfetched.settled.desired_ne d hdesired
  have happlied : c₁.status.appliedRevision = d.revision := hfetched.applied.symm.trans heq
  have hclaim : Claimed c₂ := by
    rcases hfetched.settled.claim with hnone | hclaim
    · exact absurd (heq.symm.trans hnone) hdne
    · exact hclaim
  have hsame : c₁ = c := by
    apply hpassed.same
    intro hnone
    exact hdne (happlied.symm.trans (hpassed.unclaimed hnone))
  obtain ⟨good, hgood, hrevision⟩ := hclaim.good
  refine ⟨⟨rfl, ?_, heq, ?_⟩, ?_⟩
  · show c₂.status.desiredRevision = d.revision
    rw [hfetched.settled.desired, hdesired]
    rfl
  · show c₂.status.lastGoodRevision = d.revision
    rw [hfetched.settled.lastGood, hgood, ← heq, hrevision]
    rfl
  · show c₂.status.phase = .active ↔ _
    have hphase : c₂.status.phase = c.status.phase := by rw [hfetched.phase, hsame]
    rw [← hsame, happlied, hsame, ← hphase]
    rcases hclaim.phase with hactive | hretry
    · simp [hactive]
    · simp [hretry]

theorem sync_after (hne : ∀ data S, stageClock data = .ok S → S.revision ≠ "")
    (hs : Settled c) :
    Triple (fun _ => True) (· = c) (sync a stageClock)
      (fun _ c' => After a stageClock c .sync c' ∧
        ∃ d, c'.desired = some d ∧ Succeeded c d c')
      fun _ => After a stageClock c .sync := by
  apply (initialHold_run hs).bind
  intro _
  apply Triple.of_forall
  rintro c₁ ⟨hpassed, hinit, haccepted⟩
  have hafter : ∀ {c' : Controller E}, Settled c' →
      c'.desired = (acceptedNow a stageClock c₁).or c₁.desired → After a stageClock c .sync c' := by
    intro c' hsettled hdesired
    exact ⟨hsettled, by rw [hdesired, haccepted, hpassed.desired]⟩
  apply ((fetchDesired_fetched hne hpassed.settled).post_error
    fun _ c' hc => hafter hc.settled hc.desired).bind
  intro _
  apply Triple.of_forall
  intro c₂ hfetched
  have hinit₂ : c₂.initialized = true := hfetched.initialized.trans hinit
  apply Triple.get_bind_eq
  cases hdesired : c₂.desired with
  | none =>
    apply (recordError_keeps (K := fun c' => Settled c' ∧ c'.desired = c₂.desired) _).conseq
    · rintro c' rfl
      exact ⟨hfetched.settled, rfl⟩
    · exact fun _ _ hc => hc
    · rintro _ c' ⟨hsettled, hsame⟩
      exact hafter hsettled (hsame.trans hfetched.desired)
    · exact fun c' hc => ⟨hc.1.recorded _, hc.2⟩
  | some d =>
    have hdne : d.revision ≠ "" := hfetched.settled.desired_ne d hdesired
    simp only []
    split
    next heq =>
      apply Triple.modify
      rintro c' rfl
      exact ⟨trivial, hafter (hfetched.settled.recorded "") hfetched.desired, d, hdesired,
        hfetched.succeeded hpassed hdesired heq⟩
    next hdiffers =>
      apply (applyDesired_reports hfetched.settled hinit₂ hdesired).post
      · rintro _ c' ⟨hsettled, hsame, hreports, hactive⟩
        refine ⟨hafter hsettled (hsame.trans hfetched.desired), d, hsame.trans hdesired,
          hreports, ?_⟩
        simp only [hactive, true_iff]
        rintro ⟨-, happlied⟩
        have hclaimed : c.status.appliedRevision ≠ "" := happlied ▸ hdne
        rw [← hpassed.same hclaimed, ← hfetched.applied] at happlied
        exact hdiffers happlied
      · rintro _ c' ⟨hsettled, hsame⟩
        exact hafter hsettled (hsame.trans hfetched.desired)

theorem sync_stage_congr (stageClock' : List UInt8 → Except String ClockSnapshot)
    (h : ∀ S, fetchAnswer a (initialHold a c).state = .ok (some S) →
      stageClock S.raw = stageClock' S.raw) :
    sync a stageClock c = sync a stageClock' c := by
  apply bind_apply_congr
  intro _ _
  apply bind_apply_congr_left
  set c₁ := (initialHold a c).state
  show (recover _ recordError >>= stageFetched stageClock) c₁ =
    (recover _ recordError >>= stageFetched stageClock') c₁
  apply bind_apply_congr
  intro fetched hfetched
  have hanswer : fetchAnswer a c₁ = .ok fetched := by
    have hrecover := Triple.recover (h := recordError) (F := fun _ _ => True)
      (Q := fun fetched _ => fetchAnswer a c₁ = .ok fetched) (fetch_answer.post
        (fun _ _ hc => hc.1) fun _ _ _ => trivial) fun err =>
          (recordError_keeps (K := fun _ => True) fun _ _ => trivial)
    exact hrecover.of_ok rfl hfetched
  cases fetched with
  | none => rfl
  | some S => simp only [stageFetched, h S hanswer]

theorem restoreLastGood_after (hs : Settled c) (s : Option ClockSnapshot) :
    Triple (fun _ => True) (· = c) (restoreLastGood stageClock s)
      (fun _ => After a stageClock c (.restoreLastGood s))
      fun _ => After a stageClock c (.restoreLastGood s) := by
  have hsame : ∀ c', c' = c → After a stageClock c (.restoreLastGood s) c' := by
    rintro c' rfl
    exact ⟨hs, rfl⟩
  apply Triple.get_bind_eq
  split
  next => exact Triple.fail hsame
  next hinit =>
    have hnone : c.status.appliedRevision = "" := by
      rcases hs.claim with hnone | hclaim
      · exact hnone
      · exact absurd hclaim.initialized hinit
    cases s with
    | none => exact Triple.pure hsame
    | some s =>
      simp only []
      cases hstage : stageClock s.raw with
      | error err => exact Triple.fail hsame
      | ok copy =>
        apply Triple.bind (Q := fun _ c' => c' = { c with good := some copy })
        · apply Triple.modify
          rintro c' rfl
          exact ⟨trivial, rfl⟩
        · intro _
          apply Triple.modify
          rintro c' rfl
          exact ⟨trivial, ⟨hs.desired, hs.desired_ne, rfl, Or.inl hnone⟩, rfl⟩

theorem op_after (hne : ∀ data S, stageClock data = .ok S → S.revision ≠ "") (hs : Settled c)
    (op : Op) : After a stageClock c op (op.prog a stageClock c).state := by
  cases op with
  | sync =>
    have hsync := (sync_after (a := a) hne hs).post_ok fun _ _ hc => hc.1
    exact hsync.state rfl
  | restoreLastGood s => exact (restoreLastGood_after hs s).state rfl

theorem history_nil : (history a stageClock [] c).state = c := rfl

theorem history_cons (op : Op) (ops : List Op) :
    (history a stageClock (op :: ops) c).state =
      (history a stageClock ops (op.prog a stageClock c).state).state :=
  bind_state_of_ok rfl

/-- Every sequence of calls: the desired snapshot is the most recently fetched one. -/
theorem history_settled (hne : ∀ data S, stageClock data = .ok S → S.revision ≠ "")
    (hs : Settled c) (ops : List Op) :
    Settled (history a stageClock ops c).state ∧
      (history a stageClock ops c).state.desired = latest a stageClock c ops c.desired := by
  induction ops generalizing c with
  | nil => exact ⟨hs, rfl⟩
  | cons op ops ih =>
    have hafter := op_after (a := a) hne hs op
    rw [history_cons, latest, ← hafter.desired]
    exact ih hafter.settled

theorem latest_append (ops : List Op) (op : Op) (known : Option ClockSnapshot) :
    latest a stageClock c (ops ++ [op]) known =
      (accepted a stageClock (history a stageClock ops c).state op).or
        (latest a stageClock c ops known) := by
  induction ops generalizing c known with
  | nil => rfl
  | cons head ops ih =>
    rw [List.cons_append, latest, ih, history_cons]
    rfl

theorem settled_new (env : E) (resolver : SyncedResolver) : Settled (new env resolver) where
  desired := rfl
  desired_ne _ hd := by cases hd
  lastGood := rfl
  claim := Or.inl rfl

end Controller

theorem stageClock_revision_ne {sha256 : List Char → String} {data : List UInt8} {scope : Scope}
    {S : ClockSnapshot} (h : stageClock sha256 data scope = .ok S) : S.revision ≠ "" := by
  rw [stageClock] at h
  obtain ⟨⟨native, entries⟩, hstage, h⟩ := bind_eq_ok.mp h
  obtain ⟨ms, rest, s, -, -, hrevision, hdocument⟩ := stageClockSnapshot_eq_ok hstage
  have hnative : native.revision = s.revision := stageDocument_revision hdocument
  rw [← Except.ok.inj h]
  show native.revision ≠ ""
  rw [hnative, hrevision, revisionOf]
  intro hempty
  have hlength := congrArg String.length hempty
  simp at hlength

namespace Controller

variable {E : Type}

/-- For all adapters, all sequences of Sync and RestoreLastGood and every Sync after
    them that returns nil: the error is cleared, the desired, applied and last good
    revisions are the one of the most recently fetched snapshot, and the phase is active
    unless the call found the phase at retry pending with that revision applied. -/
theorem sync_ok_status (a : Adapters E) (sha256 : List Char → String) (scope : Scope) (env : E)
    (resolver : SyncedResolver) (ops : List Op)
    (hok : (sync a (stageClock sha256 · scope)
      (history a (stageClock sha256 · scope) ops (new env resolver)).state).result = .ok ()) :
    let c := (history a (stageClock sha256 · scope) ops (new env resolver)).state
    let c' := (sync a (stageClock sha256 · scope) c).state
    ∃ d, latest a (stageClock sha256 · scope) (new env resolver) (ops ++ [.sync]) none = some d ∧
      Reports d c' ∧ (c'.status.phase = .active ↔
        ¬ (c.status.phase = .retryPending ∧ c.status.appliedRevision = d.revision)) := by
  intro c c'
  have hne : ∀ data S, stageClock sha256 data scope = .ok S → S.revision ≠ "" :=
    fun _ _ => stageClock_revision_ne
  obtain ⟨hsettled, hlatest⟩ := history_settled (a := a) hne (settled_new env resolver) ops
  obtain ⟨hafter, d, hd, hsucceeded⟩ := (sync_after hne hsettled).of_ok rfl hok
  refine ⟨d, ?_, hsucceeded.reports, hsucceeded.active_iff⟩
  have hnone : (new env resolver : Controller E).desired = none := rfl
  rw [latest_append, ← hnone, ← hlatest, ← hafter.desired]
  exact hd

/-! ## A server that goes back -/

def site (digest unit : String) : Lib.Json :=
  .obj [("schemaVersion", .str "clock-provisioning/1-draft"), ("gatewayId", .str "gw"),
    ("revision", .str ("\"sha256:" ++ digest ++ "\"")), ("generatedAt", .str ""),
    ("points", .arr [.obj [("pointId", .str "p"), ("protocol", .str "bacnet"),
      ("unit", .str unit), ("native", .obj [("protocol", .str "bacnet"), ("deviceId", .str "1"),
        ("objectType", .str "analogInput"), ("instanceNo", .str "7")])]]),
    ("clockSources", .arr []), ("clockBindings", .arr [])]

def siteSnapshot (digest unit : String) : ClockSnapshot :=
  { raw := Lib.Json.utf8 (Lib.Json.text false (site digest unit))
    native :=
      { revision := "\"sha256:" ++ digest ++ "\"", connectorID := "c", deviceID := 1
        points := [{ localID := "analogInput,7", deviceRef := "1", unit, writable := false }]
        clocks := [] }
    entries := [{ connectorID := "c", protocol := "bacnet", localID := "analogInput,7",
                  pointID := "p", unit, deviceRef := "1" }] }

def siteDigest (t : List Char) : String := if t = hashedText (site "a" "K") then "a" else "b"

theorem read_site (digest unit : String) :
    Lib.Json.read (Lib.Json.utf8 (Lib.Json.text false (site digest unit))) =
      some (site digest unit, []) := by
  apply Lib.Json.read_text
  simp [site]

theorem stage_siteA :
    stageClock siteDigest (siteSnapshot "a" "K").raw ⟨"gw", "c", 1⟩ =
      .ok (siteSnapshot "a" "K") := by
  rw [stageClock, stageClockSnapshot, siteSnapshot, read_site]
  decide +kernel

theorem stage_siteB :
    stageClock siteDigest (siteSnapshot "b" "C").raw ⟨"gw", "c", 1⟩ =
      .ok (siteSnapshot "b" "C") := by
  rw [stageClock, stageClockSnapshot, siteSnapshot, read_site]
  decide +kernel

def goingBack : Script :=
  { served := [siteSnapshot "a" "K", siteSnapshot "b" "C", siteSnapshot "a" "K"] }

def runningFirst (served : List ClockSnapshot) (status : Status) (desired : ClockSnapshot) :
    Controller Script :=
  { runtime :=
      { env := { served := served, admitting := true
                 configured := (siteSnapshot "a" "K").revision
                 loaded := some (siteSnapshot "a" "K").revision }
        resolver := SyncedResolver.new.update (siteSnapshot "a" "K").entries
        configuredRevision := (siteSnapshot "a" "K").revision
        verified := true
        lastRun :=
          { configured := some (siteSnapshot "a" "K").native, started := true
            observed := some (siteSnapshot "a" "K").revision } }
    status := status
    desired := some desired
    good := some (siteSnapshot "a" "K")
    initialized := true }

def appliedFirst : Status :=
  { phase := .active
    desiredRevision := (siteSnapshot "a" "K").revision
    appliedRevision := (siteSnapshot "a" "K").revision
    lastGoodRevision := (siteSnapshot "a" "K").revision }

def refusedSecond : Status :=
  { appliedFirst with
    phase := .retryPending
    desiredRevision := (siteSnapshot "b" "C").revision
    lastError := "clocksync configuring: refused" }

theorem sync_first :
    (sync (scriptAdapters "\"sha256:b\"") (stageClock siteDigest · ⟨"gw", "c", 1⟩)
      (new goingBack SyncedResolver.new)).state =
      runningFirst [siteSnapshot "b" "C", siteSnapshot "a" "K"] appliedFirst
        (siteSnapshot "a" "K") := by
  rw [sync_stage_congr (fun _ => .ok (siteSnapshot "a" "K"))]
  · rfl
  · intro S hS
    obtain rfl : siteSnapshot "a" "K" = S := Option.some.inj (Except.ok.inj hS)
    exact stage_siteA

theorem sync_second :
    (sync (scriptAdapters "\"sha256:b\"") (stageClock siteDigest · ⟨"gw", "c", 1⟩)
      (runningFirst [siteSnapshot "b" "C", siteSnapshot "a" "K"] appliedFirst
        (siteSnapshot "a" "K"))).state =
      runningFirst [siteSnapshot "a" "K"] refusedSecond (siteSnapshot "b" "C") := by
  rw [sync_stage_congr (fun _ => .ok (siteSnapshot "b" "C"))]
  · rfl
  · intro S hS
    obtain rfl : siteSnapshot "b" "C" = S := Option.some.inj (Except.ok.inj hS)
    exact stage_siteB

theorem sync_third :
    sync (scriptAdapters "\"sha256:b\"") (stageClock siteDigest · ⟨"gw", "c", 1⟩)
        (runningFirst [siteSnapshot "a" "K"] refusedSecond (siteSnapshot "b" "C")) =
      sync (scriptAdapters "\"sha256:b\"") (fun _ => .ok (siteSnapshot "a" "K"))
        (runningFirst [siteSnapshot "a" "K"] refusedSecond (siteSnapshot "b" "C")) := by
  apply sync_stage_congr
  intro S hS
  obtain rfl : siteSnapshot "a" "K" = S := Option.some.inj (Except.ok.inj hS)
  exact stage_siteA

/-- A call that finds the restored snapshot desired again returns nil, at retry pending. -/
theorem sync_ok_retryPending :
    let a := scriptAdapters "\"sha256:b\""
    let c := (history a (stageClock siteDigest · ⟨"gw", "c", 1⟩) [.sync, .sync]
      (new goingBack SyncedResolver.new)).state
    let o := sync a (stageClock siteDigest · ⟨"gw", "c", 1⟩) c
    o.result = .ok () ∧ o.state.status.phase = .retryPending := by
  have hc : (history (scriptAdapters "\"sha256:b\"") (stageClock siteDigest · ⟨"gw", "c", 1⟩)
      [.sync, .sync] (new goingBack SyncedResolver.new)).state =
      runningFirst [siteSnapshot "a" "K"] refusedSecond (siteSnapshot "b" "C") := by
    rw [history_cons, history_cons, Op.prog, sync_first, sync_second]
    rfl
  simp only [hc, sync_third]
  exact ⟨rfl, rfl⟩

/-- The first call applies its snapshot. -/
theorem sync_ok_status_first :
    let c : Controller Script := new goingBack SyncedResolver.new
    let o := sync (scriptAdapters "\"sha256:b\"") (stageClock siteDigest · ⟨"gw", "c", 1⟩) c
    c.status.phase ≠ .retryPending ∧ o.result = .ok () ∧ o.state.status.phase = .active := by
  have hok : (sync (scriptAdapters "\"sha256:b\"") (stageClock siteDigest · ⟨"gw", "c", 1⟩)
      (new goingBack SyncedResolver.new)).result = .ok () := by
    rw [sync_stage_congr (fun _ => .ok (siteSnapshot "a" "K"))]
    · rfl
    · intro S hS
      obtain rfl : siteSnapshot "a" "K" = S := Option.some.inj (Except.ok.inj hS)
      exact stage_siteA
  have hphase : (new goingBack SyncedResolver.new).status.phase ≠ .retryPending := by decide
  obtain ⟨d, -, -, hactive⟩ := sync_ok_status (scriptAdapters "\"sha256:b\"") siteDigest
    ⟨"gw", "c", 1⟩ goingBack SyncedResolver.new [] (by rw [history_nil, hok])
  rw [history_nil] at hactive
  exact ⟨hphase, hok, hactive.mpr fun hretry => hphase hretry.1⟩

end Controller

end NexusGateway.ClockSync
