/-
Open admission implies one coherent applied snapshot.

The proof outline of the transaction is the list of runtime assertions
`Sound`, `Closed`, `Prepared S`, `Serves S` between the operations of
`apply` and `rollback`.  While one of them runs no revision is claimed
applied (`Quiet`), so a sound runtime is all a coherent state needs;
between calls the state is `Idle`.
-/

import NexusGateway.ClockSync.Controller

namespace NexusGateway.ClockSync

open Lib Lib.Prog PointList Provisioning
open ResolverRuntime (call hold stop drain start verify resume Closed Prepared Serves Sound
  hold_triple stop_triple drain_triple start_triple verify_triple resume_triple)

namespace Controller

variable {E α : Type} (a : Adapters E) (stageClock : List UInt8 → Except String ClockSnapshot)

def Staged (S : ClockSnapshot) : Prop := ∃ data, stageClock data = .ok S

/-- An open gate serves one staged snapshot, and no other revision is claimed
    applied. -/
def Coherent (c : Controller E) : Prop :=
  a.admitting c.runtime.env = true → ∃ S, Staged stageClock S ∧ Serves S c.runtime ∧
    (c.status.appliedRevision = "" ∨ c.status.appliedRevision = S.revision)

structure Kept (c : Controller E) : Prop where
  desired : ∀ S, c.desired = some S → Staged stageClock S
  good : ∀ S, c.good = some S → Staged stageClock S

structure Quiet (initialized : Bool) (c : Controller E) : Prop where
  kept : Kept stageClock c
  applied : c.status.appliedRevision = ""
  initialized : c.initialized = initialized

structure Idle (c : Controller E) : Prop where
  kept : Kept stageClock c
  coherent : Coherent a stageClock c
  open_of_applied : c.status.appliedRevision ≠ "" → a.admitting c.runtime.env = true
  initialized_of_applied : c.status.appliedRevision ≠ "" → c.initialized = true

variable {a stageClock} {c : Controller E} {b : Bool}

theorem Quiet.runtime (h : Quiet stageClock b c) (r : ResolverRuntime E) :
    Quiet stageClock b { c with runtime := r } :=
  ⟨⟨h.kept.desired, h.kept.good⟩, h.applied, h.initialized⟩

theorem Quiet.coherent (h : Quiet stageClock b c) (hs : Sound a (Staged stageClock) c.runtime) :
    Coherent a stageClock c := by
  intro hopen
  obtain ⟨S, hS, hserves⟩ := hs hopen
  exact ⟨S, hS, hserves, Or.inl h.applied⟩

theorem Quiet.idle (h : Quiet stageClock b c) (hs : Sound a (Staged stageClock) c.runtime) :
    Idle a stageClock c :=
  ⟨h.kept, h.coherent hs, fun hne => absurd h.applied hne, fun hne => absurd h.applied hne⟩

theorem Coherent.sound (h : Coherent a stageClock c) :
    Sound a (Staged stageClock) c.runtime := by
  intro hopen
  obtain ⟨S, hS, hserves, -⟩ := h hopen
  exact ⟨S, hS, hserves⟩

/-! ## Rules -/

section Rules

variable {K I : Controller E → Prop} {J R : ResolverRuntime E → Prop}
  {Q : α → ResolverRuntime E → Prop} {G : String → ResolverRuntime E → Prop}

theorem onRuntime_triple {p : Prog (ResolverRuntime E) String α}
    (hK : ∀ c r, K c → K { c with runtime := r })
    (hI : ∀ c r, K c → J r → I { c with runtime := r }) (h : Triple J R p Q G) :
    Triple I (fun c => K c ∧ R c.runtime) (onRuntime p)
      (fun x c => K c ∧ Q x c.runtime) fun e c => K c ∧ G e c.runtime := by
  refine Triple.zoom fun c hc => ?_
  refine ((h.inv (J := fun r => I { c with runtime := r }) fun r hr => hI c r hc.1 hr)).conseq
    ?_ ?_ ?_
  · intro r hr
    exact hr ▸ hc.2
  · exact fun x r hr => ⟨hK c r hc.1, hr⟩
  · exact fun e r hr => ⟨hK c r hc.1, hr⟩

/-- The assertion does not depend on the environment beyond the gate, and makes the
    runtime sound. -/
structure Stable (a : Adapters E) (Staged : ClockSnapshot → Prop)
    (R : ResolverRuntime E → Prop) : Prop where
  sound : ∀ r, R r → Sound a Staged r
  env : ∀ r e, a.admitting e = a.admitting r.env → R r → R { r with env := e }

theorem stable_sound {Staged : ClockSnapshot → Prop} : Stable a Staged (Sound a Staged) :=
  ⟨fun _ h => h, fun _ _ he h => h.env he⟩

theorem stable_closed_and {Staged : ClockSnapshot → Prop}
    (hR : ∀ r e, R r → R { r with env := e }) :
    Stable a Staged (fun r => Closed a r ∧ R r) :=
  ⟨fun _ h => h.1.sound, fun r e he h => ⟨h.1.env he, hR r e h.2⟩⟩

theorem stable_closed {Staged : ClockSnapshot → Prop} : Stable a Staged (Closed a) :=
  ⟨fun _ h => h.sound, fun _ _ he h => h.env he⟩

variable (hR : Stable a (Staged stageClock) R)

theorem quiet_onRuntime {p : Prog (ResolverRuntime E) String α}
    (h : Triple (Sound a (Staged stageClock)) R p Q G) :
    Triple (Coherent a stageClock) (fun c => Quiet stageClock b c ∧ R c.runtime) (onRuntime p)
      (fun x c => Quiet stageClock b c ∧ Q x c.runtime)
      fun e c => Quiet stageClock b c ∧ G e c.runtime :=
  onRuntime_triple (fun _ r hq => hq.runtime r) (fun _ r hq hs => (hq.runtime r).coherent hs) h

include hR in
theorem quiet_update {fn : Status → Status} {F : String → Controller E → Prop}
    (hfn : ∀ s, (fn s).appliedRevision = s.appliedRevision) :
    Triple (Coherent a stageClock) (fun c => Quiet stageClock b c ∧ R c.runtime) (update fn)
      (fun _ c => Quiet stageClock b c ∧ R c.runtime) F := by
  refine Triple.modify fun c hc => ?_
  have hq : Quiet stageClock b { c with status := fn c.status } :=
    ⟨⟨hc.1.kept.desired, hc.1.kept.good⟩, (hfn c.status).trans hc.1.applied, hc.1.initialized⟩
  exact ⟨hq.coherent (hR.sound _ hc.2), hq, hc.2⟩

include hR in
theorem quiet_phase {p : Phase} {F : String → Controller E → Prop} :
    Triple (Coherent a stageClock) (fun c => Quiet stageClock b c ∧ R c.runtime) (phase p)
      (fun _ c => Quiet stageClock b c ∧ R c.runtime) F :=
  quiet_update hR fun _ => rfl

include hR in
theorem quiet_call {x : Call E α} (hx : x.Keeps a.admitting) :
    Triple (Coherent a stageClock) (fun c => Quiet stageClock b c ∧ R c.runtime)
      (onRuntime (call x)) (fun _ c => Quiet stageClock b c ∧ R c.runtime)
      fun _ c => Quiet stageClock b c ∧ R c.runtime := by
  refine quiet_onRuntime (Q := fun _ => R) (G := fun _ => R) (Triple.act fun r hr => ?_)
  have hr' := hR.env r _ (hx r.env) hr
  refine ⟨hR.sound _ hr', ?_⟩
  cases (x r.env).1 with
  | ok _ | error _ => exact hr'

include hR in
theorem step_triple {p : Phase} {fn : Prog (Controller E) String Unit}
    {Q : Controller E → Prop}
    (h : Triple (Coherent a stageClock) (fun c => Quiet stageClock b c ∧ R c.runtime) fn
      (fun _ => Q) fun _ c => Quiet stageClock b c ∧ Sound a (Staged stageClock) c.runtime) :
    Triple (Coherent a stageClock) (fun c => Quiet stageClock b c ∧ R c.runtime) (step a p fn)
      (fun _ => Q) fun _ c => Quiet stageClock b c ∧ Sound a (Staged stageClock) c.runtime := by
  refine (quiet_phase hR).bind fun _ => ?_
  refine Triple.recover (Triple.bind ?_ fun _ => h) fun _ => Triple.fail fun _ hc => hc
  refine (quiet_call hR a.ctxErr_keeps).post_error ?_
  exact fun _ c hc => ⟨hc.1, hR.sound _ hc.2⟩

include hR in
theorem step_onRuntime {p : Phase} {op : Prog (ResolverRuntime E) String Unit}
    {Q : ResolverRuntime E → Prop}
    (h : Triple (Sound a (Staged stageClock)) R op (fun _ => Q) fun _ => Closed a) :
    Triple (Coherent a stageClock) (fun c => Quiet stageClock b c ∧ R c.runtime)
      (step a p (onRuntime op)) (fun _ c => Quiet stageClock b c ∧ Q c.runtime)
      fun _ c => Quiet stageClock b c ∧ Sound a (Staged stageClock) c.runtime :=
  step_triple hR ((quiet_onRuntime h).post_error fun _ _ hc => ⟨hc.1, hc.2.sound⟩)

end Rules

/-! ## Apply and rollback -/

section Transaction

variable {S : ClockSnapshot}

theorem configure_triple : Triple (Coherent a stageClock)
    (fun c => Quiet stageClock b c ∧ Closed a c.runtime) (configure a S)
    (fun _ c => Quiet stageClock b c ∧ Closed a c.runtime ∧ Prepared S c.runtime)
    fun _ c => Quiet stageClock b c ∧ Closed a c.runtime :=
  (quiet_call stable_closed (a.prepare_keeps S)).bind fun _ =>
    quiet_onRuntime ResolverRuntime.configure_triple

theorem apply_triple (hS : Staged stageClock S) : Triple (Coherent a stageClock)
    (fun c => Idle a stageClock c ∧ c.initialized = true) (apply a S)
    (fun _ c => Quiet stageClock true c ∧ a.admitting c.runtime.env = true ∧ Serves S c.runtime)
    fun _ c => Quiet stageClock true c ∧ Sound a (Staged stageClock) c.runtime := by
  refine Triple.bind (Q := fun _ c => Quiet stageClock true c ∧
    Sound a (Staged stageClock) c.runtime) ?_ fun _ => ?_
  · refine Triple.modify fun c hc => ?_
    have hq : Quiet stageClock true { c with status := { c.status with appliedRevision := "" } } :=
      ⟨⟨hc.1.kept.desired, hc.1.kept.good⟩, rfl, hc.2⟩
    exact ⟨hq.coherent hc.1.coherent.sound, hq, hc.1.coherent.sound⟩
  refine Triple.runAll_cons (step_onRuntime stable_sound (hold_triple.pre fun _ _ => trivial)) ?_
  refine Triple.runAll_cons (step_onRuntime stable_closed stop_triple) ?_
  refine Triple.runAll_cons (step_onRuntime stable_closed drain_triple) ?_
  refine Triple.runAll_cons (step_triple stable_closed (configure_triple.post_error
    fun _ _ hc => ⟨hc.1, hc.2.sound⟩)) ?_
  refine Triple.runAll_cons (step_onRuntime (stable_closed_and fun _ _ h => h.env)
    start_triple) ?_
  refine Triple.runAll_cons (step_onRuntime (stable_closed_and fun _ _ h => ⟨h.1.env, h.2⟩)
    verify_triple) ?_
  refine Triple.runAll_cons (step_onRuntime (stable_closed_and fun _ _ h => h.env)
    (resume_triple hS)) ?_
  exact Triple.runAll_nil fun _ hc => hc

def halted (c : Controller E) : Controller E :=
  { c with status := { c.status with phase := .halted, appliedRevision := "" } }

variable (stageClock) in
theorem rollbackFail_triple {K I : Controller E → Prop} {Q : Unit → Controller E → Prop}
    {err : String} (hK : ∀ c r, K c → K { c with runtime := r })
    (hI : ∀ c r, K c → Sound a (Staged stageClock) r → I { c with runtime := r })
    (hhalted : ∀ c, K c → Closed a c.runtime → I (halted c) ∧ K (halted c)) :
    Triple I K (rollbackFail a err) Q
      fun _ c => K c ∧ Closed a c.runtime ∧ c.status.appliedRevision = "" := by
  refine Triple.bind (Q := fun _ c => K c ∧ Closed a c.runtime) (Triple.attempt ?_) fun _ => ?_
  · exact (onRuntime_triple hK hI hold_triple).pre fun c hc => ⟨hc, trivial⟩
  refine Triple.bind (Q := fun _ c => K c ∧ Closed a c.runtime) (Triple.attempt ?_) fun _ => ?_
  · exact onRuntime_triple hK hI stop_triple
  refine Triple.bind (Q := fun _ c => K c ∧ Closed a c.runtime ∧ c.status.appliedRevision = "")
    (Triple.modify fun c hc => ?_) fun _ => Triple.fail fun _ hc => hc
  obtain ⟨hIc, hKc⟩ := hhalted c hc.1 hc.2
  exact ⟨hIc, hKc, hc.2, rfl⟩

theorem rollback_error : Triple (fun _ => True) (fun _ => True) (rollback a) (fun _ _ => True)
    fun _ c => Closed a c.runtime ∧ c.status.appliedRevision = "" := by
  have hfail : ∀ (p : Prog (Controller E) String Unit) P, Triple (fun _ => True) P
      (recover p (rollbackFail a)) (fun _ _ => True)
      fun _ c => Closed a c.runtime ∧ c.status.appliedRevision = "" := by
    intro p P
    refine Triple.recover Triple.top fun err => ?_
    refine (rollbackFail_triple (fun _ => .error "") ?_ ?_ ?_).post_error fun _ c hc => hc.2
    · exact fun _ _ _ => trivial
    · exact fun _ _ _ _ => trivial
    · exact fun _ _ _ => ⟨trivial, trivial⟩
  refine Triple.bind (Q := fun _ _ => True) (Triple.modify fun _ _ => ⟨trivial, trivial⟩)
    fun _ => ?_
  refine (hfail _ _).bind fun _ => Triple.get_bind fun c => ?_
  cases c.good with
  | none => exact Triple.modify fun _ _ => ⟨trivial, trivial⟩
  | some good =>
    refine (hfail _ _).bind fun _ => (hfail _ _).bind fun _ => ?_
    exact Triple.modify fun _ _ => ⟨trivial, trivial⟩

theorem rollback_triple : Triple (Coherent a stageClock)
    (fun c => Quiet stageClock true c ∧ Sound a (Staged stageClock) c.runtime) (rollback a)
    (fun _ => Idle a stageClock)
    fun _ c => Quiet stageClock true c ∧ Sound a (Staged stageClock) c.runtime := by
  have hfail : ∀ {Q : Unit → Controller E → Prop} (err : String), Triple (Coherent a stageClock)
      (fun c => Quiet stageClock true c ∧ Closed a c.runtime) (rollbackFail a err) Q
      fun _ c => Quiet stageClock true c ∧ Sound a (Staged stageClock) c.runtime := by
    intro Q err
    refine (rollbackFail_triple stageClock (K := Quiet stageClock true) ?_ ?_ ?_).conseq
      (fun _ hc => hc.1) (fun _ _ hc => hc) fun _ c hc => ⟨hc.1, hc.2.1.sound⟩
    · exact fun _ r hq => hq.runtime r
    · exact fun _ r hq hs => (hq.runtime r).coherent hs
    · intro c hq hclosed
      have hq' : Quiet stageClock true (halted c) :=
        ⟨⟨hq.kept.desired, hq.kept.good⟩, rfl, hq.initialized⟩
      exact ⟨hq'.coherent hclosed.sound, hq'⟩
  refine (quiet_phase stable_sound).bind fun _ => ?_
  refine Triple.bind (Q := fun _ c => Quiet stageClock true c ∧ Closed a c.runtime)
    (Triple.recover ?_ hfail) fun _ => Triple.get_bind fun c => ?_
  · refine Triple.runAll_cons (quiet_onRuntime (hold_triple.pre fun _ _ => trivial)) ?_
    refine Triple.runAll_cons (quiet_onRuntime stop_triple) ?_
    refine Triple.runAll_cons (quiet_onRuntime drain_triple) ?_
    exact Triple.runAll_nil fun _ hc => hc
  cases hgood : c.good with
  | none =>
    -- nothing to go back to: the gate stays closed
    refine ((quiet_phase stable_closed).conseq (fun _ hc => hc.2)
      (fun _ c hc => ?_) fun _ _ hc => hc)
    exact hc.1.idle hc.2.sound
  | some good =>
    -- `good` is staged by what held before the program read it
    refine Triple.pre (P := fun c' => Staged stageClock good ∧ Quiet stageClock true c' ∧
      Closed a c'.runtime) ?_ fun c' hc => ⟨hc.2.1.kept.good good (hc.1 ▸ hgood), hc.2⟩
    refine Triple.of_fact fun hstaged => ?_
    refine Triple.bind (Triple.recover configure_triple hfail) fun _ => ?_
    refine Triple.bind (Q := fun _ c => Quiet stageClock true c ∧
      a.admitting c.runtime.env = true ∧ Serves good c.runtime)
      (Triple.recover ?_ hfail) fun _ => Triple.modify fun c hc => ?_
    · refine Triple.runAll_cons (quiet_onRuntime start_triple) ?_
      refine Triple.runAll_cons (quiet_onRuntime verify_triple) ?_
      refine Triple.runAll_cons (quiet_onRuntime (resume_triple hstaged)) ?_
      exact Triple.runAll_nil fun _ hc => hc
    · have hcoherent : Coherent a stageClock { c with
          status := { c.status with
            phase := .retryPending
            appliedRevision := good.revision } } :=
        fun _ => ⟨good, hstaged, hc.2.2, Or.inr rfl⟩
      exact ⟨hcoherent, ⟨hc.1.kept.desired, hc.1.kept.good⟩, hcoherent, fun _ => hc.2.1,
        fun _ => hc.1.initialized⟩

end Transaction

/-! ## Sync -/

section Sync

def Ready (a : Adapters E) (stageClock : List UInt8 → Except String ClockSnapshot)
    (c : Controller E) : Prop :=
  Idle a stageClock c ∧ c.initialized = true

theorem Idle.update (h : Idle a stageClock c) (status : Status)
    (hs : status.appliedRevision = c.status.appliedRevision) :
    Idle a stageClock { c with status := status } := by
  refine ⟨⟨h.kept.desired, h.kept.good⟩, ?_, ?_, ?_⟩
  · intro hopen
    simp only [hs]
    exact h.coherent hopen
  · exact fun hne => h.open_of_applied (hs ▸ hne)
  · exact fun hne => h.initialized_of_applied (hs ▸ hne)

theorem Idle.env (h : Idle a stageClock c) {e : E}
    (he : a.admitting e = a.admitting c.runtime.env) :
    Idle a stageClock { c with runtime := { c.runtime with env := e } } := by
  refine ⟨⟨h.kept.desired, h.kept.good⟩, ?_, ?_, h.initialized_of_applied⟩
  · intro hopen
    obtain ⟨S, hS, hserves, happlied⟩ := h.coherent (he ▸ hopen)
    exact ⟨S, hS, hserves.env, happlied⟩
  · exact fun hne => he.trans (h.open_of_applied hne)

theorem recordError_triple {err : String} {Q : α → Controller E → Prop} :
    Triple (Coherent a stageClock) (Idle a stageClock) (recordError err) Q
      fun _ => Idle a stageClock := by
  refine Triple.bind (Q := fun _ => Idle a stageClock) (Triple.modify fun c hc => ?_)
    fun _ => Triple.fail fun _ hc => hc
  have hidle := hc.update { c.status with lastError := err } rfl
  exact ⟨hidle.coherent, hidle⟩

theorem ready_call {x : Call E α} (hx : x.Keeps a.admitting) :
    Triple (Coherent a stageClock) (Ready a stageClock) (onRuntime (call x))
      (fun _ => Ready a stageClock) fun _ => Idle a stageClock := by
  refine Triple.zoom fun c hc => Triple.act fun r hr => ?_
  have hidle : Idle a stageClock { c with runtime := { r with env := (x r.env).2 } } := by
    rw [hr]
    exact hc.1.env (hx c.runtime.env)
  refine ⟨hidle.coherent, ?_⟩
  cases (x r.env).1 with
  | ok _ => exact ⟨hidle, hc.2⟩
  | error _ => exact hidle

theorem initialHold_triple : Triple (Coherent a stageClock) (Idle a stageClock) (initialHold a)
    (fun _ => Ready a stageClock) fun _ => Idle a stageClock := by
  refine Triple.get_bind fun c => ?_
  cases hinit : c.initialized with
  | true => exact Triple.pure fun t ht => ⟨ht.2, ht.1 ▸ hinit⟩
  | false =>
    refine Triple.bind (Q := fun _ c => Quiet stageClock false c ∧ Closed a c.runtime)
      ?_ fun _ => ?_
    · refine Triple.recover ((step_onRuntime stable_sound
        (hold_triple.pre fun _ _ => trivial)).pre fun t ht => ?_) fun err => ?_
      · have hnone : t.initialized = false := ht.1 ▸ hinit
        refine ⟨⟨ht.2.kept, ?_, hnone⟩, ht.2.coherent.sound⟩
        by_contra hne
        rw [ht.2.initialized_of_applied hne] at hnone
        cases hnone
      · refine Triple.bind (Q := fun _ => Idle a stageClock) (Triple.modify fun c hc => ?_)
          fun _ => Triple.fail fun _ hc => hc
        have hidle := (hc.1.idle hc.2).update
          { c.status with phase := .halted, lastError := err } rfl
        exact ⟨hidle.coherent, hidle⟩
    · refine (quiet_phase stable_closed).bind fun _ => Triple.modify fun c hc => ?_
      have hq : Quiet stageClock true { c with initialized := true } :=
        ⟨⟨hc.1.kept.desired, hc.1.kept.good⟩, hc.1.applied, rfl⟩
      exact ⟨hq.coherent hc.2.sound, hq.idle hc.2.sound, rfl⟩

theorem stageFetched_triple {fetched : Option ClockSnapshot} :
    Triple (Coherent a stageClock) (Ready a stageClock) (stageFetched stageClock fetched)
      (fun _ => Ready a stageClock) fun _ => Idle a stageClock := by
  cases fetched with
  | none => exact Triple.pure fun _ hc => hc
  | some fetched =>
    simp only [stageFetched]
    cases hstage : stageClock fetched.raw with
    | error err => exact recordError_triple.pre fun _ hc => hc.1
    | ok snapshot =>
      refine Triple.bind (Q := fun _ => Ready a stageClock) ?_ fun _ => ?_
      · refine Triple.modify fun c hc => ?_
        have hkept : Kept stageClock { c with desired := some snapshot } := by
          refine ⟨fun S hS => ?_, hc.1.kept.good⟩
          cases hS
          exact ⟨fetched.raw, hstage⟩
        exact ⟨hc.1.coherent, { hc.1 with kept := hkept }, hc.2⟩
      · refine Triple.modify fun c hc => ?_
        have hidle := hc.1.update
          { c.status with desiredRevision := snapshot.revision } rfl
        exact ⟨hidle.coherent, hidle, hc.2⟩

theorem fetchDesired_triple : Triple (Coherent a stageClock) (Ready a stageClock)
    (fetchDesired a stageClock) (fun _ => Ready a stageClock) fun _ => Idle a stageClock := by
  refine Triple.get_bind fun c => ?_
  refine Triple.bind (Q := fun _ => Ready a stageClock)
    (Triple.recover ?_ fun _ => recordError_triple) fun _ => stageFetched_triple
  refine Triple.bind ((ready_call (a.fetch_keeps _)).pre fun _ hc => hc.2) fun fetched => ?_
  exact (ready_call a.ctxErr_keeps).bind fun _ => Triple.pure fun _ hc => hc

theorem applyDesired_triple {d : ClockSnapshot} (hd : Staged stageClock d) :
    Triple (Coherent a stageClock) (Ready a stageClock) (applyDesired a d)
      (fun _ => Idle a stageClock) fun _ => Idle a stageClock := by
  refine Triple.bind (Q := fun _ => Ready a stageClock) ?_ fun _ => ?_
  · refine Triple.modify fun c hc => ?_
    have hidle := hc.1.update { c.status with phase := .staged } rfl
    exact ⟨hidle.coherent, hidle, hc.2⟩
  refine Triple.bind (Q := fun r c => Quiet stageClock true c ∧
    Ends (fun _ c => a.admitting c.runtime.env = true ∧ Serves d c.runtime)
      (fun _ c => Sound a (Staged stageClock) c.runtime) r c)
    (Triple.attempt (apply_triple hd)) ?_
  intro r
  cases r with
  | ok _ =>
    refine Triple.bind (Q := fun _ c => Quiet stageClock true c ∧
      a.admitting c.runtime.env = true ∧ Serves d c.runtime) ?_ fun _ => ?_
    · refine Triple.modify fun c hc => ?_
      have hq : Quiet stageClock true { c with good := some d } := by
        refine ⟨⟨hc.1.kept.desired, fun S hS => ?_⟩, hc.1.applied, hc.1.initialized⟩
        cases hS
        exact hd
      exact ⟨hq.coherent fun _ => ⟨d, hd, hc.2.2⟩, hq, hc.2⟩
    · refine Triple.modify fun c hc => ?_
      exact ⟨fun _ => ⟨d, hd, hc.2.2, Or.inr rfl⟩, ⟨hc.1.kept.desired, hc.1.kept.good⟩,
        fun _ => ⟨d, hd, hc.2.2, Or.inr rfl⟩, fun _ => hc.2.1, fun _ => hc.1.initialized⟩
  | error err =>
    refine Triple.bind (Q := fun _ => Idle a stageClock) (Triple.attempt ?_)
      fun _ => recordError_triple
    exact rollback_triple.post_error fun _ _ hc => hc.1.idle hc.2

theorem sync_triple : Triple (Coherent a stageClock) (Idle a stageClock) (sync a stageClock)
    (fun _ => Idle a stageClock) fun _ => Idle a stageClock := by
  refine initialHold_triple.bind fun _ => fetchDesired_triple.bind fun _ => ?_
  refine Triple.get_bind fun c => ?_
  cases hdesired : c.desired with
  | none => exact recordError_triple.pre fun _ hc => hc.2.1
  | some d =>
    simp only []
    split
    · refine Triple.modify fun c hc => ?_
      have hidle := hc.2.1.update { c.status with lastError := "" } rfl
      exact ⟨hidle.coherent, hidle⟩
    · refine Triple.pre (P := fun c' => Staged stageClock d ∧ Ready a stageClock c') ?_
        fun c' hc => ⟨hc.2.1.kept.desired d (hc.1 ▸ hdesired), hc.2⟩
      exact Triple.of_fact applyDesired_triple

theorem restoreLastGood_triple {s : Option ClockSnapshot} :
    Triple (Coherent a stageClock) (Idle a stageClock) (restoreLastGood stageClock s)
      (fun _ => Idle a stageClock) fun _ => Idle a stageClock := by
  refine Triple.get_bind fun c => ?_
  split
  · exact Triple.fail fun _ hc => hc.2
  cases s with
  | none => exact Triple.pure fun _ hc => hc.2
  | some s =>
    simp only []
    cases hstage : stageClock s.raw with
    | error err => exact Triple.fail fun _ hc => hc.2
    | ok copy =>
      refine Triple.bind (Q := fun _ => Idle a stageClock) ?_ fun _ => ?_
      · refine Triple.modify fun c hc => ?_
        have hkept : Kept stageClock { c with good := some copy } := by
          refine ⟨hc.2.kept.desired, fun S hS => ?_⟩
          cases hS
          exact ⟨s.raw, hstage⟩
        exact ⟨hc.2.coherent, hkept, hc.2.coherent, hc.2.open_of_applied,
          hc.2.initialized_of_applied⟩
      · refine Triple.modify fun c hc => ?_
        have hidle := hc.update { c.status with lastGoodRevision := copy.revision } rfl
        exact ⟨hidle.coherent, hidle⟩

theorem history_triple (ops : List Op) : Triple (Coherent a stageClock) (Idle a stageClock)
    (history a stageClock ops) (fun _ => Idle a stageClock) fun _ => Idle a stageClock := by
  induction ops with
  | nil => exact Triple.pure fun _ hc => hc
  | cons op ops ih =>
    refine Triple.bind (Triple.attempt (Q := fun _ => Idle a stageClock) ?_) fun _ => ih
    cases op with
    | sync => exact sync_triple
    | restoreLastGood s => exact restoreLastGood_triple

end Sync

/-! ## The guarantee -/

/-- `New` over `NewResolverRuntime`. -/
def new (env : E) (resolver : SyncedResolver) : Controller E :=
  { runtime := { env := env, resolver := resolver } }

/-- For all adapters that keep their contracts, all stagings and all sequences of Sync
    and RestoreLastGood from a closed gate: in every state gone through, an open gate
    serves one staged snapshot and no other revision is claimed applied; after every
    call a claimed revision comes with an open gate; and every rollback that fails
    leaves the gate closed and nothing claimed. -/
theorem admission_coherent (a : Adapters E)
    (stageClock : List UInt8 → Except String ClockSnapshot) (env : E) (resolver : SyncedResolver)
    (hclosed : a.admitting env = false) (ops : List Op) :
    (∀ c ∈ new env resolver :: (history a stageClock ops (new env resolver)).trace,
      Coherent a stageClock c) ∧
    ((history a stageClock ops (new env resolver)).state.status.appliedRevision ≠ "" →
      a.admitting (history a stageClock ops (new env resolver)).state.runtime.env = true) ∧
    ∀ c err, (rollback a c).result = .error err →
      a.admitting (rollback a c).state.runtime.env = false ∧
        (rollback a c).state.status.appliedRevision = "" := by
  have hquiet : Quiet stageClock false (new env resolver) := ⟨⟨nofun, nofun⟩, rfl, rfl⟩
  have hidle : Idle a stageClock (new env resolver) := hquiet.idle (Closed.sound hclosed)
  have hrun : Triple (Coherent a stageClock) (Idle a stageClock) (history a stageClock ops)
      (fun _ => Idle a stageClock) fun _ => Idle a stageClock := history_triple ops
  refine ⟨fun c hc => ?_, (hrun.state hidle).open_of_applied,
    fun c err herr => rollback_error.of_error trivial herr⟩
  rcases List.mem_cons.mp hc with rfl | hc
  · exact hidle.coherent
  · exact hrun.trace hidle hc

/-- An environment that serves snapshots one after the other. -/
structure Script where
  served : List ClockSnapshot
  admitting : Bool := false
  configured : String := ""
  loaded : Option String := none

/-- Adapters over `Script`: all calls succeed, but the connector refuses the
    configuration of one revision. -/
def scriptAdapters (refused : String) : Adapters Script where
  admitting := Script.admitting
  loaded := Script.loaded
  ctxErr e := (.ok (), e)
  fetch _ e := (.ok e.served.head?, { e with served := e.served.tail })
  prepare _ e := (.ok (), e)
  gateHold e := (.ok (), { e with admitting := false })
  gateDrain e := (.ok (), e)
  gateResume e := (.ok (), { e with admitting := true })
  connectorStop e := (.ok (), { e with loaded := none })
  connectorConfigure cfg e :=
    (if cfg.revision = refused then .error "refused" else .ok (),
      { e with configured := cfg.revision })
  connectorStart e := (.ok (), { e with loaded := some e.configured })
  connectorRevision e := (e.loaded.elim (.error "not running") .ok, e)
  hold_closed _ := rfl
  resume_open _ := rfl
  ctxErr_keeps _ := rfl
  fetch_keeps _ _ := rfl
  prepare_keeps _ _ := rfl
  drain_keeps _ := rfl
  stop_keeps _ := rfl
  configure_keeps _ _ := rfl
  start_keeps _ := rfl
  revision_keeps _ := rfl
  revision_loaded e rev h := by
    cases hl : e.loaded with
    | some rev' =>
      rw [hl] at h
      exact congrArg some (Except.ok.inj h)
    | none =>
      rw [hl] at h
      cases h

def sampleSnapshot : ClockSnapshot :=
  { raw := []
    native := ⟨"r1", "bacnet", 1, [⟨"analogValue,1", "", "degC", false⟩], []⟩
    entries := [{ connectorID := "bacnet", localID := "analogValue,1", pointID := "p" }] }

/-- One Sync applies the snapshot and opens the gate. -/
theorem admission_coherent_sync :
    let o := history (scriptAdapters "r2") (fun _ => .ok sampleSnapshot) [.sync]
      (new { served := [sampleSnapshot] } SyncedResolver.new)
    o.state.status.appliedRevision = "r1" ∧ o.state.runtime.env.admitting = true ∧
      ∀ c ∈ o.trace, Coherent (scriptAdapters "r2") (fun _ => .ok sampleSnapshot) c := by
  intro o
  obtain ⟨hcoherent, hopen, -⟩ := admission_coherent (scriptAdapters "r2")
    (fun _ => .ok sampleSnapshot) { served := [sampleSnapshot] } SyncedResolver.new rfl [.sync]
  have happlied : o.state.status.appliedRevision = "r1" := rfl
  refine ⟨happlied, hopen ?_, fun c hc => hcoherent c (List.mem_cons_of_mem _ hc)⟩
  exact happlied ▸ by decide

end Controller

end NexusGateway.ClockSync
