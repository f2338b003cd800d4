/-
The verdict of a ledger is the verdict of the contract oracle.

The oracle looks at evidence the ledger has already checked: the scope of
the context, its committed generation, the commit time beside the applied
one.  `Receipts` and the contract `verify` checks say how those checks end
on a ledger that was reached by acknowledged calls.
-/

import NexusGateway.RunContext.Reopen
import NexusGateway.TimeContract.Oracle

namespace NexusGateway.RunContext

open Lib Lib.Prog TimeContract

/-! ## The evidence the oracle is given -/

def Time.toUTC (t : Time) : Time := { t with offset := 0 }

@[simp] theorem utc_toUTC (t : Time) : utc (.time t.toUTC) = .ok t.instant := rfl

def State.invalidatedRuns (d : State) : List String :=
  (d.invalidRuns.entries.filter fun entry => entry.2).map Sigma.fst

theorem mem_invalidatedRuns {d : State} {r : String} :
    r ∈ d.invalidatedRuns ↔ d.invalidated r = true := by
  have hlookup : d.invalidated r = true ↔ d.invalidRuns.lookup r = some true := by
    rw [State.invalidated]
    cases d.invalidRuns.lookup r with
    | none | some b => simp
  rw [hlookup, State.invalidatedRuns, Lib.Dict.mem_map_filter_entries]
  constructor
  · rintro ⟨r, b, hentry, hb, rfl⟩
    obtain rfl : b = true := hb
    exact hentry
  · intro hentry
    exact ⟨r, true, hentry, rfl, rfl⟩

/-- A receiver that is authenticated and authorised, has its history, and knows what the
    ledger knows. -/
def Ledger.receiver (l : Ledger) : Receiver where
  authenticated := true
  issuerAuthorized := true
  historyRecovered := true
  committedContext := l.context.map Context.marshal
  committedAt := .time l.data.committedAt.toUTC
  appliedAt := l.data.appliedAt.map fun t => .time t.toUTC
  invalidatedRunIds := l.data.invalidatedRuns

def acquisitionOver {V : Type} (start stop : Time) (chunkCount : Int)
    (clockSamples : List (Option V)) (resetLatched : Bool) (previousClockValue : Option V) :
    Acquisition V where
  startedAt := .time start.toUTC
  endedAt := .time stop.toUTC
  chunkCount := chunkCount
  clockSamples := clockSamples
  resetLatched := resetLatched
  contextChanged := false
  previousClockValue := previousClockValue

/-- The status and the reason of a result; an empty reason is Python's `None`. -/
def Result.verdict : Result → Verdict
  | .absent => (.absent, none)
  | .unverified reason => (.unverified, some reason)
  | .invalid reason => (.invalid, some reason)
  | .valid _ _ => (.valid, none)

/-! ## A committed context in front of the oracle -/

section Context

variable {decode : List UInt8 → Except String Context} {scope : Scope} {c : Context}

structure Verified (scope : Scope) (c : Context) : Prop where
  gatewayID : c.gatewayID = scope.gatewayID
  clockID : c.clockID = scope.clockID
  validFrom : c.validFrom.offset = 0
  expiresAt : c.expiresAt.offset = 0

theorem verified_of_verify {e : Envelope} (h : verify decode scope e = .ok c) :
    Verified scope c := by
  obtain ⟨-, hadmitted⟩ := admitted_of_verify h
  exact ⟨hadmitted.gatewayID, hadmitted.clockID, hadmitted.offsets.2.1, hadmitted.offsets.2.2⟩

theorem sameContext_self (context : Members) : sameContext context context = true := by
  simp [sameContext]

/-- What the oracle reads of a marshalled context. -/
theorem item_marshal (c : Context) :
    item c.marshal "gatewayId" = .ok (.str c.gatewayID) ∧
      item c.marshal "clockId" = .ok (.str c.clockID) ∧
      item c.marshal "provisioningRevision" = .ok (.str c.provisioningRevision) ∧
      item c.marshal "runId" = .ok (.str c.runID) ∧
      item c.marshal "status" = .ok (.str c.status) ∧
      item c.marshal "validFrom" = .ok (.time c.validFrom) ∧
      item c.marshal "expiresAt" = .ok (.time c.expiresAt) :=
  ⟨rfl, rfl, rfl, rfl, rfl, rfl, rfl⟩

@[simp] theorem generation_marshal (c : Context) : generation c.marshal = .ok c.generation := rfl

theorem utc_of_offset {t : Time} (h : t.offset = 0) : utc (.time t) = .ok t.instant := by
  simp [utc, h]

end Context

/-! ## Agreement -/

section Agreement

variable {decode : List UInt8 → Except String Context} {scope : Scope}
variable {V : Type} [LinearOrder V] [Zero V]
variable {l : Ledger} {c : Context} {revision : String} {start stop : Time}
variable {acquisition : Acquisition V}

theorem receiptState_of_applied {quality : Quality × Option V} {applied : Time}
    (happlied : l.data.appliedAt = some applied) (hreceipts : Receipts l.data c)
    (hstart : acquisition.startedAt = .time start.toUTC)
    (hquality : acquisitionQuality acquisition = .ok quality) (hreset : quality.1 ≠ .reset) :
    receiptState c.marshal acquisition l.receiver = .ok
      (if start.before applied then .invalid "context_not_active_at_start"
        else if l.data.invalidated c.runID then .invalid "reset_detected"
        else Result.valid c.runID c.generation).verdict := by
  have horder : max l.data.committedAt.instant applied.instant = applied.instant := by
    have hafter := (hreceipts.applied applied happlied).1
    simp only [Time.before, decide_eq_false_iff_not, Int.not_lt] at hafter
    omega
  have hactive : start.before applied = true ↔ start.instant < applied.instant := by
    simp [Time.before]
  have hmarked : l.data.invalidated c.runID = true ↔
      Json.str c.runID ∈ l.receiver.invalidatedRunIds.map Json.str := by
    rw [List.mem_map_of_injective fun _ _ h => Json.str.inj h]
    exact mem_invalidatedRuns.symm
  have hat : l.receiver.appliedAt = some (.time applied.toUTC) := by
    rw [Ledger.receiver, happlied]
    rfl
  have hcommitted : utc l.receiver.committedAt = .ok l.data.committedAt.instant :=
    utc_toUTC l.data.committedAt
  simp only [receiptState, hat, hstart, hquality, hcommitted, utc_toUTC, item_marshal, ok_bind,
    horder, hactive, hmarked, hreset, false_or]
  split
  · rfl
  split
  · rfl
  · rfl

theorem committedState_eq (hc : l.context = some c) (hverified : Verified l.data.scope c)
    (hvalid : validateContext c.marshal = .ok ()) :
    committedState ⟨l.data.scope.gatewayID, revision⟩ l.data.scope.clockID c.marshal acquisition
      l.receiver = receiptState c.marshal acquisition l.receiver := by
  have hcommitted : l.receiver.committedContext = some c.marshal := by
    rw [Ledger.receiver, hc]
    rfl
  simp only [committedState, hcommitted, hvalid, item_marshal, ok_bind,
    hverified.gatewayID, hverified.clockID, beq_self_eq_true, Bool.and_self, require_true,
    generation_marshal, Nat.lt_irrefl, gt_iff_lt, sameContext_self, Bool.not_true,
    Bool.false_eq_true, and_false, if_false]

theorem evaluate_agrees {quality : Quality × Option V} (hlive : l.failed = false)
    (hverified : ∀ c, l.context = some c → Verified l.data.scope c ∧ Receipts l.data c)
    (hvalid : ∀ c, l.context = some c → validateContext c.marshal = .ok ())
    (hinterval : stop.before start = false)
    (hstart : acquisition.startedAt = .time start.toUTC)
    (hstop : acquisition.endedAt = .time stop.toUTC)
    (hchanged : acquisition.contextChanged = false)
    (hquality : acquisitionQuality acquisition = .ok quality) (hreset : quality.1 ≠ .reset) :
    contextState ⟨l.data.scope.gatewayID, revision⟩ l.data.scope.clockID
      (l.context.map Context.marshal) acquisition l.receiver =
        .ok (l.evaluate revision start stop).verdict := by
  rw [Ledger.evaluate, if_neg (by simp [hlive])]
  cases hc : l.context with
  | none => rfl
  | some c =>
    obtain ⟨hscope, hreceipts⟩ := hverified c hc
    have hauthenticated : l.receiver.authenticated = true := rfl
    have hauthorized : l.receiver.issuerAuthorized = true := rfl
    have hrecovered : l.receiver.historyRecovered = true := rfl
    have hfrom : start.before c.validFrom = true ↔ start.instant < c.validFrom.instant := by
      simp [Time.before]
    have huntil : (!stop.before c.expiresAt) = true ↔ c.expiresAt.instant ≤ stop.instant := by
      simp [Time.before]
    rw [Option.map_some]
    simp only [contextState, hvalid c hc, ok_bind, hstart, hstop, hchanged, hinterval,
      item_marshal, utc_of_offset hscope.validFrom, utc_of_offset hscope.expiresAt, utc_toUTC,
      hscope.gatewayID, hscope.clockID, Json.str.injEq, ne_eq, not_true_eq_false, or_self,
      if_false, hfrom, huntil, Bool.false_eq_true, hauthenticated, hauthorized, hrecovered,
      Bool.not_true]
    -- both sides now make the same checks in the same order, up to the receipts
    split
    · rfl
    split
    · rfl
    split
    · rfl
    split
    · rfl
    rw [committedState_eq hc hscope (hvalid c hc)]
    cases happlied : l.data.appliedAt with
    | none =>
      have hat : l.receiver.appliedAt = none := by
        rw [Ledger.receiver, happlied]
        rfl
      rw [receiptState, hat]
      rfl
    | some applied => exact receiptState_of_applied happlied hreceipts hstart hquality hreset

end Agreement

/-! ## Ledgers reached by acknowledged calls -/

section Runs

variable {decode : List UInt8 → Except String Context} {scope : Scope} {u v : System}

def System.Acknowledges (decode : List UInt8 → Except String Context) (u : System) (op : Op)
    (v : System) : Prop :=
  u.step decode (.call op) = some (.ok (), v)

structure Sound (decode : List UInt8 → Except String Context) (scope : Scope) (u : System) :
    Prop where
  inv : u.Inv decode scope
  live : ∀ l, u.ledger = some l → l.failed = false

theorem sound_init (h : System.init scope = .ok u) : Sound decode scope u := by
  refine ⟨(inv_init h).1, fun l hl => ?_⟩
  rw [System.init, initializeLedger] at h
  split at h
  · cases h
  · cases h
    cases hl
    rfl

theorem Sound.acknowledges {op : Op} (hu : Sound decode scope u)
    (h : u.Acknowledges decode op v) : Sound decode scope v := by
  refine ⟨(step_call hu.inv h).1, fun l' hl' => ?_⟩
  cases hl : u.ledger with
  | none => simp [System.Acknowledges, System.step, hl] at h
  | some l =>
    obtain ⟨hresult, rfl⟩ := (step_call_eq hl).mp h
    have hlive : (op.prog decode ⟨u.disk, l⟩).state.ledger.failed = false :=
      (call_triple op (hu.live l hl)).of_ok rfl hresult
    cases hl'
    exact hlive

theorem Sound.verified {l : Ledger} {c : Context} (hu : Sound decode scope u)
    (hl : u.ledger = some l) (hc : l.context = some c) :
    Verified l.data.scope c ∧ Receipts l.data c := by
  have hI := hu.inv.ledger l hl
  have hdata : l.data = u.disk := hI.data (hu.live l hl)
  have hcommitted : u.disk.committed decode = some c := (hI.context (hu.live l hl)).symm.trans hc
  rw [hdata]
  refine ⟨?_, hu.inv.disk.receipts hcommitted⟩
  rw [State.committed, Option.bind_eq_some_iff] at hcommitted
  obtain ⟨e, -, hverify⟩ := hcommitted
  cases hv : verify decode u.disk.scope e with
  | error err =>
    rw [hv] at hverify
    cases hverify
  | ok c' =>
    rw [hv] at hverify
    cases hverify
    exact verified_of_verify hv

/-- For every decoder, scope and run of acknowledged calls from Initialize, when the
    committed context, if there is one, passes the oracle's `validate_context`: for every
    revision and every interval, Evaluate's status and reason are those of the oracle's
    `context_state` for the committed context, over any acquisition of that interval
    without a change of context whose quality is not `reset`, and a receiver that knows
    what the ledger knows. -/
theorem evaluate_eq_contextState {V : Type} [LinearOrder V] [Zero V] {u₀ : System}
    {ops : List Op} {l : Ledger} (hinit : System.init scope = .ok u₀)
    (hrun : Run (System.Acknowledges decode) u₀ ops u) (hl : u.ledger = some l)
    (hvalid : ∀ c, l.context = some c → validateContext c.marshal = .ok ())
    (revision : String) (start stop : Time) (hinterval : stop.before start = false)
    {chunkCount : Int} {clockSamples : List (Option V)} {resetLatched : Bool}
    {previousClockValue : Option V} {quality : Quality × Option V}
    (hquality : acquisitionQuality (acquisitionOver start stop chunkCount clockSamples
      resetLatched previousClockValue) = .ok quality) (hreset : quality.1 ≠ .reset) :
    contextState ⟨l.data.scope.gatewayID, revision⟩ l.data.scope.clockID
        (l.context.map Context.marshal)
        (acquisitionOver start stop chunkCount clockSamples resetLatched previousClockValue)
        l.receiver =
      .ok (l.evaluate revision start stop).verdict := by
  have hsound : Sound decode scope u :=
    hrun.invariant (sound_init hinit) fun _ _ _ h hstep => h.acknowledges hstep
  exact evaluate_agrees (hsound.live l hl) (fun c hc => hsound.verified hl hc) hvalid hinterval
    rfl rfl rfl hquality hreset

/-- Commit and Apply of a context, and one acquisition in its lifetime: both say valid. -/
theorem evaluate_eq_contextState_applied :
    ∃ u₀ u l, System.init ⟨"gw", "clock"⟩ = .ok u₀ ∧
      Run (System.Acknowledges sampleDecode) u₀
        [.commit ⟨[1]⟩ { instant := 5 } .none, .apply { instant := 6, offset := 3600 } .none] u ∧
      u.ledger = some l ∧ l.context = some (sampleContext 1 "active") ∧
      contextState ⟨"gw", "rev"⟩ "clock" (some (sampleContext 1 "active").marshal)
        (acquisitionOver { instant := 10 } { instant := 11 } 1 [some (120 : Nat), some 120] false
          none) l.receiver = .ok (.valid, none) := by
  obtain ⟨u₀, u, l, hinit, hu, hl, hc, hdata, hresult⟩ :
      ∃ u₀ u l, System.init ⟨"gw", "clock"⟩ = .ok u₀ ∧
        Run (System.Acknowledges sampleDecode) u₀
          [.commit ⟨[1]⟩ { instant := 5 } .none, .apply { instant := 6, offset := 3600 } .none] u ∧
        u.ledger = some l ∧ l.context = some (sampleContext 1 "active") ∧
        l.data.scope = ⟨"gw", "clock"⟩ ∧
        l.evaluate "rev" { instant := 10 } { instant := 11 } = .valid "r" 1 :=
    ⟨_, _, _, rfl, .cons rfl (.single rfl), rfl, rfl, rfl, rfl⟩
  have hagree := evaluate_eq_contextState hinit hu hl (fun c h => by
    rw [hc] at h
    cases h
    decide) "rev" { instant := 10 } { instant := 11 } rfl
    (show acquisitionQuality (acquisitionOver { instant := 10 } { instant := 11 } 1
      [some (120 : Nat), some 120] false none) = .ok (.stableUnfenced, some 120) from rfl)
    (by decide)
  rw [hc, hdata, hresult] at hagree
  exact ⟨u₀, u, l, hinit, hu, hl, hc, hagree⟩

end Runs

end NexusGateway.RunContext
