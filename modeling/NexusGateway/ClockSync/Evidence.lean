/-
A frame that names a run carries evidence.

A frame as it is bound makes no claim about a run, whatever its event says
(`boundFrame_claimless`), and a classification makes one only with `Evidence`.
Every frame written with a claim is that of a first classification: the claim
is traced back along the run, through the receipts.
-/

import NexusGateway.ClockSync.Recovery

namespace NexusGateway.ClockSync

open Lib Lib.Prog Lib.Json PointList Provisioning StoreForward
open Normalizer (Event frameAttributes)
open RunContext (Time Context Ledger Result Fault Envelope)

/-! ## Claims -/

def Claims (frame : TelemetryFrame) : Prop :=
  attr frame.attributes "sim_run_status" = "valid" ∨
    (frame.attributes.lookup "sim_run_id").isSome ∨
    (frame.attributes.lookup "sim_context_generation").isSome

/-- What the claims of a frame rest on, in the state in which it is classified. -/
structure Evidence (c : Codec) (scope : Scope) (g : Gateway) (msg : Message)
    (frame : TelemetryFrame) where
  record : SessionRecord
  state : RunContext.State
  archive : Ledger
  context : Context
  start : Time
  stop : Time
  observed : Time
  live : Ledger
  current : Context
  known : g.process.records.lookup msg.session = some record
  /-- the session is verified: its receipt was written -/
  verified : record.verified = true
  receipt : msg.session ∈ g.history.receipts
  /-- an archive was written for it, and holds the context -/
  archived : g.disk.runContext.lookup msg.session = some (some state)
  opened : RunContext.openLedger c.decodeContext state
    { gatewayID := scope.gatewayID, clockID := record.runClockID } = .ok archive
  context_eq : archive.current = .ok context
  /-- it is valid over the poll interval, in which the frame was observed -/
  start_eq : c.parseTime msg.pollStartedAt = some start
  stop_eq : c.parseTime msg.pollEndedAt = some stop
  valid : archive.evaluate record.snapshot.revision start stop =
    .valid context.runID context.generation
  observed_eq : c.parseTime frame.timestamp = some observed
  inside : start.instant ≤ observed.instant ∧ observed.instant ≤ stop.instant
  /-- the run is the current one of the live ledger, and not invalidated there -/
  live_eq : g.process.run.map RunBinding.ledger = some live
  standing : live.invalidated context.runID = .ok false
  current_eq : live.current = .ok current
  same_run : current.runID = context.runID
  quality : attr frame.attributes "sim_time_quality" ≠ "reset"
  /-- the claims are those of the context -/
  run_id : frame.attributes.lookup "sim_run_id" = some context.runID
  generation : frame.attributes.lookup "sim_context_generation" =
    some (toString context.generation)

variable {c : Codec} {scope : Scope}

/-! ## Bound frames -/

theorem lookup_frameAttributes {evt : Event} {key : String} (hunit : key ≠ "unit")
    (hquality : key ≠ "quality") :
    (frameAttributes evt).lookup key = evt.attributes.lookup key := by
  unfold frameAttributes
  split_ifs
  · rw [AList.lookup_insert_ne hquality, AList.lookup_insert_ne hunit]
  · rw [AList.lookup_insert_ne hunit]
  · rw [AList.lookup_insert_ne hquality]
  · rfl

variable {frame : TelemetryFrame}

theorem boundFrame_eq_some {snapshot : ClockSnapshot} {evt : Event}
    (h : boundFrame c scope snapshot evt = some frame) :
    forgedClaims.any (fun key => (evt.attributes.lookup key).isSome) = false ∧
      (attr evt.attributes "sim_run_status" = "" ∨
        attr evt.attributes "sim_run_status" = "absent") ∧
      frame.attributes = frameAttributes evt := by
  unfold boundFrame at h
  split at h
  · cases h
  rename_i hchecked
  simp only [Bool.or_eq_true, not_or, Bool.not_eq_true, Bool.and_eq_true, decide_eq_true_eq,
    not_and, not_not] at hchecked
  obtain ⟨⟨-, hforged⟩, hstatus⟩ := hchecked
  refine ⟨hforged, ?_, ?_⟩
  · by_cases hempty : attr evt.attributes "sim_run_status" = ""
    · exact .inl hempty
    · exact .inr (hstatus hempty)
  split at h
  · cases h
  dsimp only at h
  split_ifs at h
  split at h
  · rename_i frame' hnormalized
    rw [← Option.some.inj h]
    simp only [Normalizer.normalize] at hnormalized
    split at hnormalized
    · cases hnormalized
    split at hnormalized
    · cases hnormalized
    · rw [← Normalizer.Outcome.ok.inj hnormalized]
  · cases h
  · cases h

theorem boundFrame_claimless {snapshot : ClockSnapshot} {evt : Event}
    (h : boundFrame c scope snapshot evt = some frame) : ¬ Claims frame := by
  obtain ⟨hforged, hstatus, hattributes⟩ := boundFrame_eq_some h
  simp only [forgedClaims, List.any_cons, List.any_nil, Bool.or_false, Bool.or_eq_false_iff]
    at hforged
  obtain ⟨hrun, -, hgeneration⟩ := hforged
  rintro (hvalid | hclaim | hclaim)
  · rw [attr, hattributes, lookup_frameAttributes (by decide) (by decide)] at hvalid
    rw [attr] at hstatus
    rw [hvalid] at hstatus
    rcases hstatus with hempty | habsent
    · exact absurd hempty (by decide)
    · exact absurd habsent (by decide)
  · rw [hattributes, lookup_frameAttributes (by decide) (by decide), hrun] at hclaim
    cases hclaim
  · rw [hattributes, lookup_frameAttributes (by decide) (by decide), hgeneration] at hclaim
    cases hclaim

/-! ## Classified frames -/

theorem lookup_stateVerdict {attributes : Dict String String} {result : Result} {key : String}
    (hstatus : key ≠ "sim_run_status") (hreason : key ≠ "sim_run_reason")
    (hrun : key ≠ "sim_run_id") (hgeneration : key ≠ "sim_context_generation") :
    (stateVerdict attributes result).lookup key = attributes.lookup key := by
  cases result <;>
    simp only [stateVerdict, Dict.lookup_insert_ite, Dict.lookup_erase_ite, hstatus, hreason, hrun,
      hgeneration, if_false]

theorem claims_stateVerdict {attributes : Dict String String} {result : Result}
    (hframe : frame.attributes = stateVerdict attributes result) (h : Claims frame) :
    ∃ runID generation, result = .valid runID generation ∧
      frame.attributes.lookup "sim_run_id" = some runID ∧
      frame.attributes.lookup "sim_context_generation" = some (toString generation) := by
  rw [Claims, attr, hframe] at h
  cases result with
  | absent | unverified reason | invalid reason => simp [stateVerdict] at h
  | valid runID generation =>
    refine ⟨runID, generation, rfl, ?_, ?_⟩
    · rw [hframe]
      simp [stateVerdict]
    · rw [hframe]
      simp [stateVerdict]

theorem verdict_eq_valid {archived : Result} {invalidated : Bool} {current context : Context}
    {runID : String} {generation : Nat}
    (h : verdict archived invalidated current context = .valid runID generation) :
    invalidated = false ∧ current.runID = context.runID ∧ archived = .valid runID generation := by
  unfold verdict at h
  split_ifs at h with hinvalidated hcurrent
  exact ⟨Bool.eq_false_of_not_eq_true hinvalidated, not_not.mp hcurrent, h⟩

theorem evaluate_eq_valid {l : Ledger} {context : Context} {revision runID : String}
    {start stop : Time} {generation : Nat} (hcontext : l.current = .ok context)
    (h : l.evaluate revision start stop = .valid runID generation) :
    runID = context.runID ∧ generation = context.generation := by
  unfold RunContext.Ledger.current at hcontext
  split_ifs at hcontext with hfailed
  cases hc : l.context with
  | none =>
    rw [hc] at hcontext
    cases hcontext
  | some current =>
    rw [hc] at hcontext
    unfold RunContext.Ledger.evaluate at h
    simp only [hfailed, Bool.false_eq_true, if_false, hc] at h
    cases happlied : l.data.appliedAt with
    | none =>
      simp only [happlied] at h
      split_ifs at h
    | some applied =>
      simp only [happlied] at h
      split_ifs at h
      rw [Result.valid.injEq] at h
      rw [← Except.ok.inj hcontext]
      exact ⟨h.1.symm, h.2.symm⟩

variable {msg : Message} {now : Time}

theorem pollInterval_eq_some {interval : Time × Time}
    (h : pollInterval c msg frame now = some interval) :
    c.parseTime msg.pollStartedAt = some interval.1 ∧
      c.parseTime msg.pollEndedAt = some interval.2 ∧
      ∃ observed, c.parseTime frame.timestamp = some observed ∧
        interval.1.instant ≤ observed.instant ∧ observed.instant ≤ interval.2.instant := by
  unfold pollInterval at h
  obtain ⟨start, hstart, h⟩ := Option.bind_eq_some_iff.mp h
  obtain ⟨stop, hstop, h⟩ := Option.bind_eq_some_iff.mp h
  obtain ⟨observed, hobserved, h⟩ := Option.bind_eq_some_iff.mp h
  split_ifs at h with houtside
  obtain rfl := Option.some.inj h
  simp only [Bool.or_eq_true, not_or, RunContext.Time.before, RunContext.Time.after,
    decide_eq_true_eq, not_lt] at houtside
  exact ⟨hstart, hstop, observed, hobserved, houtside.1.1.2, houtside.1.2⟩

theorem admittedFrame_eq_some {p : Process} {r : SessionRecord} {bound : Option TelemetryFrame}
    (h : Gateway.admittedFrame c scope p msg = some (r, bound)) :
    p.records.lookup msg.session = some r ∧ r.verified = true ∧
      ∃ evt, c.unmarshal msg.data = some evt ∧ bound = boundFrame c scope r.snapshot evt := by
  unfold Gateway.admittedFrame at h
  split at h
  · cases h
  · rename_i r' hr'
    split_ifs at h with hverified
    obtain ⟨evt, hevt, hpair⟩ := Option.map_eq_some_iff.mp h
    obtain ⟨rfl, rfl⟩ := Prod.mk.inj hpair
    rw [Bool.and_eq_true] at hverified
    exact ⟨hr', hverified.1, evt, hevt, rfl⟩

theorem attr_classified_quality (msg : Message) (frame : TelemetryFrame)
    (times : Time × Option Time) (result : Result) :
    attr (classified c msg frame times result).attributes "sim_time_quality" =
      attr frame.attributes "sim_time_quality" := by
  rw [attr, attr, classified, lookup_stateVerdict (by decide) (by decide) (by decide) (by decide)]
  cases times.2 with
  | none | some applied => simp

theorem Classification.evidence {exact : String → Prop} {g : Gateway}
    (k : Classification c scope g msg now) (hg : GatewayInv c scope exact g)
    (hclaims : Claims k.out) : Nonempty (Evidence c scope g msg k.out) := by
  obtain ⟨runID, generation, hresult, hrun, hgeneration⟩ := claims_stateVerdict rfl hclaims
  obtain ⟨hinvalidated, hsame, hevaluate⟩ := verdict_eq_valid hresult
  obtain ⟨rfl, rfl⟩ := evaluate_eq_valid k.archived hevaluate
  obtain ⟨hknown, hverified, -⟩ := admittedFrame_eq_some k.admitted
  obtain ⟨hstart, hstop, observed, hobserved, hinside⟩ := pollInterval_eq_some k.polled
  obtain ⟨state, hstate, hopened⟩ := Gateway.openArchive_eq_ok k.opened
  have hrecord := hg.process.records _ _ hknown
  -- a reset would have invalidated the run
  have hquality : attr k.frame.attributes "sim_time_quality" ≠ "reset" := by
    intro hreset
    rw [k.reset hreset] at hinvalidated
    cases hinvalidated
  obtain ⟨hstanding, hcurrent⟩ := k.live hquality
  rw [hinvalidated] at hstanding
  exact ⟨{
    record := k.record, state, archive := k.archive, context := k.context
    start := k.interval.1, stop := k.interval.2, observed, live := k.binding.ledger
    current := k.current, known := hknown, verified := hverified
    receipt := (hg.disk.written _).mpr (hrecord.receipt hverified)
    archived := by
      rw [← hrecord.session]
      exact hstate
    opened := hopened, context_eq := k.archived, start_eq := hstart, stop_eq := hstop
    valid := hevaluate, observed_eq := hobserved, inside := hinside
    live_eq := by
      rw [k.running]
      rfl
    standing := hstanding, current_eq := hcurrent, same_run := hsame
    quality := by
      rw [Classification.out, attr_classified_quality]
      exact hquality
    run_id := hrun, generation := hgeneration }⟩

/-! ## Runs -/

def Action.Delivers (a : Action) (msg : Message) : Prop :=
  ∃ now faults, a = .call (.process msg now faults) ∨
    ∃ after, a = .crashIn (.process msg now faults) after

theorem Action.Delivers.op_eq {a : Action} (h : a.Delivers msg) {op : Op}
    (made : a = .call op ∨ ∃ after, a = .crashIn op after) :
    ∃ now faults, op = .process msg now faults := by
  obtain ⟨now, faults, rfl | ⟨after, rfl⟩⟩ := h
  · rcases made with hmade | ⟨_, hmade⟩
    · exact ⟨now, faults, (Action.call.inj hmade).symm⟩
    · cases hmade
  · rcases made with hmade | ⟨_, hmade⟩
    · cases hmade
    · exact ⟨now, faults, (Action.crashIn.inj hmade).1.symm⟩

/-- The frame is that of the first classification of the message, in a step of the run from
    the start to `u`, and had evidence there. -/
def Justified (c : Codec) (scope : Scope) (ledger : RunContext.State) (as : List Action)
    (u : System) (msg : Message) (frame : TelemetryFrame) : Prop :=
  ∃ as₁ a as₂ t v p, as = as₁ ++ a :: as₂ ∧
    Run (System.Steps c scope) (System.init ledger) as₁ t ∧ t.Steps c scope a v ∧
    Run (System.Steps c scope) v as₂ u ∧ a.Delivers msg ∧ t.process = some p ∧
    t.disk.runFrames.lookup (c.digest msg.identity) = none ∧
    v.disk.runFrames.lookup (c.digest msg.identity) = some frame ∧
    Nonempty (Evidence c scope { disk := t.disk, process := p, history := t.history } msg frame)

theorem Justified.snoc {ledger : RunContext.State} {as : List Action} {u v : System} {a : Action}
    (h : Justified c scope ledger as u msg frame) (hs : u.Steps c scope a v) :
    Justified c scope ledger (as ++ [a]) v msg frame := by
  obtain ⟨as₁, b, as₂, t, w, p, rfl, hrun, hstep, hrest, hfacts⟩ := h
  refine ⟨as₁, b, as₂ ++ [a], t, w, p, ?_, hrun, hstep, hrest.snoc hs, hfacts⟩
  rw [List.append_assoc, List.cons_append]

/-- Every receipt and every frame written that makes a claim is justified. -/
structure EvidenceInv (c : Codec) (scope : Scope) (ledger : RunContext.State) (as : List Action)
    (u : System) : Prop where
  frames : ∀ digest frame, u.disk.runFrames.lookup digest = some frame → Claims frame →
    ∃ msg, c.digest msg.identity = digest ∧ Justified c scope ledger as u msg frame
  written : ∀ w ∈ u.history.written, Claims w.2 →
    ∃ msg, c.digest msg.identity = c.digest w.1.identity ∧
      Justified c scope ledger as u msg w.2

section Step

variable {ledger : RunContext.State} {as : List Action} {u v : System} {a : Action}

theorem EvidenceInv.receipt {p : Process} {g : Gateway} (h : EvidenceInv c scope ledger as u)
    (hrun : Run (System.Steps c scope) (System.init ledger) as u) (hs : u.Steps c scope a v)
    (hdelivers : a.Delivers msg) (hp : u.process = some p)
    (k : Classification c scope { disk := u.disk, process := p, history := u.history } msg now)
    (hdisk : v.disk = g.disk)
    (hframes : g.disk.runFrames = u.disk.runFrames.insert (c.digest msg.identity) k.out) :
    (Claims k.out → Justified c scope ledger (as ++ [a]) v msg k.out) ∧
    ∀ digest frame, v.disk.runFrames.lookup digest = some frame → Claims frame →
      ∃ msg, c.digest msg.identity = digest ∧
        Justified c scope ledger (as ++ [a]) v msg frame := by
  have hnew : Claims k.out → Justified c scope ledger (as ++ [a]) v msg k.out := by
    intro hclaims
    refine ⟨as, a, [], u, v, p, rfl, hrun, hs, .nil v, hdelivers, hp, k.fresh, ?_, ?_⟩
    · rw [hdisk, hframes, AList.lookup_insert]
    · exact k.evidence ((systemInv_of_run hrun).gateway p hp) hclaims
  refine ⟨hnew, fun digest frame hlookup hclaims => ?_⟩
  rw [hdisk, hframes, Dict.lookup_insert_ite] at hlookup
  split_ifs at hlookup with heq
  · obtain rfl := Option.some.inj hlookup
    exact ⟨msg, heq.symm, hnew hclaims⟩
  · obtain ⟨msg', hdigest, hjustified⟩ := h.frames digest frame hlookup hclaims
    exact ⟨msg', hdigest, hjustified.snoc hs⟩

theorem EvidenceInv.receipts (h : EvidenceInv c scope ledger as u) (hs : u.Steps c scope a v)
    (hframes : v.disk.runFrames = u.disk.runFrames) :
    ∀ digest frame, v.disk.runFrames.lookup digest = some frame → Claims frame →
      ∃ msg, c.digest msg.identity = digest ∧
        Justified c scope ledger (as ++ [a]) v msg frame := by
  intro digest frame hlookup hclaims
  rw [hframes] at hlookup
  obtain ⟨msg, hdigest, hjustified⟩ := h.frames digest frame hlookup hclaims
  exact ⟨msg, hdigest, hjustified.snoc hs⟩

theorem EvidenceInv.earlier (h : EvidenceInv c scope ledger as u) (hs : u.Steps c scope a v) :
    ∀ w ∈ u.history.written, Claims w.2 →
      ∃ msg, c.digest msg.identity = c.digest w.1.identity ∧
        Justified c scope ledger (as ++ [a]) v msg w.2 := by
  intro w hw hclaims
  obtain ⟨msg, hdigest, hjustified⟩ := h.written w hw hclaims
  exact ⟨msg, hdigest, hjustified.snoc hs⟩

theorem EvidenceInv.same (h : EvidenceInv c scope ledger as u) (hs : u.Steps c scope a v)
    (hframes : v.disk.runFrames = u.disk.runFrames)
    (hwritten : v.history.written = u.history.written) :
    EvidenceInv c scope ledger (as ++ [a]) v where
  frames := h.receipts hs hframes
  written := by
    rw [hwritten]
    exact h.earlier hs

theorem EvidenceInv.buffer {out : TelemetryFrame} (h : EvidenceInv c scope ledger as u)
    (hs : u.Steps c scope a v)
    (hframes : ∀ digest frame, v.disk.runFrames.lookup digest = some frame → Claims frame →
      ∃ msg, c.digest msg.identity = digest ∧ Justified c scope ledger (as ++ [a]) v msg frame)
    (hout : Claims out → ∃ msg', c.digest msg'.identity = c.digest msg.identity ∧
      Justified c scope ledger (as ++ [a]) v msg' out)
    (hwritten : v.history.written = u.history.written ++ [(msg, out)]) :
    EvidenceInv c scope ledger (as ++ [a]) v where
  frames := hframes
  written w hw hclaims := by
    rw [hwritten, List.mem_append, List.mem_singleton] at hw
    rcases hw with hw | rfl
    · exact h.earlier hs w hw hclaims
    · exact hout hclaims

theorem EvidenceInv.processed {p : Process} {g : Gateway} (h : EvidenceInv c scope ledger as u)
    (hrun : Run (System.Steps c scope) (System.init ledger) as u) (hs : u.Steps c scope a v)
    (hdelivers : a.Delivers msg) (hp : u.process = some p) (hdisk : v.disk = g.disk)
    (hhistory : v.history = g.history)
    (heffect : Processed c scope { disk := u.disk, process := p, history := u.history } msg now g) :
    EvidenceInv c scope ledger (as ++ [a]) v := by
  cases heffect with
  | untouched same =>
    refine h.same hs ?_ ?_
    · rw [hdisk, same.frames]
    · rw [hhistory, same.written]
  | receipt k same frames written =>
    refine ⟨(h.receipt hrun hs hdelivers hp k hdisk frames).2, ?_⟩
    rw [hhistory, written]
    exact h.earlier hs
  | buffered out same source written =>
    rw [← hhistory] at written
    generalize hframes : g.disk.runFrames = receipts at source
    cases source with
    | unbound admitted clock =>
      obtain ⟨-, -, evt, -, hbound⟩ := admittedFrame_eq_some admitted
      have hclaimless := boundFrame_claimless hbound.symm
      exact h.buffer hs (h.receipts hs (by rw [hdisk, hframes]))
        (fun hclaims => absurd hclaims hclaimless) written
    | replayed receipt =>
      refine h.buffer hs (h.receipts hs (by rw [hdisk, hframes])) (fun hclaims => ?_) written
      obtain ⟨msg', hdigest, hjustified⟩ := h.frames _ _ receipt hclaims
      exact ⟨msg', hdigest, hjustified.snoc hs⟩
    | classified k =>
      obtain ⟨hnew, hreceipts⟩ := h.receipt hrun hs hdelivers hp k hdisk hframes
      exact h.buffer hs hreceipts (fun hclaims => ⟨msg, rfl, hnew hclaims⟩) written

theorem EvidenceInv.step (h : EvidenceInv c scope ledger as u)
    (hrun : Run (System.Steps c scope) (System.init ledger) as u) (hs : u.Steps c scope a v) :
    EvidenceInv c scope ledger (as ++ [a]) v := by
  obtain ⟨-, heffect, -⟩ := (systemInv_of_run hrun).step hs (a.settles_false u)
  cases heffect with
  | idle hdisk hhistory => exact h.same hs (by rw [hdisk]) (by rw [hhistory])
  | call op p g made running hdisk hhistory effect =>
    cases op with
    | process msg now faults =>
      have hdelivers : a.Delivers msg := ⟨now, faults, made⟩
      exact h.processed hrun hs hdelivers running hdisk hhistory effect
    | enableRunContext | ledger | configureSnapshot | verify | activateRunSession | commit
    | admission =>
      obtain ⟨-, hsince⟩ := effect
      exact h.same hs (by rw [hdisk, hsince.frames]) (by rw [hhistory, hsince.written])

end Step

/-- In every run, a frame written with a claim about a run is that of the first
    classification of its message, and had its evidence there. -/
theorem claims_have_evidence (hdigest : Function.Injective c.digest) {ledger : RunContext.State}
    {as : List Action} {u : System}
    (hrun : Run (System.Steps c scope) (System.init ledger) as u) {msg : Message}
    {frame : TelemetryFrame} (hw : (msg, frame) ∈ u.history.written) (hclaims : Claims frame) :
    ∃ msg', msg'.identity = msg.identity ∧ Justified c scope ledger as u msg' frame := by
  have hinv : EvidenceInv c scope ledger as u := by
    clear hw
    induction hrun with
    | nil =>
      refine ⟨fun digest frame hlookup => ?_, fun w hw => ?_⟩
      · cases hlookup
      · cases hw
    | snoc hrun hs ih => exact ih.step hrun hs
  obtain ⟨msg', hsame, hjustified⟩ := hinv.written _ hw hclaims
  exact ⟨msg', hdigest hsame, hjustified⟩

/-! ## The site -/

theorem toNat_charOfByte : ∀ n < 256, (Char.ofNat n).toNat = n := by
  decide +kernel

theorem siteCodec_digest_injective : Function.Injective siteCodec.digest := by
  have hbyte : Function.Injective fun b : UInt8 => Char.ofNat b.toNat := by
    intro b b' h
    have hnat := congrArg Char.toNat h
    simp only [toNat_charOfByte _ b.toNat_lt, toNat_charOfByte _ b'.toNat_lt] at hnat
    exact UInt8.toNat_inj.mp hnat
  have hwf : ∀ i : Identity, WellFormed i.json := by
    intro i
    simp [Identity.json]
  intro i i' h
  have hjson := text_injective (hwf i) (hwf i') (String.ofList_injective h)
  simp only [Identity.json, Json.arr.injEq, List.cons.injEq, Json.str.injEq, and_true] at hjson
  obtain ⟨hsession, hstart, hstop, hraw⟩ := hjson
  have hraw := hbyte.list_map (String.ofList_injective hraw)
  cases i
  cases i'
  simp_all

def siteMessage : Message :=
  { sequence := 1, session := hexEncode siteRandom.toList, revision := "\"sha256:\""
    pollStartedAt := "2", pollEndedAt := "2", data := [1] }

def siteDeliver : List Action :=
  [.call (.admission true true), .call (.process siteMessage { instant := 3 } {})]

theorem site_delivered :
    ∃ u p frame receipt, siteAfter (siteProvision .none ++ siteDeliver) = some u ∧
      u.process = some p ∧ (siteMessage, frame) ∈ u.history.written ∧
      attr frame.attributes "sim_run_status" = "valid" ∧
      u.disk.runFrames.lookup (siteCodec.digest siteMessage.identity) = some receipt ∧
      attr receipt.attributes "sim_run_status" = "valid" := by
  have hsummary : (siteAfter (siteProvision .none ++ siteDeliver)).map (fun u =>
      (u.process.isSome,
        u.history.written.map fun w => (w.1, attr w.2.attributes "sim_run_status"),
        (u.disk.runFrames.lookup (siteCodec.digest siteMessage.identity)).map fun f =>
          attr f.attributes "sim_run_status")) =
        some (true, [(siteMessage, "valid")], some "valid") := by
    decide +kernel
  obtain ⟨u, hu, hsummary⟩ := Option.map_eq_some_iff.mp hsummary
  simp only [Prod.mk.injEq, Option.isSome_iff_exists, Option.map_eq_some_iff] at hsummary
  obtain ⟨⟨p, hp⟩, hwritten, receipt, hreceipt, hvalid'⟩ := hsummary
  obtain ⟨⟨msg, frame⟩, hw, hpair⟩ := List.mem_map.mp (hwritten ▸ List.mem_singleton.mpr rfl)
  obtain ⟨rfl, hvalid⟩ := Prod.mk.inj hpair
  exact ⟨u, p, frame, receipt, hu, hp, hw, hvalid, hreceipt, hvalid'⟩

/-- The evidence of that classification. -/
theorem claims_have_evidence_first :
    ∃ u frame, siteAfter (siteProvision .none ++ siteDeliver) = some u ∧
      (siteMessage, frame) ∈ u.history.written ∧ Claims frame ∧
      ∃ msg, msg.identity = siteMessage.identity ∧
        Justified siteCodec siteScope siteLedger (siteProvision .none ++ siteDeliver) u msg
          frame := by
  obtain ⟨u, -, frame, -, hu, -, hw, hvalid, -, -⟩ := site_delivered
  exact ⟨u, frame, hu, hw, .inl hvalid,
    claims_have_evidence siteCodec_digest_injective (run_of_siteAfter hu) hw (.inl hvalid)⟩

end NexusGateway.ClockSync
