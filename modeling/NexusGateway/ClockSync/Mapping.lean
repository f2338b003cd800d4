/-
A late event is mapped by the session that produced it.

The frame of an event is a function of the gateway, of the event and of one
entry: the point of the session's own snapshot with the event's address.
Staging leaves one such entry at most, the journal keeps the snapshot across
restarts, and a receipt holds the frame of the same session and body.
Classification adds its own attributes (`runKeys`) and nothing else, so a
frame is compared by its `reading`.
-/

import NexusGateway.ClockSync.Evidence
import NexusGateway.Provisioning.WellFormed

namespace NexusGateway.ClockSync

open Lib Lib.Prog PointList Provisioning StoreForward
open Normalizer (Event frameAttributes)
open RunContext (Time Result)

variable {c : Codec} {scope : Scope}

/-! ## Readings -/

def runKeys : List String :=
  ["sim_context_committed_at", "sim_context_applied_at", "sim_poll_started_at",
    "sim_poll_ended_at", "sim_run_status", "sim_run_reason", "sim_run_id",
    "sim_context_generation"]

/-- A frame without its run classification; the attributes are a map. -/
structure Reading where
  gatewayId : String
  pointId : String
  value : Option FrameValue
  timestamp : String
  attributes : String → Option String

def ownAttributes (attributes : Dict String String) (key : String) : Option String :=
  if key ∈ runKeys then none else attributes.lookup key

def reading (frame : TelemetryFrame) : Reading where
  gatewayId := frame.gatewayId
  pointId := frame.pointId
  value := frame.value
  timestamp := frame.timestamp
  attributes := ownAttributes frame.attributes

def mappedReading (scope : Scope) (e : Entry) (evt : Event) : Reading where
  gatewayId := scope.gatewayID
  pointId := e.pointID
  value := evt.value
  timestamp := evt.timestamp
  attributes := ownAttributes (frameAttributes evt)

theorem reading_classified (msg : Message) (frame : TelemetryFrame) (times : Time × Option Time)
    (result : Result) : reading (classified c msg frame times result) = reading frame := by
  have hattributes : ownAttributes (classified c msg frame times result).attributes =
      ownAttributes frame.attributes := by
    funext key
    simp only [ownAttributes]
    split
    · rfl
    · next hkey =>
      simp only [runKeys, List.mem_cons, List.not_mem_nil, or_false, not_or] at hkey
      obtain ⟨hcommitted, happlied, hstarted, hended, hstatus, hreason, hrun, hgeneration⟩ := hkey
      rw [classified, lookup_stateVerdict hstatus hreason hrun hgeneration,
        AList.lookup_insert_ne hended, AList.lookup_insert_ne hstarted]
      cases times.2 with
      | none => exact AList.lookup_insert_ne hcommitted
      | some applied =>
        exact (AList.lookup_insert_ne happlied).trans (AList.lookup_insert_ne hcommitted)
  rw [reading, hattributes]
  rfl

/-! ## The point of an event -/

structure PointOf (entries : List Entry) (evt : Event) (e : Entry) : Prop where
  mem : e ∈ addressed entries
  localID : e.localID = evt.localID
  deviceRef : e.deviceRef = evt.deviceRef

variable {native : NativeClockConfig} {entries : List Entry}

theorem addressed_unique (hwf : BundleWellFormed scope native entries) {e e' : Entry}
    (he : e ∈ addressed entries) (he' : e' ∈ addressed entries) (h : e.localID = e'.localID) :
    e = e' := by
  have hnodup := hwf.localIDs.of_append_left
  rw [hwf.native, List.map_map] at hnodup
  exact List.inj_on_of_nodup_map hnodup he he' h

theorem resolve_staged (hwf : BundleWellFormed scope native entries) {e : Entry}
    (he : e ∈ addressed entries) {pointID : String}
    (h : (SyncedResolver.new.update entries).resolve scope.connectorID e.localID = some pointID) :
    pointID = e.pointID := by
  obtain ⟨e', he', hkey, hid⟩ := Dict.exists_of_lookup_insertAll h
  have hconnector : e'.connectorID = scope.connectorID :=
    hwf.connector e' (List.mem_filter.mp he').1
  have hlocal : e'.localID = e.localID := by
    rw [Entry.key, key, key, hconnector] at hkey
    exact String.append_right_inj _ |>.mp hkey
  rw [← hid, addressed_unique hwf he' he hlocal]

variable {frame : TelemetryFrame}

theorem boundFrame_mapped {snapshot : ClockSnapshot} {evt : Event}
    (hwf : BundleWellFormed scope snapshot.native snapshot.entries)
    (h : boundFrame c scope snapshot evt = some frame) :
    ∃ e, PointOf snapshot.entries evt e ∧ reading frame = mappedReading scope e evt := by
  unfold boundFrame at h
  split at h
  · cases h
  rename_i hchecked
  simp only [Bool.or_eq_true, not_or, Bool.not_eq_true, decide_eq_true_eq, ne_eq, not_not]
    at hchecked
  obtain ⟨⟨⟨⟨⟨-, hconnector⟩, htimestamp⟩, -⟩, -⟩, -⟩ := hchecked
  split at h
  · cases h
  rename_i e hfound
  have haddress := List.find?_some hfound
  rw [Bool.and_eq_true, decide_eq_true_eq, decide_eq_true_eq] at haddress
  have hmem : e ∈ addressed snapshot.entries :=
    List.mem_filter.mpr ⟨List.mem_of_find?_eq_some hfound, decide_eq_true haddress.1⟩
  dsimp only at h
  split_ifs at h with hrefused
  simp only [Bool.or_eq_true, not_or, decide_eq_true_eq, ne_eq, not_not] at hrefused
  refine ⟨e, ⟨hmem, haddress.2, hrefused.1.1⟩, ?_⟩
  split at h
  · rename_i frame' hnormalized
    rw [← Option.some.inj h]
    simp only [Normalizer.normalize] at hnormalized
    split at hnormalized
    · cases hnormalized
    rename_i pointID hresolved
    split at hnormalized
    · cases hnormalized
    rename_i value hvalue
    rw [← Normalizer.Outcome.ok.inj hnormalized]
    rw [hconnector, ← haddress.2] at hresolved
    have hid := resolve_staged hwf hmem hresolved
    simp only [reading, mappedReading, hid, hvalue, htimestamp, if_false]
  · cases h
  · cases h

/-! ## Frames and sessions -/

structure Archived (c : Codec) (scope : Scope) (disk : Disk) (session : String)
    (native : NativeClockConfig) (entries : List Entry) : Prop where
  journaled : ∃ runClockID, Journaled c.sha256 scope disk session runClockID native entries
  verified : (disk.verified.lookup session).isSome

variable {rebound : String → Prop} {session : String}

theorem Archived.keeps {disk disk' : Disk} (h : Archived c scope disk session native entries)
    (hk : Keeps c scope rebound disk disk') : Archived c scope disk' session native entries := by
  obtain ⟨runClockID, hj⟩ := h.journaled
  obtain ⟨runClockID', hj', -⟩ := hk.journaled hj
  exact ⟨⟨runClockID', hj'⟩, hk.receipts h.verified⟩

theorem Archived.unique {disk : Disk} {native' : NativeClockConfig} {entries' : List Entry}
    (h : Archived c scope disk session native entries)
    (h' : Archived c scope disk session native' entries') :
    native = native' ∧ entries = entries' := by
  obtain ⟨runClockID, hj⟩ := h.journaled
  obtain ⟨runClockID', hj'⟩ := h'.journaled
  exact (hj.unique hj').2

theorem Archived.wellFormed {disk : Disk} (h : Archived c scope disk session native entries) :
    BundleWellFormed scope native entries := by
  obtain ⟨runClockID, hj⟩ := h.journaled
  obtain ⟨document, -, -, hstage⟩ := hj.journal
  exact stageClockSnapshot_wellFormed hstage

def Mapped (c : Codec) (scope : Scope) (disk : Disk) (session : String) (data : List UInt8)
    (frame : TelemetryFrame) : Prop :=
  ∃ native entries evt e, Archived c scope disk session native entries ∧
    c.unmarshal data = some evt ∧ PointOf entries evt e ∧
    reading frame = mappedReading scope e evt

theorem Mapped.keeps {disk disk' : Disk} {data : List UInt8}
    (h : Mapped c scope disk session data frame) (hk : Keeps c scope rebound disk disk') :
    Mapped c scope disk' session data frame := by
  obtain ⟨native, entries, evt, e, harchived, hrest⟩ := h
  exact ⟨native, entries, evt, e, harchived.keeps hk, hrest⟩

variable {msg : Message}

theorem mapped_of_admitted {exact : String → Prop} {g : Gateway} {r : SessionRecord}
    (hg : GatewayInv c scope exact g)
    (h : Gateway.admittedFrame c scope g.process msg = some (r, some frame)) :
    Mapped c scope g.disk msg.session msg.data frame := by
  obtain ⟨hknown, hverified, evt, hevt, hbound⟩ := admittedFrame_eq_some h
  have hrecord := hg.process.records _ _ hknown
  obtain ⟨runClockID, hj, -⟩ := hrecord.journaled
  have harchived : Archived c scope g.disk msg.session r.snapshot.native r.snapshot.entries :=
    ⟨⟨runClockID, hj⟩, hrecord.receipt hverified⟩
  obtain ⟨e, hpoint, hreading⟩ := boundFrame_mapped harchived.wellFormed hbound.symm
  exact ⟨_, _, evt, e, harchived, hevt, hpoint, hreading⟩

theorem Classification.mapped {exact : String → Prop} {g : Gateway} {now : Time}
    (k : Classification c scope g msg now) (hg : GatewayInv c scope exact g) :
    Mapped c scope g.disk msg.session msg.data k.out := by
  obtain ⟨native, entries, evt, e, harchived, hevt, hpoint, hreading⟩ :=
    mapped_of_admitted hg k.admitted
  refine ⟨native, entries, evt, e, harchived, hevt, hpoint, ?_⟩
  rw [Classification.out, reading_classified]
  exact hreading

/-! ## Runs -/

/-- Every receipt and every frame written is mapped by its own session. -/
structure MappingInv (c : Codec) (scope : Scope) (u : System) : Prop where
  system : SystemInv c scope (fun _ => False) u
  frames : ∀ i frame, u.disk.runFrames.lookup (c.digest i) = some frame →
    Mapped c scope u.disk i.session i.raw frame
  written : ∀ w ∈ u.history.written, Mapped c scope u.disk w.1.session w.1.data w.2

section Step

variable {u v : System} {a : Action}

theorem MappingInv.keeps (h : MappingInv c scope u)
    (hsystem : SystemInv c scope (fun _ => False) v) (hk : Keeps c scope rebound u.disk v.disk)
    (hframes : ∀ i frame, v.disk.runFrames.lookup (c.digest i) = some frame →
      u.disk.runFrames.lookup (c.digest i) = some frame ∨
        Mapped c scope u.disk i.session i.raw frame)
    (hwritten : ∀ w ∈ v.history.written,
      w ∈ u.history.written ∨ Mapped c scope u.disk w.1.session w.1.data w.2) :
    MappingInv c scope v := by
  refine ⟨hsystem, fun i frame hframe => ?_, fun w hw => ?_⟩
  · rcases hframes i frame hframe with hold | hnew
    · exact (h.frames i frame hold).keeps hk
    · exact hnew.keeps hk
  · rcases hwritten w hw with hold | hnew
    · exact (h.written w hold).keeps hk
    · exact hnew.keeps hk

theorem receipts_of_insert (hdigest : Function.Injective c.digest) {disk disk' : Disk}
    {out : TelemetryFrame} (hout : Mapped c scope disk msg.session msg.data out)
    (h : disk'.runFrames = disk.runFrames.insert (c.digest msg.identity) out) (i : Identity)
    (frame : TelemetryFrame) (hframe : disk'.runFrames.lookup (c.digest i) = some frame) :
    disk.runFrames.lookup (c.digest i) = some frame ∨
      Mapped c scope disk i.session i.raw frame := by
  rw [h, Dict.lookup_insert_ite] at hframe
  split_ifs at hframe with heq
  · obtain rfl := Option.some.inj hframe
    obtain rfl := hdigest heq
    exact .inr hout
  · exact .inl hframe

theorem MappingInv.processed (hdigest : Function.Injective c.digest) {p : Process} {g : Gateway}
    {now : Time} (h : MappingInv c scope u) (hsystem : SystemInv c scope (fun _ => False) v)
    (hp : u.process = some p) (hdisk : v.disk = g.disk) (hhistory : v.history = g.history)
    (heffect : Processed c scope { disk := u.disk, process := p, history := u.history } msg now g) :
    MappingInv c scope v := by
  have hgateway := h.system.gateway p hp
  have hk : Keeps c scope (fun _ => False) u.disk v.disk := by
    rw [hdisk]
    exact heffect.same.keeps _
  refine h.keeps hsystem hk (fun i frame hframe => ?_) fun w hw => ?_
  · rw [hdisk] at hframe
    rcases heffect.frames with hsame | ⟨k, hinsert⟩
    · rw [hsame] at hframe
      exact .inl hframe
    · exact receipts_of_insert hdigest (k.mapped hgateway) hinsert i frame hframe
  · rw [hhistory] at hw
    cases heffect with
    | untouched same => exact .inl (same.written ▸ hw)
    | receipt k same frames written => exact .inl (written ▸ hw)
    | buffered out same source written =>
      rw [written, List.mem_append, List.mem_singleton] at hw
      refine hw.imp_right fun hw => ?_
      obtain rfl := hw
      generalize g.disk.runFrames = receipts at source
      cases source with
      | unbound admitted clock => exact mapped_of_admitted hgateway admitted
      | replayed receipt => exact h.frames _ _ receipt
      | classified k => exact k.mapped hgateway

theorem MappingInv.step (hdigest : Function.Injective c.digest) (h : MappingInv c scope u)
    (hs : u.Steps c scope a v) : MappingInv c scope v := by
  obtain ⟨hsystem, heffect, -⟩ := h.system.step hs (a.settles_false u)
  cases heffect with
  | idle hdisk hhistory =>
    have hk : Keeps c scope (fun _ => False) u.disk v.disk := hdisk ▸ Keeps.refl _
    exact h.keeps hsystem hk (fun i frame hframe => .inl (hdisk ▸ hframe))
      fun w hw => .inl (hhistory ▸ hw)
  | call op p g made running hdisk hhistory effect =>
    cases op with
    | process msg now faults => exact h.processed hdigest hsystem running hdisk hhistory effect
    | enableRunContext | ledger | configureSnapshot | verify | activateRunSession | commit
    | admission =>
      obtain ⟨-, hsince⟩ := effect
      have hk : Keeps c scope (fun _ => True) u.disk v.disk := by
        rw [hdisk]
        exact hsince.kept
      refine h.keeps hsystem hk (fun i frame hframe => .inl ?_) fun w hw => .inl ?_
      · rw [hdisk, hsince.frames] at hframe
        exact hframe
      · rw [hhistory, hsince.written] at hw
        exact hw

end Step

theorem mappingInv_of_run (hdigest : Function.Injective c.digest) {ledger : RunContext.State}
    {as : List Action} {u : System}
    (hrun : Run (System.Steps c scope) (System.init ledger) as u) : MappingInv c scope u := by
  refine hrun.invariant ⟨systemInv_init ledger, fun i frame hframe => ?_, fun w hw => ?_⟩
    fun _ _ _ hinv hs => hinv.step hdigest hs
  · cases hframe
  · cases hw

/-- In every run, a frame written for a message is that of the one point of the message's own
    session that has the event's address; and the same message, written in any other run with
    a session of the same points, has the same frame but for its run classification. -/
theorem late_event_keeps_mapping (hdigest : Function.Injective c.digest)
    {ledger : RunContext.State} {as : List Action} {u : System}
    (hrun : Run (System.Steps c scope) (System.init ledger) as u) {msg : Message}
    {frame : TelemetryFrame} (hw : (msg, frame) ∈ u.history.written) :
    ∃ native entries evt e, Archived c scope u.disk msg.session native entries ∧
      (∀ snapshot, (msg.session, snapshot) ∈ u.history.created →
        snapshot.native = native ∧ snapshot.entries = entries) ∧
      c.unmarshal msg.data = some evt ∧ PointOf entries evt e ∧
      (∀ e', PointOf entries evt e' → e' = e) ∧
      frame.pointId = e.pointID ∧ reading frame = mappedReading scope e evt ∧
      ∀ (ledger' : RunContext.State) (as' : List Action) (u' : System) (native' : NativeClockConfig)
        (frame' : TelemetryFrame),
        Run (System.Steps c scope) (System.init ledger') as' u' →
        (msg, frame') ∈ u'.history.written →
        Archived c scope u'.disk msg.session native' entries → reading frame' = reading frame := by
  have hinv := mappingInv_of_run hdigest hrun
  obtain ⟨native, entries, evt, e, harchived, hevt, hpoint, hreading⟩ := hinv.written _ hw
  have hunique : ∀ e', PointOf entries evt e' → e' = e := by
    intro e' hpoint'
    exact addressed_unique harchived.wellFormed hpoint'.mem hpoint.mem
      (hpoint'.localID.trans hpoint.localID.symm)
  refine ⟨native, entries, evt, e, harchived, ?_, hevt, hpoint, hunique,
    congrArg Reading.pointId hreading, hreading, ?_⟩
  · intro snapshot hcreated
    obtain ⟨runClockID, hj⟩ := hinv.system.disk.created _ hcreated
    obtain ⟨runClockID', hj'⟩ := harchived.journaled
    exact (hj.unique hj').2
  · intro ledger' as' u' native' frame' hrun' hw' harchived'
    obtain ⟨_, _, evt', e', harchived'', hevt', hpoint', hreading'⟩ :=
      (mappingInv_of_run hdigest hrun').written _ hw'
    obtain ⟨-, rfl⟩ := harchived'.unique harchived''
    obtain rfl : evt' = evt := Option.some.inj (hevt'.symm.trans hevt)
    rw [hreading', hreading, hunique e' hpoint']

/-- A message of the site that is delivered after a restart is written as its point. -/
theorem late_event_keeps_mapping_restart :
    ∃ u frame, siteAfter (siteProvision .none ++ Action.crash :: (siteStart ++ siteDeliver)) =
        some u ∧
      (siteMessage, frame) ∈ u.history.written ∧ frame.pointId = "p" := by
  have hsummary :
      (siteAfter (siteProvision .none ++ Action.crash :: (siteStart ++ siteDeliver))).map
        (fun u => (u.history.created, u.history.written.map (·.1))) =
        some ([(siteMessage.session, siteSnapshot)], [siteMessage]) := by
    decide +kernel
  obtain ⟨u, hu, hsummary⟩ := Option.map_eq_some_iff.mp hsummary
  obtain ⟨hcreated, hwritten⟩ := Prod.mk.inj hsummary
  obtain ⟨⟨msg, frame⟩, hw, rfl⟩ := List.mem_map.mp (hwritten ▸ List.mem_singleton.mpr rfl)
  obtain ⟨native, entries, evt, e, -, hown, -, hpoint, -, hid, -, -⟩ :=
    late_event_keeps_mapping siteCodec_digest_injective (run_of_siteAfter hu) hw
  obtain ⟨-, rfl⟩ := hown siteSnapshot (by rw [hcreated]; exact List.mem_singleton.mpr rfl)
  have he : e ∈ siteSnapshot.entries := (List.mem_filter.mp hpoint.mem).1
  rw [List.mem_singleton.mp he] at hid
  exact ⟨u, frame, hu, hw, hid⟩

end NexusGateway.ClockSync
