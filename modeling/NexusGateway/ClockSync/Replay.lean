/-
A message that has a receipt is replayed as its first classification.

What decides that a message is looked up among the receipts, and not written
as it is bound, is the run clock of its session.  In the journal that clock
never changes once it is set; in memory it is set before the journal file is
written.  If that write fails, the session is classified until the process
ends, and after a restart its messages are written unclassified.

The end of the poll is compared with the clock before the receipt is read: a
message that comes again while the clock is behind it is quarantined.
-/

import NexusGateway.ClockSync.Evidence

namespace NexusGateway.ClockSync

open Lib Lib.Prog Lib.Json PointList Provisioning StoreForward
open Normalizer (Event)
open RunContext (Time Fault)

variable {c : Codec} {scope : Scope}

/-! ## Sessions of receipts -/

theorem boundFrame_congr {s s' : ClockSnapshot} (hnative : s.native = s'.native)
    (hentries : s.entries = s'.entries) (evt : Event) :
    boundFrame c scope s evt = boundFrame c scope s' evt := by
  cases s
  cases s'
  cases hnative
  cases hentries
  rfl

/-- What a classification of the message has seen on disk: its session is verified and bound
    to the run clock that its event names, its headers name the revision and the poll. -/
def ClockBound (c : Codec) (scope : Scope) (disk : Disk) (msg : Message) : Prop :=
  ∃ (snapshot : ClockSnapshot) (runClockID : String) (evt : Event) (frame : TelemetryFrame)
    (now : Time),
    Journaled c.sha256 scope disk msg.session runClockID snapshot.native snapshot.entries ∧
    (disk.verified.lookup msg.session).isSome ∧ runClockID ≠ "" ∧
    msg.revision = snapshot.revision ∧ c.unmarshal msg.data = some evt ∧
    boundFrame c scope snapshot evt = some frame ∧
    attr frame.attributes "sim_clock_id" = runClockID ∧ (pollInterval c msg frame now).isSome

theorem ClockBound.keeps {disk disk' : Disk} {rebound : String → Prop} {msg : Message}
    (h : ClockBound c scope disk msg) (hk : Keeps c scope rebound disk disk') :
    ClockBound c scope disk' msg := by
  obtain ⟨snapshot, runClockID, evt, frame, now, hj, hverified, hne, hfacts⟩ := h
  obtain ⟨runClockID', hj', hrebound⟩ := hk.journaled hj
  rw [hrebound.resolve_right fun hnew => hne hnew.1] at hj'
  exact ⟨snapshot, runClockID, evt, frame, now, hj', hk.receipts hverified, hne, hfacts⟩

theorem revision_of_admittedFrame {p : Process} {msg : Message} {r : SessionRecord}
    {bound : Option TelemetryFrame}
    (h : Gateway.admittedFrame c scope p msg = some (r, bound)) :
    msg.revision = r.snapshot.revision := by
  unfold Gateway.admittedFrame at h
  split at h
  · cases h
  · split_ifs at h with hchecked
    obtain ⟨evt, -, hpair⟩ := Option.map_eq_some_iff.mp h
    rw [← (Prod.mk.inj hpair).1]
    rw [Bool.and_eq_true, decide_eq_true_eq] at hchecked
    exact hchecked.2

theorem Classification.clockBound {exact : String → Prop} {g : Gateway} {msg : Message}
    {now : Time} (k : Classification c scope g msg now) (hg : GatewayInv c scope exact g)
    (hexact : exact msg.session) : ClockBound c scope g.disk msg := by
  obtain ⟨hknown, hverified, evt, hevt, hbound⟩ := admittedFrame_eq_some k.admitted
  have hrecord := hg.process.records _ _ hknown
  obtain ⟨runClockID, hj, hclock⟩ := hrecord.journaled
  rw [hclock hexact] at hj
  exact ⟨k.record.snapshot, k.record.runClockID, evt, k.frame, now, hj,
    hrecord.receipt hverified, k.bound, revision_of_admittedFrame k.admitted, hevt, hbound.symm,
    k.clock, by rw [k.polled]; rfl⟩

/-! ## Replay of one message -/

/-- Of the poll evidence only the end of the poll is compared with the time now. -/
theorem pollInterval_later {msg msg' : Message} {frame : TelemetryFrame} {now now' : Time}
    (hsame : msg'.identity = msg.identity) (h : (pollInterval c msg frame now).isSome)
    (hclock : ∀ stop, c.parseTime msg.pollEndedAt = some stop → stop.after now' = false) :
    (pollInterval c msg' frame now').isSome := by
  have hstart : msg'.pollStartedAt = msg.pollStartedAt := congrArg Identity.start hsame
  have hstop : msg'.pollEndedAt = msg.pollEndedAt := congrArg Identity.stop hsame
  obtain ⟨interval, h⟩ := Option.isSome_iff_exists.mp h
  unfold pollInterval at h ⊢
  rw [hstart, hstop]
  obtain ⟨start, hs, h⟩ := Option.bind_eq_some_iff.mp h
  obtain ⟨stop, he, h⟩ := Option.bind_eq_some_iff.mp h
  obtain ⟨observed, ho, h⟩ := Option.bind_eq_some_iff.mp h
  split_ifs at h with houtside
  simp only [Bool.or_eq_true, not_or, Bool.not_eq_true] at houtside
  obtain ⟨⟨⟨horder, hearly⟩, hlate⟩, -⟩ := houtside
  rw [hs, he, ho]
  simp [horder, hearly, hlate, hclock stop he]

theorem Gateway.processMessage_replays {g : Gateway} {msg : Message} {now : Time}
    {r : SessionRecord} {bound frame : TelemetryFrame} (faults : ProcessFaults)
    (hadmitted : admittedFrame c scope g.process msg = some (r, some bound))
    (hbound : r.runClockID ≠ "") (hclock : attr bound.attributes "sim_clock_id" = r.runClockID)
    (hpoll : (pollInterval c msg bound now).isSome)
    (hreceipt : g.disk.runFrames.lookup (c.digest msg.identity) = some frame) :
    Triple (fun g' => g'.history.written = g.history.written ++ [(msg, frame)]) (· = g)
      (processMessage c scope msg now faults)
      (fun _ g' => g'.history.written = g.history.written ++ [(msg, frame)])
      fun _ g' => g' = g := by
  obtain ⟨interval, hpoll⟩ := Option.isSome_iff_exists.mp hpoll
  apply Triple.get_bind_eq
  apply Triple.check_bind
  · exact fun _ hh => hh
  intro _
  rw [hadmitted]
  apply Triple.bind (Q := fun out g' => out = some frame ∧ g' = g)
  · rw [bindRunFrame, if_neg (not_or.mpr ⟨hbound, not_not.mpr hclock⟩)]
    apply Triple.get_bind_eq
    apply Triple.check_bind
    · exact fun _ hh => hh
    intro _
    rw [hpoll]
    simp only [hreceipt]
    exact Triple.pure fun _ hh => ⟨rfl, hh⟩
  intro out
  apply Triple.of_fact
  rintro rfl
  apply Triple.check_bind
  · exact fun _ hh => hh
  intro _
  apply Triple.modify
  rintro g' rfl
  exact ⟨rfl, rfl⟩

/-! ## Runs -/

def SettledSteps (c : Codec) (scope : Scope) (session : String) : System → Action → System → Prop :=
  Meeting (System.Steps c scope) fun u a => a.Settles (· = session) u

/-- The message has its receipt, and every process knows its session as verified. -/
structure Replayable (c : Codec) (scope : Scope) (msg : Message) (frame : TelemetryFrame)
    (u : System) : Prop where
  system : SystemInv c scope (· = msg.session) u
  receipt : u.disk.runFrames.lookup (c.digest msg.identity) = some frame
  bound : ClockBound c scope u.disk msg
  known : ∀ p, u.process = some p →
    ∃ r, p.records.lookup msg.session = some r ∧ r.verified = true

section Step

variable {msg : Message} {frame : TelemetryFrame} {u v : System} {a : Action}

/-- A process that goes on remembers the session; one that starts reads it from disk. -/
theorem known_of_inherits {exact : String → Prop} (hsystem : SystemInv c scope exact u)
    (hbound : ClockBound c scope u.disk msg)
    (hknown : ∀ p, u.process = some p →
      ∃ r, p.records.lookup msg.session = some r ∧ r.verified = true)
    (hin : Inherits c scope u v) :
    ∀ p, v.process = some p → ∃ r, p.records.lookup msg.session = some r ∧ r.verified = true := by
  intro p' hp'
  rcases hin p' hp' with ⟨p, hp, hremembers⟩ | hopened
  · obtain ⟨r, hr, hverified⟩ := hknown p hp
    exact hremembers _ r hr hverified
  · obtain ⟨records, hrecords, hjournaled, -⟩ := hsystem.disk.openSessions_eq
    rw [hopened] at hrecords
    obtain ⟨snapshot, runClockID, evt, bound, now, hj, hverified, -⟩ := hbound
    obtain ⟨raw, -, hlookup⟩ := hjournaled _ _ _ _ hj
    exact ⟨_, Except.ok.inj hrecords ▸ hlookup, hverified⟩

/-- The step that writes the receipt of the message. -/
theorem Replayable.first (hsystem : SystemInv c scope (· = msg.session) u)
    (hs : SettledSteps c scope msg.session u a v) (hdelivers : a.Delivers msg)
    (hfresh : u.disk.runFrames.lookup (c.digest msg.identity) = none)
    (hreceipt : v.disk.runFrames.lookup (c.digest msg.identity) = some frame) :
    Replayable c scope msg frame v := by
  obtain ⟨hsystem', heffect, hin⟩ := hsystem.step hs.1 hs.2
  cases heffect with
  | idle hdisk _ =>
    rw [hdisk, hfresh] at hreceipt
    cases hreceipt
  | call op p g made running hdisk _ effect =>
    obtain ⟨now, faults, rfl⟩ := hdelivers.op_eq made
    have hprocessed : Processed c scope _ msg now g := effect
    rcases hprocessed.frames with hsame | ⟨k, -⟩
    · have hsame : g.disk.runFrames = u.disk.runFrames := hsame
      rw [hdisk, hsame, hfresh] at hreceipt
      cases hreceipt
    have hbound := k.clockBound (hsystem.gateway p running) rfl
    have hk : Keeps c scope (fun _ => False) u.disk v.disk := by
      rw [hdisk]
      exact hprocessed.same.keeps _
    refine ⟨hsystem', hreceipt, hbound.keeps hk, ?_⟩
    apply known_of_inherits hsystem hbound _ hin
    intro p' hp'
    rw [running] at hp'
    rw [← Option.some.inj hp']
    obtain ⟨hknown, hverified, -⟩ := admittedFrame_eq_some k.admitted
    exact ⟨k.record, hknown, hverified⟩

theorem Replayable.keeps {rebound : String → Prop} (h : Replayable c scope msg frame u)
    (hsystem : SystemInv c scope (· = msg.session) v) (hk : Keeps c scope rebound u.disk v.disk)
    (hin : Inherits c scope u v)
    (hframes : v.disk.runFrames.lookup (c.digest msg.identity) =
      u.disk.runFrames.lookup (c.digest msg.identity)) :
    Replayable c scope msg frame v :=
  ⟨hsystem, hframes.trans h.receipt, h.bound.keeps hk,
    known_of_inherits h.system h.bound h.known hin⟩

theorem Replayable.step (h : Replayable c scope msg frame u)
    (hs : SettledSteps c scope msg.session u a v) : Replayable c scope msg frame v := by
  obtain ⟨hsystem, heffect, hin⟩ := h.system.step hs.1 hs.2
  cases heffect with
  | idle hdisk hhistory =>
    have hk : Keeps c scope (fun _ => False) u.disk v.disk := hdisk ▸ Keeps.refl _
    exact h.keeps hsystem hk hin (by rw [hdisk])
  | call op p g made running hdisk hhistory effect =>
    cases op with
    | process msg' now faults =>
      have hprocessed : Processed c scope _ msg' now g := effect
      have hk : Keeps c scope (fun _ => False) u.disk v.disk := by
        rw [hdisk]
        exact hprocessed.same.keeps _
      rcases hprocessed.frames with hsame | ⟨k, hinsert⟩
      · exact h.keeps hsystem hk hin (by rw [hdisk, hsame])
      -- what is classified now has no receipt, so it is another message
      have hne : c.digest msg.identity ≠ c.digest msg'.identity := by
        intro heq
        have hfresh : u.disk.runFrames.lookup (c.digest msg'.identity) = none := k.fresh
        rw [← heq, h.receipt] at hfresh
        cases hfresh
      refine h.keeps hsystem hk hin ?_
      rw [hdisk, hinsert, AList.lookup_insert_ne hne]
    | enableRunContext | ledger | configureSnapshot | verify | activateRunSession | commit
    | admission =>
      obtain ⟨-, hsince⟩ := effect
      have hk : Keeps c scope (fun _ => True) u.disk v.disk := by
        rw [hdisk]
        exact hsince.kept
      exact h.keeps hsystem hk hin (by rw [hdisk, hsince.frames])

end Step

theorem systemInv_of_settled {session : String} {ledger : RunContext.State} {as : List Action}
    {u : System} (hrun : Run (SettledSteps c scope session) (System.init ledger) as u) :
    SystemInv c scope (· = session) u :=
  hrun.invariant (systemInv_init ledger) fun _ _ _ hinv hs => (hinv.step hs.1 hs.2).1

/-- In every run in which no journal write of the session's run clock fails: after the step
    that wrote the receipt of a message, processing it again, with the clock not behind the
    end of its poll, fails and writes nothing to the Buffer, or returns and has written the
    frame of the receipt.  Nothing else is written on the way. -/
theorem replay_stable {msg msg' : Message} {ledger : RunContext.State} {as as' : List Action}
    {a : Action} {u u' v : System} {frame : TelemetryFrame} {p : Process} {now : Time}
    (hrun : Run (SettledSteps c scope msg.session) (System.init ledger) as u)
    (hfirst : SettledSteps c scope msg.session u a u') (hdelivers : a.Delivers msg)
    (hfresh : u.disk.runFrames.lookup (c.digest msg.identity) = none)
    (hreceipt : u'.disk.runFrames.lookup (c.digest msg.identity) = some frame)
    (hlater : Run (SettledSteps c scope msg.session) u' as' v) (hp : v.process = some p)
    (hsame : msg'.identity = msg.identity) (hrevision : msg'.revision = msg.revision)
    (hclock : ∀ stop, c.parseTime msg.pollEndedAt = some stop → stop.after now = false)
    (faults : Gateway.ProcessFaults) :
    ∃ o, o = Gateway.processMessage c scope msg' now faults
        { disk := v.disk, process := p, history := v.history } ∧
      ((∃ e, o.result = .error e) ∧ o.state.history.written = v.history.written ∨
        o.result = .ok () ∧ o.state.history.written = v.history.written ++ [(msg', frame)]) ∧
      ∀ g ∈ o.trace, g.history.written = v.history.written ++ [(msg', frame)] := by
  have hstart := Replayable.first (systemInv_of_settled hrun) hfirst hdelivers hfresh hreceipt
  have hinv : Replayable c scope msg frame v := hlater.invariant hstart fun _ _ _ h hs => h.step hs
  obtain ⟨r, hr, hverified⟩ := hinv.known p hp
  obtain ⟨snapshot, runClockID, evt, bound, before, hj, -, hne, hrev, hevt, hframe, hattr, hpoll⟩ :=
    hinv.bound
  obtain ⟨runClockID', hj', hrecord⟩ :=
    ((hinv.system.gateway p hp).process.records _ r hr).journaled
  rw [hrecord rfl] at hj'
  -- the record in memory is that of the first classification
  obtain ⟨rfl, hnative, hentries⟩ := hj.unique hj'
  have hsession : msg'.session = msg.session := congrArg Identity.session hsame
  have hdata : msg'.data = msg.data := congrArg Identity.raw hsame
  have hadmitted : Gateway.admittedFrame c scope p msg' = some (r, some bound) := by
    have hrev' : msg'.revision = r.snapshot.revision := by
      rw [hrevision, hrev, ClockSnapshot.revision, hnative]
      rfl
    rw [Gateway.admittedFrame, hsession, hr]
    simp only [hverified, hrev', decide_true, Bool.and_self, if_true, hdata, hevt, Option.map_some]
    rw [← boundFrame_congr hnative hentries, hframe]
  have htriple := Gateway.processMessage_replays
    (g := { disk := v.disk, process := p, history := v.history }) faults hadmitted hne hattr
    (pollInterval_later hsame hpoll hclock) (hsame ▸ hinv.receipt)
  refine ⟨_, rfl, ?_, fun g hg => htriple.trace rfl hg⟩
  cases hres : (Gateway.processMessage c scope msg' now faults
      { disk := v.disk, process := p, history := v.history }).result with
  | error e =>
    refine .inl ⟨⟨e, rfl⟩, ?_⟩
    rw [htriple.of_error rfl hres]
  | ok x => exact .inr ⟨rfl, htriple.of_ok rfl hres⟩

def siteAdmitted : List Action := siteProvision .none ++ [.call (.admission true true)]

def siteProcess : Action := .call (.process siteMessage { instant := 3 } {})

def siteInvalidate : Action := .call (.ledger (.invalidateRun "run" .none))

/-- A run that was invalidated in between: the message is written as it was classified. -/
theorem replay_stable_invalidated :
    ∃ u v p frame, siteAfter (siteAdmitted ++ [siteProcess]) = some u ∧
      u.disk.runFrames.lookup (siteCodec.digest siteMessage.identity) = some frame ∧
      attr frame.attributes "sim_run_status" = "valid" ∧
      u.step siteCodec siteScope siteInvalidate = some v ∧ v.process = some p ∧
      (Gateway.processMessage siteCodec siteScope siteMessage { instant := 4 } {}
        { disk := v.disk, process := p, history := v.history }).state.history.written =
          v.history.written ++ [(siteMessage, frame)] := by
  have hsummary : ((siteAfter siteAdmitted).bind fun u =>
      (u.step siteCodec siteScope siteProcess).bind fun u' =>
      (u'.step siteCodec siteScope siteInvalidate).bind fun v => v.process.map fun p =>
        ((u.disk.runFrames.lookup (siteCodec.digest siteMessage.identity)).isNone,
          (u'.disk.runFrames.lookup (siteCodec.digest siteMessage.identity)).map fun f =>
            attr f.attributes "sim_run_status",
          (Gateway.processMessage siteCodec siteScope siteMessage { instant := 4 } {}
            { disk := v.disk, process := p, history := v.history }).result.isOk)) =
        some (true, some "valid", true) := by
    decide +kernel
  obtain ⟨u, hu, hsummary⟩ := Option.bind_eq_some_iff.mp hsummary
  obtain ⟨u', hfirst, hsummary⟩ := Option.bind_eq_some_iff.mp hsummary
  obtain ⟨v, hv, hsummary⟩ := Option.bind_eq_some_iff.mp hsummary
  obtain ⟨p, hp, hsummary⟩ := Option.map_eq_some_iff.mp hsummary
  simp only [Prod.mk.injEq, Option.map_eq_some_iff, Option.isNone_iff_eq_none] at hsummary
  obtain ⟨hfresh, ⟨frame, hframe, hvalid⟩, hok⟩ := hsummary
  have hsettled : ∀ a ∈ siteAdmitted, ∀ u : System, a.Settles (· = siteMessage.session) u := by
    simp [siteAdmitted, siteProvision, siteStart, Action.Settles, Op.Settles, Fault.renames]
  have hclock : ∀ stop, siteCodec.parseTime siteMessage.pollEndedAt = some stop →
      stop.after { instant := 4 } = false := by
    decide
  obtain ⟨o, rfl, hout, -⟩ := replay_stable
    ((run_of_siteAfter hu).meeting_of_forall hsettled)
    ⟨hfirst, fun _ _ => trivial⟩ ⟨_, _, .inl rfl⟩ hfresh hframe
    (Run.single ⟨hv, fun _ _ => trivial⟩) hp rfl rfl hclock {}
  refine ⟨u', v, p, frame, ?_, hframe, hvalid, hv, hp, ?_⟩
  · rw [siteAfter, List.foldlM_append, ← siteAfter, hu]
    simp only [Option.bind_eq_bind, Option.bind_some, List.foldlM_cons, List.foldlM_nil, hfirst]
    rfl
  rcases hout with ⟨⟨e, herror⟩, -⟩ | ⟨-, hwritten⟩
  · rw [herror] at hok
    cases hok
  · exact hwritten

/-- The write of the bound journal file fails, and the process goes on: the message is
    classified and has its receipt; after a restart it is written unclassified. -/
theorem replay_unstable_after_failed_journal :
    ∃ u v first second later,
      Function.Injective siteCodec.digest ∧ Function.Injective siteCodec.sha256 ∧
      siteAfter (siteProvision (.staging "no space left on device") ++ siteDeliver) = some u ∧
      u.disk.runFrames.lookup (siteCodec.digest siteMessage.identity) = some first ∧
      u.history.written.length = 1 ∧
      (Action.crash :: (siteStart ++ siteDeliver)).foldlM (System.step siteCodec siteScope) u =
        some v ∧
      v.history.written = [second, (siteMessage, later)] ∧
      later ≠ first := by
  have hsummary : ((siteAfter (siteProvision (.staging "no space left on device") ++
      siteDeliver)).bind fun u =>
      ((Action.crash :: (siteStart ++ siteDeliver)).foldlM
        (System.step siteCodec siteScope) u).map fun v =>
        ((u.disk.runFrames.lookup (siteCodec.digest siteMessage.identity)).map fun f =>
          attr f.attributes "sim_run_status", u.history.written.length,
          v.history.written.map fun w => (w.1, attr w.2.attributes "sim_run_status"))) =
        some (some "valid", 1, [(siteMessage, "valid"), (siteMessage, "absent")]) := by
    decide +kernel
  obtain ⟨u, hu, hsummary⟩ := Option.bind_eq_some_iff.mp hsummary
  obtain ⟨v, hv, hsummary⟩ := Option.map_eq_some_iff.mp hsummary
  simp only [Prod.mk.injEq, Option.map_eq_some_iff, List.map_eq_cons_iff, List.map_eq_nil_iff]
    at hsummary
  obtain ⟨⟨first, hfirst, hvalid⟩, hlength, second, rest, hwritten, -, ⟨msg, later⟩, -, hrest,
    ⟨rfl, habsent⟩, rfl⟩ := hsummary
  refine ⟨u, v, first, second, later, siteCodec_digest_injective, digestOf_injective _, hu, hfirst,
    hlength, hv, ?_, ?_⟩
  · rw [hwritten, hrest]
  · rintro rfl
    rw [hvalid] at habsent
    exact absurd habsent (by decide)

end NexusGateway.ClockSync
