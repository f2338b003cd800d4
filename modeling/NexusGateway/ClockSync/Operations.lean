/-
The operations on the session journal, each as a triple: from the invariant,
every state it writes has files that are recovered (`Durable`), and it ends,
in a value or in an error, with the invariant (`Reached`).  Both also say what
became of the files since the operation began.

Only `activateRunSession` needs more: the session it binds stays exact if the
write of its journal file does not fail before the rename.
-/

import NexusGateway.ClockSync.Journal

namespace NexusGateway.ClockSync

open Lib Lib.Prog Lib.Json PointList Provisioning StoreForward
open RunContext (Time Ledger Fault Envelope)

/-! ## Assertions -/

/-- What became of the files since `g₀`, where no message is processed. -/
structure Since (c : Codec) (scope : Scope) (g₀ : Gateway) (disk : Disk) (history : History) :
    Prop where
  kept : Keeps c scope (fun _ => True) g₀.disk disk
  frames : disk.runFrames = g₀.disk.runFrames
  written : history.written = g₀.history.written

def Durable (c : Codec) (scope : Scope) (g₀ g : Gateway) : Prop :=
  DiskInv c scope g.disk g.history ∧ Since c scope g₀ g.disk g.history

/-- The sessions that are verified in memory stay so. -/
def Remembers (p p' : Process) : Prop :=
  ∀ id r, p.records.lookup id = some r → r.verified = true →
    ∃ r', p'.records.lookup id = some r' ∧ r'.verified = true

structure Reached (c : Codec) (scope : Scope) (exact : String → Prop) (g₀ g : Gateway) : Prop
    extends GatewayInv c scope exact g where
  since : Since c scope g₀ g.disk g.history
  remembers : Remembers g₀.process g.process

theorem Remembers.of_records {p p' : Process} (h : p'.records = p.records) : Remembers p p' := by
  intro id r hr hverified
  exact ⟨r, h ▸ hr, hverified⟩

theorem Remembers.trans {p₁ p₂ p₃ : Process} (h : Remembers p₁ p₂) (h' : Remembers p₂ p₃) :
    Remembers p₁ p₃ := by
  intro id r hr hverified
  obtain ⟨r', hr', hverified'⟩ := h id r hr hverified
  exact h' id r' hr' hverified'

theorem remembers_replace {p : Process} {records : Dict String SessionRecord}
    {r : SessionRecord} {session : String} (hnew : records.lookup session = some r)
    (hold : ∀ id, id ≠ session → records.lookup id = p.records.lookup id)
    (hverified : ∀ r', p.records.lookup session = some r' → r'.verified = true →
      r.verified = true) : Remembers p { p with records := records } := by
  intro id r' hr' hr'verified
  by_cases heq : id = session
  · subst heq
    exact ⟨r, hnew, hverified r' hr' hr'verified⟩
  · exact ⟨r', (hold id heq).trans hr', hr'verified⟩

variable {c : Codec} {scope : Scope} {exact : String → Prop} {g₀ : Gateway}

theorem Reached.refl {g : Gateway} (h : GatewayInv c scope exact g) :
    Reached c scope exact g g where
  toGatewayInv := h
  since := ⟨Keeps.refl _, rfl, rfl⟩
  remembers := .of_records rfl

theorem Reached.durable {g : Gateway} (h : Reached c scope exact g₀ g) : Durable c scope g₀ g :=
  ⟨h.disk, h.since⟩

theorem Reached.write {disk : Disk} {history : History} {g : Gateway}
    (h : Reached c scope exact g₀ g) (hdisk : DiskInv c scope disk history)
    (hk : ∀ rebound, Keeps c scope rebound g.disk disk)
    (hframes : disk.runFrames = g.disk.runFrames) (hwritten : history.written = g.history.written)
    (hcreated : history.created = g.history.created) :
    Reached c scope exact g₀ { disk, process := g.process, history } where
  disk := hdisk
  process := h.process.keeps (hk _)
  origin id hid := by
    obtain ⟨snapshot, hs⟩ := h.origin id hid
    exact ⟨snapshot, hcreated ▸ hs⟩
  since := ⟨h.since.kept.trans (hk _), hframes.trans h.since.frames, hwritten.trans h.since.written⟩
  remembers := h.remembers

theorem Reached.weaken {exact' : String → Prop} {g : Gateway} (h : Reached c scope exact g₀ g)
    (hexact : ∀ id, exact' id → exact id) : Reached c scope exact' g₀ g where
  disk := h.disk
  process := by
    refine ⟨fun id r hr => ?_, h.process.producer⟩
    obtain ⟨hsession, hstaged, hhash, ⟨runClockID, hj, hbound⟩, hreceipt⟩ :=
      h.process.records id r hr
    exact ⟨hsession, hstaged, hhash, ⟨runClockID, hj, fun hid => hbound (hexact id hid)⟩, hreceipt⟩
  origin := h.origin
  since := h.since
  remembers := h.remembers

variable {P : Gateway → Prop} {Q : Unit → Gateway → Prop} {r : SessionRecord} {clockID : String}

namespace Gateway

theorem atomicFile_triple {I : Gateway → Prop} {F : String → Gateway → Prop}
    {write : Gateway → Gateway} (fault : Fault)
    (hw : ∀ g, P g → I (write g) ∧ Q () (write g) ∧ ∀ e, F e (write g))
    (hP : fault.renames = false → ∀ g e, P g → F e g) :
    Triple I P (atomicFile write fault) Q F := by
  cases fault with
  | none => exact Triple.modify fun g hg => ⟨(hw g hg).1, (hw g hg).2.1⟩
  | staging err | beforeRename err => exact Triple.fail fun g hg => hP rfl g err hg
  | afterRename err =>
    refine Triple.bind (Q := fun _ => F err) (Triple.modify fun g hg => ?_) fun _ =>
      Triple.fail fun g hg => hg
    exact ⟨(hw g hg).1, (hw g hg).2.2 err⟩

theorem atomicFile_reached {write : Gateway → Gateway} (fault : Fault)
    (hw : ∀ g, P g → Reached c scope exact g₀ (write g) ∧ Q () (write g))
    (hP : ∀ g, P g → Reached c scope exact g₀ g) :
    Triple (Durable c scope g₀) P (atomicFile write fault) Q
      fun _ => Reached c scope exact g₀ :=
  atomicFile_triple fault (fun g hg => ⟨(hw g hg).1.durable, (hw g hg).2, fun _ => (hw g hg).1⟩)
    fun _ g _ hg => hP g hg

theorem setProcess_triple {F : String → Gateway → Prop} {f : Process → Process}
    (hP : ∀ g, P g → Durable c scope g₀ g) (h : ∀ g, P g → Q () { g with process := f g.process }) :
    Triple (Durable c scope g₀) P (setProcess f) Q F :=
  Triple.modify fun g hg => ⟨hP g hg, h g hg⟩

/-! ## The run ledger -/

structure SameJournal (g g' : Gateway) : Prop where
  native : g'.disk.native = g.disk.native
  sessions : g'.disk.sessions = g.disk.sessions
  verified : g'.disk.verified = g.disk.verified
  runContext : g'.disk.runContext = g.disk.runContext
  active : g'.disk.active = g.disk.active
  records : g'.process.records = g.process.records
  record : g'.process.record = g.process.record
  stage : g'.process.stage = g.process.stage
  run : g'.process.run.map RunBinding.clockID = g.process.run.map RunBinding.clockID
  issued : g'.history.issued = g.history.issued
  created : g'.history.created = g.history.created
  receipts : g'.history.receipts = g.history.receipts
  commits : g'.history.commits = g.history.commits

structure SameFiles (g g' : Gateway) : Prop extends SameJournal g g' where
  frames : g'.disk.runFrames = g.disk.runFrames
  written : g'.history.written = g.history.written

theorem SameJournal.journaled {g g' : Gateway} (h : SameJournal g g') {id runClockID : String}
    {native : NativeClockConfig} {entries : List Entry}
    (hj : Journaled c.sha256 scope g.disk id runClockID native entries) :
    Journaled c.sha256 scope g'.disk id runClockID native entries := by
  refine hj.congr ?_ ?_ ?_ ?_
  · rw [h.sessions]
  · rw [h.native]
  · rw [h.verified]
  · rw [h.runContext]
    exact fun hsome => hsome

theorem SameJournal.keeps {g g' : Gateway} (h : SameJournal g g') (rebound : String → Prop) :
    Keeps c scope rebound g.disk g'.disk where
  journaled hj := ⟨_, h.journaled hj, .inl rfl⟩
  receipts hsome := by
    rw [h.verified]
    exact hsome

theorem SameJournal.inv {g g' : Gateway} (h : SameJournal g g') (hg : GatewayInv c scope exact g) :
    GatewayInv c scope exact g' := by
  have hdisk := hg.disk
  have hproc := hg.process.keeps (h.keeps _)
  refine ⟨⟨?_, ?_, ?_, ?_, ?_, ?_, ?_, ?_⟩, ⟨?_, ?_⟩, ?_⟩
  · intro id hid
    rw [h.sessions] at hid
    obtain ⟨runClockID, native, entries, hj⟩ := hdisk.sessions id hid
    exact ⟨runClockID, native, entries, h.journaled hj⟩
  · rw [h.sessions, h.verified]
    exact hdisk.receipts
  · rw [h.active, h.verified]
    exact hdisk.active
  · rw [h.native, h.sessions, h.issued]
    exact hdisk.issued
  · rw [h.created]
    intro s hs
    obtain ⟨runClockID, hj⟩ := hdisk.created s hs
    exact ⟨runClockID, h.journaled hj⟩
  · rw [h.receipts, h.verified]
    exact hdisk.written
  · rw [h.active, h.commits]
    exact hdisk.commits
  · rw [h.commits, h.created]
    exact hdisk.origins
  · rw [h.records]
    exact hproc.records
  · intro id hid
    rw [h.record] at hid
    obtain ⟨hknown, hclock, hreceipt⟩ := hproc.producer id hid
    refine ⟨?_, ?_, ?_⟩
    · rw [h.records]
      exact hknown
    · intro b' r hb' hr
      rw [h.records] at hr
      have hrun := h.run
      rw [hb', Option.map_some] at hrun
      obtain ⟨b, hb, hclockID⟩ := Option.map_eq_some_iff.mp hrun.symm
      rw [← hclockID]
      exact hclock b r hb hr
    · rw [h.stage]
      exact hreceipt
  · rw [h.record, h.created]
    exact hg.origin

theorem SameFiles.reached {g g' : Gateway} (h : SameFiles g g')
    (hg : Reached c scope exact g₀ g) : Reached c scope exact g₀ g' where
  toGatewayInv := h.inv hg.toGatewayInv
  since := ⟨hg.since.kept.trans (h.keeps _), h.frames.trans hg.since.frames,
    h.written.trans hg.since.written⟩
  remembers := hg.remembers.trans (.of_records h.records)

theorem ledgerCall_same (op : RunContext.Op) (g : Gateway) :
    SameFiles g (ledgerCall c op g).state := by
  simp only [ledgerCall, Prog.act]
  split
  · refine ⟨?_, rfl, rfl⟩
    constructor <;> rfl
  · rename_i b hrun
    refine ⟨⟨rfl, rfl, rfl, rfl, rfl, rfl, rfl, rfl, ?_, rfl, rfl, rfl, rfl⟩, rfl, rfl⟩
    rw [hrun]
    rfl

theorem ledgerCall_triple {I : Gateway → Prop} (hsame : ∀ g g', SameFiles g g' → P g → P g')
    (hI : ∀ g, P g → I g) (op : RunContext.Op) :
    Triple I P (ledgerCall c op) (fun _ => P) fun _ => P := by
  intro g hg
  have hP : P (ledgerCall c op g).state := hsame _ _ (ledgerCall_same op g) hg
  refine ⟨fun t ht => ?_, ?_⟩
  · rw [List.mem_singleton.mp ht]
    exact hI _ hP
  · cases (ledgerCall c op g).result with
    | ok a | error e => exact hP

theorem enableRunContext_triple (clockID : String) (envelope : Envelope) (now : Time)
    (fault : Fault) :
    Triple (Durable c scope g₀) (Reached c scope exact g₀)
      (enableRunContext c scope clockID envelope now fault)
      (fun _ => Reached c scope exact g₀) fun _ => Reached c scope exact g₀ := by
  refine Triple.get_bind fun g => ?_
  refine Triple.check_bind (fun t ht => ht.2) fun hchecked => ?_
  simp only [Bool.and_eq_true, Option.isNone_iff_eq_none] at hchecked
  obtain ⟨⟨-, hrecord⟩, -⟩ := hchecked
  refine Triple.check_bind (fun t ht => ht.2) fun _ => ?_
  refine Triple.ofExcept_bind (fun e he t ht => ht.2) fun ledger _ => ?_
  refine Triple.bind (Q := fun _ t => Reached c scope exact g₀ t ∧ t.process.record = none) ?_
    fun _ => ?_
  · refine Triple.act ?_
    rintro t ⟨rfl, ht⟩
    have hsame : ∀ ledger, Reached c scope exact g₀
        { t with disk := { t.disk with ledger := ledger } } := by
      intro ledger
      refine SameFiles.reached (g := t) ⟨?_, rfl, rfl⟩ ht
      constructor <;> rfl
    refine ⟨(hsame _).durable, ?_⟩
    generalize RunContext.Store.commit _ _ _ _ _ = o
    cases o.result with
    | ok a => exact ⟨hsame _, hrecord⟩
    | error e => exact hsame _
  refine setProcess_triple (fun t ht => ht.1.durable) ?_
  rintro t ⟨ht, hnone⟩
  refine ⟨⟨ht.disk, ⟨ht.process.records, fun id hid => ?_⟩, ht.origin⟩, ht.since, ht.remembers⟩
  have hid : t.process.record = some id := hid
  rw [hnone] at hid
  cases hid

/-! ## create -/

theorem sessionPattern_hexEncode (random : Vector UInt8 16) :
    sessionPattern (hexEncode random.toList) = true := by
  rw [sessionPattern, length_hexEncode, hexEncode_lower, Vector.length_toList]
  rfl

/-- Inside `create`: the id was drawn, and no session has it. -/
structure Drawn (c : Codec) (scope : Scope) (exact : String → Prop) (g₀ : Gateway) (id : String)
    (run : Option RunBinding) (g : Gateway) : Prop extends Reached c scope exact g₀ g where
  drawn : id ∈ g.history.issued
  fresh : g.disk.sessions.lookup id = none
  run : g.process.run = run

section Create

variable {id : String} {run : Option RunBinding} {g : Gateway}

theorem Drawn.receipt (h : Drawn c scope exact g₀ id run g) :
    g.disk.verified.lookup id = none := by
  cases hproof : g.disk.verified.lookup id with
  | none => rfl
  | some proof =>
    have hsome := h.disk.receipts id (by rw [hproof]; rfl)
    rw [h.fresh] at hsome
    cases hsome

theorem Drawn.record (h : Drawn c scope exact g₀ id run g) :
    g.process.records.lookup id = none := by
  cases hr : g.process.records.lookup id with
  | none => rfl
  | some r =>
    obtain ⟨runClockID, hj, -⟩ := (h.process.records id r hr).journaled
    exact absurd rfl (hj.ne_of_none h.fresh)

theorem drawn_issue (h : Reached c scope exact g₀ g) (hfresh : id ∉ g.history.issued) :
    Drawn c scope exact g₀ id g.process.run
      { g with history := { g.history with issued := id :: g.history.issued } } where
  toReached := h.write (h.disk.issue id) (fun _ => Keeps.refl _) rfl rfl rfl
  drawn := List.mem_cons_self ..
  fresh := by
    cases hfile : g.disk.sessions.lookup id with
    | none => rfl
    | some file => exact absurd (h.disk.issued id (.inr (by rw [hfile]; rfl))) hfresh
  run := rfl

theorem Drawn.native (h : Drawn c scope exact g₀ id run g) (file : List Char) :
    Drawn c scope exact g₀ id run
      { g with disk := { g.disk with native := g.disk.native.insert id file } } where
  toReached := h.write (h.disk.native h.drawn h.fresh file) (fun _ => keeps_native h.fresh file)
    rfl rfl rfl
  drawn := h.drawn
  fresh := h.fresh
  run := h.run

theorem Drawn.journaled (h : Drawn c scope exact g₀ id run g) (hpattern : sessionPattern id = true)
    {document : Json} {native : NativeClockConfig} {entries : List Entry}
    (hbundle : g.disk.native.lookup id = some native.marshal) (hwf : WellFormed document)
    (hstage : stageClockSnapshot c.sha256 (utf8 (text true document)) scope =
      .ok (native, entries)) :
    Journaled c.sha256 scope { g.disk with
      sessions := g.disk.sessions.insert id (text true (recordJson "" id document)) }
      id "" native entries where
  pattern := hpattern
  journal := ⟨document, hwf, AList.lookup_insert _, hstage⟩
  bundle := hbundle
  clock hne := absurd rfl hne
  archive hne := absurd rfl hne
  receipt proof hproof := by
    rw [h.receipt] at hproof
    cases hproof

end Create

structure Created (c : Codec) (scope : Scope) (exact : String → Prop) (g₀ : Gateway)
    (run : Option RunBinding) (snapshot : ClockSnapshot) (r : SessionRecord) (g : Gateway) : Prop
    extends Reached c scope exact g₀ g where
  run : g.process.run = run
  record : g.process.records.lookup r.session = some r
  content : r.snapshot = snapshot
  created : (r.session, snapshot) ∈ g.history.created

theorem created_of_journaled {g : Gateway} (hg : Reached c scope exact g₀ g)
    (hstaged : stageClock c.sha256 r.raw scope = .ok r.snapshot)
    (hhash : r.nativeHash = c.sha256 r.snapshot.native.marshal) (hunverified : r.verified = false)
    (hnew : g.process.records.lookup r.session = none)
    (hj : Journaled c.sha256 scope g.disk r.session r.runClockID r.snapshot.native
      r.snapshot.entries) :
    Created c scope exact g₀ g.process.run r.snapshot r { g with
      process := { g.process with records := g.process.records.insert r.session r }
      history := { g.history with created := (r.session, r.snapshot) :: g.history.created } } where
  disk := hg.disk.create hj
  process := by
    refine ⟨fun id' r' hr' => ?_, fun id' hid' => ?_⟩
    · rw [Dict.lookup_insert_ite] at hr'
      split_ifs at hr' with heq
      · rw [heq, ← Option.some.inj hr']
        refine ⟨rfl, hstaged, hhash, ⟨_, hj, fun _ => rfl⟩, fun hverified => ?_⟩
        rw [hunverified] at hverified
        cases hverified
      · exact hg.process.records id' r' hr'
    · -- the producer's session is another one
      obtain ⟨hknown, hclock, hreceipt⟩ := hg.process.producer id' hid'
      have hne : id' ≠ r.session := by
        rintro rfl
        rw [hnew] at hknown
        cases hknown
      have hlookup : (AList.insert r.session r g.process.records).lookup id' =
          g.process.records.lookup id' := AList.lookup_insert_ne hne
      refine ⟨?_, ?_, hreceipt⟩
      · rw [hlookup]
        exact hknown
      · rw [hlookup]
        exact hclock
  origin id' hid' := by
    obtain ⟨snapshot, hs⟩ := hg.origin id' hid'
    exact ⟨snapshot, List.mem_cons_of_mem _ hs⟩
  since := ⟨hg.since.kept, hg.since.frames, hg.since.written⟩
  remembers := by
    apply hg.remembers.trans
    apply remembers_replace (AList.lookup_insert _) fun _ hne => AList.lookup_insert_ne hne
    intro r' hr'
    rw [hnew] at hr'
    cases hr'
  run := rfl
  record := AList.lookup_insert _
  content := rfl
  created := List.mem_cons_self ..

theorem create_triple (random : Vector UInt8 16) (snapshot : ClockSnapshot)
    (nativeFault sessionFault : Fault) (run : Option RunBinding)
    (hstaged : stageClock c.sha256 snapshot.raw scope = .ok snapshot) :
    Triple (Durable c scope g₀)
      (fun g => Reached c scope exact g₀ g ∧ hexEncode random.toList ∉ g.history.issued ∧
        g.process.run = run)
      (create c random snapshot nativeFault sessionFault) (Created c scope exact g₀ run snapshot)
      fun _ => Reached c scope exact g₀ := by
  have hpattern := sessionPattern_hexEncode random
  unfold create
  generalize hexEncode random.toList = id at hpattern ⊢
  obtain ⟨document, hwf, hdata, hstage⟩ := SessionRecord.marshal_eq_ok
    (r := { session := id, raw := snapshot.raw, snapshot
            nativeHash := c.sha256 snapshot.native.marshal }) hstaged
  refine Triple.bind (Q := fun _ => Drawn c scope exact g₀ id run) ?_ fun _ => ?_
  · refine Triple.modify ?_
    rintro g ⟨hg, hfresh, rfl⟩
    exact ⟨(drawn_issue hg hfresh).durable, drawn_issue hg hfresh⟩
  refine Triple.ofExcept_bind (fun e he g hg => hg.toReached) fun data hok => ?_
  rw [hdata, Except.ok.injEq] at hok
  refine Triple.bind (Q := fun _ g => Drawn c scope exact g₀ id run g ∧
    g.disk.native.lookup id = some snapshot.native.marshal) ?_ fun _ => ?_
  · refine atomicFile_reached nativeFault (fun g hg => ?_) fun g hg => hg.toReached
    have hnative := hg.native snapshot.native.marshal
    exact ⟨hnative.toReached, hnative, AList.lookup_insert _⟩
  refine Triple.bind (Q := fun _ g => Reached c scope exact g₀ g ∧ g.process.run = run ∧
    g.process.records.lookup id = none ∧
    Journaled c.sha256 scope g.disk id "" snapshot.native snapshot.entries) ?_ fun _ => ?_
  · refine atomicFile_reached sessionFault ?_ fun g hg => hg.1.toReached
    rintro g ⟨hdrawn, hbundle⟩
    have hj := hdrawn.journaled hpattern hbundle hwf hstage
    rw [← hok]
    have hreached : Reached c scope exact g₀ { g with
        disk := { g.disk with
          sessions := g.disk.sessions.insert id (text true (recordJson "" id document)) } } :=
      hdrawn.write (hdrawn.disk.session hdrawn.drawn hdrawn.fresh hj)
        (fun _ => keeps_session hdrawn.fresh _) rfl rfl rfl
    exact ⟨hreached, hreached, hdrawn.run, hdrawn.record, hj⟩
  refine Triple.bind (Q := fun _ => Created c scope exact g₀ run snapshot _) ?_ fun _ =>
    Triple.pure fun g hg => hg
  refine Triple.modify ?_
  rintro g ⟨hg, rfl, hnew, hj⟩
  have hcreated := created_of_journaled
    (r := { session := id, raw := snapshot.raw, snapshot
            nativeHash := c.sha256 snapshot.native.marshal }) hg hstaged rfl rfl hnew hj
  exact ⟨hcreated.durable, hcreated⟩

theorem clock_of_validateRunSnapshot {p : Process} {snapshot : ClockSnapshot}
    (h : validateRunSnapshot p snapshot = .ok ()) {b : RunBinding} (hb : p.run = some b) :
    ∃ k ∈ snapshot.native.clocks, k.clockID = b.clockID := by
  rw [validateRunSnapshot, hb] at h
  obtain ⟨context, -, h⟩ := bind_eq_ok.mp h
  obtain ⟨-, h⟩ := refuse_bind_eq_ok.mp h
  by_contra hnone
  have hall : (snapshot.native.clocks.all fun k => decide (k.clockID ≠ b.clockID)) = true := by
    rw [List.all_eq_true]
    intro k hk
    simp only [decide_eq_true_eq]
    exact fun heq => hnone ⟨k, hk, heq⟩
  rw [refuse, hall] at h
  cases h

theorem configureSnapshot_triple (random : Vector UInt8 16) (snapshot : ClockSnapshot)
    (nativeFault sessionFault : Fault)
    (hstaged : stageClock c.sha256 snapshot.raw scope = .ok snapshot) :
    Triple (Durable c scope g₀)
      (fun g => Reached c scope exact g₀ g ∧ hexEncode random.toList ∉ g.history.issued)
      (configureSnapshot c random snapshot nativeFault sessionFault)
      (fun _ => Reached c scope exact g₀) fun _ => Reached c scope exact g₀ := by
  refine Triple.get_bind fun g => ?_
  refine Triple.ofExcept_bind ?_ fun _ hvalid => ?_
  · rintro e - t ⟨-, ht, -⟩
    exact ht
  refine Triple.bind (Q := fun r => Created c scope exact g₀ g.process.run snapshot r) ?_
    fun r => ?_
  · refine (create_triple random snapshot nativeFault sessionFault g.process.run hstaged).pre ?_
    rintro t ⟨rfl, ht, hfresh⟩
    exact ⟨ht, hfresh, rfl⟩
  refine setProcess_triple (fun t ht => ht.durable) fun t ht => ?_
  refine ⟨⟨ht.disk, ⟨ht.process.records, ?_⟩, ?_⟩, ht.since, ht.remembers⟩
  · rintro id hid
    obtain rfl := Option.some.inj hid
    refine ⟨?_, fun b r' hb hr' => ?_, fun hstage => absurd rfl hstage⟩
    · rw [ht.record]
      rfl
    · rw [ht.record] at hr'
      rw [← Option.some.inj hr', ht.content]
      exact clock_of_validateRunSnapshot hvalid (ht.run ▸ hb)
  · rintro id hid
    obtain rfl := Option.some.inj hid
    exact ⟨snapshot, ht.created⟩

/-! ## verify and commit -/

structure Producing (c : Codec) (scope : Scope) (exact : String → Prop) (g₀ : Gateway)
    (r : SessionRecord) (g : Gateway) : Prop extends Reached c scope exact g₀ g where
  record : g.process.record = some r.session
  known : g.process.records.lookup r.session = some r

theorem producerRecord_triple (hP : ∀ g, P g → Reached c scope exact g₀ g) :
    Triple (Durable c scope g₀) P producerRecord
      (fun r g => Producing c scope exact g₀ r g ∧ P g) fun _ => Reached c scope exact g₀ := by
  refine Triple.get_bind fun g => ?_
  cases hid : g.process.record with
  | none => exact Triple.fail fun t ht => hP t ht.2
  | some id =>
    rw [Option.bind_some]
    cases hr : g.process.records.lookup id with
    | none => exact Triple.fail fun t ht => hP t ht.2
    | some r =>
      refine Triple.pure ?_
      rintro t ⟨rfl, ht⟩
      have hsession := ((hP t ht).process.records id r hr).session
      exact ⟨⟨hP t ht, by rw [hid, hsession], by rw [hsession, hr]⟩, ht⟩

theorem processInv_replace {exact' : String → Prop} {disk : Disk} {p : Process}
    {r' : SessionRecord} (h : ProcessInv c scope exact disk p)
    (hr : p.records.lookup r.session = some r) (records : Dict String SessionRecord)
    (hnew : records.lookup r.session = some r')
    (hold : ∀ id, id ≠ r.session → records.lookup id = p.records.lookup id)
    (hsession : r'.session = r.session) (hraw : r'.raw = r.raw)
    (hsnapshot : r'.snapshot = r.snapshot) (hhash : r'.nativeHash = r.nativeHash)
    (hexact : ∀ id, exact' id → exact id)
    (hclock : exact' r.session → r'.runClockID = r.runClockID)
    (hreceipt : r'.verified = true → (disk.verified.lookup r.session).isSome) :
    ProcessInv c scope exact' disk { p with records := records } where
  records id s hs := by
    by_cases heq : id = r.session
    · rw [heq] at hs ⊢
      rw [hnew] at hs
      obtain ⟨-, hstaged, hnative, ⟨runClockID, hj, hbound⟩, -⟩ := h.records _ r hr
      rw [← Option.some.inj hs]
      refine ⟨hsession, ?_, ?_, ⟨runClockID, ?_, fun hid => ?_⟩, hreceipt⟩
      · rw [hraw, hsnapshot]
        exact hstaged
      · rw [hhash, hsnapshot]
        exact hnative
      · rw [hsnapshot]
        exact hj
      · rw [hclock hid]
        exact hbound (hexact _ hid)
    · rw [hold id heq] at hs
      obtain ⟨hsession', hstaged, hnative, ⟨runClockID, hj, hbound⟩, hverified⟩ := h.records id s hs
      exact ⟨hsession', hstaged, hnative, ⟨runClockID, hj, fun hid => hbound (hexact _ hid)⟩,
        hverified⟩
  producer id hid := by
    obtain ⟨hknown, hproducer, hstage⟩ := h.producer id hid
    by_cases heq : id = r.session
    · rw [heq] at hproducer hstage ⊢
      refine ⟨by rw [hnew]; rfl, fun b s hb hs => ?_, hstage⟩
      rw [hnew] at hs
      rw [← Option.some.inj hs, hsnapshot]
      exact hproducer b r hb hr
    · refine ⟨?_, fun b s hb hs => ?_, hstage⟩
      · rw [hold id heq]
        exact hknown
      · rw [hold id heq] at hs
        exact hproducer b s hb hs

theorem processInv_stage {disk : Disk} {p : Process} (h : ProcessInv c scope exact disk p)
    {stage : Stage} (hreceipt : ∀ id, p.record = some id → (disk.verified.lookup id).isSome) :
    ProcessInv c scope exact disk { p with stage := stage } where
  records := h.records
  producer id hid :=
    ⟨(h.producer id hid).known, (h.producer id hid).clock, fun _ => hreceipt id hid⟩

theorem Producing.receipt {g : Gateway} (h : Producing c scope exact g₀ r g) :
    Producing c scope exact g₀ r { g with
      disk := { g.disk with verified := g.disk.verified.insert r.session r.nativeHash }
      history := { g.history with receipts := r.session :: g.history.receipts } } where
  toReached := by
    obtain ⟨-, -, hhash, ⟨runClockID, hj, -⟩, -⟩ := h.process.records _ r h.known
    rw [hhash]
    exact h.write (h.disk.receipt hj) (fun _ => keeps_receipt hj.bundle) rfl rfl rfl
  record := h.record
  known := h.known

theorem verify_triple (fault : Fault) :
    Triple (Durable c scope g₀) (Reached c scope exact g₀) (verify fault)
      (fun _ => Reached c scope exact g₀) fun _ => Reached c scope exact g₀ := by
  refine Triple.bind (producerRecord_triple fun g hg => hg) fun r => ?_
  refine Triple.bind (Q := fun _ g => Producing c scope exact g₀ r g ∧
    (g.disk.verified.lookup r.session).isSome) ?_ fun _ => ?_
  · refine atomicFile_reached fault ?_ fun g hg => hg.2
    rintro g ⟨hg, -⟩
    refine ⟨hg.receipt.toReached, hg.receipt, ?_⟩
    rw [AList.lookup_insert]
    rfl
  refine setProcess_triple (fun g hg => hg.1.durable) ?_
  rintro g ⟨hg, hreceipt⟩
  have hnew : (Dict.adjust r.session (fun r => { r with verified := true })
      g.process.records).lookup r.session = some { r with verified := true } := by
    rw [Dict.lookup_adjust, if_pos rfl, hg.known]
    rfl
  have hold : ∀ id, id ≠ r.session →
      (Dict.adjust r.session (fun r => { r with verified := true }) g.process.records).lookup id =
        g.process.records.lookup id := by
    intro id hne
    rw [Dict.lookup_adjust, if_neg hne]
  refine ⟨⟨hg.disk, ?_, hg.origin⟩, hg.since,
    hg.remembers.trans (remembers_replace hnew hold fun _ _ _ => rfl)⟩
  refine processInv_stage (processInv_replace hg.process hg.known _ hnew hold rfl rfl rfl rfl
    (fun _ hid => hid) (fun _ => rfl) fun _ => hreceipt) fun id hid => ?_
  have hid : g.process.record = some id := hid
  rw [hg.record] at hid
  rw [← Option.some.inj hid]
  exact hreceipt

theorem commit_triple (fault : Fault) :
    Triple (Durable c scope g₀) (Reached c scope exact g₀) (commit fault)
      (fun _ => Reached c scope exact g₀) fun _ => Reached c scope exact g₀ := by
  refine Triple.bind (producerRecord_triple fun g hg => hg) fun r => ?_
  refine Triple.get_bind fun g => ?_
  refine Triple.check_bind (fun t ht => ht.2.2) fun hstage => ?_
  refine atomicFile_reached fault ?_ fun t ht => ht.2.2
  rintro t ⟨rfl, ht, -⟩
  have hactivated : t.process.stage = .activated := of_decide_eq_true hstage
  have hreceipt := (ht.process.producer _ ht.record).receipt (by rw [hactivated]; decide)
  have horigin := ht.origin _ ht.record
  have hreached : Reached c scope exact g₀ { t with
      disk := { t.disk with active := some r.session }
      history := { t.history with commits := t.history.commits ++ [r.session] } } := by
    refine ht.write (ht.disk.commit hreceipt horigin) (fun _ => ⟨fun hj => ?_, id⟩) rfl rfl rfl
    exact ⟨_, hj.congr rfl rfl rfl id, .inl rfl⟩
  exact ⟨hreached, hreached⟩

/-! ## activateRunSession -/

/-- The producer's session, verified, under the run clock of the process. -/
structure Binding (c : Codec) (scope : Scope) (exact : String → Prop) (g₀ : Gateway)
    (r : SessionRecord) (clockID : String) (g : Gateway) : Prop
    extends Producing c scope exact g₀ r g where
  stage : g.process.stage ≠ .created
  clock : g.process.run.map RunBinding.clockID = some clockID

theorem SameFiles.binding {g g' : Gateway} (h : SameFiles g g')
    (hg : Binding c scope exact g₀ r clockID g) :
    Binding c scope exact g₀ r clockID g' where
  toReached := h.reached hg.toReached
  record := by
    rw [h.record]
    exact hg.record
  known := by
    rw [h.records]
    exact hg.known
  stage := by
    rw [h.stage]
    exact hg.stage
  clock := by
    rw [h.run]
    exact hg.clock

/-- The session has an archive, and its journal file has no run clock yet. -/
structure Archived (c : Codec) (scope : Scope) (r : SessionRecord) (g : Gateway) : Prop where
  archive : (g.disk.runContext.lookup r.session).isSome
  journaled : Journaled c.sha256 scope g.disk r.session "" r.snapshot.native r.snapshot.entries

theorem Binding.archive {g : Gateway} (h : Binding c scope exact g₀ r clockID g)
    (hj : Journaled c.sha256 scope g.disk r.session "" r.snapshot.native r.snapshot.entries)
    (value : Option RunContext.State) :
    Binding c scope exact g₀ r clockID { g with
        disk := { g.disk with runContext := g.disk.runContext.insert r.session value } } ∧
      Archived c scope r { g with
        disk := { g.disk with runContext := g.disk.runContext.insert r.session value } } := by
  have hk : ∀ rebound, Keeps c scope rebound g.disk
      { g.disk with runContext := g.disk.runContext.insert r.session value } :=
    fun _ => keeps_archive value
  refine ⟨⟨⟨h.write (h.disk.rebind (hk fun _ => False) rfl (fun _ hi => hi) rfl rfl) hk
    rfl rfl rfl, h.record, h.known⟩, h.stage, h.clock⟩, ?_, ?_⟩
  · rw [AList.lookup_insert]
    rfl
  · refine hj.congr rfl rfl rfl fun _ => ?_
    rw [AList.lookup_insert]
    rfl

theorem writeArchive_triple (r : SessionRecord) (clockID : String) (archive : RunContext.State)
    (fault : WriteFault) :
    Triple (Durable c scope g₀) (Binding c scope exact g₀ r clockID)
      (writeArchive r.session archive fault)
      (fun _ g => Binding c scope exact g₀ r clockID g ∧ Archived c scope r g)
      fun _ => Reached c scope exact g₀ := by
  have hput : ∀ value, Triple (Durable c scope g₀)
      (fun g => Binding c scope exact g₀ r clockID g ∧
        Journaled c.sha256 scope g.disk r.session "" r.snapshot.native r.snapshot.entries)
      (Prog.modify fun g =>
        { g with disk := { g.disk with runContext := g.disk.runContext.insert r.session value } })
      (fun _ g => Binding c scope exact g₀ r clockID g ∧ Archived c scope r g)
      fun _ : String => Reached c scope exact g₀ := by
    intro value
    refine Triple.modify ?_
    rintro g ⟨hg, hj⟩
    exact ⟨(hg.archive hj value).1.durable, hg.archive hj value⟩
  refine Triple.get_bind fun g => ?_
  refine Triple.check_bind (fun t ht => ht.2.toReached) fun hnone => ?_
  refine Triple.pre (P := fun g => Binding c scope exact g₀ r clockID g ∧
    Journaled c.sha256 scope g.disk r.session "" r.snapshot.native r.snapshot.entries) ?_ ?_
  · cases fault with
    | none =>
      exact Triple.bind (hput none) fun _ =>
        (hput (some archive)).pre fun t ht => ⟨ht.1, ht.2.journaled⟩
    | opening err => exact Triple.fail fun t ht => ht.1.toReached
    | writing err => exact Triple.bind (hput none) fun _ => Triple.fail fun t ht => ht.1.toReached
    | syncing err =>
      refine Triple.bind (hput none) fun _ => ?_
      exact Triple.bind ((hput (some archive)).pre fun t ht => ⟨ht.1, ht.2.journaled⟩) fun _ =>
        Triple.fail fun t ht => ht.1.toReached
  · -- a session that has a run clock has an archive
    rintro t ⟨rfl, ht⟩
    refine ⟨ht, ?_⟩
    obtain ⟨runClockID, hj, -⟩ := (ht.process.records _ r ht.known).journaled
    have hempty : runClockID = "" := by
      by_contra hne
      have hsome := hj.archive hne
      rw [Option.isNone_iff_eq_none.mp hnone] at hsome
      cases hsome
    rw [← hempty]
    exact hj

theorem Binding.memory {g : Gateway} (h : Binding c scope exact g₀ r clockID g) :
    Binding c scope (fun id => exact id ∧ id ≠ r.session) g₀ { r with runClockID := clockID }
      clockID { g with process := { g.process with
        records := g.process.records.insert r.session { r with runClockID := clockID } } } where
  disk := h.disk
  process := processInv_replace h.process h.known _ (AList.lookup_insert _)
    (fun _ hne => AList.lookup_insert_ne hne) rfl rfl rfl rfl (fun _ hid => hid.1)
    (fun hid => absurd rfl hid.2) (h.process.records _ r h.known).receipt
  origin := h.origin
  since := h.since
  remembers := by
    apply h.remembers.trans
    apply remembers_replace (AList.lookup_insert _) fun _ hne => AList.lookup_insert_ne hne
    intro r' hr' hverified
    rw [h.known] at hr'
    rw [← Option.some.inj hr'] at hverified
    exact hverified
  record := h.record
  known := AList.lookup_insert _
  stage := h.stage
  clock := h.clock

theorem Binding.journal {g : Gateway}
    (h : Binding c scope (fun id => exact id ∧ id ≠ r.session) g₀ r clockID g)
    (hbound : r.runClockID = clockID) (ha : Archived c scope r g) {data : List Char}
    (hdata : r.marshal = .ok data) :
    Reached c scope exact g₀ { g with
      disk := { g.disk with sessions := g.disk.sessions.insert r.session data } } := by
  obtain ⟨document, hwf, hmarshal, hstage⟩ :=
    SessionRecord.marshal_eq_ok (h.process.records _ r h.known).staged
  rw [hmarshal, Except.ok.injEq, hbound] at hdata
  have hclock : ∃ k ∈ r.snapshot.native.clocks, k.clockID = clockID := by
    obtain ⟨b, hb, hclockID⟩ := Option.map_eq_some_iff.mp h.clock
    rw [← hclockID]
    exact (h.process.producer _ h.record).clock b r hb h.known
  have hj := journaled_rebind ha.journaled hwf hstage hclock ha.archive
  have hk := keeps_rebind ha.journaled hwf hstage hclock ha.archive
  rw [hdata] at hj hk
  refine ⟨⟨?_, ⟨fun id s hs => ?_, ?_⟩, h.origin⟩, ?_, h.remembers⟩
  · refine h.disk.rebind hk rfl (fun i hi => ?_) rfl rfl
    rw [Dict.lookup_insert_ite] at hi
    split_ifs at hi with heq
    · rw [heq]
      exact ha.journaled.isSome
    · exact hi
  · obtain ⟨hsession, hstaged, hhash, ⟨runClockID, hold, hexact⟩, hreceipt⟩ :=
      h.process.records id s hs
    refine ⟨hsession, hstaged, hhash, ?_, hreceipt⟩
    by_cases heq : id = r.session
    · rw [heq, h.known] at hs
      rw [heq, ← Option.some.inj hs]
      exact ⟨clockID, hj, fun _ => hbound.symm⟩
    · obtain ⟨runClockID', hold', hrebound⟩ := hk.journaled hold
      refine ⟨runClockID', hold', fun hid => ?_⟩
      rw [hrebound.resolve_right fun hnew => heq hnew.2]
      exact hexact ⟨hid, heq⟩
  · intro id hid
    obtain ⟨hknown, hproducer, hreceipt⟩ := h.process.producer id hid
    exact ⟨hknown, hproducer, hreceipt⟩
  · exact ⟨h.since.kept.trans (hk.mono fun _ _ => trivial), h.since.frames, h.since.written⟩

theorem bindSession_triple (r : SessionRecord) (clockID : String) (now : Time) (applyFault : Fault)
    (archiveFault : WriteFault) (journalFault : Fault)
    (hfault : journalFault.renames = false → ¬ exact r.session) :
    Triple (Durable c scope g₀) (Binding c scope exact g₀ r clockID)
      (bindSession c r clockID now applyFault archiveFault journalFault)
      (fun _ g => Reached c scope exact g₀ g ∧ g.process.stage ≠ .created)
      fun _ => Reached c scope exact g₀ := by
  refine Triple.bind (Q := fun _ => Binding c scope exact g₀ r clockID) ?_ fun _ => ?_
  · exact (ledgerCall_triple (fun g g' h hg => h.binding hg) (fun g hg => hg.durable) _).conseq
      (fun g hg => hg) (fun _ g hg => hg) fun _ g hg => hg.toReached
  refine Triple.bind (Q := fun _ => Binding c scope exact g₀ r clockID) ?_ fun ledger => ?_
  · refine Triple.get_bind fun g => ?_
    cases g.process.run with
    | none => exact Triple.fail fun t ht => ht.2.toReached
    | some b => exact Triple.pure fun t ht => ht.2
  refine Triple.ofExcept_bind (fun e he g hg => hg.toReached) fun archive _ => ?_
  refine Triple.bind (writeArchive_triple r clockID archive archiveFault) fun _ => ?_
  refine Triple.bind (Q := fun _ g => Binding c scope (fun id => exact id ∧ id ≠ r.session) g₀
    { r with runClockID := clockID } clockID g ∧
    Archived c scope { r with runClockID := clockID } g) ?_ fun _ => ?_
  · refine setProcess_triple (fun g hg => hg.1.durable) ?_
    rintro g ⟨hg, ha⟩
    exact ⟨hg.memory, ha.archive, ha.journaled⟩
  refine Triple.ofExcept_bind ?_ fun data hdata => ?_
  · -- the record was staged, so it is marshalled
    rintro e he g ⟨hg, -⟩
    obtain ⟨document, -, hmarshal, -⟩ :=
      SessionRecord.marshal_eq_ok (hg.process.records _ _ hg.known).staged
    rw [hmarshal] at he
    cases he
  refine atomicFile_triple journalFault ?_ ?_
  · rintro g ⟨hg, ha⟩
    have hreached := hg.journal rfl ha hdata
    exact ⟨hreached.durable, ⟨hreached, hg.stage⟩, fun _ => hreached⟩
  · rintro hrenames g e ⟨hg, -⟩
    refine hg.toReached.weaken fun id hid => ⟨hid, ?_⟩
    rintro rfl
    exact hfault hrenames hid

theorem activateRunSession_triple (now : Time) (applyFault : Fault) (archiveFault : WriteFault)
    (journalFault : Fault) :
    Triple (Durable c scope g₀)
      (fun g => Reached c scope exact g₀ g ∧
        (journalFault.renames = false → ∀ id, g.process.record = some id → ¬ exact id))
      (activateRunSession c now applyFault archiveFault journalFault)
      (fun _ => Reached c scope exact g₀) fun _ => Reached c scope exact g₀ := by
  refine Triple.bind (producerRecord_triple fun g hg => hg.1) fun r => ?_
  refine Triple.get_bind fun g => ?_
  refine Triple.check_bind (fun t ht => ht.2.2.1) fun hchecked => ?_
  have hstage : g.process.stage ≠ .created := of_decide_eq_true hchecked
  refine Triple.bind (Q := fun _ t => Reached c scope exact g₀ t ∧ t.process.stage ≠ .created) ?_
    fun _ => ?_
  · refine Triple.of_forall ?_
    rintro t ⟨rfl, ht, hreached, hfault⟩
    cases hrun : t.process.run with
    | none =>
      refine Triple.pure ?_
      rintro t' rfl
      exact ⟨hreached, hstage⟩
    | some b =>
      refine (bindSession_triple r b.clockID now applyFault archiveFault journalFault
        fun hrenames => hfault hrenames _ ht.record).pre ?_
      rintro t' rfl
      exact ⟨ht, hstage, by rw [hrun]; rfl⟩
  refine setProcess_triple (fun t ht => ht.1.durable) ?_
  rintro t ⟨ht, hverified⟩
  exact ⟨⟨ht.disk, processInv_stage ht.process fun id hid =>
    (ht.process.producer id hid).receipt hverified, ht.origin⟩, ht.since, ht.remembers⟩

end Gateway

end NexusGateway.ClockSync
