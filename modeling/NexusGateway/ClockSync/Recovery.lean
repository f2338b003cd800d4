/-
Runs of the gateway: every action keeps the invariant (`SystemInv.step`), so
the files of every reachable state, also those a crash leaves inside a call,
are recovered.
-/

import NexusGateway.ClockSync.Messages
import NexusGateway.Provisioning.Revision

namespace NexusGateway.ClockSync

open Lib Lib.Prog Lib.Json PointList Provisioning StoreForward
open RunContext (Time Context Ledger Fault Envelope)

variable {c : Codec} {scope : Scope} {exact : String → Prop}

/-! ## Calls -/

def Op.Effect (c : Codec) (scope : Scope) (g₀ : Gateway) : Op → Gateway → Prop
  | .process msg now _ => Processed c scope g₀ msg now
  | _ => Durable c scope g₀

/-- The call does not bind an exact session and then fail to journal it. -/
def Op.Settles (exact : String → Prop) (p : Process) : Op → Prop
  | .activateRunSession _ _ _ journalFault =>
    journalFault.renames = false → ∀ id, p.record = some id → ¬ exact id
  | _ => True

theorem Op.settles_false (op : Op) (p : Process) : op.Settles (fun _ => False) p := by
  cases op with
  | activateRunSession now applyFault archiveFault journalFault => exact fun _ _ _ hid => hid
  | enableRunContext | ledger | configureSnapshot | verify | commit | admission | process =>
    trivial

theorem spec_of_triple {g₀ : Gateway} {p : Prog Gateway String Unit} {P : Gateway → Prop}
    (h : Triple (Durable c scope g₀) P p (fun _ => Reached c scope exact g₀)
      fun _ => Reached c scope exact g₀) (hP : P g₀) :
    (∀ t ∈ (p g₀).trace, DiskInv c scope t.disk t.history ∧ Durable c scope g₀ t) ∧
      GatewayInv c scope exact (p g₀).state ∧ Durable c scope g₀ (p g₀).state ∧
      Remembers g₀.process (p g₀).state.process := by
  refine ⟨fun t ht => ⟨(h.trace hP ht).1, h.trace hP ht⟩, ?_⟩
  have hstate := h.state hP
  exact ⟨hstate.toGatewayInv, hstate.durable, hstate.remembers⟩

theorem Op.spec (op : Op) {u : System} {p : Process} (hadmits : u.admits c scope op = true)
    (hg : GatewayInv c scope exact { disk := u.disk, process := p, history := u.history })
    (hsettles : op.Settles exact p) :
    let g : Gateway := { disk := u.disk, process := p, history := u.history }
    (∀ t ∈ (op.prog c scope g).trace,
        DiskInv c scope t.disk t.history ∧ op.Effect c scope g t) ∧
      GatewayInv c scope exact (op.prog c scope g).state ∧
      op.Effect c scope g (op.prog c scope g).state ∧
      Remembers p (op.prog c scope g).state.process := by
  intro g
  have hreached := Reached.refl hg
  cases op with
  | enableRunContext clockID envelope now fault =>
    exact spec_of_triple (Gateway.enableRunContext_triple clockID envelope now fault) hreached
  | ledger op =>
    exact spec_of_triple (Gateway.ledgerCall_triple (fun g g' h hg => h.reached hg)
      (fun g hg => hg.durable) op) hreached
  | configureSnapshot random snapshot nativeFault sessionFault =>
    simp only [System.admits] at hadmits
    split at hadmits
    · rename_i staged hstaged
      simp only [Bool.and_eq_true, decide_eq_true_eq] at hadmits
      rw [hadmits.1] at hstaged
      exact spec_of_triple (Gateway.configureSnapshot_triple random snapshot nativeFault
        sessionFault hstaged) ⟨hreached, hadmits.2⟩
    · cases hadmits
  | verify fault => exact spec_of_triple (Gateway.verify_triple fault) hreached
  | activateRunSession now applyFault archiveFault journalFault =>
    exact spec_of_triple (Gateway.activateRunSession_triple now applyFault archiveFault
      journalFault) ⟨hreached, hsettles⟩
  | commit fault => exact spec_of_triple (Gateway.commit_triple fault) hreached
  | admission held draining =>
    refine spec_of_triple (Gateway.setProcess_triple (fun g hg => hg.durable) fun t ht => ?_)
      hreached
    refine Gateway.SameFiles.reached (g := t) ⟨?_, rfl, rfl⟩ ht
    constructor <;> rfl
  | process msg now faults =>
    have htriple : Triple (Processed c scope g msg now) (· = g)
        (Gateway.processMessage c scope msg now faults) (fun _ => Processed c scope g msg now)
        fun _ => Processed c scope g msg now := Gateway.processMessage_triple faults
    have hstate := htriple.state rfl
    refine ⟨fun t ht => ?_, hstate.same.inv hg, hstate, .of_records hstate.same.records⟩
    have hprocessed := htriple.trace rfl ht
    exact ⟨(hprocessed.same.inv hg).disk, hprocessed⟩

/-! ## Recovery -/

theorem DiskInv.openSessions_eq {disk : Disk} {history : History}
    (h : DiskInv c scope disk history) :
    ∃ records, openSessions c.sha256 scope disk = .ok records ∧
      (∀ id runClockID native entries,
        Journaled c.sha256 scope disk id runClockID native entries →
        ∃ raw, stageClock c.sha256 raw scope = .ok { raw, native, entries } ∧
          records.lookup id = some
            { runClockID, session := id, raw, snapshot := { raw, native, entries }
              nativeHash := c.sha256 native.marshal
              verified := (disk.verified.lookup id).isSome }) ∧
      (∀ id, (records.lookup id).isSome → ∃ runClockID native entries,
        Journaled c.sha256 scope disk id runClockID native entries) := by
  have hopen : ∀ name file, disk.sessions.lookup name = some file →
      ∃ r, openSession c.sha256 scope disk name file = .ok r ∧ r.session = name := by
    intro name file hfile
    obtain ⟨runClockID, native, entries, hj⟩ := h.sessions name (by rw [hfile]; rfl)
    obtain ⟨file', raw, hfile', -, hr⟩ := hj.openSession_eq
    rw [hfile] at hfile'
    rw [Option.some.inj hfile']
    exact ⟨_, hr, rfl⟩
  obtain ⟨records, hrecords, hfiles, hnone⟩ := openSessions_eq_ok hopen
  refine ⟨records, hrecords, fun id runClockID native entries hj => ?_, fun id hid => ?_⟩
  · obtain ⟨file, raw, hfile, hstage, hr⟩ := hj.openSession_eq
    exact ⟨raw, hstage, hfiles id file _ hfile hr⟩
  · apply h.sessions id
    cases hfile : disk.sessions.lookup id with
    | none =>
      rw [hnone id hfile] at hid
      cases hid
    | some file => rfl

theorem DiskInv.processInv {disk : Disk} {history : History} (h : DiskInv c scope disk history)
    {records : Dict String SessionRecord}
    (hrecords : openSessions c.sha256 scope disk = .ok records) :
    ProcessInv c scope exact disk { records := records } where
  records id r hr := by
    obtain ⟨records', hok, hjournaled, honly⟩ := h.openSessions_eq
    rw [hrecords] at hok
    obtain rfl := Except.ok.inj hok
    obtain ⟨runClockID, native, entries, hj⟩ := honly id (by rw [hr]; rfl)
    obtain ⟨raw, hstage, hlookup⟩ := hjournaled id runClockID native entries hj
    rw [hr] at hlookup
    rw [Option.some.inj hlookup]
    exact ⟨rfl, hstage, rfl, ⟨runClockID, hj, fun _ => rfl⟩, fun hverified => hverified⟩
  producer id hid := by cases hid

structure SystemInv (c : Codec) (scope : Scope) (exact : String → Prop) (u : System) : Prop where
  disk : DiskInv c scope u.disk u.history
  gateway : ∀ p, u.process = some p →
    GatewayInv c scope exact { disk := u.disk, process := p, history := u.history }

theorem systemInv_init (ledger : RunContext.State) :
    SystemInv c scope exact (System.init ledger) where
  disk := by
    refine ⟨fun id hid => ?_, fun id hid => ?_, fun id hid => ?_, fun id hid => ?_, fun s hs => ?_,
      fun id => ?_, rfl, fun id hid => ?_⟩
    · cases hid
    · cases hid
    · cases hid
    · rcases hid with hid | hid <;> cases hid
    · cases hs
    · exact ⟨fun hid => absurd hid List.not_mem_nil, fun hid => by cases hid⟩
    · cases hid
  gateway p hp := by cases hp

def Action.Settles (exact : String → Prop) (u : System) : Action → Prop
  | .call op => ∀ p, u.process = some p → op.Settles exact p
  | _ => True

/-- What an action does to the files: nothing, or what one of the states of a call did. -/
inductive Action.Effect (c : Codec) (scope : Scope) (u : System) (a : Action) (v : System) : Prop
  | idle (disk : v.disk = u.disk) (history : v.history = u.history)
  | call (op : Op) (p : Process) (g : Gateway)
      (made : a = .call op ∨ ∃ after, a = .crashIn op after) (running : u.process = some p)
      (disk : v.disk = g.disk) (history : v.history = g.history)
      (effect : op.Effect c scope { disk := u.disk, process := p, history := u.history } g)

/-- The memory of a process is the one it had, with the same sessions verified, or what a
    start read from the files. -/
def Inherits (c : Codec) (scope : Scope) (u v : System) : Prop :=
  ∀ p', v.process = some p' → (∃ p, u.process = some p ∧ Remembers p p') ∨
    openSessions c.sha256 scope u.disk = .ok p'.records

/-- One action keeps the invariant, and does to the files what a call does. -/
theorem SystemInv.step {u v : System} {a : Action} (h : SystemInv c scope exact u)
    (hs : u.Steps c scope a v) (hsettles : a.Settles exact u) :
    SystemInv c scope exact v ∧ a.Effect c scope u v ∧ Inherits c scope u v := by
  cases a with
  | start =>
    simp only [System.Steps, System.step] at hs
    split at hs
    · rename_i records hprocess hrecords
      obtain rfl := Option.some.inj hs
      refine ⟨⟨h.disk, fun p hp => ?_⟩, .idle rfl rfl, fun p hp => ?_⟩
      · rw [← Option.some.inj hp]
        exact ⟨h.disk, h.disk.processInv hrecords, fun id hid => by cases hid⟩
      · rw [← Option.some.inj hp]
        exact .inr hrecords
    · rw [← Option.some.inj hs]
      exact ⟨h, .idle rfl rfl, fun p hp => .inl ⟨p, hp, .of_records rfl⟩⟩
    · cases hs
  | crash =>
    rw [← Option.some.inj hs]
    exact ⟨⟨h.disk, fun p hp => by cases hp⟩, .idle rfl rfl, fun p hp => by cases hp⟩
  | call op =>
    obtain ⟨p, hp, hs⟩ := Option.bind_eq_some_iff.mp hs
    split_ifs at hs with hadmits
    rw [← Option.some.inj hs]
    obtain ⟨-, hstate, heffect, hremembers⟩ :=
      Op.spec op hadmits (h.gateway p hp) (hsettles p hp)
    refine ⟨⟨hstate.disk, fun p' hp' => ?_⟩, .call op p _ (.inl rfl) hp rfl rfl heffect,
      fun p' hp' => ?_⟩
    · rw [← Option.some.inj hp']
      exact hstate
    · rw [← Option.some.inj hp']
      exact .inl ⟨p, hp, hremembers⟩
  | crashIn op after =>
    obtain ⟨p, hp, hs⟩ := Option.bind_eq_some_iff.mp hs
    split_ifs at hs with hadmits
    obtain ⟨g, hg, hs⟩ := Option.bind_eq_some_iff.mp hs
    rw [← Option.some.inj hs]
    -- the memory is lost, so no session has to be exact
    have hlost : Reached c scope (fun _ => False) _ _ :=
      (Reached.refl (h.gateway p hp)).weaken fun _ hid => hid.elim
    obtain ⟨htrace, -⟩ := Op.spec op hadmits hlost.toGatewayInv (op.settles_false p)
    obtain ⟨hdisk, heffect⟩ := htrace g (List.mem_of_getElem? hg)
    refine ⟨⟨hdisk, fun p' hp' => ?_⟩, .call op p g (.inr ⟨after, rfl⟩) hp rfl rfl heffect,
      fun p' hp' => ?_⟩
    · cases hp'
    · cases hp'

theorem Action.settles_false (u : System) (a : Action) : a.Settles (fun _ => False) u := by
  cases a with
  | call op => exact fun p _ => op.settles_false p
  | start | crashIn op after | crash => trivial

theorem systemInv_of_run {ledger : RunContext.State} {as : List Action} {u : System}
    (h : Run (System.Steps c scope) (System.init ledger) as u) :
    SystemInv c scope (fun _ => False) u :=
  h.invariant (systemInv_init ledger) fun u a _ hinv hs => (hinv.step hs (a.settles_false u)).1

/-- Whatever the history and wherever it crashed, the files are recovered: a session that
    `create` returned has the same revision, bundle, hash and points, the verified sessions
    are those with a receipt, and the last good snapshot is the last one committed. -/
theorem sessions_survive_crash {ledger : RunContext.State} {as : List Action} {u : System}
    (h : Run (System.Steps c scope) (System.init ledger) as u) :
    ∃ records, openSessions c.sha256 scope u.disk = .ok records ∧
      (∀ s ∈ u.history.created, ∃ r, records.lookup s.1 = some r ∧
        r.snapshot.revision = s.2.revision ∧ r.snapshot.native = s.2.native ∧
        r.snapshot.entries = s.2.entries ∧ r.nativeHash = c.sha256 s.2.native.marshal) ∧
      (∀ id r, records.lookup id = some r → (r.verified = true ↔ id ∈ u.history.receipts)) ∧
      (u.history.commits = [] → lastGood u.disk records = .ok none) ∧
      (∀ id, u.history.commits.getLast? = some id →
        ∃ snapshot good, (id, snapshot) ∈ u.history.created ∧
          lastGood u.disk records = .ok (some good) ∧ good.revision = snapshot.revision ∧
          good.native = snapshot.native ∧ good.entries = snapshot.entries) := by
  have hdisk := (systemInv_of_run h).disk
  obtain ⟨records, hrecords, hjournaled, honly⟩ := hdisk.openSessions_eq
  refine ⟨records, hrecords, fun s hs => ?_, fun id r hr => ?_, fun hnone => ?_, fun id hid => ?_⟩
  · obtain ⟨runClockID, hj⟩ := hdisk.created s hs
    obtain ⟨raw, -, hlookup⟩ := hjournaled _ _ _ _ hj
    exact ⟨_, hlookup, rfl, rfl, rfl, rfl⟩
  · obtain ⟨runClockID, native, entries, hj⟩ := honly id (by rw [hr]; rfl)
    obtain ⟨raw, -, hlookup⟩ := hjournaled _ _ _ _ hj
    rw [hr] at hlookup
    rw [Option.some.inj hlookup]
    exact (hdisk.written id).symm
  · have hactive := hdisk.commits
    rw [hnone] at hactive
    rw [lastGood, hactive]
    rfl
  · have hactive := hdisk.commits
    rw [hid] at hactive
    obtain ⟨snapshot, hs⟩ := hdisk.origins id (List.mem_of_getLast? hid)
    obtain ⟨runClockID, hj⟩ := hdisk.created _ hs
    obtain ⟨raw, -, hlookup⟩ := hjournaled id _ _ _ hj
    refine ⟨snapshot, { raw, native := snapshot.native, entries := snapshot.entries }, hs, ?_,
      rfl, rfl, rfl⟩
    simp only [lastGood, hactive, hlookup]
    exact if_pos (hdisk.active id hactive)

/-! ## A site -/

def siteDocument : Json :=
  .obj [("schemaVersion", .str "clock-provisioning/1-draft"), ("gatewayId", .str "gw"),
    ("revision", .str "\"sha256:\""), ("generatedAt", .str ""),
    ("points", .arr [.obj [("pointId", .str "p"), ("protocol", .str "bacnet"),
      ("device", .obj [("dtId", .str "e"), ("id", .str "1")]),
      ("native", .obj [("protocol", .str "bacnet"), ("deviceId", .str "1"),
        ("objectType", .str "analogInput"), ("instanceNo", .str "7")])]]),
    ("clockSources", .arr [.obj [("clockId", .str "k"), ("clockDomain", .str "simulation"),
      ("unit", .str "s"), ("readOnly", .bool true), ("acquisitionMode", .str "poll"),
      ("native", .obj [("protocol", .str "bacnet"), ("gatewayId", .str "gw"),
        ("connectorId", .str "c"), ("deviceInstance", .num "1"), ("objectType", .str "analogValue"),
        ("objectInstance", .num "1"), ("property", .str "presentValue"),
        ("unit", .str "seconds")])]]),
    ("clockBindings", .arr [.obj [("equipmentId", .str "e"), ("clockId", .str "k")]])]

def siteSnapshot : ClockSnapshot where
  raw := utf8 (text true siteDocument)
  native :=
    { revision := "\"sha256:\"", connectorID := "c", deviceID := 1
      points := [{ localID := "analogInput,7", deviceRef := "1", unit := "", writable := false }]
      clocks := [{ clockID := "k", localID := "analogValue,1", property := "presentValue",
                   pointLocalIDs := ["analogInput,7"] }] }
  entries := [{ connectorID := "c", protocol := "bacnet", localID := "analogInput,7"
                pointID := "p", unit := "", deviceRef := "1" }]

def siteEvent : Normalizer.Event :=
  { protocol := "bacnet", connectorID := "c", localID := "analogInput,7", deviceRef := "1"
    value := some (.valueBool true), unit := "", quality := "", timestamp := "2"
    attributes := (((∅ : Dict String String).insert "sim_clock_id" "k").insert
      "sim_config_revision" "\"sha256:\"").insert "sim_run_status" "absent" }

def siteContext : Context :=
  { schemaVersion := RunContext.schema, gatewayID := "gw", clockID := "k"
    provisioningRevision := "\"sha256:\"", runID := "run", generation := 1, status := "active"
    issuedAt := { instant := 1 }, validFrom := { instant := 1 }, expiresAt := { instant := 9 } }

def Identity.json (i : Identity) : Json :=
  .arr [.str i.session, .str i.start, .str i.stop,
    .str (String.ofList (i.raw.map fun b => Char.ofNat b.toNat))]

/-- Codecs with digests that have no collisions; the body `[1]` is the event, the payload
    `[1]` the lease. -/
def siteCodec : Codec where
  sha256 := digestOf (hashedText siteDocument)
  unmarshal data := if data = [1] then some siteEvent else none
  decodeContext data := if data = [1] then .ok siteContext else .error "invalid JSON"
  parseTime s := if s = "2" then some { instant := 2 } else none
  formatTime t := toString t.instant
  digest i := String.ofList (text true i.json)

def siteScope : Scope := { gatewayID := "gw", connectorID := "c", deviceID := 1 }

def siteLedger : RunContext.State := { scope := { gatewayID := "gw", clockID := "k" } }

def siteRandom : Vector UInt8 16 := Vector.replicate 16 0

def siteStart : List Action :=
  [.start, .call (.enableRunContext "k" ⟨[1]⟩ { instant := 1 } .none)]

def siteProvision (journalFault : Fault) : List Action :=
  siteStart ++ [.call (.configureSnapshot siteRandom siteSnapshot .none .none),
    .call (.verify .none), .call (.activateRunSession { instant := 2 } .none .none journalFault)]

def siteAfter (as : List Action) : Option System :=
  as.foldlM (System.step siteCodec siteScope) (System.init siteLedger)

theorem run_of_siteAfter {as : List Action} {u : System} (h : siteAfter as = some u) :
    Run (System.Steps siteCodec siteScope) (System.init siteLedger) as u :=
  Run.of_foldlM h

/-- The process dies after `active.json` was replaced: the session is the last good one. -/
theorem sessions_survive_crash_commit :
    ∃ u records good,
      siteAfter (siteProvision .none ++ [.crashIn (.commit .none) 0]) = some u ∧
      openSessions siteCodec.sha256 siteScope u.disk = .ok records ∧
      lastGood u.disk records = .ok (some good) ∧ good.native = siteSnapshot.native := by
  have hsummary : (siteAfter (siteProvision .none ++ [.crashIn (.commit .none) 0])).map
      (fun u => (u.history.commits, u.history.created)) =
        some ([hexEncode siteRandom.toList], [(hexEncode siteRandom.toList, siteSnapshot)]) := by
    decide +kernel
  obtain ⟨u, hu, hhistory⟩ := Option.map_eq_some_iff.mp hsummary
  obtain ⟨hcommits, hcreated⟩ := Prod.mk.inj hhistory
  obtain ⟨records, hrecords, -, -, -, hlast⟩ := sessions_survive_crash (run_of_siteAfter hu)
  obtain ⟨snapshot, good, hsnapshot, hgood, -, hnative, -⟩ :=
    hlast (hexEncode siteRandom.toList) (by rw [hcommits]; rfl)
  rw [hcreated, List.mem_singleton, Prod.mk.injEq] at hsnapshot
  rw [hsnapshot.2] at hnative
  exact ⟨u, records, good, hu, hrecords, hgood, hnative⟩

end NexusGateway.ClockSync
