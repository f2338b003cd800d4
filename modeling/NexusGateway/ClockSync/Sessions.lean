/-
`internal/clocksync/sessions.go`: the session records, their files, and
`openSessions`, which rebuilds the records from the files.

A file is its text.  The journal file of a session is the JSON text of its
record with the provisioning document inside, without insignificant space,
as `json.Marshal` writes a raw message; the escapes of the document's strings
are those of the encoder, which reads back the same.  Directories, modes and
the staging files of `atomicFile`, which no pattern matches, are left out.
-/

import NexusGateway.Lib.JsonWriter
import NexusGateway.Provisioning.Clock
import NexusGateway.RunContext.Ledger
import NexusGateway.StoreForward.Buffer

namespace NexusGateway.Provisioning

open Lib Lib.Json

/-- `json.Marshal` of a native bundle. -/
def NativeClockConfig.marshal (c : NativeClockConfig) : List Char :=
  text true (.obj [
    ("revision", .str c.revision),
    ("connector_id", .str c.connectorID),
    ("device_id", .num (toString c.deviceID)),
    ("points", .arr (c.points.map fun p => .obj [
      ("local_id", .str p.localID), ("device_ref", .str p.deviceRef), ("unit", .str p.unit),
      ("writable", .bool p.writable)])),
    ("clocks", .arr (c.clocks.map fun k => .obj [
      ("clock_id", .str k.clockID), ("local_id", .str k.localID), ("property", .str k.property),
      ("point_local_ids", .arr (k.pointLocalIDs.map .str))]))])

end NexusGateway.Provisioning

namespace NexusGateway.ClockSync

open Lib Lib.Json Provisioning

/-! ## Records and files -/

/-- `sessionRecord`; `raw` is its field `Snapshot`. -/
structure SessionRecord where
  runClockID : String := ""
  session : String
  raw : List UInt8
  snapshot : ClockSnapshot
  nativeHash : String
  verified : Bool := false

/-- `hex.EncodeToString`. -/
def hexEncode (bytes : List UInt8) : String :=
  String.ofList (bytes.flatMap fun b => [hexDigit (b.toNat / 16), hexDigit (b.toNat % 16)])

def sessionPattern (s : String) : Bool :=
  s.toList.length = 32 && s.toList.all fun c => ('0' ≤ c && c ≤ '9') || ('a' ≤ c && c ≤ 'f')

theorem hexDigit_lower : ∀ n < 16,
    (('0' ≤ hexDigit n && hexDigit n ≤ '9') || ('a' ≤ hexDigit n && hexDigit n ≤ 'f')) = true := by
  decide

theorem length_hexEncode (bytes : List UInt8) :
    (hexEncode bytes).toList.length = 2 * bytes.length := by
  rw [hexEncode, String.toList_ofList, List.length_flatMap]
  simp [Nat.mul_comm]

theorem hexEncode_lower (bytes : List UInt8) :
    ((hexEncode bytes).toList.all fun c =>
      ('0' ≤ c && c ≤ '9') || ('a' ≤ c && c ≤ 'f')) = true := by
  rw [hexEncode, String.toList_ofList, List.all_eq_true]
  intro d hd
  obtain ⟨b, -, hd⟩ := List.mem_flatMap.mp hd
  have hb := b.toNat_lt
  rcases List.mem_pair.mp hd with rfl | rfl
  · exact hexDigit_lower _ (by omega)
  · exact hexDigit_lower _ (by omega)

/-- The members that `json.Marshal` writes for a record; an empty run clock is left out. -/
def recordJson (runClockID session : String) (snapshot : Json) : Json :=
  .obj ((if runClockID = "" then [] else [("runClockId", .str runClockID)]) ++
    [("session", .str session), ("snapshot", snapshot)])

/-- `json.Marshal` of a record: its raw message has to be one JSON value. -/
def SessionRecord.marshal (r : SessionRecord) : Except String (List Char) :=
  match read r.raw with
  | some (snapshot, rest) =>
    if rest.dropWhile isSpace = [] then
      .ok (text true (recordJson r.runClockID r.session snapshot))
    else .error "json: error calling MarshalJSON for type json.RawMessage"
  | none => .error "json: error calling MarshalJSON for type json.RawMessage"

structure StoredRecord where
  runClockID : String := ""
  session : String := ""
  raw : List UInt8 := []

def StoredRecord.names : List String := ["runClockId", "session", "snapshot"]

def rawMessage : Decoder (List UInt8) := fun _ j => .ok (utf8 (text true j))

def StoredRecord.decode : Json → Except String StoredRecord
  | .null => .ok {}
  | .obj ms => do
      let runClockID ← field names "runClockId" .string "" ms
      let session ← field names "session" .string "" ms
      let raw ← field names "snapshot" rawMessage [] ms
      return { runClockID, session, raw }
  | j => .error (mismatch j "clocksync.sessionRecord")

def unmarshalRecord (file : List Char) : Except String StoredRecord := do
  let (document, rest) ← (readValue file.length file).elim (.error "invalid JSON") .ok
  refuse (rest.dropWhile isSpace ≠ []) "invalid character after top-level value"
  StoredRecord.decode document

/-- The files of the clock state directory and the run ledger.  The keys are session
    ids; the receipts are keyed by the digest of what they classify. -/
structure Disk where
  /-- `native/<id>.json` -/
  native : Dict String (List Char) := ∅
  /-- `sessions/<id>.json` -/
  sessions : Dict String (List Char) := ∅
  /-- `sessions/<id>.json.verified` -/
  verified : Dict String String := ∅
  /-- `run-context/<id>.json`; `none` where the write was cut short -/
  runContext : Dict String (Option RunContext.State) := ∅
  /-- `active.json` -/
  active : Option String := none
  /-- `run-frames/<digest>.pb` -/
  runFrames : Dict String StoreForward.TelemetryFrame := ∅
  /-- the file of the run ledger -/
  ledger : RunContext.State

/-! ## Recovery -/

section Recovery

variable (sha256 : List Char → String) (scope : Scope)

/-- One journal file of `openSessions`; `name` is its name without `.json`. -/
def openSession (disk : Disk) (name : String) (file : List Char) :
    Except String SessionRecord := do
  let stored ← unmarshalRecord file
  refuse (!sessionPattern stored.session || name ≠ stored.session)
    "invalid archived session identity"
  let snapshot ← stageClock sha256 stored.raw scope
  let native ← (disk.native.lookup stored.session).elim (.error "native bundle unavailable") .ok
  refuse (native ≠ snapshot.native.marshal) "archived native bundle mismatch"
  refuse (stored.runClockID ≠ "" &&
    snapshot.native.clocks.all fun c => c.clockID ≠ stored.runClockID)
    "archived run clock missing from snapshot"
  refuse (stored.runClockID ≠ "" && (disk.runContext.lookup stored.session).isNone)
    "run session history unavailable"
  let nativeHash := sha256 native
  refuse ((disk.verified.lookup name).any (· ≠ nativeHash)) "invalid archived runtime receipt"
  return { runClockID := stored.runClockID, session := stored.session, raw := stored.raw,
           snapshot, nativeHash, verified := (disk.verified.lookup name).isSome }

/-- `openSessions`: it fails if any of the files does. -/
def openSessions (disk : Disk) : Except String (Dict String SessionRecord) :=
  disk.sessions.entries.foldlM (fun records file => do
    let r ← openSession sha256 scope disk file.1 file.2
    return records.insert r.session r) ∅

end Recovery

def lastGood (disk : Disk) (records : Dict String SessionRecord) :
    Except String (Option ClockSnapshot) :=
  match disk.active with
  | none => .ok none
  | some id =>
    match records.lookup id with
    | some r =>
      if r.verified then .ok (some r.snapshot) else .error "invalid last-good session journal"
    | none => .error "invalid last-good session journal"

/-! ## What was journaled is recovered -/

theorem recordJson_wellFormed {runClockID session : String} {snapshot : Json}
    (h : WellFormed snapshot) : WellFormed (recordJson runClockID session snapshot) := by
  by_cases hclock : runClockID = ""
  · simp [recordJson, hclock, h]
  · simp [recordJson, hclock, h]

theorem decode_recordJson (runClockID session : String) (snapshot : Json) :
    StoredRecord.decode (recordJson runClockID session snapshot) =
      .ok { runClockID, session, raw := utf8 (text true snapshot) } := by
  have hclock : resolve StoredRecord.names "runClockId" = some "runClockId" := by decide
  have hsession : resolve StoredRecord.names "session" = some "session" := by decide
  have hsnapshot : resolve StoredRecord.names "snapshot" = some "snapshot" := by decide
  rw [recordJson, StoredRecord.decode, bind_eq_ok]
  refine ⟨runClockID, ?_, bind_eq_ok.mpr ⟨session, ?_, bind_eq_ok.mpr ⟨_, ?_, rfl⟩⟩⟩
  · by_cases hempty : runClockID = ""
    · simp [hempty, field, hsession, hsnapshot, pure, Except.pure]
    · simp [hempty, field, hclock, hsession, hsnapshot, Decoder.string]
  · by_cases hempty : runClockID = ""
    · simp [hempty, field, hsession, hsnapshot, Decoder.string]
    · simp [hempty, field, hclock, hsession, hsnapshot, Decoder.string]
  · by_cases hempty : runClockID = ""
    · simp [hempty, field, hsession, hsnapshot, rawMessage]
    · simp [hempty, field, hclock, hsession, hsnapshot, rawMessage]

theorem unmarshalRecord_text {runClockID session : String} {snapshot : Json}
    (h : WellFormed snapshot) :
    unmarshalRecord (text true (recordJson runClockID session snapshot)) =
      .ok { runClockID, session, raw := utf8 (text true snapshot) } := by
  have hwf : WellFormed (recordJson runClockID session snapshot) := recordJson_wellFormed h
  rw [unmarshalRecord, readValue_text hwf]
  exact decode_recordJson runClockID session snapshot

section Journaled

variable {sha256 : List Char → String} {scope : Scope}

/-- The files of a session whose record was journaled with the run clock: the bundle that
    its document is staged to, and what the run clock needs. -/
structure Journaled (sha256 : List Char → String) (scope : Scope) (disk : Disk)
    (session runClockID : String) (native : NativeClockConfig) (entries : List PointList.Entry) :
    Prop where
  pattern : sessionPattern session = true
  journal : ∃ document, WellFormed document ∧
    disk.sessions.lookup session = some (text true (recordJson runClockID session document)) ∧
    stageClockSnapshot sha256 (utf8 (text true document)) scope = .ok (native, entries)
  bundle : disk.native.lookup session = some native.marshal
  clock : runClockID ≠ "" → ∃ c ∈ native.clocks, c.clockID = runClockID
  archive : runClockID ≠ "" → (disk.runContext.lookup session).isSome
  receipt : ∀ proof, disk.verified.lookup session = some proof → proof = sha256 native.marshal

theorem Journaled.congr {disk disk' : Disk} {session runClockID : String}
    {native : NativeClockConfig} {entries : List PointList.Entry}
    (h : Journaled sha256 scope disk session runClockID native entries)
    (hsessions : disk'.sessions.lookup session = disk.sessions.lookup session)
    (hnative : disk'.native.lookup session = disk.native.lookup session)
    (hverified : disk'.verified.lookup session = disk.verified.lookup session)
    (harchive : (disk.runContext.lookup session).isSome →
      (disk'.runContext.lookup session).isSome) :
    Journaled sha256 scope disk' session runClockID native entries where
  pattern := h.pattern
  journal := by
    rw [hsessions]
    exact h.journal
  bundle := by
    rw [hnative]
    exact h.bundle
  clock := h.clock
  archive := fun hclock => harchive (h.archive hclock)
  receipt := by
    rw [hverified]
    exact h.receipt

theorem SessionRecord.marshal_eq_ok {r : SessionRecord}
    (h : stageClock sha256 r.raw scope = .ok r.snapshot) :
    ∃ document, WellFormed document ∧
      r.marshal = .ok (text true (recordJson r.runClockID r.session document)) ∧
      stageClockSnapshot sha256 (utf8 (text true document)) scope =
        .ok (r.snapshot.native, r.snapshot.entries) := by
  obtain ⟨⟨native, entries⟩, hstage, hsnapshot⟩ := bind_eq_ok.mp h
  obtain ⟨document, rest, hread, hblank, hrestage⟩ := stageClockSnapshot_restage hstage
  have hwf := read_wellFormed hread
  refine ⟨document, hwf, ?_, ?_⟩
  · rw [SessionRecord.marshal, hread]
    exact if_pos hblank
  · rw [← Except.ok.inj hsnapshot]
    exact hrestage _ (read_text hwf)

theorem Journaled.openSession_eq {disk : Disk} {session runClockID : String}
    {native : NativeClockConfig} {entries : List PointList.Entry}
    (h : Journaled sha256 scope disk session runClockID native entries) :
    ∃ file raw, disk.sessions.lookup session = some file ∧
      stageClock sha256 raw scope = .ok { raw, native, entries } ∧
      openSession sha256 scope disk session file =
        .ok { runClockID, session, raw, snapshot := { raw, native, entries }
              nativeHash := sha256 native.marshal
              verified := (disk.verified.lookup session).isSome } := by
  obtain ⟨document, hwf, hfile, hstage⟩ := h.journal
  refine ⟨_, utf8 (text true document), hfile, bind_eq_ok.mpr ⟨_, hstage, rfl⟩, ?_⟩
  have hclock : (decide (runClockID ≠ "") && native.clocks.all fun c => c.clockID ≠ runClockID) =
      false := by
    by_cases hempty : runClockID = ""
    · simp [hempty]
    · obtain ⟨c, hc, heq⟩ := h.clock hempty
      simp only [Bool.and_eq_false_iff, List.all_eq_false]
      exact .inr ⟨c, hc, by simp [heq]⟩
  have harchive : (decide (runClockID ≠ "") && (disk.runContext.lookup session).isNone) =
      false := by
    by_cases hempty : runClockID = ""
    · simp [hempty]
    · have hsome := h.archive hempty
      rw [Bool.and_eq_false_iff, Option.isNone_eq_false_iff]
      exact .inr hsome
  have hreceipt : (disk.verified.lookup session).any (· ≠ sha256 native.marshal) = false := by
    cases hproof : disk.verified.lookup session with
    | none => rfl
    | some proof => simp [h.receipt proof hproof]
  rw [openSession]
  refine bind_eq_ok.mpr ⟨_, unmarshalRecord_text hwf, ?_⟩
  refine refuse_bind_eq_ok.mpr ⟨by simp [h.pattern], ?_⟩
  refine bind_eq_ok.mpr ⟨_, bind_eq_ok.mpr ⟨_, hstage, rfl⟩, ?_⟩
  refine bind_eq_ok.mpr ⟨_, elim_eq_ok.mpr h.bundle, ?_⟩
  refine refuse_bind_eq_ok.mpr ⟨by simp, ?_⟩
  refine refuse_bind_eq_ok.mpr ⟨hclock, ?_⟩
  refine refuse_bind_eq_ok.mpr ⟨harchive, ?_⟩
  exact refuse_bind_eq_ok.mpr ⟨hreceipt, rfl⟩

theorem foldlM_openSession {disk : Disk} {files : List (Sigma fun _ : String => List Char)}
    (hnodup : files.NodupKeys)
    (h : ∀ f ∈ files, ∃ r, openSession sha256 scope disk f.1 f.2 = .ok r ∧ r.session = f.1)
    (acc : Dict String SessionRecord) :
    ∃ records, files.foldlM (fun records file => do
        let r ← openSession sha256 scope disk file.1 file.2
        return AList.insert r.session r records) acc = .ok records ∧
      ∀ name, (∀ f ∈ files, f.1 = name → ∀ r, openSession sha256 scope disk f.1 f.2 = .ok r →
          records.lookup name = some r) ∧
        ((∀ f ∈ files, f.1 ≠ name) → records.lookup name = acc.lookup name) := by
  induction files generalizing acc with
  | nil => exact ⟨acc, rfl, fun name => ⟨by simp, fun _ => rfl⟩⟩
  | cons f files ih =>
    obtain ⟨hf, hnodup⟩ := List.nodupKeys_cons.mp hnodup
    obtain ⟨r, hr, hname⟩ := h f (List.mem_cons_self ..)
    obtain ⟨records, hfold, hrecords⟩ :=
      ih hnodup (fun g hg => h g (List.mem_cons_of_mem _ hg)) (AList.insert r.session r acc)
    refine ⟨records, ?_, fun name => ⟨?_, ?_⟩⟩
    · rw [List.foldlM_cons]
      exact bind_eq_ok.mpr ⟨_, bind_eq_ok.mpr ⟨r, hr, rfl⟩, hfold⟩
    · intro g hg hgname r' hr'
      rcases List.mem_cons.mp hg with rfl | hg
      · -- the first file: no later file has its name
        have hlater : ∀ f ∈ files, f.1 ≠ name := by
          rintro f' hf' rfl
          exact hf (hgname ▸ List.mem_keys_of_mem hf')
        rw [(hrecords name).2 hlater, ← hgname, ← hname, AList.lookup_insert]
        rw [hr] at hr'
        exact congrArg some (Except.ok.inj hr')
      · exact (hrecords name).1 g hg hgname r' hr'
    · intro hnone
      have hne : name ≠ r.session := by
        rw [hname]
        exact (hnone f (List.mem_cons_self ..)).symm
      rw [(hrecords name).2 fun g hg => hnone g (List.mem_cons_of_mem _ hg),
        AList.lookup_insert_ne hne]

theorem openSessions_eq_ok {disk : Disk}
    (h : ∀ name file, disk.sessions.lookup name = some file →
      ∃ r, openSession sha256 scope disk name file = .ok r ∧ r.session = name) :
    ∃ records, openSessions sha256 scope disk = .ok records ∧
      (∀ name file r, disk.sessions.lookup name = some file →
        openSession sha256 scope disk name file = .ok r → records.lookup name = some r) ∧
      (∀ name, disk.sessions.lookup name = none → records.lookup name = none) := by
  obtain ⟨records, hfold, hrecords⟩ := foldlM_openSession disk.sessions.nodupKeys
    (fun f hf => h f.1 f.2 (AList.mem_lookup_iff.mpr hf)) (∅ : Dict String SessionRecord)
  refine ⟨records, hfold, fun name file r hfile hr => ?_, fun name hnone => ?_⟩
  · exact (hrecords name).1 ⟨name, file⟩ (AList.mem_lookup_iff.mp hfile) rfl r hr
  · rw [(hrecords name).2 fun f hf hname => ?_]
    · rfl
    · have hsome : f.2 ∈ disk.sessions.lookup f.1 := AList.mem_lookup_iff.mpr hf
      rw [hname, hnone] at hsome
      cases hsome

end Journaled

end NexusGateway.ClockSync
