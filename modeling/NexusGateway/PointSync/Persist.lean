/-
`Persist` and `Load` of the resolver (`internal/pointlist/synced.go`), as the
loop of `internal/pointsync/loop.go` uses them: `sync` writes the snapshot to
a file as indented JSON, and the next run starts from that file.

`os.WriteFile` truncates the file and then writes the data.  A crash leaves
the file as it was, or with some prefix of the data; the module asks after
which crashes the next `Load` still finds a Point List.
-/

import NexusGateway.Lib.JsonDecode
import NexusGateway.Lib.JsonPrefix
import NexusGateway.PointSync.Loop

namespace NexusGateway.PointList

open Lib Lib.Json

/-! ## Entries as JSON -/

/-- A string that is left out when it is empty (`omitempty`). -/
def omitEmpty (name value : String) : List (String × Json) :=
  optionalMember (value ≠ "") name (.str value)

namespace Entry

def names : List String :=
  ["release_of", "connector_id", "protocol", "local_id", "point_id", "unit", "writable",
    "device_ref", "control_schema"]

def members (e : Entry) : List (String × Json) :=
  omitEmpty "release_of" e.releaseOf ++
    (("connector_id", .str e.connectorID) :: ("protocol", .str e.protocol) ::
      ("local_id", .str e.localID) :: ("point_id", .str e.pointID) ::
      (omitEmpty "unit" e.unit ++ (optionalMember e.writable "writable" (.bool true) ++
        (omitEmpty "device_ref" e.deviceRef ++ omitEmpty "control_schema" e.controlSchema))))

def decode : Decoder Entry :=
  .openStruct "pointlist.Entry" fun old ms => do
    let releaseOf ← field names "release_of" .string old.releaseOf ms
    let connectorID ← field names "connector_id" .string old.connectorID ms
    let protocol ← field names "protocol" .string old.protocol ms
    let localID ← field names "local_id" .string old.localID ms
    let pointID ← field names "point_id" .string old.pointID ms
    let unit ← field names "unit" .string old.unit ms
    let writable ← field names "writable" .bool old.writable ms
    let deviceRef ← field names "device_ref" .string old.deviceRef ms
    let controlSchema ← field names "control_schema" .string old.controlSchema ms
    .ok { releaseOf, connectorID, protocol, localID, pointID, unit, writable, deviceRef,
          controlSchema }

end Entry

def snapshotJson (entries : List Entry) : Json := .arr (entries.map fun e => .obj e.members)

/-- `json.MarshalIndent` of a snapshot, two blanks for each level. -/
def marshalIndent (entries : List Entry) : List UInt8 :=
  utf8 (written (indented 2) true 0 (snapshotJson entries))

/-- `json.Unmarshal` into a slice of entries. -/
def unmarshalEntries (data : List UInt8) : Except String (List Entry) := do
  let (document, rest) ← (read data).elim (.error "invalid JSON") .ok
  refuse (rest.dropWhile isSpace ≠ []) "invalid character after top-level value"
  Decoder.slice Entry.zero Entry.decode [] document

/-! ## The file -/

/-- `Persist` up to the write: the data for the file. -/
def SyncedResolver.persistData (r : SyncedResolver) : List UInt8 := marshalIndent r.snapshot

/-- `Load`, from what `os.ReadFile` returns; `none` is a file that does not exist. -/
def SyncedResolver.load (r : SyncedResolver) :
    Except String (Option (List UInt8)) → Except String SyncedResolver
  | .error err => .error err
  | .ok none => .ok r
  | .ok (some data) => do
      let entries ← unmarshalEntries data
      return r.update entries

/-- Where a crash meets `os.WriteFile`: before the truncation, or after it with this many
    bytes written. -/
inductive CrashPoint where
  | beforeTruncate
  | written (n : Nat)

def fileAfter (old : Option (List UInt8)) (data : List UInt8) : CrashPoint → Option (List UInt8)
  | .beforeTruncate => old
  | .written n => some (data.take n)

/-- The crash comes before the truncation, or when all the data is written. -/
def CrashPoint.Harmless (data : List UInt8) : CrashPoint → Prop
  | .beforeTruncate => True
  | .written n => data.length ≤ n

/-! ## What is persisted is loaded -/

theorem Entry.decode_members (e : Entry) : Entry.decode Entry.zero (.obj e.members) = .ok e := by
  have hempty (s : String) :
      (if s = "" then Except.ok "" else Except.ok s : Except String String) = .ok s := by
    split
    · next h => rw [h]
    · rfl
  have hunset (b : Bool) :
      (if b = true then Except.ok true else Except.ok false : Except String Bool) = .ok b := by
    cases b <;> rfl
  simp [Entry.decode, Decoder.openStruct, Entry.zero, Entry.members, omitEmpty,
    field_optionalMember_append, field_optionalMember, field_cons, Entry.names, Decoder.string,
    Decoder.bool, ok_bind, hempty, hunset]

theorem wellFormed_snapshotJson (entries : List Entry) : WellFormed (snapshotJson entries) := by
  have hoptional {present : Bool} {name : String} {v : Json} (hv : WellFormed v) :
      ∀ m ∈ optionalMember present name v, WellFormed m.2 := by
    intro m hm
    rw [optionalMember] at hm
    split at hm
    · rw [List.mem_singleton.mp hm]
      exact hv
    · cases hm
  rw [snapshotJson, wellFormed_arr]
  intro j hj
  obtain ⟨e, -, rfl⟩ := List.mem_map.mp hj
  rw [wellFormed_obj]
  intro m hm
  simp only [Entry.members, omitEmpty, List.mem_append, List.mem_cons] at hm
  rcases hm with h | rfl | rfl | rfl | rfl | h | h | h | h
  · exact hoptional (wellFormed_str _) m h
  · exact wellFormed_str _
  · exact wellFormed_str _
  · exact wellFormed_str _
  · exact wellFormed_str _
  · exact hoptional (wellFormed_str _) m h
  · exact hoptional (wellFormed_bool _) m h
  · exact hoptional (wellFormed_str _) m h
  · exact hoptional (wellFormed_str _) m h

theorem decode_snapshotJson (entries : List Entry) :
    Decoder.slice Entry.zero Entry.decode [] (snapshotJson entries) = .ok entries := by
  show (entries.map fun e => Json.obj e.members).mapM (Entry.decode Entry.zero) = .ok entries
  induction entries with
  | nil => rfl
  | cons e entries ih =>
    rw [List.map_cons, List.mapM_cons, Entry.decode_members, ih]
    rfl

theorem unmarshalEntries_marshalIndent (entries : List Entry) :
    unmarshalEntries (marshalIndent entries) = .ok entries := by
  rw [unmarshalEntries, marshalIndent, read_written 0 (wellFormed_snapshotJson entries)]
  exact decode_snapshotJson entries

theorem unmarshalEntries_prefix {entries : List Entry} {n : Nat}
    (h : n < (marshalIndent entries).length) :
    unmarshalEntries ((marshalIndent entries).take n) = .error "invalid JSON" := by
  have htext : written (indented 2) true 0 (snapshotJson entries) =
      '[' :: writtenItems (indented 2) true 0 (entries.map fun e => .obj e.members) := by
    rw [snapshotJson, written]
  have hread : readValue _ (written (indented 2) true 0 (snapshotJson entries)) =
      some (snapshotJson entries, []) := readValue_written 0 (wellFormed_snapshotJson entries)
  have hdata : marshalIndent entries =
      utf8 ('[' :: writtenItems (indented 2) true 0 (entries.map fun e => .obj e.members)) := by
    rw [marshalIndent, htext]
  have hne : (marshalIndent entries).take n ≠ marshalIndent entries := by
    intro heq
    have hlen := congrArg List.length heq
    rw [List.length_take] at hlen
    omega
  have hnone : read ((marshalIndent entries).take n) = none := by
    rw [htext] at hread
    refine read_prefix hread ?_ ?_
    · rw [← hdata]
      exact List.take_prefix n _
    · rw [← hdata]
      exact hne
  rw [unmarshalEntries, hnone]
  rfl

/-! ## Crashes -/

def Recovers (file : Option (List UInt8)) (a b : List Entry) : Prop :=
  ∃ r, SyncedResolver.new.load (.ok file) = .ok r ∧ (r.snapshot = a ∨ r.snapshot = b)

theorem recovers_iff {r ra : SyncedResolver} {old : List UInt8}
    (hold : SyncedResolver.new.load (.ok (some old)) = .ok ra) (point : CrashPoint) :
    Recovers (fileAfter (some old) r.persistData point) ra.snapshot r.snapshot ↔
      point.Harmless r.persistData := by
  cases point with
  | beforeTruncate => exact ⟨fun _ => trivial, fun _ => ⟨ra, hold, .inl rfl⟩⟩
  | written n =>
    constructor
    · rintro ⟨r', hload, -⟩
      by_contra hn
      have hlen : n < (marshalIndent r.snapshot).length := Nat.lt_of_not_le hn
      rw [fileAfter, SyncedResolver.load, SyncedResolver.persistData,
        unmarshalEntries_prefix hlen] at hload
      cases hload
    · intro hn
      have hall : r.persistData.take n = marshalIndent r.snapshot := List.take_of_length_le hn
      refine ⟨SyncedResolver.new.update r.snapshot, ?_, .inr (SyncedResolver.snapshot_update _ _)⟩
      rw [fileAfter, SyncedResolver.load, hall, unmarshalEntries_marshalIndent]
      rfl

end NexusGateway.PointList

namespace NexusGateway.PointSync

open PointList

/-- What `Loop.sync` writes to `PersistPath`: nothing unless the fetch brought a list. -/
def Loop.persistData (l : Loop) (persistPath : String) (s : SyncState)
    (fetched : Except String (Option FetchResult)) : Option (List UInt8) :=
  match fetched with
  | .ok (some result) =>
    if persistPath ≠ "" then some (l.sync s (.ok (some result))).1.resolver.persistData else none
  | _ => none

theorem eq_of_persistData {l : Loop} {persistPath : String} {s : SyncState}
    {fetched : Except String (Option FetchResult)} {data : List UInt8}
    (h : l.persistData persistPath s fetched = some data) :
    data = (l.sync s fetched).1.resolver.persistData := by
  unfold Loop.persistData at h
  split at h
  · split_ifs at h
    exact (Option.some.inj h).symm
  · cases h

/-- A crash while `Loop.sync` persists a snapshot over another that could be loaded: the
    next `Load` succeeds, with the old or the new entries, exactly if the crash comes before
    the file is truncated or after all of the data is written. -/
theorem load_after_crash_iff {l : Loop} {persistPath : String} {s : SyncState}
    {fetched : Except String (Option FetchResult)} {old data : List UInt8} {ra : SyncedResolver}
    (hold : SyncedResolver.new.load (.ok (some old)) = .ok ra)
    (hdata : l.persistData persistPath s fetched = some data) (point : CrashPoint) :
    Recovers (fileAfter (some old) data point) ra.snapshot (l.sync s fetched).1.resolver.snapshot ↔
      point.Harmless data := by
  rw [eq_of_persistData hdata]
  exact recovers_iff hold point

def freshLoop : Loop := { resolver := .new, appliedETag := "" }

def onePoint : Except String (Option FetchResult) :=
  .ok (some
    { etag := "r2"
      full := true
      entries := [{ connectorID := "bacnet", localID := "1:2", pointID := "p1" }] })

/-- An empty Point List is replaced; the crash comes after all the data is written. -/
theorem load_after_crash_complete :
    ∃ data, freshLoop.persistData "points.json" ⟨"", []⟩ onePoint = some data ∧
      Recovers (fileAfter (some (marshalIndent [])) data (.written data.length)) []
        (freshLoop.sync ⟨"", []⟩ onePoint).1.resolver.snapshot := by
  have hold : SyncedResolver.new.load (.ok (some (marshalIndent []))) =
      .ok (SyncedResolver.new.update []) := rfl
  obtain ⟨data, hdata⟩ :
      ∃ data, freshLoop.persistData "points.json" ⟨"", []⟩ onePoint = some data := ⟨_, rfl⟩
  exact ⟨data, hdata, (load_after_crash_iff hold hdata _).mpr (Nat.le_refl _)⟩

/-- A crash between the truncation and the first byte leaves an empty file: the next `Load`
    fails, although the file held a Point List before and was to hold one after. -/
theorem not_recovers_truncated :
    SyncedResolver.new.load (.ok (some (marshalIndent []))) = .ok (SyncedResolver.new.update []) ∧
      ∃ data, freshLoop.persistData "points.json" ⟨"", []⟩ onePoint = some data ∧
        ¬ Recovers (fileAfter (some (marshalIndent [])) data (.written 0)) []
          (freshLoop.sync ⟨"", []⟩ onePoint).1.resolver.snapshot := by
  refine ⟨rfl, _, rfl, ?_⟩
  rintro ⟨r, hload, -⟩
  cases hload

end NexusGateway.PointSync
