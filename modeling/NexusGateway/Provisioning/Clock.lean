/-
`internal/provisioning/clock.go`: staging of a clock provisioning snapshot.

The document is decoded twice: into `ClockSnapshotJSON`, by field names up to
case, and by `clockJSONValue`, by exact names.  The revision is a digest of
the second; the staged bundle is made of the first.  SHA-256 is a parameter
that takes the canonical text to the hexadecimal digest.
-/

import NexusGateway.Provisioning.Dto
import NexusGateway.ClockSync.Runtime

namespace NexusGateway.Provisioning

open Lib Lib.Json PointList

/-! ## The typed document -/

structure ClockNative where
  protocol : String := ""
  gatewayID : String := ""
  connectorID : String := ""
  deviceInstance : Option Int := none
  objectType : String := ""
  objectInstance : Option Int := none
  property : String := ""
  unit : String := ""
deriving DecidableEq

structure ClockSource where
  clockID : String := ""
  clockDomain : String := ""
  unit : String := ""
  readOnly : Bool := false
  acquisitionMode : String := ""
  native : ClockNative := {}
deriving DecidableEq

structure ClockBinding where
  equipmentID : String := ""
  clockID : String := ""
deriving DecidableEq

/-- `clockSnapshot`, the document as the typed decoder sees it. -/
structure ClockSnapshotJSON where
  schemaVersion : String := ""
  gatewayID : String := ""
  revision : String := ""
  generatedAt : String := ""
  points : List GatewayPointDTOJSON := []
  clockSources : List ClockSource := []
  clockBindings : List ClockBinding := []
deriving DecidableEq

namespace ClockNative

def names : List String :=
  ["protocol", "gatewayId", "connectorId", "deviceInstance", "objectType", "objectInstance",
    "property", "unit"]

def decode : Decoder ClockNative :=
  .struct "provisioning.clockNative" names fun old ms => do
    let protocol ← field names "protocol" .string old.protocol ms
    let gatewayID ← field names "gatewayId" .string old.gatewayID ms
    let connectorID ← field names "connectorId" .string old.connectorID ms
    let deviceInstance ← field names "deviceInstance" (.pointer 0 .int) old.deviceInstance ms
    let objectType ← field names "objectType" .string old.objectType ms
    let objectInstance ← field names "objectInstance" (.pointer 0 .int) old.objectInstance ms
    let property ← field names "property" .string old.property ms
    let unit ← field names "unit" .string old.unit ms
    .ok { protocol, gatewayID, connectorID, deviceInstance, objectType, objectInstance, property,
          unit }

end ClockNative

namespace ClockSource

def names : List String :=
  ["clockId", "clockDomain", "unit", "readOnly", "acquisitionMode", "native"]

def decode : Decoder ClockSource :=
  .struct "provisioning.clockSource" names fun old ms => do
    let clockID ← field names "clockId" .string old.clockID ms
    let clockDomain ← field names "clockDomain" .string old.clockDomain ms
    let unit ← field names "unit" .string old.unit ms
    let readOnly ← field names "readOnly" .bool old.readOnly ms
    let acquisitionMode ← field names "acquisitionMode" .string old.acquisitionMode ms
    let native ← field names "native" ClockNative.decode old.native ms
    .ok { clockID, clockDomain, unit, readOnly, acquisitionMode, native }

end ClockSource

namespace ClockBinding

def names : List String := ["equipmentId", "clockId"]

def decode : Decoder ClockBinding :=
  .struct "provisioning.clockBinding" names fun old ms => do
    let equipmentID ← field names "equipmentId" .string old.equipmentID ms
    let clockID ← field names "clockId" .string old.clockID ms
    .ok { equipmentID, clockID }

end ClockBinding

namespace ClockSnapshotJSON

def names : List String :=
  ["schemaVersion", "gatewayId", "revision", "generatedAt", "points", "clockSources",
    "clockBindings"]

def decode : Decoder ClockSnapshotJSON :=
  .struct "provisioning.clockSnapshot" names fun old ms => do
    let schemaVersion ← field names "schemaVersion" .string old.schemaVersion ms
    let gatewayID ← field names "gatewayId" .string old.gatewayID ms
    let revision ← field names "revision" .string old.revision ms
    let generatedAt ← field names "generatedAt" .string old.generatedAt ms
    let points ← field names "points" (.slice {} GatewayPointDTOJSON.decode) old.points ms
    let clockSources ← field names "clockSources" (.slice {} ClockSource.decode) old.clockSources ms
    let clockBindings ←
      field names "clockBindings" (.slice {} ClockBinding.decode) old.clockBindings ms
    .ok { schemaVersion, gatewayID, revision, generatedAt, points, clockSources, clockBindings }

end ClockSnapshotJSON

/-! ## The hashed document -/

mutual

/-- `clockJSONValue`: the generic value, where a map is its members ordered by name.
    Null and numbers that are not integers are refused, and a name that an object has
    twice. -/
def clockJSONValue : Json → Except String Json
  | .null => .error "null properties must be omitted"
  | .num l =>
    if (parseInt64 l.toList).isNone then .error "static numbers must be integers"
    else .ok (.num l)
  | .obj ms => do
      let members ← clockJSONMembers [] ms
      .ok (.obj (sortMembers members))
  | .arr xs => do
      let items ← clockJSONItems xs
      .ok (.arr items)
  | .str s => .ok (.str s)
  | .bool b => .ok (.bool b)

def clockJSONItems : List Json → Except String (List Json)
  | [] => .ok []
  | x :: xs => do
      let value ← clockJSONValue x
      let rest ← clockJSONItems xs
      .ok (value :: rest)

def clockJSONMembers (seen : List String) :
    List (String × Json) → Except String (List (String × Json))
  | [] => .ok []
  | m :: ms =>
    if m.1 ∈ seen then .error "duplicate JSON key"
    else do
      let value ← clockJSONValue m.2
      let rest ← clockJSONMembers (m.1 :: seen) ms
      .ok ((m.1, value) :: rest)

end

/-- The members that the revision covers: all but `revision` and `generatedAt`. -/
def hashed (m : String × Json) : Bool := m.1 ≠ "revision" ∧ m.1 ≠ "generatedAt"

def hasArray (ms : List (String × Json)) (key : String) : Bool :=
  match ms.lookup key with
  | some (.arr _) => true
  | _ => false

def revisionOf (sha256 : List Char → String) (ms : List (String × Json)) : String :=
  "\"sha256:" ++ sha256 (text false (.obj (ms.filter hashed))) ++ "\""

/-! ## Staging -/

/-- The scope arguments of `StageClockSnapshot`. -/
structure Scope where
  gatewayID : String
  connectorID : String
  deviceID : Int
deriving DecidableEq

/-- `sort.SliceIsSorted`: no element is less than the one before it. -/
def sliceIsSorted {α : Type} (less : α → α → Bool) : List α → Bool
  | a :: b :: rest => !less b a && sliceIsSorted less (b :: rest)
  | _ => true

structure StagedClocks where
  /-- `clocks`: the position of each clock id -/
  index : Dict String Nat := ∅
  objects : List String := []
  native : List NativeClock := []

def ClockSource.supported (scope : Scope) (c : ClockSource) : Bool :=
  c.clockID ≠ "" && c.clockDomain = "simulation" && c.unit = "s" && c.readOnly &&
    c.acquisitionMode = "poll" && c.native.protocol = "bacnet" &&
    c.native.gatewayID = scope.gatewayID && c.native.connectorID = scope.connectorID &&
    c.native.deviceInstance = some scope.deviceID &&
    c.native.objectInstance.any (fun n => 0 ≤ n && n ≤ 4194303) &&
    (c.native.objectType = "analogValue" || c.native.objectType = "analogInput") &&
    c.native.property = "presentValue" && c.native.unit = "seconds"

def stageSource (scope : Scope) (st : StagedClocks) (c : ClockSource) :
    Except String StagedClocks := do
  refuse (!c.supported scope) "unsupported clock definition or scope"
  refuse (st.index.lookup c.clockID).isSome "duplicate clock"
  let localID := c.native.objectType ++ "," ++ toString (c.native.objectInstance.getD 0)
  refuse (localID ∈ st.objects) "duplicate native clock address"
  return {
    index := st.index.insert c.clockID st.native.length
    objects := localID :: st.objects
    native := st.native ++
      [{ clockID := c.clockID, localID := localID, property := c.native.property,
         pointLocalIDs := [] }] }

def stageBinding (clocks : StagedClocks) (bindings : Dict String String) (b : ClockBinding) :
    Except String (Dict String String) := do
  refuse ((clocks.index.lookup b.clockID).isNone || b.equipmentID = "") "dangling binding"
  refuse (bindings.lookup b.equipmentID).isSome "conflicting equipment binding"
  return bindings.insert b.equipmentID b.clockID

/-- What the loop over the points builds; the sets of the source are lists. -/
structure StagedPoints where
  ids : List String := []
  nativeIDs : List String := []
  equipment : List String := []
  writableTargets : List String := []
  releases : List GatewayPointDTOJSON := []
  points : List NativeClockPoint := []
  clocks : List NativeClock
  entries : List Entry := []

/-- `strconv.Atoi` gives an instance number that is in range and written plainly. -/
def validInstance (instanceNo : String) : Bool :=
  (parseInt64 instanceNo.toList).any fun n =>
    0 ≤ n && n ≤ 4194303 && toString n = instanceNo

def addLocalID (localID : String) (i : Nat) (clocks : List NativeClock) : List NativeClock :=
  clocks.modify i fun c => { c with pointLocalIDs := c.pointLocalIDs ++ [localID] }

/-- A release point: it is mapped, and never enters the native configuration. -/
def stageRelease (mapper : HTTPClient) (st : StagedPoints) (p : GatewayPointDTOJSON) :
    Except String StagedPoints := do
  refuse (p.pointID = "" || p.pointID ∈ st.ids || p.native.isSome || p.localID ≠ "" ||
    p.protocol ≠ "bacnet" || p.writable ≠ some true) "invalid release point"
  return { st with
    ids := p.pointID :: st.ids
    releases := st.releases ++ [p]
    entries := st.entries ++ [mapper.mapDTO p] }

/-- The equipment that a point belongs to, and the clock that the equipment is bound to. -/
def stageDevice (clocks : StagedClocks) (bindings : Dict String String) (hasClocks : Bool)
    (localID : String) (st : StagedPoints) : Option DeviceRefJSON → Except String StagedPoints
  | some d => do
      refuse (hasClocks && (d.dtID = "" || d.id = "")) "missing equipment identity"
      let bound := (bindings.lookup d.dtID).map fun c => (clocks.index.lookup c).getD 0
      return { st with
        equipment := d.dtID :: st.equipment
        clocks := bound.elim st.clocks fun i => addLocalID localID i st.clocks }
  | none => do
      refuse hasClocks "missing equipment membership"
      return st

def stageNative (scope : Scope) (mapper : HTTPClient) (clocks : StagedClocks)
    (bindings : Dict String String) (hasClocks : Bool) (st : StagedPoints)
    (p : GatewayPointDTOJSON) : Except String StagedPoints := do
  let n := p.native.getD {}
  refuse (p.pointID = "" || p.pointID ∈ st.ids || p.native.isNone || n.protocol ≠ "bacnet" ||
    p.protocol ≠ "bacnet" || n.deviceID ≠ toString scope.deviceID || n.objectType = "")
    "invalid point or unsupported scope"
  refuse (!validInstance n.instanceNo) "invalid point instance"
  let e := mapper.mapDTO p
  refuse (e.localID ∈ st.nativeIDs || e.localID ∈ clocks.objects ||
    (p.localID ≠ "" && p.localID ≠ e.localID)) "ambiguous native address or clock exposed as point"
  let staged : StagedPoints := { st with
    ids := p.pointID :: st.ids
    nativeIDs := e.localID :: st.nativeIDs
    writableTargets := if e.writable then p.pointID :: st.writableTargets else st.writableTargets
    points := st.points ++
      [{ localID := e.localID, deviceRef := e.deviceRef, unit := e.unit, writable := e.writable }]
    entries := st.entries ++ [e] }
  stageDevice clocks bindings hasClocks e.localID staged p.device

def stagePoint (scope : Scope) (mapper : HTTPClient) (clocks : StagedClocks)
    (bindings : Dict String String) (hasClocks : Bool) (st : StagedPoints)
    (p : GatewayPointDTOJSON) : Except String StagedPoints :=
  if p.releaseOf ≠ "" then stageRelease mapper st p
  else stageNative scope mapper clocks bindings hasClocks st p

/-- One release target: a writable equipment point, released once. -/
def stageTarget (st : StagedPoints) (released : List String) (r : GatewayPointDTOJSON) :
    Except String (List String) := do
  refuse (r.releaseOf ∉ st.writableTargets || r.releaseOf ∈ released) "invalid release target"
  return r.releaseOf :: released

/-- The second half of `StageClockSnapshot`: the bundle of a document whose revision
    has been checked. -/
def stageDocument (scope : Scope) (s : ClockSnapshotJSON) :
    Except String (NativeClockConfig × List Entry) := do
  refuse (!sliceIsSorted (fun a b => a.pointID < b.pointID) s.points ||
    !sliceIsSorted (fun a b => a.clockID < b.clockID) s.clockSources ||
    !sliceIsSorted (fun a b => a.equipmentID < b.equipmentID) s.clockBindings)
    "noncanonical array order"
  let clocks ← s.clockSources.foldlM (stageSource scope) {}
  let bindings ← s.clockBindings.foldlM (stageBinding clocks) ∅
  let mapper : HTTPClient :=
    { connectorMap := (∅ : Dict String String).insert "bacnet" scope.connectorID }
  let st ← s.points.foldlM (stagePoint scope mapper clocks bindings !s.clockSources.isEmpty)
    { clocks := clocks.native }
  let _ ← st.releases.foldlM (stageTarget st) []
  refuse (bindings.keys.any fun e => e ∉ st.equipment) "equipment has no points"
  refuse (st.clocks.any fun c => c.pointLocalIDs.isEmpty) "unbound clock"
  return ({ revision := s.revision, connectorID := scope.connectorID, deviceID := scope.deviceID,
            points := st.points, clocks := st.clocks }, st.entries)

def asObject : Json → Except String (List (String × Json))
  | .obj ms => .ok ms
  | _ => .error "snapshot must be an object"

/-- `StageClockSnapshot`; every error is prefixed by `clock provisioning: `.  The text of
    a syntax error is left out. -/
def stageClockSnapshot (sha256 : List Char → String) (data : List UInt8) (scope : Scope) :
    Except String (NativeClockConfig × List Entry) :=
  Except.mapError ("clock provisioning: " ++ ·) do
    let (document, rest) ← (read data).elim (.error "invalid JSON") .ok
    let s ← ClockSnapshotJSON.decode {} document
    refuse (s.schemaVersion ≠ "clock-provisioning/1-draft" || scope.gatewayID = "" ||
      s.gatewayID ≠ scope.gatewayID || scope.connectorID = "" || scope.deviceID < 0 ||
      scope.deviceID > 4194302) "unsupported schema or scope"
    let decoded ← clockJSONValue document
    refuse (rest.dropWhile isSpace ≠ []) "trailing JSON data"
    let body ← asObject decoded
    refuse (["points", "clockSources", "clockBindings"].any fun key => !hasArray body key)
      "explicit arrays required"
    refuse (s.revision ≠ revisionOf sha256 body) "revision mismatch"
    stageDocument scope s

def stageClock (sha256 : List Char → String) (data : List UInt8) (scope : Scope) :
    Except String ClockSnapshot := do
  let (native, entries) ← stageClockSnapshot sha256 data scope
  return { raw := data, native, entries }

theorem stageClockSnapshot_restage {sha256 : List Char → String} {data : List UInt8} {scope : Scope}
    {result : NativeClockConfig × List Entry}
    (h : stageClockSnapshot sha256 data scope = .ok result) :
    ∃ document rest, read data = some (document, rest) ∧ rest.dropWhile isSpace = [] ∧
      ∀ data', read data' = some (document, []) →
        stageClockSnapshot sha256 data' scope = .ok result := by
  rw [stageClockSnapshot, mapError_eq_ok] at h
  obtain ⟨⟨document, rest⟩, hread, h⟩ := bind_eq_ok.mp h
  obtain ⟨s, hs, h⟩ := bind_eq_ok.mp h
  obtain ⟨hscope, h⟩ := refuse_bind_eq_ok.mp h
  obtain ⟨decoded, hdecoded, h⟩ := bind_eq_ok.mp h
  obtain ⟨htrailing, h⟩ := refuse_bind_eq_ok.mp h
  refine ⟨document, rest, elim_eq_ok.mp hread, not_not.mp (of_decide_eq_false htrailing), ?_⟩
  intro data' hread'
  rw [stageClockSnapshot, mapError_eq_ok, hread']
  refine bind_eq_ok.mpr ⟨_, rfl, bind_eq_ok.mpr ⟨s, hs, refuse_bind_eq_ok.mpr ⟨hscope, ?_⟩⟩⟩
  exact bind_eq_ok.mpr ⟨decoded, hdecoded, refuse_bind_eq_ok.mpr ⟨by decide, h⟩⟩

end NexusGateway.Provisioning
