/-
`internal/provisioning/http.go`: the point objects of a provisioning
document, how they are decoded, and `mapDTO`, which makes a Point List
entry of one.
-/

import NexusGateway.Lib.JsonDecode
import NexusGateway.Lib.Text
import NexusGateway.PointList.Synced

namespace NexusGateway.PointList

/-- `^ns=\d+;[isgb]=`: an OPC-UA node id. -/
def isOpcuaNodeID : List Char → Bool
  | 'n' :: 's' :: '=' :: rest =>
    match Lib.Json.dropDigits rest with
    | some (';' :: c :: '=' :: _) => c ∈ ['i', 's', 'g', 'b']
    | _ => false
  | _ => false

/-- `InferProtocol`: the first of the patterns that the local id matches. -/
def inferProtocol (localID : String) : String :=
  if isOpcuaNodeID localID.toList then "opcua"
  else if '/' ∈ localID.toList then "mqtt"
  else ""

end NexusGateway.PointList

namespace NexusGateway.Provisioning

open Lib Lib.Json PointList

/-! ## Point objects -/

structure NativeAddressingJSON where
  protocol : String := ""
  deviceID : String := ""
  objectType : String := ""
  instanceNo : String := ""
deriving DecidableEq

structure ControlSchemaJSON where
  dataType : String := ""
  minValue : String := ""
  maxValue : String := ""
  enumLabels : String := ""
deriving DecidableEq

structure DeviceRefJSON where
  dtID : String := ""
  id : String := ""
  name : String := ""
deriving DecidableEq

structure GatewayPointDTOJSON where
  pointID : String := ""
  localID : String := ""
  protocol : String := ""
  releaseOf : String := ""
  native : Option NativeAddressingJSON := none
  unit : String := ""
  writable : Option Bool := none
  controlSchema : Option ControlSchemaJSON := none
  device : Option DeviceRefJSON := none
deriving DecidableEq

namespace NativeAddressingJSON

def names : List String := ["protocol", "deviceId", "objectType", "instanceNo"]

def decode : Decoder NativeAddressingJSON :=
  .struct "provisioning.nativeAddressingJSON" names fun old ms => do
    let protocol ← field names "protocol" .string old.protocol ms
    let deviceID ← field names "deviceId" .string old.deviceID ms
    let objectType ← field names "objectType" .string old.objectType ms
    let instanceNo ← field names "instanceNo" .string old.instanceNo ms
    .ok { protocol, deviceID, objectType, instanceNo }

end NativeAddressingJSON

namespace ControlSchemaJSON

def names : List String := ["dataType", "minValue", "maxValue", "enumLabels"]

def decode : Decoder ControlSchemaJSON :=
  .struct "provisioning.controlSchemaJSON" names fun old ms => do
    let dataType ← field names "dataType" .string old.dataType ms
    let minValue ← field names "minValue" .string old.minValue ms
    let maxValue ← field names "maxValue" .string old.maxValue ms
    let enumLabels ← field names "enumLabels" .string old.enumLabels ms
    .ok { dataType, minValue, maxValue, enumLabels }

/-- `json.Marshal` of the object: fields in the order of the struct, the empty ones
    left out, the text safe inside HTML. -/
def marshal (c : ControlSchemaJSON) : String :=
  let members := [("dataType", c.dataType), ("minValue", c.minValue), ("maxValue", c.maxValue),
    ("enumLabels", c.enumLabels)]
  String.ofList (text true (.obj ((members.filter (·.2 ≠ "")).map fun m => (m.1, .str m.2))))

end ControlSchemaJSON

namespace DeviceRefJSON

def names : List String := ["dtId", "id", "name"]

def decode : Decoder DeviceRefJSON :=
  .struct "provisioning.deviceRefJSON" names fun old ms => do
    let dtID ← field names "dtId" .string old.dtID ms
    let id ← field names "id" .string old.id ms
    let name ← field names "name" .string old.name ms
    .ok { dtID, id, name }

end DeviceRefJSON

namespace GatewayPointDTOJSON

def names : List String :=
  ["pointId", "localId", "protocol", "releaseOf", "native", "unit", "writable", "controlSchema",
    "device"]

def decode : Decoder GatewayPointDTOJSON :=
  .struct "provisioning.gatewayPointDTOJSON" names fun old ms => do
    let pointID ← field names "pointId" .string old.pointID ms
    let localID ← field names "localId" .string old.localID ms
    let protocol ← field names "protocol" .string old.protocol ms
    let releaseOf ← field names "releaseOf" .string old.releaseOf ms
    let native ← field names "native" (.pointer {} NativeAddressingJSON.decode) old.native ms
    let unit ← field names "unit" .string old.unit ms
    let writable ← field names "writable" (.pointer false .bool) old.writable ms
    let controlSchema ←
      field names "controlSchema" (.pointer {} ControlSchemaJSON.decode) old.controlSchema ms
    let device ← field names "device" (.pointer {} DeviceRefJSON.decode) old.device ms
    .ok { pointID, localID, protocol, releaseOf, native, unit, writable, controlSchema, device }

end GatewayPointDTOJSON

/-! ## mapDTO -/

/-- `strings.ToLower(strings.TrimSpace(s))`, over the case mapping of characters. -/
def normalizeProtocol (lower : Char → Char) (s : String) : String :=
  String.ofList ((trimSpace s.toList).map lower)

/-- The fields of `HTTPClient` that `mapDTO` reads, and the case mapping of Go. -/
structure HTTPClient where
  connectorMap : Dict String String
  fallbackConnectorID : String := ""
  /-- `unicode.ToLower`; by default that of ASCII -/
  lower : Char → Char := Char.toLower

namespace HTTPClient

/-- `connectorFor`; its warnings are left out. -/
def connectorFor (c : HTTPClient) (protocol : String) : String :=
  let id := (c.connectorMap.lookup protocol).getD ""
  if id ≠ "" then id else c.fallbackConnectorID

def mapDTO (c : HTTPClient) (dto : GatewayPointDTOJSON) : Entry :=
  let localID :=
    match dto.native with
    | some n =>
      if n.objectType ≠ "" ∨ n.instanceNo ≠ "" then n.objectType ++ "," ++ n.instanceNo
      else dto.localID
    | none => dto.localID
  let nativeRef := (dto.native.map (·.deviceID)).getD ""
  let deviceRef := if nativeRef = "" then (dto.device.map (·.id)).getD "" else nativeRef
  -- the explicit field wins, else the native block
  let explicit := normalizeProtocol c.lower dto.protocol
  let given :=
    if explicit = "" then (dto.native.map fun n => normalizeProtocol c.lower n.protocol).getD ""
    else explicit
  let inferred := if given = "" then inferProtocol localID else given
  let known := if inferred = "" then "unknown" else inferred
  { pointID := dto.pointID
    releaseOf := dto.releaseOf
    unit := dto.unit
    writable := dto.writable.getD false
    localID := localID
    deviceRef := deviceRef
    -- a release point keeps what the server sent
    protocol := if dto.releaseOf ≠ "" then given else known
    connectorID :=
      if dto.releaseOf ≠ "" then (c.connectorMap.lookup given).getD "" else c.connectorFor known
    controlSchema := (dto.controlSchema.map ControlSchemaJSON.marshal).getD "" }

def mapDTOs (c : HTTPClient) (dtos : List GatewayPointDTOJSON) : List Entry := dtos.map c.mapDTO

end HTTPClient

theorem mapDTO_localID {c : HTTPClient} {dto : GatewayPointDTOJSON} {n : NativeAddressingJSON}
    (hn : dto.native = some n) (htype : n.objectType ≠ "") :
    (c.mapDTO dto).localID = n.objectType ++ "," ++ n.instanceNo := by
  simp [HTTPClient.mapDTO, hn, htype]

/-! ## Decoding sees only the canonical form -/

open Decoder (StableBody string_stable bool_stable pointer_stable struct_stable)

theorem NativeAddressingJSON.decode_stable : NativeAddressingJSON.decode.Stable :=
  struct_stable fun _ =>
    .field string_stable fun _ => .field string_stable fun _ => .field string_stable fun _ =>
    .field string_stable fun _ => .pure _

theorem ControlSchemaJSON.decode_stable : ControlSchemaJSON.decode.Stable :=
  struct_stable fun _ =>
    .field string_stable fun _ => .field string_stable fun _ => .field string_stable fun _ =>
    .field string_stable fun _ => .pure _

theorem DeviceRefJSON.decode_stable : DeviceRefJSON.decode.Stable :=
  struct_stable fun _ =>
    .field string_stable fun _ => .field string_stable fun _ => .field string_stable fun _ =>
    .pure _

theorem GatewayPointDTOJSON.decode_stable : GatewayPointDTOJSON.decode.Stable := by
  refine struct_stable fun _ =>
    .field string_stable fun _ => .field string_stable fun _ => .field string_stable fun _ =>
    .field string_stable fun _ => ?_
  refine .field (pointer_stable NativeAddressingJSON.decode_stable) fun _ =>
    .field string_stable fun _ => .field (pointer_stable bool_stable) fun _ => ?_
  exact .field (pointer_stable ControlSchemaJSON.decode_stable) fun _ =>
    .field (pointer_stable DeviceRefJSON.decode_stable) fun _ => .pure _

end NexusGateway.Provisioning
