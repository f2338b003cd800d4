/-
`connector/bacnet/bacnet_connector/config.py`: the parts of `Config` that
hold points and clocks, `_parse_points` and `apply_clock_bundle`.

A value that `json.loads` returns is a tree; where an object has a name
twice, the last member counts.  The exceptions that `apply_clock_bundle`
catches are errors with the text of the exception.
-/

import NexusGateway.Lib.Except
import NexusGateway.Lib.Json

namespace NexusGateway.Connector.Bacnet

open Lib Lib.Json

/-- What the configuration uses of Python's library: `json.loads`, with the text of a
    `JSONDecodeError`, `json.dumps` and `repr`. -/
structure Python where
  loads : List Char → Except String Json
  dumps : Json → List Char
  repr : Json → String

structure PointConfig where
  localID : String
  deviceRef : String
  unit : String := ""
  writable : Bool := false
  releaseOf : Option String := none
deriving DecidableEq

structure ClockConfig where
  clockID : String
  localID : String
  property : String
  pointLocalIDs : List String
deriving DecidableEq

structure Config where
  connectorID : String
  bacnetDeviceID : Int
  covEnabled : Bool := true
  points : List PointConfig := []
  clocks : List ClockConfig := []
  clockRevision : String := ""
deriving DecidableEq

/-! ## Values -/

def natOfDigits? (cs : List Char) : Option Nat :=
  if cs ≠ [] ∧ cs.all Char.isDigit then some (Nat.ofDigitChars 10 cs 0) else none

/-- The integer that a literal without fraction and exponent writes. -/
def intOfLiteral? : List Char → Option Int
  | '-' :: cs => (natOfDigits? cs).map fun n => -(n : Int)
  | cs => (natOfDigits? cs).map fun n => (n : Int)

/-- `type(value) is int`, and the value. -/
def int? : Json → Option Int
  | .num l => intOfLiteral? l.toList
  | _ => none

/-- `type(value).__name__`. -/
def typeName : Json → String
  | .null => "NoneType"
  | .bool _ => "bool"
  | .num l => if (intOfLiteral? l.toList).isSome then "int" else "float"
  | .str _ => "str"
  | .arr _ => "list"
  | .obj _ => "dict"

/-- `value.get(key)`. -/
def get? (ms : List (String × Json)) (key : String) : Option Json := ms.reverse.lookup key

def isStr (s : String) : Option Json → Bool
  | some (.str t) => t = s
  | _ => false

/-- `set(value) == keys`. -/
def keysAre (keys : List String) (ms : List (String × Json)) : Bool :=
  ms.all (fun m => m.1 ∈ keys) && keys.all fun key => key ∈ ms.map (·.1)

def dict (keys : List String) (err : String) : Json → Except String (List (String × Json))
  | .obj ms => if keysAre keys ms then .ok ms else .error err
  | _ => .error err

def list (err : String) : Option Json → Except String (List Json)
  | some (.arr xs) => .ok xs
  | _ => .error err

/-! ## _parse_points -/

/-- A required key with a non-empty string; a null counts as missing. -/
def requireString (py : Python) (place key : String) (ms : List (String × Json)) :
    Except String String :=
  match get? ms key with
  | none | some .null => .error (place ++ "missing required key '" ++ key ++ "'")
  | some (.str s) =>
    if s = "" then
      .error (place ++ "'" ++ key ++ "' must be a non-empty string, got " ++ py.repr (.str s))
    else .ok s
  | some v => .error (place ++ "'" ++ key ++ "' must be a non-empty string, got " ++ py.repr v)

def optionalString (py : Python) (place key : String) (ms : List (String × Json)) :
    Except String String :=
  match get? ms key with
  | none => .ok ""
  | some (.str s) => .ok s
  | some v => .error (place ++ "'" ++ key ++ "' must be a string, got " ++ py.repr v)

def optionalWritable (py : Python) (place : String) (ms : List (String × Json)) :
    Except String Bool :=
  match get? ms "writable" with
  | none => .ok false
  | some (.bool b) => .ok b
  | some v => .error (place ++ "'writable' must be a boolean, got " ++ py.repr v)

/-- The first of `release_of` and `releaseOf` that is there, which must be a non-empty
    string. -/
def optionalRelease (py : Python) (place : String) (ms : List (String × Json)) :
    Except String (Option String) :=
  let err (v : Json) := place ++ "'release_of' must be a non-empty string, got " ++ py.repr v
  match ["release_of", "releaseOf"].findSome? (get? ms) with
  | none => .ok none
  | some (.str s) => if s = "" then .error (err (.str s)) else .ok (some s)
  | some v => .error (err v)

def parsePoint (py : Python) (i : Nat) (entry : Json) : Except String PointConfig := do
  let place := "BACNET_POINTS[" ++ toString i ++ "]: "
  match entry with
  | .obj ms =>
    let localID ← requireString py place "local_id" ms
    let deviceRef ← optionalString py place "device_ref" ms
    let unit ← optionalString py place "unit" ms
    let writable ← optionalWritable py place ms
    let releaseOf ← optionalRelease py place ms
    return { localID, deviceRef, unit, writable, releaseOf }
  | v => .error (place ++ "must be a JSON object, got " ++ typeName v)

def parseEntries (py : Python) (i : Nat) : List Json → Except String (List PointConfig)
  | [] => .ok []
  | entry :: entries => do
      let point ← parsePoint py i entry
      let points ← parseEntries py (i + 1) entries
      return point :: points

def parsePoints (py : Python) (raw : List Char) : Except String (List PointConfig) := do
  match ← (py.loads raw).mapError ("BACNET_POINTS: invalid JSON: " ++ ·) with
  | .arr entries => parseEntries py 0 entries
  | v => .error ("BACNET_POINTS: must be a JSON array, got " ++ typeName v)

/-! ## apply_clock_bundle -/

def isHex (c : Char) : Bool := ('0' ≤ c && c ≤ '9') || ('a' ≤ c && c ≤ 'f')

def after? (beginning : String) (cs : List Char) : Option (List Char) :=
  if beginning.toList.isPrefixOf cs then some (cs.drop beginning.toList.length) else none

/-- `"sha256:[0-9a-f]{64}"`, with its quotes. -/
def revisionPattern (s : String) : Bool :=
  (after? "\"sha256:" s.toList).any fun cs =>
    cs.length = 65 && (cs.take 64).all isHex && cs.drop 64 = ['"']

/-- `(analogValue|analogInput),([0-9]+)`: the digits. -/
def instanceDigits (s : String) : Option (List Char) :=
  (["analogValue,", "analogInput,"].findSome? (after? · s.toList)).filter fun cs =>
    cs ≠ [] && cs.all Char.isDigit

/-- `int(digits)`, which refuses more than 4300 digits. -/
def intOfDigits (digits : List Char) : Except String Nat :=
  if digits.length > 4300 then
    .error ("Exceeds the limit (4300 digits) for integer string conversion: value has " ++
      toString digits.length ++
      " digits; use sys.set_int_max_str_digits() to increase the limit")
  else .ok (Nat.ofDigitChars 10 digits 0)

/-- What the loop over the clocks builds; the sets of the source are lists. -/
structure ParsedClocks where
  clocks : List ClockConfig := []
  clockIDs : List String := []
  assigned : List String := []
  objects : List String := []

def matched : Option Json → Except String String
  | some (.str s) => .ok s
  | some v => .error ("expected string or bytes-like object, got '" ++ typeName v ++ "'")
  | none => .error "'local_id'"

/-- `c["clock_id"]`. -/
def parseClockID (st : ParsedClocks) : Option Json → Except String String
  | some (.str s) =>
    if s = "" || s ∈ st.clockIDs then .error "invalid/duplicate clock ID" else .ok s
  | _ => .error "invalid/duplicate clock ID"

/-- `c["local_id"]` with `c["property"]`. -/
def parseClockAddress (pointIDs : List String) (st : ParsedClocks) (ms : List (String × Json)) :
    Except String String := do
  let localID ← matched (get? ms "local_id")
  match instanceDigits localID with
  | none => .error "invalid clock native reference"
  | some digits =>
    let n ← intOfDigits digits
    refuse (n > 4194303 || !isStr "presentValue" (get? ms "property") || localID ∈ pointIDs ||
      localID ∈ st.objects) "invalid clock native reference"
    return localID

def strings : List Json → Option (List String)
  | [] => some []
  | .str s :: xs => (strings xs).map (s :: ·)
  | _ :: _ => none

/-- `c["point_local_ids"]`. -/
def parseRefs (pointIDs : List String) (st : ParsedClocks) (ms : List (String × Json)) :
    Except String (List String) := do
  let items ← list "invalid clock point references" (get? ms "point_local_ids")
  refuse items.isEmpty "invalid clock point references"
  let refs ← (strings items).elim (.error "invalid clock point references") .ok
  refuse (!decide refs.Nodup || !refs.all (· ∈ pointIDs) || refs.any (· ∈ st.assigned))
    "dangling/conflicting clock point references"
  return refs

def parseClock (pointIDs : List String) (st : ParsedClocks) (c : Json) :
    Except String ParsedClocks := do
  let ms ← dict ["clock_id", "local_id", "property", "point_local_ids"] "unsupported clock keys" c
  let clockID ← parseClockID st (get? ms "clock_id")
  let localID ← parseClockAddress pointIDs st ms
  let refs ← parseRefs pointIDs st ms
  return {
    clocks := st.clocks ++
      [{ clockID, localID, property := "presentValue", pointLocalIDs := refs }]
    clockIDs := clockID :: st.clockIDs
    assigned := refs ++ st.assigned
    objects := localID :: st.objects }

def parseRevision : Option Json → Except String String
  | some (.str s) => if revisionPattern s then .ok s else .error "invalid revision"
  | _ => .error "invalid revision"

def bundleMembers : Json → Except String (List (String × Json))
  | .obj ms => .ok ms
  | _ => .error "bundle must be an object"

/-- `apply_clock_bundle`: the configuration with the bundle's points, clocks and revision. -/
def Config.applyClockBundle (py : Python) (cfg : Config) (bundle : Json) : Except String Config :=
  Except.mapError ("BACNET_CLOCK_CONFIG_FILE: " ++ ·) do
    let ms ← bundleMembers bundle
    refuse (!keysAre ["revision", "connector_id", "device_id", "points", "clocks"] ms)
      "unsupported bundle keys"
    refuse (!isStr cfg.connectorID (get? ms "connector_id") ||
      (get? ms "device_id").bind int? ≠ some cfg.bacnetDeviceID) "connector/device scope mismatch"
    let revision ← parseRevision (get? ms "revision")
    let points ← list "points and clocks must be arrays" (get? ms "points")
    let clocks ← list "points and clocks must be arrays" (get? ms "clocks")
    let _ ← points.mapM (dict ["local_id", "device_ref", "unit", "writable"]
      "unsupported native point keys")
    let points ← parsePoints py (py.dumps (.arr points))
    let pointIDs := points.map (·.localID)
    refuse (!decide pointIDs.Nodup) "duplicate native points"
    let parsed ← clocks.foldlM (parseClock pointIDs) {}
    refuse (!parsed.clocks.isEmpty && cfg.covEnabled)
      "clock acquisition requires BACNET_COV_ENABLED=false"
    return { cfg with points := points, clocks := parsed.clocks, clockRevision := revision }

end NexusGateway.Connector.Bacnet
