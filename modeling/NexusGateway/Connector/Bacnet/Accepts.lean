/-
The connector accepts every bundle that the Core stages, and takes over what
the bundle says.

The two validators were written apart.  Each check of the Python one is
discharged by a guarantee of staging (`BundleWellFormed`), so the proof goes
through the checks in their order.
-/

import NexusGateway.Connector.Bacnet.Config
import NexusGateway.ClockSync.Sessions
import NexusGateway.Provisioning.WellFormed

namespace NexusGateway.Provisioning

open Lib Lib.Json

def NativeClockPoint.json (p : NativeClockPoint) : Json :=
  .obj [("local_id", .str p.localID), ("device_ref", .str p.deviceRef), ("unit", .str p.unit),
    ("writable", .bool p.writable)]

def NativeClock.members (k : NativeClock) : List (String × Json) :=
  [("clock_id", .str k.clockID), ("local_id", .str k.localID), ("property", .str k.property),
    ("point_local_ids", .arr (k.pointLocalIDs.map .str))]

def NativeClock.json (k : NativeClock) : Json := .obj k.members

def NativeClockConfig.members (c : NativeClockConfig) : List (String × Json) :=
  [("revision", .str c.revision), ("connector_id", .str c.connectorID),
    ("device_id", .num (toString c.deviceID)),
    ("points", .arr (c.points.map NativeClockPoint.json)),
    ("clocks", .arr (c.clocks.map NativeClock.json))]

def NativeClockConfig.json (c : NativeClockConfig) : Json := .obj c.members

end NexusGateway.Provisioning

namespace NexusGateway.Connector.Bacnet

open Lib Lib.Json Provisioning ClockSync

/-! ## Numbers and patterns -/

theorem all_isDigit_toDigits (n : Nat) : (Nat.toDigits 10 n).all Char.isDigit = true :=
  List.all_eq_true.mpr fun _ hc => Nat.isDigit_of_mem_toDigits (by omega) (by omega) hc

theorem natOfDigits?_toDigits (n : Nat) : natOfDigits? (Nat.toDigits 10 n) = some n := by
  rw [natOfDigits?, if_pos ⟨Nat.toDigits_ne_nil, all_isDigit_toDigits n⟩,
    Nat.ofDigitChars_ten_toDigits]

theorem intOfLiteral?_toString (n : Int) : intOfLiteral? (toString n).toList = some n := by
  cases n with
  | ofNat m =>
    have hdigits : (toString (Int.ofNat m)).toList = Nat.toDigits 10 m := Nat.toList_repr
    rw [hdigits]
    -- the first character is a digit, not the sign
    have hsign : ∀ cs, Nat.toDigits 10 m ≠ '-' :: cs := by
      intro cs heq
      have hdigit := Nat.isDigit_of_mem_toDigits (b := 10) (n := m) (c := '-')
        (by omega) (by omega) (by simp [heq])
      cases hdigit
    rw [intOfLiteral?.eq_2 _ hsign, natOfDigits?_toDigits]
    rfl
  | negSucc m =>
    have hdigits : (toString (Int.negSucc m)).toList = '-' :: Nat.toDigits 10 (m + 1) := by
      show ("-" ++ Nat.repr (m + 1)).toList = _
      rw [String.toList_append, Nat.toList_repr]
      rfl
    rw [hdigits, intOfLiteral?, natOfDigits?_toDigits]
    rfl

theorem after?_append (beginning : String) (cs : List Char) :
    after? beginning (beginning.toList ++ cs) = some cs := by
  rw [after?, if_pos (List.isPrefixOf_iff_prefix.mpr (List.prefix_append ..)), List.drop_left]

theorem revisionPattern_hexEncode (digest : Vector UInt8 32) :
    revisionPattern ("\"sha256:" ++ hexEncode digest.toList ++ "\"") = true := by
  have hlength : (hexEncode digest.toList).toList.length = 64 := by
    rw [length_hexEncode, Vector.length_toList]
  rw [revisionPattern, String.append_assoc, String.toList_append, after?_append, Option.any_some,
    String.toList_append]
  rw [List.length_append, List.take_left' hlength, List.drop_left' hlength, hlength]
  rw [show (hexEncode digest.toList).toList.all isHex = true from hexEncode_lower _]
  rfl

theorem instanceDigits_address {objectType : String}
    (h : objectType ∈ ["analogValue", "analogInput"]) (n : Nat) :
    instanceDigits (objectType ++ "," ++ toString n) = some (Nat.toDigits 10 n) := by
  have hdigits : (toString n).toList = Nat.toDigits 10 n := by
    rw [Nat.toString_eq_repr, Nat.toList_repr]
  have hvalid : (some (Nat.toDigits 10 n)).filter (fun cs => cs ≠ [] && cs.all Char.isDigit) =
      some (Nat.toDigits 10 n) := by
    have hne : Nat.toDigits 10 n ≠ [] := Nat.toDigits_ne_nil
    simp [Option.filter, hne, all_isDigit_toDigits]
  rw [instanceDigits, String.toList_append, hdigits]
  rcases List.mem_pair.mp h with rfl | rfl
  · have hfound : ["analogValue,", "analogInput,"].findSome?
        (after? · (("analogValue" ++ ",").toList ++ Nat.toDigits 10 n)) =
        some (Nat.toDigits 10 n) := by
      rw [List.findSome?_cons, show "analogValue" ++ "," = "analogValue," from rfl, after?_append]
    rw [hfound, hvalid]
  · have hfound : ["analogValue,", "analogInput,"].findSome?
        (after? · (("analogInput" ++ ",").toList ++ Nat.toDigits 10 n)) =
        some (Nat.toDigits 10 n) := by
      have hother : after? "analogValue," ("analogInput,".toList ++ Nat.toDigits 10 n) = none := rfl
      rw [List.findSome?_cons, show "analogInput" ++ "," = "analogInput," from rfl, hother,
        List.findSome?_cons, after?_append]
    rw [hfound, hvalid]

/-! ## Points -/

def PointConfig.ofNative (p : NativeClockPoint) : PointConfig :=
  { localID := p.localID, deviceRef := p.deviceRef, unit := p.unit, writable := p.writable }

def ClockConfig.ofNative (k : NativeClock) : ClockConfig :=
  { clockID := k.clockID, localID := k.localID, property := k.property
    pointLocalIDs := k.pointLocalIDs }

theorem parsePoint_native (py : Python) (i : Nat) {p : NativeClockPoint} (h : p.localID ≠ "") :
    parsePoint py i p.json = .ok (.ofNative p) := by
  simp only [parsePoint, NativeClockPoint.json]
  refine bind_eq_ok.mpr ⟨p.localID, ?_, ?_⟩
  · exact if_neg h
  · rfl

theorem parseEntries_native (py : Python) (i : Nat) {points : List NativeClockPoint}
    (h : ∀ p ∈ points, p.localID ≠ "") :
    parseEntries py i (points.map NativeClockPoint.json) = .ok (points.map .ofNative) := by
  induction points generalizing i with
  | nil => rfl
  | cons p points ih =>
    rw [List.map_cons, parseEntries, parsePoint_native py i (h p List.mem_cons_self)]
    refine bind_eq_ok.mpr ⟨_, rfl, bind_eq_ok.mpr ⟨_, ih (i + 1) fun q hq => ?_, rfl⟩⟩
    exact h q (List.mem_cons_of_mem _ hq)

theorem mapM_dict_native (err : String) (points : List NativeClockPoint) :
    ∃ members, (points.map NativeClockPoint.json).mapM
      (dict ["local_id", "device_ref", "unit", "writable"] err) = .ok members := by
  induction points with
  | nil => exact ⟨[], rfl⟩
  | cons p points ih =>
    obtain ⟨members, ih⟩ := ih
    rw [List.map_cons, List.mapM_cons]
    exact ⟨_, bind_eq_ok.mpr ⟨_, rfl, bind_eq_ok.mpr ⟨members, ih, rfl⟩⟩⟩

/-! ## Clocks -/

structure Acceptable (pointIDs : List String) (st : ParsedClocks) (clocks : List NativeClock) :
    Prop where
  sound : ∀ k ∈ clocks, k.Sound
  bound : ∀ k ∈ clocks, k.pointLocalIDs ≠ []
  listsOnce : ∀ k ∈ clocks, k.pointLocalIDs.Nodup
  lists : ∀ k ∈ clocks, ∀ l ∈ k.pointLocalIDs, l ∈ pointIDs
  clockIDs : (clocks.map (·.clockID)).Nodup
  localIDs : (clocks.map (·.localID)).Nodup
  apart : clocks.Pairwise fun k k' => ∀ l ∈ k.pointLocalIDs, l ∉ k'.pointLocalIDs
  unclocked : ∀ k ∈ clocks, k.localID ∉ pointIDs
  fresh : ∀ k ∈ clocks, k.clockID ∉ st.clockIDs ∧ k.localID ∉ st.objects ∧
    ∀ l ∈ k.pointLocalIDs, l ∉ st.assigned

theorem strings_map (ss : List String) : strings (ss.map .str) = some ss := by
  induction ss with
  | nil => rfl
  | cons s ss ih => rw [List.map_cons, strings, ih, Option.map_some]

section Clocks

variable {pointIDs : List String} {st : ParsedClocks} {k : NativeClock} {clocks : List NativeClock}

def ParsedClocks.add (st : ParsedClocks) (k : NativeClock) : ParsedClocks where
  clocks := st.clocks ++ [.ofNative k]
  clockIDs := k.clockID :: st.clockIDs
  assigned := k.pointLocalIDs ++ st.assigned
  objects := k.localID :: st.objects

theorem parseClock_native (h : Acceptable pointIDs st (k :: clocks)) :
    parseClock pointIDs st k.json = .ok (st.add k) := by
  obtain ⟨hid, hproperty, objectType, htype, n, hn, haddress⟩ := h.sound k List.mem_cons_self
  obtain ⟨hfreshID, hfreshLocal, hunassigned⟩ := h.fresh k List.mem_cons_self
  have hdigits : intOfDigits (Nat.toDigits 10 n) = .ok n := by
    have hlength : (Nat.toDigits 10 n).length ≤ 7 :=
      (Nat.length_toDigits_le_iff (by omega) (by omega)).mpr (by omega)
    rw [intOfDigits, if_neg (by omega), Nat.ofDigitChars_ten_toDigits]
  have hclockID : parseClockID st (some (.str k.clockID)) = .ok k.clockID := by
    simp [parseClockID, hid, hfreshID]
  have hlocalID : parseClockAddress pointIDs st k.members = .ok k.localID := by
    refine bind_eq_ok.mpr ⟨k.localID, rfl, ?_⟩
    have hmatch : instanceDigits k.localID = some (Nat.toDigits 10 n) :=
      haddress ▸ instanceDigits_address htype n
    have hunclocked := h.unclocked k List.mem_cons_self
    have hsame : isStr "presentValue" (get? k.members "property") = true :=
      decide_eq_true hproperty
    simp only [hmatch]
    refine bind_eq_ok.mpr ⟨n, hdigits, refuse_bind_eq_ok.mpr ⟨?_, rfl⟩⟩
    rw [hsame]
    simp [hunclocked, hfreshLocal]
    omega
  have hrefs : parseRefs pointIDs st k.members = .ok k.pointLocalIDs := by
    refine bind_eq_ok.mpr ⟨k.pointLocalIDs.map .str, rfl, refuse_bind_eq_ok.mpr ⟨?_, ?_⟩⟩
    · simpa using h.bound k List.mem_cons_self
    · refine bind_eq_ok.mpr ⟨k.pointLocalIDs, ?_, refuse_bind_eq_ok.mpr ⟨?_, rfl⟩⟩
      · rw [strings_map]
        rfl
      · have honce := h.listsOnce k List.mem_cons_self
        have hlists := h.lists k List.mem_cons_self
        simpa [honce] using ⟨hlists, hunassigned⟩
  refine bind_eq_ok.mpr ⟨k.members, rfl, bind_eq_ok.mpr ⟨k.clockID, hclockID, ?_⟩⟩
  refine bind_eq_ok.mpr ⟨k.localID, hlocalID, bind_eq_ok.mpr ⟨k.pointLocalIDs, hrefs, ?_⟩⟩
  rw [ParsedClocks.add, ClockConfig.ofNative, hproperty]
  rfl

theorem Acceptable.rest (h : Acceptable pointIDs st (k :: clocks)) :
    Acceptable pointIDs (st.add k) clocks := by
  have htail : ∀ {P : NativeClock → Prop}, (∀ k' ∈ k :: clocks, P k') → ∀ k' ∈ clocks, P k' :=
    fun hall k' hk' => hall k' (List.mem_cons_of_mem _ hk')
  obtain ⟨hid, hids⟩ := List.nodup_cons.mp h.clockIDs
  obtain ⟨hlocal, hlocals⟩ := List.nodup_cons.mp h.localIDs
  obtain ⟨hapart, haparts⟩ := List.pairwise_cons.mp h.apart
  refine ⟨htail h.sound, htail h.bound, htail h.listsOnce, htail h.lists, hids, hlocals, haparts,
    htail h.unclocked, fun k' hk' => ?_⟩
  obtain ⟨hfreshID, hfreshLocal, hunassigned⟩ := htail h.fresh k' hk'
  refine ⟨?_, ?_, fun l hl hmem => ?_⟩
  · rw [ParsedClocks.add, List.mem_cons, not_or]
    exact ⟨fun heq => hid (List.mem_map.mpr ⟨k', hk', heq⟩), hfreshID⟩
  · rw [ParsedClocks.add, List.mem_cons, not_or]
    exact ⟨fun heq => hlocal (List.mem_map.mpr ⟨k', hk', heq⟩), hfreshLocal⟩
  · rcases List.mem_append.mp hmem with hmem | hmem
    · exact hapart k' hk' l hmem hl
    · exact hunassigned l hl hmem

theorem parseClocks_native (h : Acceptable pointIDs st clocks) :
    ∃ st', (clocks.map NativeClock.json).foldlM (parseClock pointIDs) st = .ok st' ∧
      st'.clocks = st.clocks ++ clocks.map .ofNative := by
  induction clocks generalizing st with
  | nil => exact ⟨st, rfl, by simp⟩
  | cons k clocks ih =>
    obtain ⟨st', hfold, hclocks⟩ := ih h.rest
    refine ⟨st', ?_, ?_⟩
    · rw [List.map_cons, List.foldlM_cons]
      exact bind_eq_ok.mpr ⟨_, parseClock_native h, hfold⟩
    · rw [hclocks, ParsedClocks.add, List.append_assoc]
      rfl

end Clocks

/-! ## The bundle -/

theorem acceptable_of_wellFormed {scope : Scope} {native : NativeClockConfig}
    {entries : List PointList.Entry} (h : BundleWellFormed scope native entries) :
    Acceptable (native.points.map (·.localID)) {} native.clocks where
  sound := h.sound
  bound := h.bound
  listsOnce := h.listsOnce
  lists := h.lists
  clockIDs := h.clockIDs
  localIDs := h.localIDs.of_append_right
  apart := h.apart
  unclocked k hk hmem :=
    List.disjoint_of_nodup_append h.localIDs hmem (List.mem_map_of_mem hk)
  fresh k _ := ⟨by simp, by simp, by simp⟩

def Config.withBundle (cfg : Config) (native : NativeClockConfig) : Config :=
  { cfg with
    points := native.points.map .ofNative
    clocks := native.clocks.map .ofNative
    clockRevision := native.revision }

theorem applyClockBundle_native (py : Python) {cfg : Config} {scope : Scope}
    {native : NativeClockConfig} {entries : List PointList.Entry}
    (hwf : BundleWellFormed scope native entries)
    (hrevision : revisionPattern native.revision = true)
    (hconnector : cfg.connectorID = scope.connectorID)
    (hdevice : cfg.bacnetDeviceID = scope.deviceID) (hcov : cfg.covEnabled = false)
    (hdumps : py.loads (py.dumps (.arr (native.points.map NativeClockPoint.json))) =
      .ok (.arr (native.points.map NativeClockPoint.json))) :
    cfg.applyClockBundle py native.json = .ok (cfg.withBundle native) := by
  rw [Config.applyClockBundle, mapError_eq_ok]
  refine bind_eq_ok.mpr ⟨native.members, rfl, refuse_bind_eq_ok.mpr ⟨rfl, ?_⟩⟩
  refine refuse_bind_eq_ok.mpr ⟨?_, ?_⟩
  · have hid : (get? native.members "device_id").bind int? = some native.deviceID :=
      intOfLiteral?_toString native.deviceID
    have hname : isStr cfg.connectorID (get? native.members "connector_id") = true :=
      decide_eq_true (by rw [hconnector, hwf.connectorID])
    rw [hid, hname, hdevice, hwf.deviceID]
    simp
  refine bind_eq_ok.mpr ⟨native.revision, if_pos hrevision, ?_⟩
  refine bind_eq_ok.mpr ⟨native.points.map NativeClockPoint.json, rfl, ?_⟩
  refine bind_eq_ok.mpr ⟨native.clocks.map NativeClock.json, rfl, ?_⟩
  obtain ⟨members, hmembers⟩ := mapM_dict_native "unsupported native point keys" native.points
  refine bind_eq_ok.mpr ⟨members, hmembers, ?_⟩
  refine bind_eq_ok.mpr ⟨native.points.map .ofNative, ?_, ?_⟩
  · rw [parsePoints, hdumps]
    exact parseEntries_native py 0 hwf.localID_ne
  have hids : (native.points.map PointConfig.ofNative).map (·.localID) =
      native.points.map (·.localID) := by
    rw [List.map_map]
    rfl
  simp only [hids]
  refine refuse_bind_eq_ok.mpr ⟨by simpa using hwf.localIDs.of_append_left, ?_⟩
  obtain ⟨st, hclocks, hst⟩ := parseClocks_native (acceptable_of_wellFormed hwf)
  refine bind_eq_ok.mpr ⟨st, hclocks, refuse_bind_eq_ok.mpr ⟨by simp [hcov], ?_⟩⟩
  rw [hst]
  rfl

/-- Every snapshot that is staged for a connector and a device is accepted by the connector
    with that id, that device and polling only; its points, clocks and revision are those of
    the staged configuration. -/
theorem accepts_staged (py : Python) (digest : List Char → Vector UInt8 32) {data : List UInt8}
    {scope : Scope} {native : NativeClockConfig} {entries : List PointList.Entry}
    (hstage : stageClockSnapshot (fun t => hexEncode (digest t).toList) data scope =
      .ok (native, entries))
    {cfg : Config} (hconnector : cfg.connectorID = scope.connectorID)
    (hdevice : cfg.bacnetDeviceID = scope.deviceID) (hcov : cfg.covEnabled = false)
    (hloads : py.loads native.marshal = .ok native.json)
    (hdumps : py.loads (py.dumps (.arr (native.points.map NativeClockPoint.json))) =
      .ok (.arr (native.points.map NativeClockPoint.json))) :
    (py.loads native.marshal >>= cfg.applyClockBundle py) = .ok { cfg with
      points := native.points.map fun p =>
        { localID := p.localID, deviceRef := p.deviceRef, unit := p.unit, writable := p.writable
          releaseOf := none }
      clocks := native.clocks.map fun k =>
        { clockID := k.clockID, localID := k.localID, property := k.property
          pointLocalIDs := k.pointLocalIDs }
      clockRevision := native.revision } := by
  have hrevision : revisionPattern native.revision = true := by
    obtain ⟨ms, -, s, -, -, hs, hdocument⟩ := stageClockSnapshot_eq_ok hstage
    rw [show native.revision = s.revision from stageDocument_revision hdocument, hs]
    exact revisionPattern_hexEncode _
  rw [hloads]
  exact applyClockBundle_native py (stageClockSnapshot_wellFormed hstage) hrevision hconnector
    hdevice hcov hdumps

def plainPython : Python where
  loads cs := (read (utf8 cs)).elim (.error "Expecting value") fun r => .ok r.1
  dumps := text false
  repr _ := ""

theorem plainPython_loads {html : Bool} {j : Json} (h : WellFormed j) :
    plainPython.loads (text html j) = .ok j := by
  show (read (utf8 (text html j))).elim _ _ = _
  rw [read_text h]
  rfl

def zeroDigest (_ : List Char) : Vector UInt8 32 := .replicate 32 0

theorem stage_zeroDigest :
    stageClockSnapshot (fun t => hexEncode (zeroDigest t).toList)
        (utf8 (text false (clockedSite (hexEncode (zeroDigest []).toList)))) ⟨"gw", "c", 1⟩ =
      .ok (clockedBundle (hexEncode (zeroDigest []).toList)) := by
  rw [stageClockSnapshot, read_clockedSite]
  decide +kernel

theorem accepts_staged_clocked :
    ∃ native entries,
      stageClockSnapshot (fun t => hexEncode (zeroDigest t).toList)
          (utf8 (text false (clockedSite (hexEncode (zeroDigest []).toList)))) ⟨"gw", "c", 1⟩ =
        .ok (native, entries) ∧
      (plainPython.loads native.marshal >>= Config.applyClockBundle plainPython
        { connectorID := "c", bacnetDeviceID := 1, covEnabled := false }) = .ok
          { connectorID := "c", bacnetDeviceID := 1, covEnabled := false
            points := [{ localID := "analogOutput,7", deviceRef := "1", unit := "degC"
                         writable := true }]
            clocks := [{ clockID := "k", localID := "analogValue,9", property := "presentValue"
                         pointLocalIDs := ["analogOutput,7"] }]
            clockRevision := native.revision } := by
  have hpoints : WellFormed
      (.arr ((clockedBundle (hexEncode (zeroDigest []).toList)).1.points.map
        NativeClockPoint.json)) := by
    simp [clockedBundle, NativeClockPoint.json]
  have hnative : WellFormed (clockedBundle (hexEncode (zeroDigest []).toList)).1.json := by
    have hdevice : validNumber (Int.repr 1).toList = true := by decide
    simp [clockedBundle, NativeClockConfig.json, NativeClockConfig.members, NativeClockPoint.json,
      NativeClock.json, NativeClock.members, hdevice]
  exact ⟨_, _, stage_zeroDigest, accepts_staged plainPython zeroDigest stage_zeroDigest rfl rfl rfl
    (plainPython_loads hnative) (plainPython_loads hpoints)⟩

end NexusGateway.Connector.Bacnet
