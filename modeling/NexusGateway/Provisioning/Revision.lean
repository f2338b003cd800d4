/-
What the revision of a staged snapshot says about the bundle.

The revision is a digest of the generic document, in which `unit` and `Unit`
are two members; the bundle is made of the typed document, in which they are
one field and the later one wins.  Two documents of one revision therefore
have the same bundle when no object of the first has two members whose names
are equal up to case, and need not have otherwise.
-/

import NexusGateway.Lib.JsonWriter
import NexusGateway.Provisioning.Clock
import Mathlib.Logic.Equiv.Basic

namespace NexusGateway.Provisioning

open Lib Lib.Json PointList

/-! ## The hashed document is the canonical one -/

theorem clockJSONItems_canon {xs vs : List Json}
    (ih : ∀ x ∈ xs, ∀ v, clockJSONValue x = .ok v → v = canon x)
    (h : clockJSONItems xs = .ok vs) : vs = xs.map canon := by
  induction xs generalizing vs with
  | nil =>
    rw [clockJSONItems] at h
    exact (Except.ok.inj h).symm
  | cons x xs ihxs =>
    rw [clockJSONItems] at h
    obtain ⟨v, hv, h⟩ := bind_eq_ok.mp h
    obtain ⟨rest, hrest, h⟩ := bind_eq_ok.mp h
    have hx := ih x (List.mem_cons_self ..) v hv
    have hxs := ihxs (fun y hy => ih y (List.mem_cons_of_mem _ hy)) hrest
    rw [List.map_cons, ← hx, ← hxs]
    exact (Except.ok.inj h).symm

theorem clockJSONMembers_canon {ms vs : List (String × Json)} {seen : List String}
    (ih : ∀ m ∈ ms, ∀ v, clockJSONValue m.2 = .ok v → v = canon m.2)
    (h : clockJSONMembers seen ms = .ok vs) : vs = ms.map canonMember := by
  induction ms generalizing vs seen with
  | nil =>
    rw [clockJSONMembers] at h
    exact (Except.ok.inj h).symm
  | cons m ms ihms =>
    rw [clockJSONMembers] at h
    split_ifs at h with hseen
    obtain ⟨v, hv, h⟩ := bind_eq_ok.mp h
    obtain ⟨rest, hrest, h⟩ := bind_eq_ok.mp h
    have hm := ih m (List.mem_cons_self ..) v hv
    have hms := ihms (fun n hn => ih n (List.mem_cons_of_mem _ hn)) hrest
    rw [List.map_cons, canonMember, ← hm, ← hms]
    exact (Except.ok.inj h).symm

theorem clockJSONValue_canon (j v : Json) : clockJSONValue j = .ok v → v = canon j := by
  induction j using Json.induct generalizing v with
  | null =>
    intro h
    rw [clockJSONValue] at h
    cases h
  | bool b | str s =>
    intro h
    rw [clockJSONValue] at h
    rw [canon]
    exact (Except.ok.inj h).symm
  | num l =>
    intro h
    rw [clockJSONValue] at h
    split_ifs at h
    rw [canon]
    exact (Except.ok.inj h).symm
  | arr xs ih =>
    intro h
    rw [clockJSONValue] at h
    obtain ⟨vs, hvs, h⟩ := bind_eq_ok.mp h
    rw [canon_arr, ← clockJSONItems_canon ih hvs]
    exact (Except.ok.inj h).symm
  | obj ms ih =>
    intro h
    rw [clockJSONValue] at h
    obtain ⟨vs, hvs, h⟩ := bind_eq_ok.mp h
    rw [canon_obj, ← clockJSONMembers_canon ih hvs]
    exact (Except.ok.inj h).symm

/-! ## The typed document -/

open Decoder (string_stable bool_stable int_stable pointer_stable slice_stable struct_stable)

theorem ClockNative.decode_stable : ClockNative.decode.Stable := by
  refine struct_stable fun _ =>
    .field string_stable fun _ => .field string_stable fun _ => .field string_stable fun _ => ?_
  exact .field (pointer_stable int_stable) fun _ => .field string_stable fun _ =>
    .field (pointer_stable int_stable) fun _ => .field string_stable fun _ =>
    .field string_stable fun _ => .pure _

theorem ClockSource.decode_stable : ClockSource.decode.Stable := by
  refine struct_stable fun _ =>
    .field string_stable fun _ => .field string_stable fun _ => .field string_stable fun _ => ?_
  exact .field bool_stable fun _ => .field string_stable fun _ =>
    .field ClockNative.decode_stable fun _ => .pure _

theorem ClockBinding.decode_stable : ClockBinding.decode.Stable :=
  struct_stable fun _ => .field string_stable fun _ => .field string_stable fun _ => .pure _

theorem ClockSnapshotJSON.decode_fields {ms : List (String × Json)} {s : ClockSnapshotJSON}
    (h : ClockSnapshotJSON.decode {} (.obj ms) = .ok s) :
      field names "points" (.slice {} GatewayPointDTOJSON.decode) [] ms = .ok s.points ∧
      field names "clockSources" (.slice {} ClockSource.decode) [] ms = .ok s.clockSources ∧
      field names "clockBindings" (.slice {} ClockBinding.decode) [] ms = .ok s.clockBindings := by
  rw [ClockSnapshotJSON.decode, Decoder.struct] at h
  split at h
  · cases h
  · obtain ⟨_, _, h⟩ := bind_eq_ok.mp h
    obtain ⟨_, _, h⟩ := bind_eq_ok.mp h
    obtain ⟨_, _, h⟩ := bind_eq_ok.mp h
    obtain ⟨_, _, h⟩ := bind_eq_ok.mp h
    obtain ⟨points, hpoints, h⟩ := bind_eq_ok.mp h
    obtain ⟨sources, hsources, h⟩ := bind_eq_ok.mp h
    obtain ⟨bindings, hbindings, h⟩ := bind_eq_ok.mp h
    rw [← Except.ok.inj h]
    exact ⟨hpoints, hsources, hbindings⟩

theorem field_filter_hashed {β : Type} (name : String) (d : Decoder β) (old : β)
    (ms : List (String × Json)) (hrev : name ≠ "revision") (hgen : name ≠ "generatedAt") :
    field ClockSnapshotJSON.names name d old (ms.filter hashed) =
      field ClockSnapshotJSON.names name d old ms := by
  have hkeep : ∀ m ∈ ms, resolve ClockSnapshotJSON.names m.1 = some name → hashed m = true := by
    intro m _ hm
    rw [hashed, decide_eq_true_eq]
    refine ⟨?_, ?_⟩
    · intro hkey
      rw [hkey, show resolve ClockSnapshotJSON.names "revision" = some "revision" by decide] at hm
      exact hrev (Option.some.inj hm).symm
    · intro hkey
      rw [hkey, show resolve ClockSnapshotJSON.names "generatedAt" = some "generatedAt"
        by decide] at hm
      exact hgen (Option.some.inj hm).symm
  rw [field, field, List.filter_filter]
  congr 1
  refine List.filter_congr fun m hm => ?_
  by_cases hres : resolve ClockSnapshotJSON.names m.1 = some name
  · simp [hres, hkeep m hm hres]
  · simp [hres]

/-! ## Staging -/

theorem stageClockSnapshot_eq_ok {sha256 : List Char → String} {data : List UInt8} {scope : Scope}
    {result : NativeClockConfig × List Entry}
    (h : stageClockSnapshot sha256 data scope = .ok result) :
    ∃ ms rest s, read data = some (.obj ms, rest) ∧ ClockSnapshotJSON.decode {} (.obj ms) = .ok s ∧
      s.revision = revisionOf sha256 (sortMembers (ms.map canonMember)) ∧
      stageDocument scope s = .ok result := by
  rw [stageClockSnapshot, mapError_eq_ok] at h
  obtain ⟨⟨document, rest⟩, hread, h⟩ := bind_eq_ok.mp h
  obtain ⟨s, hs, h⟩ := bind_eq_ok.mp h
  obtain ⟨-, h⟩ := refuse_bind_eq_ok.mp h
  obtain ⟨decoded, hdecoded, h⟩ := bind_eq_ok.mp h
  obtain ⟨-, h⟩ := refuse_bind_eq_ok.mp h
  obtain ⟨body, hbody, h⟩ := bind_eq_ok.mp h
  obtain ⟨-, h⟩ := refuse_bind_eq_ok.mp h
  obtain ⟨hrev, hstage⟩ := refuse_bind_eq_ok.mp h
  have hcanon := clockJSONValue_canon document decoded hdecoded
  rw [hcanon] at hbody
  -- only an object has an object as its canonical form
  cases document with
  | obj ms =>
    rw [canon_obj] at hbody
    refine ⟨ms, rest, s, elim_eq_ok.mp hread, hs, ?_, hstage⟩
    rw [Except.ok.inj hbody]
    exact not_not.mp (of_decide_eq_false hrev)
  | null | bool b | num l | str t | arr xs =>
    simp only [canon] at hbody
    cases hbody

theorem stageDocument_revision {scope : Scope} {s : ClockSnapshotJSON}
    {result : NativeClockConfig × List Entry} (h : stageDocument scope s = .ok result) :
    result.1.revision = s.revision := by
  rw [stageDocument] at h
  obtain ⟨-, h⟩ := refuse_bind_eq_ok.mp h
  obtain ⟨clocks, -, h⟩ := bind_eq_ok.mp h
  obtain ⟨bindings, -, h⟩ := bind_eq_ok.mp h
  obtain ⟨st, -, h⟩ := bind_eq_ok.mp h
  obtain ⟨released, -, h⟩ := bind_eq_ok.mp h
  obtain ⟨-, h⟩ := refuse_bind_eq_ok.mp h
  obtain ⟨-, h⟩ := refuse_bind_eq_ok.mp h
  rw [← Except.ok.inj h]

theorem stageDocument_congr {scope : Scope} {s s' : ClockSnapshotJSON}
    (hrev : s.revision = s'.revision) (hpoints : s.points = s'.points)
    (hsources : s.clockSources = s'.clockSources) (hbindings : s.clockBindings = s'.clockBindings) :
    stageDocument scope s = stageDocument scope s' := by
  unfold stageDocument
  rw [hrev, hpoints, hsources, hbindings]

/-! ## One revision, one bundle -/

theorem perm_of_revisionOf_eq {sha256 : List Char → String} (hsha : Function.Injective sha256)
    {ms ms' : List (String × Json)} (hwf : WellFormed (.obj ms)) (hwf' : WellFormed (.obj ms'))
    (h : revisionOf sha256 (sortMembers (ms.map canonMember)) =
      revisionOf sha256 (sortMembers (ms'.map canonMember))) :
    ((ms.filter hashed).map canonMember).Perm ((ms'.filter hashed).map canonMember) := by
  have hfilter (ns : List (String × Json)) :
      ((sortMembers (ns.map canonMember)).filter hashed).Perm
        ((ns.filter hashed).map canonMember) := by
    rw [show (ns.filter hashed).map canonMember = (ns.map canonMember).filter hashed by
      rw [List.filter_map]
      rfl]
    exact (sortMembers_perm _).filter hashed
  have hwfBody {ns : List (String × Json)} (hns : WellFormed (.obj ns)) :
      WellFormed (.obj ((sortMembers (ns.map canonMember)).filter hashed)) := by
    have hcanon := hns.canon
    rw [canon_obj, wellFormed_obj] at hcanon
    rw [wellFormed_obj]
    exact fun m hm => hcanon m (List.mem_of_mem_filter hm)
  -- the digest gives the text back, and the text gives the members back
  have htext : text false (.obj ((sortMembers (ms.map canonMember)).filter hashed)) =
      text false (.obj ((sortMembers (ms'.map canonMember)).filter hashed)) := by
    rw [revisionOf, revisionOf, String.append_left_inj, String.append_right_inj] at h
    exact hsha h
  have hmembers := text_injective (hwfBody hwf) (hwfBody hwf') htext
  rw [Json.obj.injEq] at hmembers
  exact (hfilter ms).symm.trans (hmembers ▸ hfilter ms')

/-- Two accepted documents with one revision give one bundle, if no object of the first
    has two members whose names are equal up to case. -/
theorem equal_revision_equal_bundle {sha256 : List Char → String}
    (hsha : Function.Injective sha256) {scope : Scope} {data data' : List UInt8}
    {cfg cfg' : NativeClockConfig} {entries entries' : List Entry}
    (h : stageClockSnapshot sha256 data scope = .ok (cfg, entries))
    (h' : stageClockSnapshot sha256 data' scope = .ok (cfg', entries'))
    (hrev : cfg.revision = cfg'.revision)
    (hunambiguous : ∀ document rest, read data = some (document, rest) → Unambiguous document) :
    cfg = cfg' ∧ entries = entries' := by
  obtain ⟨ms, rest, s, hread, hs, hsrev, hstage⟩ := stageClockSnapshot_eq_ok h
  obtain ⟨ms', rest', s', hread', hs', hsrev', hstage'⟩ := stageClockSnapshot_eq_ok h'
  have hrevision : s.revision = s'.revision := by
    rw [← stageDocument_revision hstage, ← stageDocument_revision hstage']
    exact hrev
  -- the hashed members are the same, so each list is decoded the same
  have hsame : SameObject (ms.filter hashed) (ms'.filter hashed) := by
    refine ⟨(hunambiguous _ _ hread).filter hashed, ?_⟩
    refine perm_of_revisionOf_eq hsha (read_wellFormed hread) (read_wellFormed hread') ?_
    rw [← hsrev, ← hsrev']
    exact hrevision
  obtain ⟨hpoints, hsources, hbindings⟩ := ClockSnapshotJSON.decode_fields hs
  obtain ⟨hpoints', hsources', hbindings'⟩ := ClockSnapshotJSON.decode_fields hs'
  have hlist {β : Type} {name : String} {d : Decoder β} {old b b' : β} (hd : d.Stable)
      (hne : name ≠ "revision" ∧ name ≠ "generatedAt")
      (hb : field ClockSnapshotJSON.names name d old ms = .ok b)
      (hb' : field ClockSnapshotJSON.names name d old ms' = .ok b') : b = b' := by
    rw [← field_filter_hashed name d old ms hne.1 hne.2] at hb
    have hstable := field_stable hd hsame hb
    rw [field_filter_hashed name d old ms' hne.1 hne.2, hb'] at hstable
    exact (Except.ok.inj hstable).symm
  have hstaged : stageDocument scope s = stageDocument scope s' :=
    stageDocument_congr hrevision
      (hlist (slice_stable GatewayPointDTOJSON.decode_stable) (by decide) hpoints hpoints')
      (hlist (slice_stable ClockSource.decode_stable) (by decide) hsources hsources')
      (hlist (slice_stable ClockBinding.decode_stable) (by decide) hbindings hbindings')
  rw [hstaged, hstage', Except.ok.injEq, Prod.mk.injEq] at hstage
  exact ⟨hstage.1.symm, hstage.2.symm⟩

/-! ## Two documents -/

def onePoint (members : List (String × Json)) : Json :=
  .obj [("schemaVersion", .str "clock-provisioning/1-draft"), ("gatewayId", .str "gw"),
    ("revision", .str "\"sha256:\""), ("generatedAt", .str ""),
    ("points", .arr [.obj (members ++ [("pointId", .str "p"), ("protocol", .str "bacnet"),
      ("native", .obj [("protocol", .str "bacnet"), ("deviceId", .str "1"),
        ("objectType", .str "analogInput"), ("instanceNo", .str "7")])])]),
    ("clockSources", .arr []), ("clockBindings", .arr [])]

def onePointBundle (unit : String) : NativeClockConfig × List Entry :=
  ({ revision := "\"sha256:\"", connectorID := "c", deviceID := 1
     points := [{ localID := "analogInput,7", deviceRef := "1", unit, writable := false }]
     clocks := [] },
   [{ connectorID := "c", protocol := "bacnet", localID := "analogInput,7", pointID := "p", unit,
      deviceRef := "1" }])

def hashedText : Json → List Char
  | .obj ms => text false (.obj ((sortMembers (canonMembers ms)).filter hashed))
  | _ => []

def digestOf (t : List Char) (u : List Char) : String := String.ofList (Equiv.swap t [] u)

theorem digestOf_injective (t : List Char) : Function.Injective (digestOf t) := by
  intro u v h
  exact (Equiv.swap t []).injective (String.ofList_injective h)

theorem read_onePoint {members : List (String × Json)} (hwf : ∀ m ∈ members, WellFormed m.2) :
    read (utf8 (text false (onePoint members))) = some (onePoint members, []) := by
  refine read_text ?_
  simpa [onePoint, or_imp, forall_and] using hwf

/-- Two orders of two members that are one field: one revision, two bundles. -/
theorem equal_revision_different_bundle :
    ∃ sha256 : List Char → String, Function.Injective sha256 ∧
      stageClockSnapshot sha256
          (utf8 (text false (onePoint [("unit", .str "K"), ("Unit", .str "C")])))
          ⟨"gw", "c", 1⟩ = .ok (onePointBundle "C") ∧
      stageClockSnapshot sha256
          (utf8 (text false (onePoint [("Unit", .str "C"), ("unit", .str "K")])))
          ⟨"gw", "c", 1⟩ = .ok (onePointBundle "K") ∧
      (onePointBundle "C").1.revision = (onePointBundle "K").1.revision ∧
      (onePointBundle "C").1 ≠ (onePointBundle "K").1 ∧
      (onePointBundle "C").2 ≠ (onePointBundle "K").2 := by
  refine ⟨digestOf (hashedText (onePoint [("unit", .str "K"), ("Unit", .str "C")])),
    digestOf_injective _, ?_, ?_, rfl, by decide, by decide⟩
  · rw [stageClockSnapshot, read_onePoint (by simp)]
    decide +kernel
  · rw [stageClockSnapshot, read_onePoint (by simp)]
    decide +kernel

/-- Two orders of two members that are two fields. -/
theorem equal_revision_equal_bundle_reordered :
    ∃ (sha256 : List Char → String) (cfg cfg' : NativeClockConfig) (entries entries' : List Entry),
      stageClockSnapshot sha256
          (utf8 (text false (onePoint [("unit", .str "K"), ("localId", .str "")])))
          ⟨"gw", "c", 1⟩ = .ok (cfg, entries) ∧
      stageClockSnapshot sha256
          (utf8 (text false (onePoint [("localId", .str ""), ("unit", .str "K")])))
          ⟨"gw", "c", 1⟩ = .ok (cfg', entries') ∧
      cfg = cfg' ∧ entries = entries' := by
  have hread : read (utf8 (text false (onePoint [("unit", .str "K"), ("localId", .str "")]))) =
      some (onePoint [("unit", .str "K"), ("localId", .str "")], []) :=
    read_onePoint (by simp)
  have hstage : stageClockSnapshot
      (digestOf (hashedText (onePoint [("unit", .str "K"), ("localId", .str "")])))
      (utf8 (text false (onePoint [("unit", .str "K"), ("localId", .str "")])))
      ⟨"gw", "c", 1⟩ = .ok (onePointBundle "K") := by
    rw [stageClockSnapshot, hread]
    decide +kernel
  have hstage' : stageClockSnapshot
      (digestOf (hashedText (onePoint [("unit", .str "K"), ("localId", .str "")])))
      (utf8 (text false (onePoint [("localId", .str ""), ("unit", .str "K")])))
      ⟨"gw", "c", 1⟩ = .ok (onePointBundle "K") := by
    rw [stageClockSnapshot, read_onePoint (by simp)]
    decide +kernel
  refine ⟨_, _, _, _, _, hstage, hstage', ?_⟩
  refine equal_revision_equal_bundle (digestOf_injective _) hstage hstage' rfl ?_
  intro document rest hdocument
  rw [hread, Option.some.injEq, Prod.mk.injEq] at hdocument
  rw [← hdocument.1]
  simp only [onePoint, unambiguous_obj, unambiguous_arr, unambiguous_str, List.cons_append,
    List.nil_append, List.forall_mem_cons, List.not_mem_nil, false_imp_iff, forall_true_iff]
  decide +kernel

end NexusGateway.Provisioning
