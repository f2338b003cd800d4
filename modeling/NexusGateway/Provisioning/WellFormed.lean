/-
What staging guarantees of the bundles it accepts.

The guarantees come out of four loops.  Each has an invariant: the sets that
a loop checks its input against are those of what it has built, so that a
check against the set is one against the bundle.  The loop over the points
changes nothing of a clock but the points it lists, and lists only a point
that it has just added.
-/

import NexusGateway.Provisioning.Revision

namespace NexusGateway.Provisioning

open Lib Lib.Json PointList

def releaseEntries (entries : List Entry) : List Entry := entries.filter fun e => e.releaseOf ≠ ""

def NativeClockPoint.ofEntry (e : Entry) : NativeClockPoint :=
  { localID := e.localID, deviceRef := e.deviceRef, unit := e.unit, writable := e.writable }

structure NativeClock.Sound (c : NativeClock) : Prop where
  clockID_ne : c.clockID ≠ ""
  property : c.property = "presentValue"
  address : ∃ objectType ∈ ["analogValue", "analogInput"], ∃ n : Nat, n ≤ 4194303 ∧
    c.localID = objectType ++ "," ++ toString n

structure BundleWellFormed (scope : Scope) (cfg : NativeClockConfig) (entries : List Entry) :
    Prop where
  connectorID : cfg.connectorID = scope.connectorID
  deviceID : cfg.deviceID = scope.deviceID
  pointIDs : (entries.map (·.pointID)).Nodup
  pointID_ne : ∀ e ∈ entries, e.pointID ≠ ""
  /-- the addresses of the points and of the clocks -/
  localIDs : (cfg.points.map (·.localID) ++ cfg.clocks.map (·.localID)).Nodup
  localID_ne : ∀ p ∈ cfg.points, p.localID ≠ ""
  native : cfg.points = (addressed entries).map .ofEntry
  connector : ∀ e ∈ entries, e.connectorID = scope.connectorID
  clockIDs : (cfg.clocks.map (·.clockID)).Nodup
  sound : ∀ c ∈ cfg.clocks, c.Sound
  bound : ∀ c ∈ cfg.clocks, c.pointLocalIDs ≠ []
  /-- and only native points, none twice -/
  lists : ∀ c ∈ cfg.clocks, ∀ l ∈ c.pointLocalIDs, l ∈ cfg.points.map (·.localID)
  listsOnce : ∀ c ∈ cfg.clocks, c.pointLocalIDs.Nodup
  /-- no point is listed by two clocks -/
  apart : cfg.clocks.Pairwise fun c d => ∀ l ∈ c.pointLocalIDs, l ∉ d.pointLocalIDs
  /-- a release entry names a writable point, which no other release entry names -/
  target : ∀ r ∈ releaseEntries entries, ∃ e ∈ addressed entries,
    e.pointID = r.releaseOf ∧ e.writable = true
  released : ((releaseEntries entries).map (·.releaseOf)).Nodup

/-! ## The clock sources -/

structure SourcesStaged (st : StagedClocks) : Prop where
  index : ∀ id, (st.index.lookup id).isSome ↔ id ∈ st.native.map (·.clockID)
  objects : ∀ l, l ∈ st.objects ↔ l ∈ st.native.map (·.localID)
  clockIDs : (st.native.map (·.clockID)).Nodup
  localIDs : (st.native.map (·.localID)).Nodup
  sound : ∀ c ∈ st.native, c.Sound
  unbound : ∀ c ∈ st.native, c.pointLocalIDs = []

theorem nodup_map_snoc {α β : Type} {f : α → β} {xs : List α} {x : α} (h : (xs.map f).Nodup)
    (hx : f x ∉ xs.map f) : ((xs ++ [x]).map f).Nodup := by
  rw [List.map_append]
  exact List.Nodup.append h (List.nodup_singleton _) (by simpa using hx)

theorem ClockSource.sound_of_supported {scope : Scope} {c : ClockSource}
    (h : c.supported scope = true) : NativeClock.Sound
      { clockID := c.clockID
        localID := c.native.objectType ++ "," ++ toString (c.native.objectInstance.getD 0)
        property := c.native.property
        pointLocalIDs := [] } := by
  simp only [ClockSource.supported, Bool.and_eq_true, decide_eq_true_eq, Bool.or_eq_true,
    and_assoc] at h
  obtain ⟨hid, -, -, -, -, -, -, -, -, hinstance, htype, hproperty, -⟩ := h
  refine ⟨hid, hproperty, c.native.objectType, by simpa using htype, ?_⟩
  cases hobject : c.native.objectInstance with
  | none => simp [hobject] at hinstance
  | some n =>
    simp only [hobject, Option.any_some, Bool.and_eq_true, decide_eq_true_eq] at hinstance
    obtain ⟨m, rfl⟩ := Int.eq_ofNat_of_zero_le hinstance.1
    exact ⟨m, by omega, rfl⟩

theorem SourcesStaged.step {scope : Scope} {st st' : StagedClocks} {c : ClockSource}
    (h : SourcesStaged st) (hstep : stageSource scope st c = .ok st') : SourcesStaged st' := by
  obtain ⟨hsupported, hstep⟩ := refuse_bind_eq_ok.mp hstep
  obtain ⟨hindex, hstep⟩ := refuse_bind_eq_ok.mp hstep
  obtain ⟨hobject, hstep⟩ := refuse_bind_eq_ok.mp hstep
  cases hstep
  have hid : c.clockID ∉ st.native.map (·.clockID) := by
    rw [← h.index, hindex]
    nofun
  have hlocal := of_decide_eq_false hobject
  refine ⟨fun id => ?_, fun l => ?_, nodup_map_snoc h.clockIDs hid,
    nodup_map_snoc h.localIDs fun hmem => hlocal ((h.objects _).mpr hmem), ?_, ?_⟩
  · rw [Dict.lookup_insert_ite, List.map_append, List.mem_append, ← h.index]
    split
    · next heq => simp [heq]
    · next hne => simp [hne]
  · rw [List.mem_cons, List.map_append, List.mem_append, h.objects, or_comm]
    simp
  · intro c' hc'
    rcases List.mem_append.mp hc' with hc' | hc'
    · exact h.sound c' hc'
    · rw [List.mem_singleton.mp hc']
      exact c.sound_of_supported (by simpa using hsupported)
  · intro c' hc'
    rcases List.mem_append.mp hc' with hc' | hc'
    · exact h.unbound c' hc'
    · rw [List.mem_singleton.mp hc']

theorem sourcesStaged {scope : Scope} {sources : List ClockSource} {st : StagedClocks}
    (h : sources.foldlM (stageSource scope) {} = .ok st) : SourcesStaged st := by
  apply foldlM_invariant h
  · exact ⟨fun _ => by simp, fun _ => by simp, List.nodup_nil, List.nodup_nil, by simp, by simp⟩
  · exact fun _ _ _ hst hstep => hst.step hstep

/-! ## The points that the clocks list -/

def NativeClock.bare (c : NativeClock) : NativeClock := { c with pointLocalIDs := [] }

def listed (clocks : List NativeClock) : List String := clocks.flatMap (·.pointLocalIDs)

theorem addLocalID_bare (l : String) (i : Nat) (clocks : List NativeClock) :
    (addLocalID l i clocks).map NativeClock.bare = clocks.map NativeClock.bare := by
  rw [addLocalID]
  induction clocks generalizing i with
  | nil => simp
  | cons c clocks ih =>
    cases i with
    | zero => rfl
    | succ i => simp [ih]

theorem addLocalID_listed (l : String) (i : Nat) (clocks : List NativeClock) :
    ∃ pre post, listed clocks = pre ++ post ∧
      (listed (addLocalID l i clocks) = pre ++ post ∨
        listed (addLocalID l i clocks) = pre ++ l :: post) := by
  rw [addLocalID]
  induction clocks generalizing i with
  | nil => exact ⟨[], [], rfl, Or.inl (by simp [listed])⟩
  | cons c clocks ih =>
    cases i with
    | zero =>
      refine ⟨c.pointLocalIDs, listed clocks, rfl, Or.inr ?_⟩
      simp [listed]
    | succ i =>
      obtain ⟨pre, post, heq, hadd⟩ := ih i
      refine ⟨c.pointLocalIDs ++ pre, post, ?_, ?_⟩
      · simp only [listed, List.flatMap_cons, List.append_assoc] at heq ⊢
        rw [heq]
      · simp only [listed, List.modify_succ_cons, List.flatMap_cons, List.append_assoc]
          at hadd ⊢
        exact hadd.imp (fun h => by rw [h]) fun h => by rw [h]

structure ClocksListed (native : List NativeClock) (localIDs : List String)
    (clocks : List NativeClock) : Prop where
  bare : clocks.map NativeClock.bare = native.map NativeClock.bare
  listed : ∀ l ∈ listed clocks, l ∈ localIDs
  nodup : (Provisioning.listed clocks).Nodup

section ClocksListed

variable {native clocks : List NativeClock} {localIDs : List String} {l : String}

theorem ClocksListed.add (h : ClocksListed native localIDs clocks) (hl : l ∉ localIDs) (i : Nat) :
    ClocksListed native (localIDs ++ [l]) (addLocalID l i clocks) := by
  obtain ⟨pre, post, heq, hadd⟩ := addLocalID_listed l i clocks
  have hnodup := h.nodup
  have hlisted := h.listed
  rw [heq] at hnodup hlisted
  refine ⟨(addLocalID_bare l i clocks).trans h.bare, ?_, ?_⟩
  · intro x hx
    rw [List.mem_append, List.mem_singleton]
    rcases hadd with hadd | hadd
    · rw [hadd] at hx
      exact Or.inl (hlisted x hx)
    · rw [hadd, List.mem_append, List.mem_cons] at hx
      rcases hx with hx | rfl | hx
      · exact Or.inl (hlisted x (List.mem_append_left _ hx))
      · exact Or.inr rfl
      · exact Or.inl (hlisted x (List.mem_append_right _ hx))
  · rcases hadd with hadd | hadd
    · rw [hadd]
      exact hnodup
    · rw [hadd, List.nodup_middle, List.nodup_cons]
      exact ⟨fun hmem => hl (hlisted l hmem), hnodup⟩

theorem ClocksListed.mono (h : ClocksListed native localIDs clocks) :
    ClocksListed native (localIDs ++ [l]) clocks :=
  ⟨h.bare, fun x hx => List.mem_append_left _ (h.listed x hx), h.nodup⟩

theorem ClocksListed.map_eq {β : Type} {f : NativeClock → β}
    (h : ClocksListed native localIDs clocks) (hf : ∀ c, f c.bare = f c) :
    clocks.map f = native.map f := by
  have hmap := congrArg (List.map f) h.bare
  rw [List.map_map, List.map_map] at hmap
  rw [show f ∘ NativeClock.bare = f from funext hf] at hmap
  exact hmap

end ClocksListed

/-! ## The points -/

structure PointsStaged (scope : Scope) (sources : StagedClocks) (st : StagedPoints) : Prop where
  ids : ∀ id, id ∈ st.ids ↔ id ∈ st.entries.map (·.pointID)
  pointIDs : (st.entries.map (·.pointID)).Nodup
  pointID_ne : ∀ e ∈ st.entries, e.pointID ≠ ""
  nativeIDs : ∀ l, l ∈ st.nativeIDs ↔ l ∈ st.points.map (·.localID)
  localIDs : (st.points.map (·.localID)).Nodup
  localID_ne : ∀ p ∈ st.points, p.localID ≠ ""
  unclocked : ∀ l ∈ st.points.map (·.localID), l ∉ sources.objects
  native : st.points = (addressed st.entries).map .ofEntry
  connector : ∀ e ∈ st.entries, e.connectorID = scope.connectorID
  clocks : ClocksListed sources.native (st.points.map (·.localID)) st.clocks
  targets : ∀ id ∈ st.writableTargets, ∃ e ∈ addressed st.entries,
    e.pointID = id ∧ e.writable = true
  releases : (releaseEntries st.entries).map (·.releaseOf) = st.releases.map (·.releaseOf)

def stagingClient (scope : Scope) : HTTPClient :=
  { connectorMap := (∅ : Dict String String).insert "bacnet" scope.connectorID }

theorem mapDTO_connectorID {scope : Scope} {p : GatewayPointDTOJSON} (h : p.protocol = "bacnet") :
    ((stagingClient scope).mapDTO p).connectorID = scope.connectorID := by
  have hnormal : normalizeProtocol (stagingClient scope).lower "bacnet" = "bacnet" := rfl
  have hlookup : (stagingClient scope).connectorMap.lookup "bacnet" = some scope.connectorID :=
    AList.lookup_insert _
  have hconnector : (stagingClient scope).connectorFor "bacnet" = scope.connectorID := by
    simp only [HTTPClient.connectorFor, hlookup, Option.getD_some]
    split
    · rfl
    · next hempty => exact (not_not.mp hempty).symm
  rw [HTTPClient.mapDTO, h, hnormal]
  show (if p.releaseOf ≠ "" then ((stagingClient scope).connectorMap.lookup "bacnet").getD ""
    else (stagingClient scope).connectorFor "bacnet") = _
  rw [hlookup, hconnector]
  exact ite_self _

section Entries

variable {entries : List Entry} {e : Entry}

theorem addressed_native (h : e.releaseOf = "") :
    addressed (entries ++ [e]) = addressed entries ++ [e] := by
  simp [addressed, h]

theorem addressed_release (h : e.releaseOf ≠ "") :
    addressed (entries ++ [e]) = addressed entries := by
  simp [addressed, h]

theorem releaseEntries_native (h : e.releaseOf = "") :
    releaseEntries (entries ++ [e]) = releaseEntries entries := by
  simp [releaseEntries, h]

theorem releaseEntries_release (h : e.releaseOf ≠ "") :
    releaseEntries (entries ++ [e]) = releaseEntries entries ++ [e] := by
  simp [releaseEntries, h]

end Entries

section Points

variable {bindings : Dict String String} {hasClocks : Bool} {scope : Scope}
  {sources : StagedClocks} {st st' : StagedPoints} {p : GatewayPointDTOJSON}

theorem mem_cons_iff_snoc {α : Type} {f : α → String} {ids : List String} {xs : List α}
    (h : ∀ id, id ∈ ids ↔ id ∈ xs.map f) (x : α) (id : String) :
    id ∈ f x :: ids ↔ id ∈ (xs ++ [x]).map f := by
  rw [List.mem_cons, List.map_append, List.mem_append, h, or_comm]
  simp

theorem PointsStaged.release (h : PointsStaged scope sources st) (hrelease : p.releaseOf ≠ "")
    (hstep : stageRelease (stagingClient scope) st p = .ok st') :
    PointsStaged scope sources st' := by
  obtain ⟨hvalid, hstep⟩ := refuse_bind_eq_ok.mp hstep
  simp only [Bool.or_eq_false_iff, decide_eq_false_iff_not, not_not] at hvalid
  obtain ⟨⟨⟨⟨⟨hid, hfresh⟩, -⟩, -⟩, hprotocol⟩, -⟩ := hvalid
  cases hstep
  have hentry : ((stagingClient scope).mapDTO p).releaseOf ≠ "" := hrelease
  refine ⟨mem_cons_iff_snoc h.ids ((stagingClient scope).mapDTO p), ?_, ?_, h.nativeIDs,
    h.localIDs, h.localID_ne, h.unclocked, ?_, ?_, h.clocks, ?_, ?_⟩
  · exact nodup_map_snoc h.pointIDs fun hmem => hfresh ((h.ids _).mpr hmem)
  · intro e he
    rcases List.mem_append.mp he with he | he
    · exact h.pointID_ne e he
    · rw [List.mem_singleton.mp he]
      exact hid
  · rw [addressed_release hentry]
    exact h.native
  · intro e he
    rcases List.mem_append.mp he with he | he
    · exact h.connector e he
    · rw [List.mem_singleton.mp he]
      exact mapDTO_connectorID hprotocol
  · rw [addressed_release hentry]
    exact h.targets
  · rw [releaseEntries_release hentry, List.map_append, List.map_append, h.releases]
    rfl

theorem stageDevice_eq_ok {l : String} {device : Option DeviceRefJSON}
    (h : stageDevice sources bindings hasClocks l st device = .ok st') :
    ∃ equipment clocks, st' = { st with equipment := equipment, clocks := clocks } ∧
      (clocks = st.clocks ∨ ∃ i, clocks = addLocalID l i st.clocks) := by
  cases device with
  | none =>
    obtain ⟨-, h⟩ := refuse_bind_eq_ok.mp h
    cases h
    exact ⟨_, _, rfl, Or.inl rfl⟩
  | some d =>
    obtain ⟨-, h⟩ := refuse_bind_eq_ok.mp h
    cases h
    refine ⟨_, _, rfl, ?_⟩
    cases bindings.lookup d.dtID with
    | none => exact Or.inl rfl
    | some c => exact Or.inr ⟨_, rfl⟩

theorem PointsStaged.native_step (h : PointsStaged scope sources st) (hnative : p.releaseOf = "")
    (hstep : stageNative scope (stagingClient scope) sources bindings hasClocks st p = .ok st') :
    PointsStaged scope sources st' := by
  obtain ⟨hvalid, hstep⟩ := refuse_bind_eq_ok.mp hstep
  obtain ⟨-, hstep⟩ := refuse_bind_eq_ok.mp hstep
  obtain ⟨haddress, hstep⟩ := refuse_bind_eq_ok.mp hstep
  simp only [Bool.or_eq_false_iff, decide_eq_false_iff_not, not_not] at hvalid haddress
  obtain ⟨⟨⟨⟨⟨⟨hid, hfresh⟩, hsome⟩, -⟩, hprotocol⟩, -⟩, htype⟩ := hvalid
  obtain ⟨⟨hlocal, hobject⟩, -⟩ := haddress
  obtain ⟨n, hn⟩ := Option.isSome_iff_exists.mp (by simpa using hsome)
  rw [hn, Option.getD_some] at htype
  have hne : ((stagingClient scope).mapDTO p).localID ≠ "" := by
    rw [mapDTO_localID hn htype]
    intro hempty
    have hlength := congrArg String.length hempty
    rw [String.length_append, String.length_append, show ",".length = 1 from rfl,
      show "".length = 0 from rfl] at hlength
    omega
  obtain ⟨equipment, clocks, rfl, hclocks⟩ := stageDevice_eq_ok hstep
  have hentry : ((stagingClient scope).mapDTO p).releaseOf = "" := hnative
  have hnew : ((stagingClient scope).mapDTO p).localID ∉ st.points.map (·.localID) :=
    fun hmem => hlocal ((h.nativeIDs _).mpr hmem)
  refine ⟨mem_cons_iff_snoc h.ids ((stagingClient scope).mapDTO p), ?_, ?_,
    mem_cons_iff_snoc h.nativeIDs (.ofEntry ((stagingClient scope).mapDTO p)), ?_, ?_, ?_, ?_, ?_,
    ?_, ?_, ?_⟩
  · exact nodup_map_snoc h.pointIDs fun hmem => hfresh ((h.ids _).mpr hmem)
  · intro e he
    rcases List.mem_append.mp he with he | he
    · exact h.pointID_ne e he
    · rw [List.mem_singleton.mp he]
      exact hid
  · exact nodup_map_snoc h.localIDs hnew
  · intro q hq
    rcases List.mem_append.mp hq with hq | hq
    · exact h.localID_ne q hq
    · rw [List.mem_singleton.mp hq]
      exact hne
  · intro l hl
    rw [List.map_append, List.mem_append] at hl
    rcases hl with hl | hl
    · exact h.unclocked l hl
    · rw [List.mem_singleton.mp hl]
      exact hobject
  · rw [addressed_native hentry, List.map_append, ← h.native]
    rfl
  · intro e he
    rcases List.mem_append.mp he with he | he
    · exact h.connector e he
    · rw [List.mem_singleton.mp he]
      exact mapDTO_connectorID hprotocol
  · show ClocksListed _ ((st.points ++ [_]).map _) clocks
    rw [List.map_append]
    rcases hclocks with rfl | ⟨i, rfl⟩
    · exact h.clocks.mono
    · exact h.clocks.add hnew i
  · intro id hmem
    rw [addressed_native hentry]
    have hold : id ∈ st.writableTargets →
        ∃ e ∈ addressed st.entries ++ [(stagingClient scope).mapDTO p],
          e.pointID = id ∧ e.writable = true := by
      intro hold
      obtain ⟨e, he, htarget⟩ := h.targets id hold
      exact ⟨e, List.mem_append_left _ he, htarget⟩
    have hmem' : id ∈ if ((stagingClient scope).mapDTO p).writable then
        p.pointID :: st.writableTargets else st.writableTargets := hmem
    split at hmem'
    · next hwritable =>
      rcases List.mem_cons.mp hmem' with rfl | hmem'
      · exact ⟨_, List.mem_append_right _ (List.mem_singleton.mpr rfl), rfl, hwritable⟩
      · exact hold hmem'
    · exact hold hmem'
  · rw [releaseEntries_native hentry]
    exact h.releases

theorem pointsStaged {points : List GatewayPointDTOJSON} (hsources : SourcesStaged sources)
    (h : points.foldlM (stagePoint scope (stagingClient scope) sources bindings hasClocks)
      { clocks := sources.native } = .ok st) : PointsStaged scope sources st := by
  apply foldlM_invariant h
  · have hnone : listed sources.native = [] := by
      rw [listed, List.flatMap_eq_nil_iff]
      exact hsources.unbound
    refine ⟨fun _ => Iff.rfl, List.nodup_nil, by simp, fun _ => Iff.rfl, List.nodup_nil, by simp,
      by simp, rfl, by simp, ⟨rfl, ?_, ?_⟩, by simp, rfl⟩
    · simp [hnone]
    · simp [hnone]
  · intro p st st' hst hstep
    rw [stagePoint] at hstep
    split at hstep
    · next hrelease => exact hst.release hrelease hstep
    · next hnative => exact hst.native_step (not_not.mp hnative) hstep

end Points

/-! ## The release targets -/

theorem stageTargets {st : StagedPoints} {releases : List GatewayPointDTOJSON}
    {released released' : List String}
    (h : releases.foldlM (stageTarget st) released = .ok released') :
    (releases.map (·.releaseOf)).Nodup ∧
      ∀ r ∈ releases, r.releaseOf ∈ st.writableTargets ∧ r.releaseOf ∉ released := by
  induction releases generalizing released with
  | nil => exact ⟨List.nodup_nil, by simp⟩
  | cons r releases ih =>
    rw [List.foldlM_cons] at h
    obtain ⟨next, hnext, h⟩ := bind_eq_ok.mp h
    obtain ⟨hvalid, hnext⟩ := refuse_bind_eq_ok.mp hnext
    cases hnext
    simp only [Bool.or_eq_false_iff, decide_eq_false_iff_not, not_not] at hvalid
    obtain ⟨hnodup, hrest⟩ := ih h
    refine ⟨?_, ?_⟩
    · rw [List.map_cons, List.nodup_cons]
      refine ⟨fun hmem => ?_, hnodup⟩
      obtain ⟨r', hr', heq⟩ := List.mem_map.mp hmem
      apply (hrest r' hr').2
      rw [heq]
      exact List.mem_cons_self
    · intro r' hr'
      rcases List.mem_cons.mp hr' with rfl | hr'
      · exact hvalid
      · obtain ⟨htarget, hnot⟩ := hrest r' hr'
        exact ⟨htarget, fun hmem => hnot (List.mem_cons_of_mem _ hmem)⟩

/-! ## The bundle -/

theorem stageDocument_wellFormed {scope : Scope} {s : ClockSnapshotJSON} {cfg : NativeClockConfig}
    {entries : List Entry} (h : stageDocument scope s = .ok (cfg, entries)) :
    BundleWellFormed scope cfg entries := by
  obtain ⟨-, h⟩ := refuse_bind_eq_ok.mp h
  obtain ⟨sources, hsources, h⟩ := bind_eq_ok.mp h
  obtain ⟨bindings, -, h⟩ := bind_eq_ok.mp h
  obtain ⟨st, hpoints, h⟩ := bind_eq_ok.mp h
  obtain ⟨released, htargets, h⟩ := bind_eq_ok.mp h
  obtain ⟨-, h⟩ := refuse_bind_eq_ok.mp h
  obtain ⟨hbound, h⟩ := refuse_bind_eq_ok.mp h
  cases h
  have hsources := sourcesStaged hsources
  have hst := pointsStaged hsources hpoints
  obtain ⟨hnodup, htargets⟩ := stageTargets htargets
  have hlocalIDs : st.clocks.map (·.localID) = sources.native.map (·.localID) :=
    hst.clocks.map_eq fun _ => rfl
  have hclockIDs : st.clocks.map (·.clockID) = sources.native.map (·.clockID) :=
    hst.clocks.map_eq fun _ => rfl
  obtain ⟨honce, hapart⟩ := List.nodup_flatMap.mp hst.clocks.nodup
  refine
    { connectorID := rfl
      deviceID := rfl
      pointIDs := hst.pointIDs
      pointID_ne := hst.pointID_ne
      localIDs := ?_
      localID_ne := hst.localID_ne
      native := hst.native
      connector := hst.connector
      clockIDs := hclockIDs ▸ hsources.clockIDs
      sound := ?_
      bound := ?_
      lists := fun c hc l hl => hst.clocks.listed l (List.mem_flatMap.mpr ⟨c, hc, hl⟩)
      listsOnce := honce
      apart := hapart.imp fun hdisjoint _ hl hl' => hdisjoint hl hl'
      target := ?_
      released := hst.releases ▸ hnodup }
  · rw [hlocalIDs]
    apply List.Nodup.append hst.localIDs hsources.localIDs
    intro l hl hl'
    exact hst.unclocked l hl ((hsources.objects l).mpr hl')
  · intro c hc
    have hbare : c.bare ∈ sources.native.map NativeClock.bare :=
      hst.clocks.bare ▸ List.mem_map_of_mem hc
    obtain ⟨c', hc', heq⟩ := List.mem_map.mp hbare
    obtain ⟨hid, hproperty, haddress⟩ := hsources.sound c' hc'
    cases c with
    | mk clockID localID property pointLocalIDs =>
      cases heq
      exact ⟨hid, hproperty, haddress⟩
  · intro c hc hempty
    have hnone := List.any_eq_false.mp hbound c hc
    simp [hempty] at hnone
  · intro r hr
    have hmem : r.releaseOf ∈ st.releases.map (·.releaseOf) :=
      hst.releases ▸ List.mem_map_of_mem hr
    obtain ⟨r', hr', heq⟩ := List.mem_map.mp hmem
    rw [← heq]
    exact hst.targets _ (htargets r' hr').1

theorem stageClockSnapshot_wellFormed {sha256 : List Char → String} {data : List UInt8}
    {scope : Scope} {cfg : NativeClockConfig} {entries : List Entry}
    (h : stageClockSnapshot sha256 data scope = .ok (cfg, entries)) :
    BundleWellFormed scope cfg entries := by
  obtain ⟨-, -, s, -, -, -, hstage⟩ := stageClockSnapshot_eq_ok h
  exact stageDocument_wellFormed hstage

/-- Every accepted snapshot: distinct and non-empty point ids; distinct addresses of points
    and clocks; native points that are the entries but the release entries, in order; clocks
    that list points, each point at most once in all; and releases of distinct writable
    points. -/
theorem staged_bundle_wellFormed {sha256 : List Char → String} {data : List UInt8} {scope : Scope}
    {cfg : NativeClockConfig} {entries : List Entry}
    (h : stageClockSnapshot sha256 data scope = .ok (cfg, entries)) :
    (entries.map (·.pointID)).Nodup ∧ (∀ e ∈ entries, e.pointID ≠ "") ∧
    (cfg.points.map (·.localID) ++ cfg.clocks.map (·.localID)).Nodup ∧
    cfg.points = (addressed entries).map .ofEntry ∧
    (∀ e ∈ entries, e.connectorID = scope.connectorID) ∧
    (∀ c ∈ cfg.clocks, c.pointLocalIDs ≠ [] ∧ c.pointLocalIDs.Nodup ∧
      ∀ l ∈ c.pointLocalIDs, l ∈ cfg.points.map (·.localID)) ∧
    (cfg.clocks.Pairwise fun c d => ∀ l ∈ c.pointLocalIDs, l ∉ d.pointLocalIDs) ∧
    (∀ r ∈ entries, r.releaseOf ≠ "" →
      ∃ e ∈ entries, e.releaseOf = "" ∧ e.writable = true ∧ e.pointID = r.releaseOf) ∧
    ((releaseEntries entries).map (·.releaseOf)).Nodup := by
  have hwf := stageClockSnapshot_wellFormed h
  refine ⟨hwf.pointIDs, hwf.pointID_ne, hwf.localIDs, hwf.native, hwf.connector, ?_, hwf.apart, ?_,
    hwf.released⟩
  · exact fun c hc => ⟨hwf.bound c hc, hwf.listsOnce c hc, hwf.lists c hc⟩
  · intro r hr hrelease
    have hmem : r ∈ releaseEntries entries := List.mem_filter.mpr ⟨hr, by simpa using hrelease⟩
    obtain ⟨e, he, hid, hwritable⟩ := hwf.target r hmem
    obtain ⟨he, hnative⟩ := List.mem_filter.mp he
    exact ⟨e, he, by simpa using hnative, hwritable, hid⟩

def clockedSite (digest : String) : Json :=
  .obj [("schemaVersion", .str "clock-provisioning/1-draft"), ("gatewayId", .str "gw"),
    ("revision", .str ("\"sha256:" ++ digest ++ "\"")), ("generatedAt", .str ""),
    ("points", .arr [
      .obj [("pointId", .str "p"), ("protocol", .str "bacnet"), ("unit", .str "degC"),
        ("writable", .bool true),
        ("native", .obj [("protocol", .str "bacnet"), ("deviceId", .str "1"),
          ("objectType", .str "analogOutput"), ("instanceNo", .str "7")]),
        ("device", .obj [("dtId", .str "eq"), ("id", .str "d"), ("name", .str "")])],
      .obj [("pointId", .str "r"), ("protocol", .str "bacnet"), ("releaseOf", .str "p"),
        ("writable", .bool true)]]),
    ("clockSources", .arr [
      .obj [("clockId", .str "k"), ("clockDomain", .str "simulation"), ("unit", .str "s"),
        ("readOnly", .bool true), ("acquisitionMode", .str "poll"),
        ("native", .obj [("protocol", .str "bacnet"), ("gatewayId", .str "gw"),
          ("connectorId", .str "c"), ("deviceInstance", .num "1"),
          ("objectType", .str "analogValue"), ("objectInstance", .num "9"),
          ("property", .str "presentValue"), ("unit", .str "seconds")])]]),
    ("clockBindings", .arr [.obj [("equipmentId", .str "eq"), ("clockId", .str "k")]])]

def clockedBundle (digest : String) : NativeClockConfig × List Entry :=
  ({ revision := "\"sha256:" ++ digest ++ "\"", connectorID := "c", deviceID := 1
     points := [{ localID := "analogOutput,7", deviceRef := "1", unit := "degC", writable := true }]
     clocks := [{ clockID := "k", localID := "analogValue,9", property := "presentValue"
                  pointLocalIDs := ["analogOutput,7"] }] },
   [{ connectorID := "c", protocol := "bacnet", localID := "analogOutput,7", pointID := "p"
      unit := "degC", writable := true, deviceRef := "1" },
    { releaseOf := "p", connectorID := "c", protocol := "bacnet", localID := "", pointID := "r"
      writable := true }])

theorem read_clockedSite (digest : String) :
    read (utf8 (text false (clockedSite digest))) = some (clockedSite digest, []) := by
  have hnumbers : validNumber ['1'] = true ∧ validNumber ['9'] = true := by decide
  apply read_text
  simp [clockedSite, hnumbers]

theorem stage_clockedSite : stageClockSnapshot (fun _ => "")
    (utf8 (text false (clockedSite ""))) ⟨"gw", "c", 1⟩ = .ok (clockedBundle "") := by
  rw [stageClockSnapshot, read_clockedSite]
  decide +kernel

theorem staged_bundle_wellFormed_clocked :
    stageClockSnapshot (fun _ => "") (utf8 (text false (clockedSite ""))) ⟨"gw", "c", 1⟩ =
        .ok (clockedBundle "") ∧
      (clockedBundle "").1.clocks.length = 1 ∧ (releaseEntries (clockedBundle "").2).length = 1 ∧
      ∀ c ∈ (clockedBundle "").1.clocks, ∀ l ∈ c.pointLocalIDs,
        l ∈ (clockedBundle "").1.points.map (·.localID) := by
  refine ⟨stage_clockedSite, rfl, rfl, fun c hc => ?_⟩
  obtain ⟨-, -, -, -, -, hclocks, -⟩ := staged_bundle_wellFormed stage_clockedSite
  exact (hclocks c hc).2.2

end NexusGateway.Provisioning
