/-
`Connector._poll_with_clocks`: a poll of the points in chunks, fenced by a
read of every clock before the first chunk and after each one.

The last value of each clock and the set of clocks that went backwards
outlive a poll.  The result of the module is about whole histories of polls:
what a poll says of a clock is what the contract oracle says of the poll's
boundary samples, with the latch and the previous value that all earlier
samples of the clock leave (`attributes_judged`).

Polls of a connector follow each other; what the device answers during one
is an argument.  The value of a clock is of any linearly ordered type with
a zero, the value of a point of any type.
-/

import NexusGateway.Connector.Bacnet.Config
import NexusGateway.TimeContract.Oracle
import Mathlib.Data.Finset.Insert

namespace NexusGateway.Connector.Bacnet

open Lib Lib.Json TimeContract

/-! ## The poll -/

def Config.readPoints (cfg : Config) : List PointConfig :=
  cfg.points.filter fun pt => pt.releaseOf.all fun r => r = ""

def Config.pointMap (cfg : Config) (localID : String) : Option PointConfig :=
  cfg.readPoints.reverse.find? fun pt => pt.localID = localID

/-- What the connector polls by.  `__post_init__` refuses a chunk size below 1 and
    `apply_clock_bundle` a duplicate clock ID (`applyClockBundle_distinct`). -/
structure PollConfig where
  config : Config
  rpmChunkSize : Nat
  chunkSize_pos : 1 ≤ rpmChunkSize
  distinct : (config.clocks.map ClockConfig.clockID).Nodup

namespace PollConfig

def readPoints (cfg : PollConfig) : List PointConfig := cfg.config.readPoints

/-- The number of chunks of `range(0, len(read_points), rpm_chunk_size)`. -/
def chunkCount (cfg : PollConfig) : Nat :=
  (cfg.readPoints.length + cfg.rpmChunkSize - 1) / cfg.rpmChunkSize

/-- `range(0, len(read_points), rpm_chunk_size)`. -/
def starts (cfg : PollConfig) : List Nat := List.range' 0 cfg.chunkCount cfg.rpmChunkSize

/-- `read_points[start:start + rpm_chunk_size]`. -/
def chunk (cfg : PollConfig) (start : Nat) : List PointConfig :=
  (cfg.readPoints.drop start).take cfg.rpmChunkSize

end PollConfig

structure Row (β : Type) where
  objID : String
  value : Option β
  status : Option String

/-- The device during one poll: what a clock reads at each boundary, and the rows of each
    chunk with the time they came in, `none` for a read that failed.  `_read_clock`
    returns no negative value. -/
structure Device (V β : Type) [Zero V] [LE V] where
  clock : Nat → ClockConfig → Option V
  chunk : Nat → Option (List (Row β) × String)
  startedAt : String
  endedAt : String
  nonneg : ∀ j c v, clock j c = some v → 0 ≤ v

def mentions (word : String) (s : String) : Bool :=
  decide (word.toList <:+: s.toList.map Char.toLower)

def bacnetQuality : Option String → String
  | none => "Good"
  | some s =>
    if mentions "no-error" s || s = "" then "Good"
    else if mentions "comm-failure" s || mentions "unreachable" s || mentions "timeout" s then
      "Bad"
    else "Uncertain"

/-- `_last_clock` and `_reset_clocks`. -/
structure ClockState (V : Type) where
  last : Dict String V := ∅
  reset : Finset String := ∅

structure Pending (β : Type) where
  point : PointConfig
  value : β
  quality : String
  observedAt : String

structure Polling (V β : Type) where
  state : ClockState V
  samples : Dict String (List (Option V))
  pending : List (Pending β) := []
  anySuccess : Bool := false

/-- The attributes of a clock.  `simTimeS` is the value whose text is `sim_time_s`. -/
structure Attributes (V : Type) where
  simClockID : String
  simConfigRevision : String
  simTimeQuality : String
  simRunStatus : String := "absent"
  simTimeS : Option V

/-- What `_publish` is called with. -/
structure Published (V β : Type) extends Pending β where
  attributes : Option (Attributes V)
  interval : String × String

structure Polled (V β : Type) where
  state : ClockState V
  attributes : Dict String (Attributes V)
  published : List (Published V β)
  healthy : Bool

section Poll

variable {V β : Type} [LinearOrder V] [Zero V]

def ClockState.observe (s : ClockState V) (clockID : String) : Option V → ClockState V
  | none => s
  | some value =>
    { last := s.last.insert clockID value
      reset :=
        if (s.last.lookup clockID).any fun previous => value < previous then
          insert clockID s.reset
        else s.reset }

def Polling.sample (p : Polling V β) (c : ClockConfig) (value : Option V) : Polling V β :=
  { p with
    state := p.state.observe c.clockID value
    samples := Dict.adjust c.clockID (· ++ [value]) p.samples }

def boundary (clocks : List ClockConfig) (read : ClockConfig → Option V) (p : Polling V β) :
    Polling V β :=
  clocks.foldl (fun p c => p.sample c (read c)) p

def Polling.row (cfg : PollConfig) (ids : List String) (observedAt : String) (p : Polling V β)
    (r : Row β) : Polling V β :=
  if r.objID ∈ ids then
    match r.value, cfg.config.pointMap r.objID with
    | some value, some point =>
      { p with
        anySuccess := true
        pending := p.pending ++ [⟨point, value, bacnetQuality r.status, observedAt⟩] }
    | _, _ => p
  else p

def readChunk (cfg : PollConfig) (start : Nat) (answer : Option (List (Row β) × String))
    (p : Polling V β) : Polling V β :=
  match answer with
  | none => p
  | some (rows, observedAt) =>
    rows.foldl (Polling.row cfg ((cfg.chunk start).map PointConfig.localID) observedAt) p

def pollChunks (cfg : PollConfig) (dev : Device V β) : Nat → List Nat → Polling V β → Polling V β
  | _, [], p => p
  | j, start :: starts, p =>
    pollChunks cfg dev (j + 1) starts
      (boundary cfg.config.clocks (dev.clock (j + 1)) (readChunk cfg start (dev.chunk j) p))

def timeQuality (reset : Bool) (values : List (Option V)) : String :=
  if reset then "reset"
  else if values.any Option.isNone then "missing"
  else if values.any fun v => v != values.head?.join then "changed"
  else "stable_unfenced"

def clockAttributes (cfg : PollConfig) (p : Polling V β) (c : ClockConfig) : Attributes V :=
  let values := (p.samples.lookup c.clockID).getD []
  let quality := timeQuality (c.clockID ∈ p.state.reset) values
  { simClockID := c.clockID
    simConfigRevision := cfg.config.clockRevision
    simTimeQuality := quality
    simTimeS := if quality = "stable_unfenced" then values.head?.join else none }

def acquire (cfg : PollConfig) (s : ClockState V) (dev : Device V β) : Polling V β :=
  let start : Polling V β :=
    { state := s
      samples := Dict.insertAll ClockConfig.clockID (fun _ => []) cfg.config.clocks ∅ }
  pollChunks cfg dev 0 cfg.starts (boundary cfg.config.clocks (dev.clock 0) start)

/-- `attributes[local_id]`: the attributes of the clocks, for the points each names. -/
def attributesOf (cfg : PollConfig) (p : Polling V β) : Dict String (Attributes V) :=
  cfg.config.clocks.foldl (fun d c =>
    Dict.insertAll id (fun _ => clockAttributes cfg p c) c.pointLocalIDs d) ∅

def pollWithClocks (cfg : PollConfig) (s : ClockState V) (dev : Device V β) : Polled V β :=
  let p := acquire cfg s dev
  let attributes := attributesOf cfg p
  { state := p.state
    attributes := attributes
    published := p.pending.map fun r =>
      { r with
        attributes := attributes.lookup r.point.localID
        interval := (dev.startedAt, dev.endedAt) }
    healthy := p.anySuccess }

def stateAfter (cfg : PollConfig) (devs : List (Device V β)) : ClockState V :=
  devs.foldl (fun s dev => (pollWithClocks cfg s dev).state) {}

end Poll

/-! ## One clock through a poll -/

section Track

variable {V β : Type} [LinearOrder V] {c : ClockConfig}

def ClockState.latch (s : ClockState V) (clockID : String) : Bool × Option V :=
  (decide (clockID ∈ s.reset), s.last.lookup clockID)

theorem latch_observe (s : ClockState V) (k clockID : String) (value : Option V) :
    (s.observe clockID value).latch k =
      if k = clockID then follow (s.latch k) value else s.latch k := by
  cases value with
  | none => simp [ClockState.observe, follow]
  | some v =>
    by_cases hk : k = clockID
    · subst hk
      simp only [ClockState.observe, ClockState.latch, follow, if_true, AList.lookup_insert,
        Prod.mk.injEq, and_true]
      split
      next hback => simp [hback]
      next hforth => simp [hforth]
    · simp only [ClockState.observe, ClockState.latch, hk, if_false,
        Dict.lookup_insert_ite, Prod.mk.injEq, and_true]
      split
      · simp [hk]
      · rfl

/-- Since the state `s₀` the clock has been read as `values`, all in this poll. -/
structure Tracks (c : ClockConfig) (s₀ : ClockState V) (values : List (Option V))
    (p : Polling V β) : Prop where
  latch : p.state.latch c.clockID = values.foldl follow (s₀.latch c.clockID)
  samples : p.samples.lookup c.clockID = some values

variable {s₀ : ClockState V} {values : List (Option V)} {p : Polling V β}

theorem Tracks.sample (h : Tracks c s₀ values p) (value : Option V) :
    Tracks c s₀ (values ++ [value]) (p.sample c value) := by
  constructor
  · rw [Polling.sample, latch_observe, if_pos rfl, h.latch, List.foldl_append]
    rfl
  · rw [Polling.sample, Dict.lookup_adjust, h.samples]
    simp

theorem Tracks.sample_other {c' : ClockConfig} (h : Tracks c s₀ values p)
    (hne : c'.clockID ≠ c.clockID) (value : Option V) : Tracks c s₀ values (p.sample c' value) := by
  constructor
  · rw [Polling.sample, latch_observe, if_neg hne.symm]
    exact h.latch
  · rw [Polling.sample, Dict.lookup_adjust, if_neg hne.symm]
    exact h.samples

theorem Tracks.boundary_other {clocks : List ClockConfig} (h : Tracks c s₀ values p)
    (hc : c.clockID ∉ clocks.map ClockConfig.clockID) (read : ClockConfig → Option V) :
    Tracks c s₀ values (boundary clocks read p) := by
  induction clocks generalizing p with
  | nil => exact h
  | cons d clocks ih =>
    rw [List.map_cons, List.mem_cons, not_or] at hc
    exact ih (h.sample_other (Ne.symm hc.1) (read d)) hc.2

theorem Tracks.boundary {clocks : List ClockConfig} (h : Tracks c s₀ values p)
    (hdistinct : (clocks.map ClockConfig.clockID).Nodup) (hc : c ∈ clocks)
    (read : ClockConfig → Option V) :
    Tracks c s₀ (values ++ [read c]) (boundary clocks read p) := by
  induction clocks generalizing p with
  | nil => cases hc
  | cons d clocks ih =>
    rw [List.map_cons, List.nodup_cons] at hdistinct
    rcases List.mem_cons.mp hc with rfl | hc
    · exact (h.sample (read c)).boundary_other hdistinct.1 read
    · have hne : d.clockID ≠ c.clockID := by
        intro heq
        rw [heq] at hdistinct
        exact hdistinct.1 (List.mem_map_of_mem hc)
      exact ih (h.sample_other hne (read d)) hdistinct.2 hc

theorem Tracks.row (h : Tracks c s₀ values p) (cfg : PollConfig) (ids : List String)
    (observedAt : String) (r : Row β) : Tracks c s₀ values (p.row cfg ids observedAt r) := by
  unfold Polling.row
  split
  · split
    · exact ⟨h.latch, h.samples⟩
    · exact h
  · exact h

theorem Tracks.readChunk (h : Tracks c s₀ values p) (cfg : PollConfig) (start : Nat)
    (answer : Option (List (Row β) × String)) :
    Tracks c s₀ values (readChunk cfg start answer p) := by
  cases answer with
  | none => exact h
  | some answer =>
    show Tracks c s₀ values (answer.1.foldl _ p)
    generalize answer.1 = rows
    induction rows generalizing p with
    | nil => exact h
    | cons r rows ih => exact ih (h.row cfg _ _ r)

theorem timeQuality_eq (latch : Bool × Option V) (values : List (Option V)) :
    timeQuality (values.foldl follow latch).1 values =
      (judge latch.1 latch.2 values).1.text := by
  unfold timeQuality judge
  split
  · rfl
  split
  · rfl
  split
  · rfl
  · rfl

theorem simTime_eq (latch : Bool × Option V) (values : List (Option V)) :
    (if (judge latch.1 latch.2 values).1.text = "stable_unfenced" then values.head?.join
      else none) = (judge latch.1 latch.2 values).2 := by
  unfold judge
  split
  · rfl
  split
  · rfl
  split
  · rfl
  · rfl

/-- The quality of a clock is reset exactly if one of its samples so far went back. -/
theorem judge_reset (latch : Bool × Option V) (values : List (Option V)) :
    (judge latch.1 latch.2 values).1 = .reset ↔ (values.foldl follow latch).1 = true := by
  unfold judge
  constructor
  · intro h
    by_contra hlatch
    rw [if_neg hlatch] at h
    repeat' split at h
    all_goals cases h
  · intro hlatch
    rw [if_pos hlatch]

theorem attributesOf_lookup {cfg : PollConfig} {p : Polling V β} {localID : String}
    {a : Attributes V} (h : (attributesOf cfg p).lookup localID = some a) :
    ∃ c ∈ cfg.config.clocks, localID ∈ c.pointLocalIDs ∧ a = clockAttributes cfg p c := by
  have hfrom : ∀ (clocks : List ClockConfig) (d : Dict String (Attributes V)),
      (clocks.foldl (fun d c =>
        Dict.insertAll id (fun _ => clockAttributes cfg p c) c.pointLocalIDs d) d).lookup localID =
          some a →
      d.lookup localID = some a ∨
        ∃ c ∈ clocks, localID ∈ c.pointLocalIDs ∧ a = clockAttributes cfg p c := by
    intro clocks
    induction clocks with
    | nil => exact fun d hd => Or.inl hd
    | cons c clocks ih =>
      intro d hd
      rcases ih _ hd with hlookup | ⟨c', hc', hmem⟩
      · rw [Dict.lookup_insertAll, Option.or_eq_some_iff, Option.map_eq_some_iff] at hlookup
        rcases hlookup with ⟨x, hx, ha⟩ | ⟨-, hold⟩
        · have hkey := List.find?_some hx
          have hxid : x = localID := of_decide_eq_true hkey
          have hxmem := List.mem_reverse.mp (List.mem_of_find?_eq_some hx)
          exact Or.inr ⟨c, List.mem_cons_self .., hxid ▸ hxmem, ha.symm⟩
        · exact Or.inl hold
      · exact Or.inr ⟨c', List.mem_cons_of_mem _ hc', hmem⟩
  rcases hfrom _ _ h with hempty | hclock
  · simp at hempty
  · exact hclock

theorem isSome_attributesOf {cfg : PollConfig} {p : Polling V β} (hc : c ∈ cfg.config.clocks)
    {localID : String} (hmem : localID ∈ c.pointLocalIDs) :
    ((attributesOf cfg p).lookup localID).isSome = true := by
  have hkeep : ∀ (clocks : List ClockConfig) (d : Dict String (Attributes V)),
      (d.lookup localID).isSome = true ∨ c ∈ clocks →
      ((clocks.foldl (fun d c => Dict.insertAll id (fun _ => clockAttributes cfg p c)
        c.pointLocalIDs d) d).lookup localID).isSome = true := by
    intro clocks
    induction clocks with
    | nil =>
      intro d hd
      rcases hd with hd | hd
      · exact hd
      · cases hd
    | cons c' clocks ih =>
      intro d hd
      apply ih
      rcases hd with hd | hd
      · left
        rw [Dict.lookup_insertAll, Option.isSome_or, hd, Bool.or_true]
      · rcases List.mem_cons.mp hd with rfl | hd
        · exact Or.inl (Dict.isSome_lookup_insertAll id _ _ hmem)
        · exact Or.inr hd
  exact hkeep _ _ (Or.inr hc)

variable [Zero V]

def Device.samples (dev : Device V β) (chunks : Nat) (c : ClockConfig) : List (Option V) :=
  (List.range (chunks + 1)).map fun j => dev.clock j c

theorem Tracks.pollChunks {cfg : PollConfig} (h : Tracks c s₀ values p)
    (hc : c ∈ cfg.config.clocks) (dev : Device V β) (j : Nat) (starts : List Nat) :
    Tracks c s₀ (values ++ (List.range' (j + 1) starts.length).map fun i => dev.clock i c)
      (pollChunks cfg dev j starts p) := by
  induction starts generalizing j values p with
  | nil =>
    rw [List.length_nil, List.range'_zero, List.map_nil, List.append_nil]
    exact h
  | cons start starts ih =>
    have hnext := ((h.readChunk cfg start (dev.chunk j)).boundary cfg.distinct hc
      (dev.clock (j + 1)))
    have hrest := ih hnext (j + 1)
    rw [List.append_assoc] at hrest
    exact hrest

theorem acquire_tracks {cfg : PollConfig} (hc : c ∈ cfg.config.clocks) (s : ClockState V)
    (dev : Device V β) : Tracks c s (dev.samples cfg.chunkCount c) (acquire cfg s dev) := by
  set start : Polling V β :=
    { state := s
      samples := Dict.insertAll ClockConfig.clockID (fun _ => []) cfg.config.clocks ∅ }
  have hstart : Tracks c s [] start := ⟨rfl, Dict.lookup_insertAll_of_mem cfg.distinct hc⟩
  have hpoll := (hstart.boundary cfg.distinct hc (dev.clock 0)).pollChunks hc dev 0 cfg.starts
  have hlength : cfg.starts.length = cfg.chunkCount := by
    rw [PollConfig.starts, List.length_range']
  rw [hlength] at hpoll
  have hsamples : dev.samples cfg.chunkCount c =
      [] ++ [dev.clock 0 c] ++ (List.range' (0 + 1) cfg.chunkCount).map fun i => dev.clock i c := by
    rw [Device.samples, List.range_eq_range', List.range'_succ]
    rfl
  rw [hsamples]
  exact hpoll

end Track

/-! ## Histories of polls -/

section History

variable {V β : Type} [LinearOrder V] [Zero V] {cfg : PollConfig} {c : ClockConfig}

def samplesOf (cfg : PollConfig) (devs : List (Device V β)) (c : ClockConfig) : List (Option V) :=
  devs.flatMap fun dev => dev.samples cfg.chunkCount c

theorem samplesOf_cons (cfg : PollConfig) (dev : Device V β) (devs : List (Device V β))
    (c : ClockConfig) :
    samplesOf cfg (dev :: devs) c = dev.samples cfg.chunkCount c ++ samplesOf cfg devs c := rfl

/-- The latch and the previous value that the samples of a history leave. -/
def latchAfter (cfg : PollConfig) (devs : List (Device V β)) (c : ClockConfig) : Bool × Option V :=
  (samplesOf cfg devs c).foldl follow (false, none)

theorem latch_stateAfter (hc : c ∈ cfg.config.clocks) (devs : List (Device V β)) :
    (stateAfter cfg devs).latch c.clockID = latchAfter cfg devs c := by
  have hfrom : ∀ s : ClockState V,
      (devs.foldl (fun s dev => (pollWithClocks cfg s dev).state) s).latch c.clockID =
        (samplesOf cfg devs c).foldl follow (s.latch c.clockID) := by
    induction devs with
    | nil => exact fun _ => rfl
    | cons dev devs ih =>
      intro s
      rw [List.foldl_cons, ih, samplesOf_cons, List.foldl_append,
        ← (acquire_tracks hc s dev).latch]
      rfl
  exact hfrom {}

theorem nonneg_of_mem_samples {dev : Device V β} {chunks : Nat} {v : V}
    (h : some v ∈ dev.samples chunks c) : 0 ≤ v := by
  obtain ⟨j, -, hj⟩ := List.mem_map.mp h
  exact dev.nonneg j c v hj

theorem nonneg_latchAfter {devs : List (Device V β)} {v : V}
    (h : (latchAfter cfg devs c).2 = some v) : 0 ≤ v := by
  rcases follow_value h with hnone | hmem
  · cases hnone
  · obtain ⟨dev, -, hdev⟩ := List.mem_flatMap.mp hmem
    exact nonneg_of_mem_samples hdev

theorem chunkCount_pos (h : cfg.readPoints ≠ []) : 0 < cfg.chunkCount := by
  have hlength := List.length_pos_iff.mpr h
  have hsize := cfg.chunkSize_pos
  exact Nat.div_pos (by omega) (by omega)

/-- The oracle's judgement of a clock in the poll `dev` that follows `devs`: over any
    interval, on the poll's samples, the latch and the previous value left by `devs`. -/
def Judged (cfg : PollConfig) (devs : List (Device V β)) (dev : Device V β) (c : ClockConfig)
    (quality : Quality) (time : Option V) : Prop :=
  ∀ start stop contextChanged, start ≤ stop →
    acquisitionQuality
      { startedAt := .time { instant := start }
        endedAt := .time { instant := stop }
        chunkCount := cfg.chunkCount
        clockSamples := dev.samples cfg.chunkCount c
        resetLatched := (latchAfter cfg devs c).1
        previousClockValue := (latchAfter cfg devs c).2
        contextChanged := contextChanged } = .ok (quality, time)

theorem judged (hpoints : cfg.readPoints ≠ []) {devs : List (Device V β)} {dev : Device V β}
    {verdict : Quality × Option V}
    (hverdict : judge (latchAfter cfg devs c).1 (latchAfter cfg devs c).2
      (dev.samples cfg.chunkCount c) = verdict) :
    Judged cfg devs dev c verdict.1 verdict.2 := by
  rw [← hverdict]
  intro start stop contextChanged hinterval
  have hchunks := chunkCount_pos hpoints
  apply acquisitionQuality_eq_judge rfl rfl hinterval
  · show (0 : Int) < cfg.chunkCount
    omega
  · simp [Device.samples]
  · exact fun v hv => nonneg_of_mem_samples hv
  · exact fun v hv => nonneg_latchAfter hv

theorem clockAttributes_eq (hc : c ∈ cfg.config.clocks) (devs : List (Device V β))
    (dev : Device V β) :
    let verdict := judge (latchAfter cfg devs c).1 (latchAfter cfg devs c).2
      (dev.samples cfg.chunkCount c)
    clockAttributes cfg (acquire cfg (stateAfter cfg devs) dev) c =
      { simClockID := c.clockID
        simConfigRevision := cfg.config.clockRevision
        simTimeQuality := verdict.1.text
        simTimeS := verdict.2 } := by
  have htracks := acquire_tracks hc (stateAfter cfg devs) dev
  have hlatch := congrArg Prod.fst htracks.latch
  rw [latch_stateAfter hc] at hlatch
  have hreset : decide (c.clockID ∈ (acquire cfg (stateAfter cfg devs) dev).state.reset) =
      ((dev.samples cfg.chunkCount c).foldl follow (latchAfter cfg devs c)).1 := hlatch
  simp only [clockAttributes, htracks.samples, Option.getD_some, hreset, timeQuality_eq, simTime_eq]

theorem latchAfter_append (cfg : PollConfig) (devs later : List (Device V β)) (c : ClockConfig) :
    latchAfter cfg (devs ++ later) c =
      (samplesOf cfg later c).foldl follow (latchAfter cfg devs c) := by
  rw [latchAfter, samplesOf, List.flatMap_append, List.foldl_append]
  rfl

/-- For every configuration with points to read and every history of polls `devs` with the
    poll `dev` after it: what is published with a point carries the attributes of a clock
    that names the point; the quality and the time in them are the oracle's
    `acquisition_quality` of the poll's boundary samples, one more than the chunks, from
    the latch and the previous value that the earlier polls left; and once a clock's
    quality is `reset` it is in every later poll. -/
theorem attributes_judged (cfg : PollConfig) (hpoints : cfg.readPoints ≠ [])
    (devs : List (Device V β)) (dev : Device V β) :
    let polled := pollWithClocks cfg (stateAfter cfg devs) dev
    (∀ e ∈ polled.published, e.attributes = polled.attributes.lookup e.point.localID) ∧
    (∀ c ∈ cfg.config.clocks, ∀ localID ∈ c.pointLocalIDs,
      (polled.attributes.lookup localID).isSome = true) ∧
    (∀ localID a, polled.attributes.lookup localID = some a →
      ∃ c ∈ cfg.config.clocks, localID ∈ c.pointLocalIDs ∧ a.simClockID = c.clockID ∧
        (dev.samples cfg.chunkCount c).length = cfg.chunkCount + 1 ∧
        ∃ quality, Judged cfg devs dev c quality a.simTimeS ∧ a.simTimeQuality = quality.text) ∧
    (∀ (later : List (Device V β)) (dev' : Device V β) localID localID' a a',
      polled.attributes.lookup localID = some a →
      (pollWithClocks cfg (stateAfter cfg (devs ++ dev :: later)) dev').attributes.lookup localID' =
        some a' →
      a.simClockID = a'.simClockID → a.simTimeQuality = "reset" → a'.simTimeQuality = "reset") := by
  refine ⟨?_, fun c hc localID hmem => isSome_attributesOf hc hmem, ?_, ?_⟩
  · intro e he
    obtain ⟨r, -, rfl⟩ := List.mem_map.mp he
    rfl
  · intro localID a ha
    obtain ⟨c, hc, hmem, rfl⟩ := attributesOf_lookup ha
    rw [clockAttributes_eq hc]
    exact ⟨c, hc, hmem, rfl, by simp [Device.samples], _, judged hpoints rfl, rfl⟩
  · intro later dev' localID localID' a a' ha ha' hclock hreset
    obtain ⟨c, hc, -, rfl⟩ := attributesOf_lookup ha
    obtain ⟨c', hc', -, rfl⟩ := attributesOf_lookup ha'
    have hsame : c = c' := List.inj_on_of_nodup_map cfg.distinct hc hc' hclock
    subst hsame
    rw [clockAttributes_eq hc] at hreset ⊢
    have hlatched : ((dev.samples cfg.chunkCount c).foldl follow (latchAfter cfg devs c)).1 =
        true := by
      rw [← judge_reset]
      exact Quality.text_injective hreset
    have hlater : (latchAfter cfg (devs ++ dev :: later) c).1 = true := by
      rw [latchAfter_append, samplesOf_cons, List.foldl_append]
      exact follow_latched hlatched _
    have hquality := (judge_reset (latchAfter cfg (devs ++ dev :: later) c)
      (dev'.samples cfg.chunkCount c)).mpr (follow_latched hlater _)
    rw [hquality]
    rfl

end History

def twoPoints : PollConfig where
  config :=
    { connectorID := "conn"
      bacnetDeviceID := 1
      covEnabled := false
      points := [{ localID := "analogInput,1", deviceRef := "d" },
        { localID := "analogInput,2", deviceRef := "d" }]
      clocks := [⟨"clock", "analogValue,7", "presentValue", ["analogInput,1"]⟩] }
  rpmChunkSize := 1
  chunkSize_pos := by decide
  distinct := by decide

def standingAt (n : Nat) : Device Nat String where
  clock _ _ := some n
  chunk _ := none
  startedAt := ""
  endedAt := ""
  nonneg _ _ v _ := Nat.zero_le v

/-- A clock that falls between two polls is reset in the second, and stays so. -/
theorem attributes_judged_reset :
    ∃ c ∈ twoPoints.config.clocks,
      ((pollWithClocks twoPoints (stateAfter twoPoints [standingAt 120])
        (standingAt 0)).attributes.lookup "analogInput,1").map Attributes.simTimeQuality =
          some "reset" ∧
      Judged twoPoints [standingAt 120] (standingAt 0) c .reset none ∧
      ∀ (later : List (Device Nat String)) (dev' : Device Nat String) localID a,
        (pollWithClocks twoPoints (stateAfter twoPoints ([standingAt 120] ++ standingAt 0 :: later))
          dev').attributes.lookup localID = some a →
        a.simClockID = "clock" → a.simTimeQuality = "reset" := by
  obtain ⟨a, ha, hclock, hquality, htime⟩ :
      ∃ a, (pollWithClocks twoPoints (stateAfter twoPoints [standingAt 120])
          (standingAt 0)).attributes.lookup "analogInput,1" = some a ∧ a.simClockID = "clock" ∧
        a.simTimeQuality = "reset" ∧ a.simTimeS = none := ⟨_, rfl, rfl, rfl, rfl⟩
  obtain ⟨-, -, hjudged, hlater⟩ :=
    attributes_judged twoPoints (by decide) [standingAt 120] (standingAt 0)
  obtain ⟨c, hc, -, -, -, quality, hverdict, htext⟩ := hjudged _ a ha
  obtain rfl : quality = .reset := Quality.text_injective (htext.symm.trans hquality)
  rw [htime] at hverdict
  refine ⟨c, hc, by rw [ha, Option.map_some, hquality], hverdict, ?_⟩
  intro later dev' localID a' ha' hclock'
  exact hlater later dev' _ localID a a' ha ha' (hclock.trans hclock'.symm) hquality

end NexusGateway.Connector.Bacnet
