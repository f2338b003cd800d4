/-
`runFreshnessFloor`: the last number of a topic is published again when
nothing has come for the freshness interval.

Three goroutines share the table of last-known values: the publisher writes
a value after its event has landed, and only if it is a number; an apply
replaces the index; the floor works through the topics that were due at a
tick.  For each of them it loads the index, then looks at the table under
its lock, and publishes after it has let go of the lock.  A step is what one
of them does between two points where another may come in.
-/

import NexusGateway.Connector.Mqtt.Publisher

namespace NexusGateway.Connector.Mqtt.Freshness

open Lib StoreForward

/-! ## Events -/

structure Telemetry where
  packet : Packet
  point : PointConfig
  value : FrameValue
  timestamp : Int
  data : List UInt8 := []

namespace Telemetry

def topic (m : Telemetry) : String := m.packet.topic

def event (cfg : ReceiveConfig) (m : Telemetry) : Normalizer.Event :=
  eventOf cfg m.packet m.point m.value m.timestamp

def pending (m : Telemetry) : PendingPublish :=
  { data := m.data, topic := m.topic, value := numberOf m.value, timestamp := m.timestamp }

end Telemetry

inductive Origin where
  | message
  /-- whether it was encoded and taken by JetStream -/
  | floor (ok : Bool)
deriving DecidableEq

/-- A `js.Publish`, with the time the event carries and the time of the clock. -/
structure Emitted where
  event : Normalizer.Event
  stamp : Int
  time : Int
  origin : Origin

namespace Emitted

def topic (e : Emitted) : String := e.event.localID

def landed (e : Emitted) : Bool := e.origin ≠ .floor false

end Emitted

def Telemetry.emitted (cfg : ReceiveConfig) (m : Telemetry) (time : Int) : Emitted :=
  { event := m.event cfg, stamp := m.timestamp, time := time, origin := .message }

def floorEvent (cfg : ReceiveConfig) (topic : String) (point : PointConfig) (value : UInt64)
    (now : Int) : Normalizer.Event :=
  eventOf cfg { topic := topic } point (.valueNum value) now

def floorEmitted (cfg : ReceiveConfig) (topic : String) (point : PointConfig) (value : UInt64)
    (now : Int) (ok : Bool) : Emitted :=
  { event := floorEvent cfg topic point value now
    stamp := now
    time := now
    origin := .floor (ok && (cfg.marshal (floorEvent cfg topic point value now)).isSome) }

def lastOf (cond : Emitted → Bool) (log : List Emitted) (topic : String) : Option Emitted :=
  log.reverse.find? fun e => e.topic = topic && cond e

theorem lastOf_concat (cond : Emitted → Bool) (log : List Emitted) (e : Emitted)
    (topic : String) :
    lastOf cond (log ++ [e]) topic =
      if e.topic = topic ∧ cond e = true then some e else lastOf cond log topic := by
  rw [lastOf, Dict.find?_reverse_concat]
  simp only [Bool.and_eq_true, decide_eq_true_eq]
  rfl

theorem bind_lastOf_concat {α : Type} (f : Emitted → Option α) (cond : Emitted → Bool)
    (log : List Emitted) (e : Emitted) (topic : String) :
    (lastOf cond (log ++ [e]) topic).bind f =
      if e.topic = topic ∧ cond e = true then f e else (lastOf cond log topic).bind f := by
  rw [lastOf_concat]
  split_ifs with h
  · rfl
  · rfl

def latest (log : List Emitted) (topic : String) : Option FrameValue :=
  (lastOf Emitted.landed log topic).bind fun e => e.event.value

def lastMessage (log : List Emitted) (topic : String) : Option FrameValue :=
  (lastOf (fun e => e.origin = .message) log topic).bind fun e => e.event.value

/-! ## The connector -/

inductive Floor where
  /-- before the next of the due topics; with none left it waits for a tick -/
  | next (now : Int) (due : List String)
  | resolved (now : Int) (topic : String) (point : Option PointConfig) (due : List String)
  | taken (now : Int) (topic : String) (point : PointConfig) (value : UInt64) (due : List String)

/-- The shared state, the messages between publish and `recordValue`, and all events. -/
structure State where
  topics : TopicIndex
  lkv : Dict String (UInt64 × Int) := ∅
  landed : List Telemetry := []
  floor : Floor := .next 0 []
  log : List Emitted := []

inductive Action where
  /-- `publishPending` of a message lands at a time of the clock -/
  | publish (m : Telemetry) (time : Int)
  /-- `recordValue` for a message that landed -/
  | record (n : Nat)
  /-- an apply stores its index -/
  | apply (idx : TopicIndex)
  /-- a tick, with the due topics in some order -/
  | tick (now : Int) (due : List String)
  | resolve
  | lock
  | emit (ok : Bool)

/-- `dueForRepublish`, in the order of the table. -/
def dueForRepublish (interval now : Int) (lkv : Dict String (UInt64 × Int)) : List String :=
  if interval ≤ 0 then []
  else (lkv.entries.filter fun e => now - e.2.2 ≥ interval).map Sigma.fst

def State.step (cfg : ReceiveConfig) (interval : Int) (s : State) : Action → Option State
  | .publish m time =>
    some { s with landed := s.landed ++ [m], log := s.log ++ [m.emitted cfg time] }
  | .record n =>
    match s.landed[n]? with
    | none => none
    | some m => some
        { s with
          lkv := Shutdown.recordValue s.lkv m.pending
          landed := s.landed.eraseIdx n }
  | .apply idx => some { s with topics := idx }
  | .tick now due =>
    match s.floor with
    | .next _ [] =>
      if due.isPerm (dueForRepublish interval now s.lkv) then
        some { s with floor := .next now due }
      else none
    | _ => none
  | .resolve =>
    match s.floor with
    | .next now (topic :: due) =>
      some { s with
        floor := .resolved now topic ((s.topics.resolve topic).map Prod.fst) due }
    | _ => none
  | .lock =>
    match s.floor with
    | .resolved now topic none due =>
      -- no longer routed
      some { s with lkv := s.lkv.erase topic, floor := .next now due }
    | .resolved now topic (some point) due =>
      match s.lkv.lookup topic with
      | none => some { s with floor := .next now due }
      | some (value, lastEmit) =>
        if now - lastEmit < interval then some { s with floor := .next now due }
        else some
          { s with
            lkv := s.lkv.insert topic (value, now)
            floor := .taken now topic point value due }
    | _ => none
  | .emit ok =>
    match s.floor with
    | .taken now topic point value due => some
        { s with
          floor := .next now due
          log := s.log ++ [floorEmitted cfg topic point value now ok] }
    | _ => none

def State.Steps (cfg : ReceiveConfig) (interval : Int) (s : State) (a : Action) (t : State) :
    Prop :=
  s.step cfg interval a = some t

/-! ## What a step can do -/

inductive Effect (cfg : ReceiveConfig) (interval : Int) (s : State) : Action → State → Prop
  | published (m : Telemetry) (time : Int) : Effect cfg interval s (.publish m time)
      { s with landed := s.landed ++ [m], log := s.log ++ [m.emitted cfg time] }
  | recorded {n : Nat} {m : Telemetry} : s.landed[n]? = some m →
      Effect cfg interval s (.record n)
        { s with
          lkv := Shutdown.recordValue s.lkv m.pending
          landed := s.landed.eraseIdx n }
  | applied (idx : TopicIndex) : Effect cfg interval s (.apply idx) { s with topics := idx }
  | ticked {before now : Int} {due : List String} : s.floor = .next before [] →
      due.Perm (dueForRepublish interval now s.lkv) →
      Effect cfg interval s (.tick now due) { s with floor := .next now due }
  | resolved {now : Int} {topic : String} {due : List String} :
      s.floor = .next now (topic :: due) →
      Effect cfg interval s .resolve { s with
        floor := .resolved now topic ((s.topics.resolve topic).map Prod.fst) due }
  | pruned {now : Int} {topic : String} {due : List String} :
      s.floor = .resolved now topic none due →
      Effect cfg interval s .lock { s with lkv := s.lkv.erase topic, floor := .next now due }
  | skipped {now : Int} {topic : String} {point : PointConfig} {due : List String} :
      s.floor = .resolved now topic (some point) due →
      (∀ value lastEmit, s.lkv.lookup topic = some (value, lastEmit) →
        now - lastEmit < interval) →
      Effect cfg interval s .lock { s with floor := .next now due }
  | took {now lastEmit : Int} {topic : String} {point : PointConfig} {value : UInt64}
      {due : List String} : s.floor = .resolved now topic (some point) due →
      s.lkv.lookup topic = some (value, lastEmit) → interval ≤ now - lastEmit →
      Effect cfg interval s .lock
        { s with
          lkv := s.lkv.insert topic (value, now)
          floor := .taken now topic point value due }
  | emitted {now : Int} {topic : String} {point : PointConfig} {value : UInt64}
      {due : List String} (ok : Bool) : s.floor = .taken now topic point value due →
      Effect cfg interval s (.emit ok)
        { s with
          floor := .next now due
          log := s.log ++ [floorEmitted cfg topic point value now ok] }

theorem step_effect {cfg : ReceiveConfig} {interval : Int} {s t : State} {a : Action}
    (h : s.Steps cfg interval a t) : Effect cfg interval s a t := by
  rw [State.Steps] at h
  cases a with
  | publish m time =>
    cases h
    exact .published m time
  | record n =>
    simp only [State.step] at h
    split at h
    · cases h
    · next m hm =>
      cases h
      exact .recorded hm
  | apply idx =>
    cases h
    exact .applied idx
  | tick now due =>
    simp only [State.step] at h
    split at h
    · next hfloor =>
      split_ifs at h with hperm
      cases h
      exact .ticked hfloor (List.isPerm_iff.mp hperm)
    · cases h
  | resolve =>
    simp only [State.step] at h
    split at h
    · next hfloor =>
      cases h
      exact .resolved hfloor
    · cases h
  | lock =>
    simp only [State.step] at h
    split at h
    · next hfloor =>
      cases h
      exact .pruned hfloor
    · next hfloor =>
      split at h
      · next hnone =>
        cases h
        refine .skipped hfloor fun value lastEmit hlookup => ?_
        rw [hnone] at hlookup
        cases hlookup
      · next value lastEmit hlookup =>
        split_ifs at h with hrecent
        · cases h
          refine .skipped hfloor fun value' lastEmit' hlookup' => ?_
          rw [hlookup] at hlookup'
          cases hlookup'
          exact hrecent
        · cases h
          exact .took hfloor hlookup (Int.not_lt.mp hrecent)
    · cases h
  | emit ok =>
    simp only [State.step] at h
    split at h
    · next hfloor =>
      cases h
      exact .emitted ok hfloor
    · cases h

end NexusGateway.Connector.Mqtt.Freshness
