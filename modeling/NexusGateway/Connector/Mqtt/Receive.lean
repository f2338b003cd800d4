/-
The receive callback of `Run` in `connector/mqtt/connector.go`, next to an
apply.  The callback loads the index once per message and acknowledges and
drops what the index does not resolve.  An apply stores its index only after
the broker has taken the new subscriptions, so a message that comes on one
of them right away, a retained one for instance, meets the old index.

The JSON of the event and the format of its time are parameters; the clock
is given with each message.
-/

import NexusGateway.Connector.Mqtt.Payload
import NexusGateway.Connector.Mqtt.Resubscribe
import NexusGateway.Normalizer.Normalize

namespace NexusGateway.Connector.Mqtt

open Lib StoreForward

/-! ## The callback -/

structure ReceiveConfig where
  connectorID : String
  ignoreTopics : List String := []
  maxPayloadBytes : Nat := 0
  wildcardMinInterval : Int := 0
  marshal : Normalizer.Event → Option (List UInt8)
  format : Int → String

def plainConfig : ReceiveConfig where
  connectorID := "mqtt-1"
  marshal _ := some []
  format _ := ""

def ReceiveConfig.payloadLimit (cfg : ReceiveConfig) : Nat :=
  if cfg.maxPayloadBytes = 0 then 1024 else cfg.maxPayloadBytes

def defaultWildcardMinInterval : Int := 10 * 1000000000

def maxWildcardTracked : Nat := 65536

/-- `wildcardMinInterval`: 0 is the default, a negative value turns the limit off. -/
def ReceiveConfig.minInterval (cfg : ReceiveConfig) : Int :=
  if cfg.wildcardMinInterval = 0 then defaultWildcardMinInterval
  else if cfg.wildcardMinInterval < 0 then 0
  else cfg.wildcardMinInterval

/-- The entries that still limit something. -/
def purge (minGap now : Int) (wildLast : Dict String Int) : Dict String Int :=
  let old := wildLast.entries.filter fun e => now - e.2 ≥ minGap
  (old.map Sigma.fst).foldl (fun d topic => d.erase topic) wildLast

/-- A table that is full is purged, and if that is not enough emptied. -/
def makeRoom (minGap now : Int) (wildLast : Dict String Int) : Dict String Int :=
  if wildLast.entries.length < maxWildcardTracked then wildLast
  else
    let kept := purge minGap now wildLast
    if kept.entries.length < maxWildcardTracked then kept else ∅

def allowWildcard (minGap now : Int) (topic : String) (wildLast : Dict String Int) :
    Bool × Dict String Int :=
  if minGap = 0 then (true, wildLast)
  else if (wildLast.lookup topic).any fun last => now - last < minGap then (false, wildLast)
  else (true, (makeRoom minGap now wildLast).insert topic now)

/-- `paho.Publish`. -/
structure Packet where
  topic : String
  payload : List UInt8 := []
deriving DecidableEq

/-- `pendingPublish`; its `ack` is that of the packet, and `value` is `none` where
    `hasValue` is false. -/
structure PendingPublish where
  data : List UInt8
  topic : String
  value : Option UInt64
  timestamp : Int
deriving DecidableEq

inductive Discard where
  | ignoredTopic
  | unknownTopic
  | throttled
  | oversized
  | statusOnly
  | unparseable
  | unmarshalable
deriving DecidableEq

inductive Received where
  | discarded (why : Discard)
  | pending (p : PendingPublish)
deriving DecidableEq

/-- What the callback writes besides: the limiter and two counters. -/
structure Receiver where
  wildLast : Dict String Int := ∅
  received : Nat := 0
  wildThrottled : Nat := 0

def numberOf : FrameValue → Option UInt64
  | .valueNum bits => some bits
  | _ => none

/-- The event of a decoded message; a wildcard point lends its device and unit only. -/
def eventOf (cfg : ReceiveConfig) (packet : Packet) (p : PointConfig) (value : FrameValue)
    (timestamp : Int) : Normalizer.Event :=
  { protocol := "mqtt"
    connectorID := cfg.connectorID
    localID := packet.topic
    deviceRef := p.deviceRef
    value := some value
    unit := p.unit
    quality := "Good"
    timestamp := cfg.format timestamp
    attributes := ∅ }

def decodePacket (cfg : ReceiveConfig) (p : PointConfig) (packet : Packet) (now : Int) :
    Received :=
  if packet.payload.length > cfg.payloadLimit then .discarded .oversized
  else
    match decodePayload packet.payload now with
    | .ignored => .discarded .statusOnly
    | .invalid => .discarded .unparseable
    | .telemetry value timestamp =>
      match cfg.marshal (eventOf cfg packet p value timestamp) with
      | none => .discarded .unmarshalable
      | some data => .pending
          { data := data
            topic := packet.topic
            value := numberOf value
            timestamp := timestamp }

/-- The callback of `OnPublishReceived`, up to the hand-off. -/
def onPublishReceived (cfg : ReceiveConfig) (idx : TopicIndex) (packet : Packet) (now : Int)
    (r : Receiver) : Received × Receiver :=
  let r := { r with received := r.received + 1 }
  if cfg.ignoreTopics.contains packet.topic then (.discarded .ignoredTopic, r)
  else
    match idx.resolve packet.topic with
    | none => (.discarded .unknownTopic, r)
    | some (p, explicit) =>
      if explicit then (decodePacket cfg p packet now, r)
      else
        let (allowed, wildLast) := allowWildcard cfg.minInterval now packet.topic r.wildLast
        if allowed then (decodePacket cfg p packet now, { r with wildLast := wildLast })
        else (.discarded .throttled,
          { r with wildLast := wildLast, wildThrottled := r.wildThrottled + 1 })

theorem decodePacket_ne_unknown (cfg : ReceiveConfig) (p : PointConfig) (packet : Packet)
    (now : Int) : decodePacket cfg p packet now ≠ .discarded .unknownTopic := by
  grind [decodePacket]

/-- A message is dropped as unknown exactly if it is not ignored and the index in place does
    not resolve its topic. -/
theorem onPublishReceived_unknown_iff {cfg : ReceiveConfig} {idx : TopicIndex} {packet : Packet}
    {now : Int} {r : Receiver} :
    (onPublishReceived cfg idx packet now r).1 = .discarded .unknownTopic ↔
      packet.topic ∉ cfg.ignoreTopics ∧ idx.resolve packet.topic = none := by
  have hdecoded := fun p => decodePacket_ne_unknown cfg p packet now
  fun_cases onPublishReceived <;> grind

/-! ## Messages next to an apply -/

/-- The connector, the messages the broker has sent and the callback has not seen, and
    what the callback made of the others. -/
structure Session where
  conn : MqttConnector
  inflight : List Packet := []
  receiver : Receiver := {}
  log : List (Packet × Received) := []

namespace Session

inductive Event where
  /-- a step of an apply, or of the connection -/
  | conn (a : Action)
  /-- the broker sends a message that one of the subscriptions matches -/
  | deliver (packet : Packet)
  /-- the callback takes the next message -/
  | receive (now : Int)

def Subscribed (c : MqttConnector) (topic : String) : Prop :=
  ∃ o ∈ c.broker.values, filterMatches o.topic topic = true

instance (c : MqttConnector) (topic : String) : Decidable (Subscribed c topic) :=
  inferInstanceAs (Decidable (∃ o ∈ c.broker.values, _))

def step (cfg : ReceiveConfig) (s : Session) : Event → Option Session
  | .conn a => (s.conn.step a).map fun conn => { s with conn := conn }
  | .deliver packet =>
    if s.conn.connected ∧ hasWildcard packet.topic = false ∧ Subscribed s.conn packet.topic then
      some { s with inflight := s.inflight ++ [packet] }
    else none
  | .receive now =>
    match s.inflight with
    | [] => none
    | packet :: rest =>
      let (res, receiver) := onPublishReceived cfg s.conn.topics packet now s.receiver
      some { s with
        inflight := rest
        receiver := receiver
        log := s.log ++ [(packet, res)] }

def Steps (cfg : ReceiveConfig) (s : Session) (e : Event) (s' : Session) : Prop :=
  s.step cfg e = some s'

inductive Window (old next : TopicIndex) (c : MqttConnector) : Prop
  | pending (ap : Apply) : c.apply = some ap → ap.stage ≠ .planned → ap.next = next →
      c.topics = old → Window old next c
  | stored : c.apply = none → c.topics = next → Window old next c

section Window

variable {old next : TopicIndex} {c c' : MqttConnector}

theorem Window.step (hw : Window old next c) {a : Action} (hbegin : ∀ req, a ≠ .begin req)
    (hstep : c.step a = some c') : Window old next c' := by
  revert hstep
  -- until the apply stores its own index, no step touches the one in place
  fun_cases MqttConnector.step <;> rintro ⟨⟩ <;> grind [Window, MqttConnector.replied]

end Window

section Runs

variable {cfg : ReceiveConfig} {old next : TopicIndex} {s s' : Session}

theorem window_step (hw : Window old next s.conn) {e : Event}
    (hbegin : ∀ req, e ≠ .conn (.begin req)) (hstep : Steps cfg s e s') :
    Window old next s'.conn := by
  revert hstep
  unfold Steps
  fun_cases step with
  | case1 a =>
    intro hstep
    obtain ⟨conn, hconn, rfl⟩ := Option.map_eq_some_iff.mp hstep
    exact hw.step (fun req ha => hbegin req (congrArg Event.conn ha)) hconn
  | case2 | case5 =>
    rintro ⟨⟩
    exact hw
  | case3 | case4 => rintro ⟨⟩

theorem window_run {es : List Event} (hw : Window old next s.conn)
    (hrun : Run (Steps cfg) s es s') (hbegin : ∀ req, Event.conn (.begin req) ∉ es) :
    Window old next s'.conn := by
  have hmeets : Run (Meeting (Steps cfg) fun _ e => ∀ req, e ≠ .conn (.begin req)) s es s' := by
    apply hrun.meeting_of_forall
    intro e he _ req heq
    exact hbegin req (heq ▸ he)
  apply hmeets.invariant (I := fun s => Window old next s.conn) hw
  exact fun _ _ _ hw hstep => window_step hw hstep.2 hstep.1

theorem log_receive {packet : Packet} {rest : List Packet} {now : Int}
    (hhead : s.inflight = packet :: rest) (hstep : Steps cfg s (.receive now) s') :
    s'.log =
      s.log ++ [(packet, (onPublishReceived cfg s.conn.topics packet now s.receiver).1)] := by
  simp only [Steps, step, hhead] at hstep
  cases hstep
  rfl

end Runs

/-- Once the broker has taken the subscriptions of an apply, and before the next apply: a
    message that is not ignored, on a topic the new index resolves, is acknowledged and
    dropped as unknown exactly if the apply has not stored its index yet and the old index
    does not resolve the topic. -/
theorem dropped_unknown_iff (cfg : ReceiveConfig) {s₀ s s' : Session} {ap : Apply}
    (hap : s₀.conn.apply = some ap) (hstage : ap.stage ≠ .planned) {es : List Event}
    (hrun : Run (Steps cfg) s₀ es s) (hbegin : ∀ req, Event.conn (.begin req) ∉ es)
    {packet : Packet} {rest : List Packet} {now : Int} (hhead : s.inflight = packet :: rest)
    (hstep : Steps cfg s (.receive now) s') (hignored : packet.topic ∉ cfg.ignoreTopics)
    (hresolves : (ap.next.resolve packet.topic).isSome) :
    s'.log = s.log ++ [(packet, .discarded .unknownTopic)] ↔
      s.conn.apply.isSome ∧ s₀.conn.topics.resolve packet.topic = none := by
  have hlog := log_receive hhead hstep
  have hw : Window s₀.conn.topics ap.next s.conn :=
    window_run (.pending ap hap hstage rfl rfl) hrun hbegin
  have hdropped : s'.log = s.log ++ [(packet, .discarded .unknownTopic)] ↔
      s.conn.topics.resolve packet.topic = none := by
    rw [hlog, List.append_cancel_left_eq]
    simp only [List.cons.injEq, Prod.mk.injEq, true_and, and_true]
    exact onPublishReceived_unknown_iff.trans (and_iff_right hignored)
  rw [hdropped]
  cases hw with
  | pending ap' hap' _ _ htopics =>
    rw [hap', htopics]
    simp
  | stored hidle htopics =>
    rw [hidle, htopics]
    refine iff_of_false (fun hnone => ?_) (fun h => by cases h.1)
    rw [hnone] at hresolves
    cases hresolves

/-- A retained `true`. -/
def retained : Packet := ⟨"a/b", [0x74, 0x72, 0x75, 0x65]⟩

def subscribedOne : List Event := [.conn .reconnect, .conn (.begin oneTopic), .conn (.subscribe "")]

/-- The broker sends its retained message and the callback takes it before the index is
    stored: the message is gone, and the apply reports success. -/
theorem retained_dropped_during_apply :
    ∃ s, Run (Steps plainConfig) { conn := MqttConnector.init [] [] }
        (subscribedOne ++ [.deliver retained, .receive 0, .conn (.unsubscribe none),
          .conn .store]) s ∧
      s.conn.replies.map ApplyReply.applied = [true] ∧
      (s.conn.topics.resolve "a/b").isSome ∧ "a/b" ∉ plainConfig.ignoreTopics ∧
      s.inflight = [] ∧ s.log = [(retained, .discarded .unknownTopic)] :=
  ⟨_, Run.of_foldlM rfl, rfl, rfl, by decide, rfl, rfl⟩

def storedOne : List Event := [.deliver retained, .conn (.unsubscribe none), .conn .store]

/-- The same message taken after the store is handed on. -/
theorem dropped_unknown_iff_stored :
    ∃ s₀ s s', Run (Steps plainConfig) { conn := MqttConnector.init [] [] } subscribedOne s₀ ∧
      Run (Steps plainConfig) s₀ storedOne s ∧ Steps plainConfig s (.receive 0) s' ∧
      s'.log ≠ s.log ++ [(retained, .discarded .unknownTopic)] := by
  obtain ⟨s₀, s, s', ap, hbefore, hrun, hstep, hap, hstage, hres, hhead, hidle⟩ :
      ∃ s₀ s s' ap,
        Run (Steps plainConfig) { conn := MqttConnector.init [] [] } subscribedOne s₀ ∧
        Run (Steps plainConfig) s₀ storedOne s ∧ Steps plainConfig s (.receive 0) s' ∧
        s₀.conn.apply = some ap ∧ ap.stage ≠ .planned ∧ (ap.next.resolve "a/b").isSome ∧
        s.inflight = [retained] ∧ s.conn.apply = none :=
    ⟨_, _, _, _, Run.of_foldlM rfl, Run.of_foldlM rfl, rfl, rfl, nofun, rfl, rfl, rfl⟩
  refine ⟨s₀, s, s', hbefore, hrun, hstep, fun hlog => ?_⟩
  have hpending := (dropped_unknown_iff plainConfig hap hstage hrun (by simp [storedOne]) hhead
    hstep (by decide) hres).mp hlog
  rw [hidle] at hpending
  cases hpending.1

end Session

end NexusGateway.Connector.Mqtt
