/-
`ApplySubscriptions` of `connector/mqtt/connector.go` against a broker that
forgets.  An apply loads the index, plans the difference to the new one,
subscribes, unsubscribes and only then swaps the index; a reconnect, on
another goroutine, subscribes what the index says at that moment.

`applyMu` lets one apply run at a time.  A broker session ends with its
connection, so a disconnect drops every subscription.  `Subscribe` succeeds
while the connection is up and fails while it is down; `Unsubscribe` may fail
at any time.
-/

import NexusGateway.Lib.Run
import NexusGateway.Connector.Mqtt.TopicIndex

namespace NexusGateway.Connector.Mqtt

open Lib

/-! ## Requests and plans -/

/-- `sdk.SubscriptionApplyRequest`; a `SubscriptionSpec` has the fields of a
    `PointConfig` (`pointConfigFromSpec`). -/
structure ApplyRequest where
  revision : String
  points : List PointConfig

/-- `sdk.SubscriptionApplyReply`. -/
structure ApplyReply where
  applied : Bool := false
  appliedRevision : String := ""
  subscribedCount : Nat := 0
  added : List String := []
  changed : List String := []
  removed : List String := []
  errors : List String := []
deriving DecidableEq, Repr

/-- The `desired` map: the last spec of a topic wins. -/
def ApplyRequest.desired (req : ApplyRequest) : Dict String PointConfig :=
  Dict.insertAll PointConfig.topic id req.points ∅

def addedTopics (current desired : Dict String PointConfig) : List String :=
  desired.keys.filter fun topic => (current.lookup topic).isNone

def changedTopics (current desired : Dict String PointConfig) : List String :=
  (desired.entries.filter fun e => (current.lookup e.1).any (· ≠ e.2)).map Sigma.fst

def planSubscriptions (current next : TopicIndex) (changed : List String) :
    List SubscribeOptions × List String :=
  let subscribe := (next.explicitSubs.entries.filter fun e =>
    (current.explicitSubs.lookup e.1).isNone || changed.contains e.1).map Sigma.snd
  let unsubscribe := current.explicitSubs.keys.filter fun topic =>
    (next.explicitSubs.lookup topic).isNone
  (subscribe.insertionSort (fun a b => a.topic ≤ b.topic), unsubscribe.insertionSort (· ≤ ·))

/-! ## The connector and its broker -/

inductive Stage where
  | planned
  | subscribed
  | unsubscribed
deriving DecidableEq, Repr

structure Apply where
  next : TopicIndex
  toSubscribe : List SubscribeOptions
  toUnsubscribe : List String
  stage : Stage
  reply : ApplyReply

/-- `Connector`: its static filters and index, the connection, what the broker
    holds for it, and the replies given. -/
structure MqttConnector where
  subscriptions : List SubscriptionConfig
  topics : TopicIndex
  apply : Option Apply
  connected : Bool
  broker : Dict String SubscribeOptions
  replies : List ApplyReply

inductive Action where
  /-- `ApplySubscriptions` takes the lock, validates and plans -/
  | begin (req : ApplyRequest)
  /-- it calls `Subscribe`, which fails with `err` when the connection is down -/
  | subscribe (err : String)
  /-- it calls `Unsubscribe`, which may fail -/
  | unsubscribe (err : Option String)
  /-- it stores the index and returns -/
  | store
  | disconnect
  | reconnect

def subscribeAll (broker : Dict String SubscribeOptions) (opts : List SubscribeOptions) :
    Dict String SubscribeOptions :=
  Dict.insertAll SubscribeOptions.topic id opts broker

namespace MqttConnector

def init (subscriptions : List SubscriptionConfig) (points : List PointConfig) : MqttConnector :=
  { subscriptions := subscriptions, topics := newTopicIndex points subscriptions "",
    apply := none, connected := false, broker := ∅, replies := [] }

def plan (c : MqttConnector) (req : ApplyRequest) : Apply :=
  let desired := req.desired
  let changed := changedTopics c.topics.points desired
  let next := newTopicIndex desired.values c.subscriptions req.revision
  let calls := planSubscriptions c.topics next changed
  { next := next
    toSubscribe := calls.1
    toUnsubscribe := calls.2
    stage := .planned
    reply :=
      { applied := true
        appliedRevision := req.revision
        subscribedCount := next.points.keys.length
        added := addedTopics c.topics.points desired
        changed := changed
        removed := addedTopics desired c.topics.points } }

def replied (c : MqttConnector) (reply : ApplyReply) : MqttConnector :=
  { c with apply := none, replies := c.replies ++ [reply] }

def step (c : MqttConnector) : Action → Option MqttConnector
  | .begin req =>
    match c.apply with
    | some _ => none
    | none =>
      match validatePoints req.desired.values with
      | some err => some (c.replied { errors := ["invalid_request: " ++ err] })
      | none => some { c with apply := some (c.plan req) }
  | .subscribe err =>
    match c.apply with
    | some ap =>
      if ap.stage ≠ .planned then none
      else if ap.toSubscribe.isEmpty then
        some { c with apply := some { ap with stage := .subscribed } }
      else if c.connected then
        some { c with
          broker := subscribeAll c.broker ap.toSubscribe
          apply := some { ap with stage := .subscribed } }
      else some (c.replied { errors := ["subscribe: " ++ err] })
    | none => none
  | .unsubscribe err =>
    match c.apply with
    | some ap =>
      if ap.stage ≠ .subscribed then none
      else if ap.toUnsubscribe.isEmpty then
        some { c with apply := some { ap with stage := .unsubscribed } }
      else
        match err with
        | some err => some { c with
            apply := some { ap with
              stage := .unsubscribed
              reply := { ap.reply with
                errors := ap.reply.errors ++ ["unsubscribe: " ++ err] } } }
        | none =>
          if c.connected then some { c with
            broker := ap.toUnsubscribe.foldl (fun b topic => b.erase topic) c.broker
            apply := some { ap with stage := .unsubscribed } }
          else none
    | none => none
  | .store =>
    match c.apply with
    | some ap =>
      if ap.stage = .unsubscribed then some { c.replied ap.reply with topics := ap.next }
      else none
    | none => none
  | .disconnect => some { c with connected := false, broker := ∅ }
  | .reconnect =>
    if c.connected then none
    else some { c with
      connected := true
      broker := subscribeAll c.broker (brokerSubscriptions c.subscriptions c.topics) }

def Steps (c : MqttConnector) (a : Action) (c' : MqttConnector) : Prop := c.step a = some c'

end MqttConnector

/-! ## Indexes -/

theorem desired_keyedBy (req : ApplyRequest) : Dict.KeyedBy PointConfig.topic req.desired :=
  Dict.keyedBy_empty.insertAll req.points

theorem lookup_points {req : ApplyRequest} {subscriptions : List SubscriptionConfig}
    {revision topic : String} :
    (newTopicIndex req.desired.values subscriptions revision).points.lookup topic =
      req.desired.lookup topic := by
  have hperm : req.desired.values.Perm (req.desired.values.map id) := by rw [List.map_id]
  rw [newTopicIndex, (desired_keyedBy req).lookup_insertAll_perm (fun _ => rfl) hperm]
  exact Option.map_id'

def staticOptions (subscriptions : List SubscriptionConfig) : Dict String SubscribeOptions :=
  subscribeAll ∅ (subscriptions.map fun w => { topic := w.filter, qos := w.qos })

/-- The explicit subscriptions of an index are those of its points, and none of
    them is a static filter. -/
structure Consistent (subscriptions : List SubscriptionConfig) (idx : TopicIndex) : Prop where
  ofPoint : ∀ topic o, idx.explicitSubs.lookup topic = some o →
    ∃ p, idx.points.lookup topic = some p ∧ p.topic = topic ∧ o = subscribeOptionsFor p
  apart : ∀ topic o, idx.explicitSubs.lookup topic = some o →
    (staticOptions subscriptions).lookup topic = none

theorem Consistent.keyedBy {subscriptions : List SubscriptionConfig} {idx : TopicIndex}
    (h : Consistent subscriptions idx) :
    Dict.KeyedBy SubscribeOptions.topic idx.explicitSubs := by
  intro topic o ho
  obtain ⟨p, -, hp, rfl⟩ := h.ofPoint topic o ho
  exact hp

theorem covered_congr {wildcards : List PointConfig} {subs : List SubscriptionConfig}
    {p q : PointConfig} (h : p.topic = q.topic) :
    covered wildcards subs p = covered wildcards subs q := by
  unfold covered
  rw [h]

theorem consistent_newTopicIndex (points : List PointConfig)
    (subscriptions : List SubscriptionConfig) (revision : String) :
    Consistent subscriptions (newTopicIndex points subscriptions revision) where
  ofPoint topic o ho := by
    have hlookup := ho
    simp only [newTopicIndex, Dict.lookup_insertAll, AList.lookup_empty, Option.or_none,
      Option.map_eq_some_iff, ← List.filter_reverse, List.find?_filter] at hlookup
    obtain ⟨p, hp, rfl⟩ := hlookup
    have hmatch := List.find?_some hp
    simp only [Bool.not_eq_true', decide_eq_true_eq] at hmatch
    -- every point of this topic is uncovered, so the last of them is this one
    have hlast : points.reverse.find? (fun x => x.topic = topic) = some p := by
      rw [← hp]
      congr 1
      funext x
      by_cases hx : x.topic = topic
      · have hcov := @covered_congr (wildcardPoints points) subscriptions x p
          (hx.trans hmatch.2.symm)
        simp [hx, hcov, hmatch.1]
      · simp [hx]
    refine ⟨p, ?_, hmatch.2, rfl⟩
    simp only [newTopicIndex, Dict.lookup_insertAll, AList.lookup_empty, Option.or_none, hlast]
    rfl
  apart topic o ho := by
    obtain ⟨p, hp, rfl, -⟩ := Dict.exists_of_lookup_insertAll ho
    obtain ⟨-, hcov⟩ := List.mem_filter.mp hp
    rw [Bool.not_eq_true'] at hcov
    by_contra hstatic
    obtain ⟨o', ho'⟩ := Option.ne_none_iff_exists'.mp hstatic
    obtain ⟨s, hs, hst, -⟩ := Dict.exists_of_lookup_insertAll ho'
    obtain ⟨w, hw, rfl⟩ := List.mem_map.mp hs
    -- a static filter covers its own topic
    have hself : filterMatches w.filter p.topic = true := if_pos hst
    have hcovered : covered (wildcardPoints points) subscriptions p = true := by
      rw [covered, coveredByWildcard, Bool.or_eq_true, List.any_eq_true]
      exact Or.inl ⟨w, hw, hself⟩
    rw [hcov] at hcovered
    cases hcovered

end NexusGateway.Connector.Mqtt
