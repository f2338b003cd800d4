/-
`connector/mqtt/connector.go`: the topic index of the MQTT connector — which
topics route to which point, and which of them the connector subscribes to
itself because no static filter and no wildcard point reaches them.

The question of the module is whether the two halves fit: every topic the
index can route should be delivered by some broker subscription.  They fit
unless a topic is `Shadowed`: the cover test reads a wildcard point as a
topic, so a static `+` is taken to cover a `#` and the point is never
subscribed.
-/

import Mathlib.Data.List.Sort
import NexusGateway.Lib.Dict
import NexusGateway.Connector.Mqtt.TopicMatch

namespace NexusGateway.Connector.Mqtt

open Lib
open Lib.TopicFilter

structure PointConfig where
  topic : String
  deviceRef : String := ""
  unit : String := ""
  writable : Bool := false
  commandTopic : String := ""
  payloadTemplate : String := ""
  qos : UInt8 := 0
  commandQoS : UInt8 := 0
deriving DecidableEq, Repr

/-- `SubscriptionConfig`: a static filter from `MQTT_SUBSCRIPTIONS`. -/
structure SubscriptionConfig where
  filter : String
  qos : UInt8
deriving DecidableEq, Repr

/-- The fields of `paho.SubscribeOptions` the connector sets. -/
structure SubscribeOptions where
  topic : String
  qos : UInt8
  noLocal : Bool := false
deriving DecidableEq, Repr

def PointConfig.subscribeQoS (p : PointConfig) : UInt8 :=
  if p.qos = 0 then 1 else p.qos

def subscribeOptionsFor (p : PointConfig) : SubscribeOptions :=
  { topic := p.topic
    qos := p.subscribeQoS
    noLocal := p.writable && p.commandTopic == p.topic }

/-! ## Validation -/

/-- The checks `ValidatePoints` makes on point `i`, in its order. -/
def validatePoint (i : Nat) (p : PointConfig) : Option String :=
  if p.topic = "" then
    some ("point " ++ toString i ++ ": topic must not be empty")
  else if p.writable && p.commandTopic == "" then
    some ("point " ++ toString i ++ " (" ++ p.topic ++ "): writable point requires command_topic")
  else if p.qos > 1 then
    some ("point " ++ toString i ++ " (" ++ p.topic ++ "): qos must be 0 or 1, got "
      ++ toString p.qos.toNat)
  else if p.commandQoS > 1 then
    some ("point " ++ toString i ++ " (" ++ p.topic ++ "): command_qos must be 0 or 1, got "
      ++ toString p.commandQoS.toNat)
  else none

/-- `ValidatePoints`: the first error, `none` for `nil`. -/
def validatePoints (points : List PointConfig) : Option String :=
  points.zipIdx.findSome? fun (p, i) => validatePoint i p

/-! ## The index -/

structure TopicIndex where
  points : Dict String PointConfig
  explicitSubs : Dict String SubscribeOptions
  wildcards : List PointConfig
  revision : String

def literalLevels (filter : String) : Nat :=
  (levels filter).countP fun level => level != "+" && level != "#"

def coveredByWildcard (topic : String) (wildcards : List SubscriptionConfig) : Bool :=
  wildcards.any fun w => filterMatches w.filter topic

/-- The order `newTopicIndex` sorts the wildcard points by: most literal levels
    first, ties by name. -/
def MoreSpecific (p q : PointConfig) : Prop :=
  literalLevels q.topic < literalLevels p.topic ∨
    (literalLevels p.topic = literalLevels q.topic ∧ p.topic ≤ q.topic)

instance : DecidableRel MoreSpecific := fun _ _ => inferInstanceAs (Decidable (_ ∨ _ ∧ _))

def wildcardPoints (points : List PointConfig) : List PointConfig :=
  points.filter fun p => hasWildcard p.topic

def covered (wildcards : List PointConfig) (staticWildcards : List SubscriptionConfig)
    (p : PointConfig) : Bool :=
  coveredByWildcard p.topic staticWildcards ||
    (!hasWildcard p.topic && wildcards.any fun w => filterMatches w.topic p.topic)

/-- `newTopicIndex`.  `sort.Slice` may leave wildcard points of one topic in
    either order; they are kept in the order given. -/
def newTopicIndex (points : List PointConfig) (staticWildcards : List SubscriptionConfig)
    (revision : String) : TopicIndex :=
  let wildcards := wildcardPoints points
  { points := Dict.insertAll PointConfig.topic id points ∅
    explicitSubs := Dict.insertAll PointConfig.topic subscribeOptionsFor
      (points.filter fun p => !covered wildcards staticWildcards p) ∅
    wildcards := wildcards.insertionSort MoreSpecific
    revision := revision }

/-- `topicIndex.resolve`: the point and its `explicit` flag, `none` when the
    topic is unknown. -/
def TopicIndex.resolve (idx : TopicIndex) (topic : String) : Option (PointConfig × Bool) :=
  match idx.points.lookup topic with
  | some p => some (p, true)
  | none => (idx.wildcards.find? fun w => filterMatches w.topic topic).map fun w => (w, false)

/-- `Connector.brokerSubscriptions` for the static filters of the configuration
    and the current index. -/
def brokerSubscriptions (subscriptions : List SubscriptionConfig) (idx : TopicIndex) :
    List SubscribeOptions :=
  subscriptions.map (fun w => { topic := w.filter, qos := w.qos }) ++ idx.explicitSubs.values

/-! ## What the index knows -/

variable {points : List PointConfig} {p : PointConfig}

theorem mem_wildcardPoints : p ∈ wildcardPoints points ↔ p ∈ points ∧ hasWildcard p.topic = true :=
  List.mem_filter

variable {subs : List SubscriptionConfig}

theorem mem_wildcards_newTopicIndex {rev : String} :
    p ∈ (newTopicIndex points subs rev).wildcards ↔ p ∈ points ∧ hasWildcard p.topic = true :=
  (List.mem_insertionSort MoreSpecific).trans mem_wildcardPoints

theorem resolve_isSome_iff {rev t : String} :
    ((newTopicIndex points subs rev).resolve t).isSome ↔
      (∃ p ∈ points, p.topic = t) ∨
        ∃ p ∈ points, hasWildcard p.topic = true ∧ filterMatches p.topic t = true := by
  unfold TopicIndex.resolve
  cases hl : (newTopicIndex points subs rev).points.lookup t with
  | some p =>
    obtain ⟨q, hq, hqt, -⟩ := Dict.exists_of_lookup_insertAll hl
    simp only [Option.isSome_some, true_iff]
    exact Or.inl ⟨q, hq, hqt⟩
  | none =>
    have hexact : ¬ ∃ p ∈ points, p.topic = t := by
      rintro ⟨p, hp, rfl⟩
      have hsome := Dict.isSome_lookup_insertAll PointConfig.topic id ∅ hp
      exact absurd hl (Option.ne_none_iff_isSome.mpr hsome)
    simp only [Option.isSome_map, List.find?_isSome, mem_wildcards_newTopicIndex, hexact,
      false_or, and_assoc]

theorem mem_explicitSubs_topic {rev topic : String} :
    (∃ o ∈ (newTopicIndex points subs rev).explicitSubs.values, o.topic = topic) ↔
      ∃ p ∈ points, p.topic = topic ∧ covered (wildcardPoints points) subs p = false := by
  constructor
  · rintro ⟨o, ho, rfl⟩
    obtain ⟨k, hk⟩ := Dict.mem_values_iff.mp ho
    obtain ⟨p, hp, -, rfl⟩ := Dict.exists_of_lookup_insertAll hk
    obtain ⟨hmem, hcov⟩ := List.mem_filter.mp hp
    exact ⟨p, hmem, rfl, by simpa using hcov⟩
  · rintro ⟨p, hp, rfl, hcov⟩
    have hmem : p ∈ points.filter fun p => !covered (wildcardPoints points) subs p :=
      List.mem_filter.mpr ⟨hp, by simp [hcov]⟩
    obtain ⟨o, ho⟩ := Option.isSome_iff_exists.mp
      (Dict.isSome_lookup_insertAll PointConfig.topic subscribeOptionsFor ∅ hmem)
    obtain ⟨q, -, hq, rfl⟩ := Dict.exists_of_lookup_insertAll ho
    exact ⟨_, Dict.mem_values_iff.mpr ⟨_, ho⟩, hq⟩

/-! ## Routing against subscribing -/

def Delivered (subs : List SubscriptionConfig) (idx : TopicIndex) (t : String) : Prop :=
  ∃ o ∈ brokerSubscriptions subs idx, TopicMatches o.topic t

theorem delivered_iff {rev t : String} :
    Delivered subs (newTopicIndex points subs rev) t ↔
      (∃ s ∈ subs, TopicMatches s.filter t) ∨
        ∃ p ∈ points, covered (wildcardPoints points) subs p = false ∧ TopicMatches p.topic t := by
  constructor
  · rintro ⟨o, ho, hm⟩
    rcases List.mem_append.mp ho with hstatic | hown
    · obtain ⟨s, hs, rfl⟩ := List.mem_map.mp hstatic
      exact Or.inl ⟨s, hs, hm⟩
    · obtain ⟨p, hp, hpt, hcov⟩ := mem_explicitSubs_topic.mp ⟨o, hown, rfl⟩
      exact Or.inr ⟨p, hp, hcov, hpt ▸ hm⟩
  · rintro (⟨s, hs, hm⟩ | ⟨p, hp, hcov, hm⟩)
    · exact ⟨_, List.mem_append_left _ (List.mem_map_of_mem hs), hm⟩
    · have hown : ∃ o ∈ (newTopicIndex points subs rev).explicitSubs.values, o.topic = p.topic :=
        mem_explicitSubs_topic.mpr ⟨p, hp, rfl, hcov⟩
      obtain ⟨o, ho, hot⟩ := hown
      exact ⟨o, List.mem_append_right _ ho, hot ▸ hm⟩

/-- A topic the connector routes and never receives: some wildcard point
    matches it, each such point is taken to be covered by a static filter with
    a `+` where the point has its `#`, and no static filter matches. -/
def Shadowed (points : List PointConfig) (subs : List SubscriptionConfig) (t : String) : Prop :=
  (∃ p ∈ points, hasWildcard p.topic = true ∧ TopicMatches p.topic t) ∧
    (∀ p ∈ points, hasWildcard p.topic = true → TopicMatches p.topic t →
      ∃ s ∈ subs, filterMatches s.filter p.topic = true ∧
        PlusMeetsHash (levels s.filter) (levels p.topic)) ∧
    ∀ s ∈ subs, ¬ TopicMatches s.filter t

theorem covered_of_wildcard (hw : hasWildcard p.topic = true) :
    covered (wildcardPoints points) subs p = true ↔
      ∃ s ∈ subs, filterMatches s.filter p.topic = true := by
  simp [covered, coveredByWildcard, hw]

theorem covered_of_concrete (hw : hasWildcard p.topic = false) :
    covered (wildcardPoints points) subs p = true ↔
      (∃ s ∈ subs, TopicMatches s.filter p.topic) ∨
        ∃ w ∈ points, hasWildcard w.topic = true ∧ TopicMatches w.topic p.topic := by
  simp only [covered, coveredByWildcard, hw, Bool.not_false, Bool.true_and, Bool.or_eq_true,
    List.any_eq_true, filterMatches_iff hw, mem_wildcardPoints, and_assoc]

theorem topic_eq_of_topicMatches {f t : String} (hf : hasWildcard f = false)
    (h : TopicMatches f t) : f = t :=
  levels_injective (h.2.eq_of_literal (hasWildcard_eq_false_iff.mp hf))

theorem Shadowed.not_delivered {rev t : String} (h : Shadowed points subs t) :
    ¬ Delivered subs (newTopicIndex points subs rev) t := by
  obtain ⟨⟨w, hw, hwild, hwt⟩, hcover, hstatic⟩ := h
  rw [delivered_iff]
  rintro (⟨s, hs, hm⟩ | ⟨p, hp, hcov, hm⟩)
  · exact hstatic s hs hm
  · refine absurd ?_ (Bool.eq_false_iff.mp hcov)
    cases hpw : hasWildcard p.topic with
    | true =>
      obtain ⟨s, hs, hsp, -⟩ := hcover p hp hpw hm
      exact (covered_of_wildcard hpw).mpr ⟨s, hs, hsp⟩
    | false =>
      have heq := topic_eq_of_topicMatches hpw hm
      exact (covered_of_concrete hpw).mpr (Or.inr ⟨w, hw, hwild, heq ▸ hwt⟩)

theorem shadowed_of_not_delivered {rev t : String} (ht : hasWildcard t = false)
    (hres : ((newTopicIndex points subs rev).resolve t).isSome)
    (hnot : ¬ Delivered subs (newTopicIndex points subs rev) t) : Shadowed points subs t := by
  simp only [delivered_iff, not_or, not_exists, not_and] at hnot
  obtain ⟨hstatic, hown⟩ := hnot
  have hcov : ∀ p ∈ points, TopicMatches p.topic t →
      covered (wildcardPoints points) subs p = true := by
    intro p hp hm
    by_contra hc
    exact hown p hp (Bool.eq_false_iff.mpr hc) hm
  refine ⟨?_, ?_, hstatic⟩
  · rcases resolve_isSome_iff.mp hres with ⟨p, hp, rfl⟩ | ⟨w, hw, hwild, hwt⟩
    · -- the point of `t` itself was dropped, and not because of a static filter
      have hself := (filterMatches_iff ht).mp (if_pos rfl : filterMatches p.topic p.topic = true)
      rcases (covered_of_concrete ht).mp (hcov p hp hself) with ⟨s, hs, hm⟩ | hwild
      · exact absurd hm (hstatic s hs)
      · exact hwild
    · exact ⟨w, hw, hwild, (filterMatches_iff ht).mp hwt⟩
  · intro p hp hwild hm
    obtain ⟨s, hs, hsp⟩ := (covered_of_wildcard hwild).mp (hcov p hp hm)
    refine ⟨s, hs, hsp, ?_⟩
    by_contra hno
    exact hstatic s hs (TopicMatches.of_filterMatches hsp hno hm)

/-- Every routable concrete topic is delivered by a broker subscription exactly
    when it is not shadowed. -/
theorem routable_delivered_iff {points : List PointConfig} {subs : List SubscriptionConfig}
    {rev t : String} (ht : hasWildcard t = false) :
    (((newTopicIndex points subs rev).resolve t).isSome →
        Delivered subs (newTopicIndex points subs rev) t) ↔ ¬ Shadowed points subs t := by
  constructor
  · intro hprop hsh
    obtain ⟨w, hw, hwild, hwt⟩ := hsh.1
    refine hsh.not_delivered (hprop (resolve_isSome_iff.mpr (Or.inr ?_)))
    exact ⟨w, hw, hwild, (filterMatches_iff ht).mpr hwt⟩
  · intro hsh hres
    by_contra hnot
    exact hsh (shadowed_of_not_delivered ht hres hnot)

/-- The static filter `+` next to a point `#`: `a/b` is routed to the point, and
    the only subscription is `+`. -/
theorem not_delivered_plus_hash :
    validatePoints [{ topic := "#" }] = none ∧ hasWildcard "a/b" = false ∧
      ((newTopicIndex [{ topic := "#" }] [⟨"+", 0⟩] "").resolve "a/b").isSome ∧
      ¬ Delivered [⟨"+", 0⟩] (newTopicIndex [{ topic := "#" }] [⟨"+", 0⟩] "") "a/b" := by
  refine ⟨by decide, by decide, by decide, ?_⟩
  have hsubs : brokerSubscriptions [⟨"+", 0⟩] (newTopicIndex [{ topic := "#" }] [⟨"+", 0⟩] "")
      = [{ topic := "+", qos := 0 }] := by decide
  rintro ⟨o, ho, hm⟩
  rw [hsubs, List.mem_singleton] at ho
  subst ho
  have hmatch := (filterMatches_iff (by decide)).mpr hm
  revert hmatch
  decide

/-- A wildcard point beside an unrelated static filter keeps its subscription,
    and the topics below it are delivered. -/
theorem delivered_sensors :
    ((newTopicIndex [{ topic := "sensors/#" }] [⟨"alarms/+", 1⟩] "").resolve
        "sensors/a/temp").isSome ∧
      Delivered [⟨"alarms/+", 1⟩] (newTopicIndex [{ topic := "sensors/#" }] [⟨"alarms/+", 1⟩] "")
        "sensors/a/temp" := by
  have hres : ((newTopicIndex [{ topic := "sensors/#" }] [⟨"alarms/+", 1⟩] "").resolve
      "sensors/a/temp").isSome := by decide
  refine ⟨hres, (routable_delivered_iff (by decide)).mpr ?_ hres⟩
  rintro ⟨-, hcover, -⟩
  obtain ⟨s, hs, hm, -⟩ := hcover { topic := "sensors/#" } (List.mem_singleton_self _) (by decide)
    ((filterMatches_iff (by decide)).mp (by decide))
  rw [List.mem_singleton] at hs
  subst hs
  revert hm
  decide

end NexusGateway.Connector.Mqtt
