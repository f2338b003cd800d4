/-
`internal/mqttsync`: the MQTT subscriptions a Point List implies for one
connector, what `Preview` says of them and what `Apply` sends; with the
other end of both requests, `SubscriptionStatus` and
`handleSubscriptionApply` of `connector/mqtt/connector.go`.

The two ends hold the set in different forms: a list of specs with repeated
topics here, an index of point configurations there.  They are compared by
topic, where on both sides the last spec wins; the lemmas about lookups by
topic carry a spec through the request, the index and the status back to the
diff.  `preview_after_apply` is the round trip.
-/

import NexusGateway.Connector.Mqtt.Apply
import NexusGateway.Lib.Except
import NexusGateway.PointList.Synced

namespace NexusGateway.MqttSync

open Lib PointList Connector.Mqtt

/-! ## The wire -/

structure SubscriptionSpec where
  topic : String
  qos : UInt8
  writable : Bool := false
  commandTopic : String := ""
  commandQoS : UInt8 := 0
  deviceRef : String := ""
  unit : String := ""
  payloadTemplate : String := ""
deriving DecidableEq, Repr

structure SubscriptionApplyRequest where
  revision : String
  points : List SubscriptionSpec

structure SubscriptionStatusReply where
  appliedRevision : String
  subscriptions : List SubscriptionSpec

/-- What the two ends take from Go.  Decoding undoes encoding for the wire structs, none
    of which fails to encode.  `sort.Slice` is not stable, but fixed by its input. -/
structure Runtime (Msg : Type) where
  marshalApply : SubscriptionApplyRequest → Msg
  unmarshalApply : Msg → Except String SubscriptionApplyRequest
  unmarshalApply_marshalApply : ∀ req, unmarshalApply (marshalApply req) = .ok req
  marshalReply : ApplyReply → Msg
  unmarshalReply : Msg → Except String ApplyReply
  unmarshalReply_marshalReply : ∀ reply, unmarshalReply (marshalReply reply) = .ok reply
  marshalStatus : SubscriptionStatusReply → Msg
  unmarshalStatus : Msg → Except String SubscriptionStatusReply
  unmarshalStatus_marshalStatus : ∀ status, unmarshalStatus (marshalStatus status) = .ok status
  marshalSpecs : List SubscriptionSpec → Msg
  /-- the hex digits of the hash -/
  sha256 : Msg → String
  sortSpecs : List SubscriptionSpec → List SubscriptionSpec
  sortSpecs_perm : ∀ specs, (sortSpecs specs).Perm specs
  sortSpecs_sorted : ∀ specs, (sortSpecs specs).Pairwise fun a b => a.topic ≤ b.topic

/-! ## The connector's end -/

/-- `PointConfig.commandQoS`. -/
def defaultedCommandQoS (p : PointConfig) : UInt8 :=
  if p.commandQoS = 0 then 1 else p.commandQoS

def pointConfigFromSpec (spec : SubscriptionSpec) : PointConfig :=
  { topic := spec.topic
    deviceRef := spec.deviceRef
    unit := spec.unit
    writable := spec.writable
    commandTopic := spec.commandTopic
    payloadTemplate := spec.payloadTemplate
    qos := spec.qos
    commandQoS := spec.commandQoS }

def statusSpec (p : PointConfig) : SubscriptionSpec :=
  { topic := p.topic
    qos := p.subscribeQoS
    writable := p.writable
    commandTopic := p.commandTopic
    deviceRef := p.deviceRef
    unit := p.unit
    payloadTemplate := p.payloadTemplate
    commandQoS := if p.writable then defaultedCommandQoS p else 0 }

def subscriptionStatus (idx : TopicIndex) : SubscriptionStatusReply :=
  { appliedRevision := idx.revision
    subscriptions := idx.points.values.map statusSpec }

/-- `SubscriptionStatus` ranges over a map: the specs come in some order. -/
structure Reports (idx : TopicIndex) (status : SubscriptionStatusReply) : Prop where
  revision : status.appliedRevision = idx.revision
  subscriptions : status.subscriptions.Perm (subscriptionStatus idx).subscriptions

/-- `handleSubscriptionApply` up to the call: the request, or the reply to a message that
    is none. -/
def receiveApply {Msg : Type} (rt : Runtime Msg) (data : Msg) : Except ApplyReply ApplyRequest :=
  match rt.unmarshalApply data with
  | .error _ => .error { errors := ["bad_request"] }
  | .ok req => .ok { revision := req.revision, points := req.points.map pointConfigFromSpec }

/-! ## The gateway's end -/

def derive (entries : List Entry) (connectorID : String) (subQoS cmdQoS : UInt8) :
    List SubscriptionSpec :=
  entries.filterMap fun e =>
    if e.protocol ≠ "mqtt" ∨ e.connectorID ≠ connectorID ∨ e.localID = "" ∨ e.releaseOf ≠ "" then
      none
    else
      some
        { topic := e.localID
          qos := subQoS
          writable := e.writable
          deviceRef := e.deviceRef
          unit := e.unit
          commandTopic := if e.writable then e.localID else ""
          commandQoS := if e.writable then cmdQoS else 0 }

structure Diff where
  added : List SubscriptionSpec
  changed : List SubscriptionSpec
  removed : List SubscriptionSpec
  currentRevision : String := ""
  targetRevision : String := ""
  subscribedCount : Nat

def byTopic (specs : List SubscriptionSpec) : Dict String SubscriptionSpec :=
  Dict.insertAll SubscriptionSpec.topic id specs ∅

def select (specs : Dict String SubscriptionSpec) (cond : String → SubscriptionSpec → Bool) :
    List SubscriptionSpec :=
  (specs.entries.filter fun e => cond e.1 e.2).map Sigma.snd

structure Config where
  defaultSubscribeQoS : Dict String UInt8 := ∅
  defaultCommandQoS : Dict String UInt8 := ∅

def defaultQoS (table : Dict String UInt8) (connectorID : String) : UInt8 :=
  match table.lookup connectorID with
  | some q => if q ≠ 0 then q else 1
  | none => 1

section Client

variable {Msg : Type} (rt : Runtime Msg)

def computeDiff (current desired : List SubscriptionSpec) : Diff :=
  let currentByTopic := byTopic current
  let desiredByTopic := byTopic desired
  { added := rt.sortSpecs (select desiredByTopic fun topic _ =>
      (currentByTopic.lookup topic).isNone)
    changed := rt.sortSpecs (select desiredByTopic fun topic want =>
      (currentByTopic.lookup topic).any fun old => old ≠ want)
    removed := rt.sortSpecs (select currentByTopic fun topic _ =>
      (desiredByTopic.lookup topic).isNone)
    subscribedCount := desired.length }

def revisionOf (specs : List SubscriptionSpec) : String :=
  "sha256:" ++ rt.sha256 (rt.marshalSpecs (rt.sortSpecs specs))

end Client

structure Client (Msg : Type) where
  rt : Runtime Msg
  resolver : SyncedResolver
  cfg : Config

namespace Client

variable {Msg : Type} (c : Client Msg) (connectorID : String)

def subscribeQoS : UInt8 := defaultQoS c.cfg.defaultSubscribeQoS connectorID

def commandQoS : UInt8 := defaultQoS c.cfg.defaultCommandQoS connectorID

def desired : List SubscriptionSpec :=
  derive c.resolver.snapshot connectorID (c.subscribeQoS connectorID) (c.commandQoS connectorID)

def status (answer : Except String Msg) : Except String SubscriptionStatusReply :=
  match answer with
  | .error err => .error ("mqttsync: status request to " ++ connectorID ++ ": " ++ err)
  | .ok msg => (c.rt.unmarshalStatus msg).mapError fun err =>
    "mqttsync: decode status reply from " ++ connectorID ++ ": " ++ err

def preview (answer : Except String Msg) : Except String Diff := do
  let status ← c.status connectorID answer
  let desired := c.desired connectorID
  pure { computeDiff c.rt status.subscriptions desired with
    currentRevision := status.appliedRevision
    targetRevision := revisionOf c.rt desired }

def applyRequest : Except String Msg :=
  let desired := c.desired connectorID
  match validatePoints (desired.map pointConfigFromSpec) with
  | some err => .error ("mqttsync: invalid Point-List-derived subscriptions for " ++ connectorID ++
      ": " ++ err)
  | none => .ok (c.rt.marshalApply { revision := revisionOf c.rt desired, points := desired })

/-- `Apply`, over a request to the connector. -/
def apply (request : Msg → Except String Msg) : Except String ApplyReply := do
  let data ← c.applyRequest connectorID
  match request data with
  | .error err => .error ("mqttsync: apply request to " ++ connectorID ++ ": " ++ err)
  | .ok msg => (c.rt.unmarshalReply msg).mapError fun err =>
    "mqttsync: decode apply reply from " ++ connectorID ++ ": " ++ err

end Client

/-! ## Lookups by topic -/

theorem select_eq_nil {specs : Dict String SubscriptionSpec}
    {cond : String → SubscriptionSpec → Bool}
    (h : ∀ topic spec, specs.lookup topic = some spec → cond topic spec = false) :
    select specs cond = [] := by
  rw [select, List.map_eq_nil_iff, List.filter_eq_nil_iff]
  rintro ⟨topic, spec⟩ hmem
  rw [h topic spec (AList.mem_lookup_iff.mpr hmem)]
  exact Bool.false_ne_true

section Diff

variable {Msg : Type} {rt : Runtime Msg}

theorem sortSpecs_nil : rt.sortSpecs [] = [] := (rt.sortSpecs_perm []).eq_nil

theorem computeDiff_eq {current desired : List SubscriptionSpec}
    (h : ∀ topic, (byTopic current).lookup topic = (byTopic desired).lookup topic) :
    computeDiff rt current desired =
      { added := [], changed := [], removed := [], subscribedCount := desired.length } := by
  have hadded : (select (byTopic desired) fun topic _ =>
      ((byTopic current).lookup topic).isNone) = [] :=
    select_eq_nil fun topic spec hspec => by rw [h, hspec]; rfl
  have hchanged : (select (byTopic desired) fun topic want =>
      ((byTopic current).lookup topic).any fun old => old ≠ want) = [] :=
    select_eq_nil fun topic spec hspec => by rw [h, hspec]; simp
  have hremoved : (select (byTopic current) fun topic _ =>
      ((byTopic desired).lookup topic).isNone) = [] :=
    select_eq_nil fun topic spec hspec => by rw [← h, hspec]; rfl
  simp only [computeDiff, hadded, hchanged, hremoved, sortSpecs_nil]

end Diff

theorem lookup_desired (revision : String) (specs : List SubscriptionSpec) (topic : String) :
    (ApplyRequest.desired { revision := revision, points := specs.map pointConfigFromSpec }).lookup
      topic = ((byTopic specs).lookup topic).map pointConfigFromSpec := by
  rw [ApplyRequest.desired, byTopic, Dict.lookup_insertAll, Dict.lookup_insertAll,
    ← List.map_reverse, List.find?_map]
  simp only [AList.lookup_empty, Option.or_none, Option.map_id, id_eq]
  rfl

theorem lookup_status {idx : TopicIndex} (hkeyed : Dict.KeyedBy PointConfig.topic idx.points)
    {status : SubscriptionStatusReply} (hstatus : Reports idx status) (topic : String) :
    (byTopic status.subscriptions).lookup topic = (idx.points.lookup topic).map statusSpec := by
  have htopic : ∀ p : PointConfig, (statusSpec p).topic = p.topic := fun _ => rfl
  exact hkeyed.lookup_insertAll_perm htopic hstatus.subscriptions topic

/-! ## Derived specs -/

theorem defaultQoS_ne_zero (table : Dict String UInt8) (connectorID : String) :
    defaultQoS table connectorID ≠ 0 := by
  rw [defaultQoS]
  split
  · split
    · assumption
    · decide
  · decide

/-- A spec the connector reports as it was sent: nothing is left to a default, and a
    command QoS stands only beside a writable point. -/
structure Explicit (spec : SubscriptionSpec) : Prop where
  qos : spec.qos ≠ 0
  commandQoS : if spec.writable then spec.commandQoS ≠ 0 else spec.commandQoS = 0

theorem statusSpec_pointConfigFromSpec {spec : SubscriptionSpec} (h : Explicit spec) :
    statusSpec (pointConfigFromSpec spec) = spec := by
  obtain ⟨hqos, hcommand⟩ := h
  cases spec with
  | mk topic qos writable commandTopic commandQoS deviceRef unit payloadTemplate =>
    cases writable with
    | true =>
      simp only [if_true] at hqos hcommand
      simp [statusSpec, pointConfigFromSpec, PointConfig.subscribeQoS, defaultedCommandQoS,
        hqos, hcommand]
    | false =>
      simp only [Bool.false_eq_true, if_false] at hqos hcommand
      simp [statusSpec, pointConfigFromSpec, PointConfig.subscribeQoS, hqos, hcommand]

theorem explicit_of_mem_derive {entries : List Entry} {connectorID : String}
    {subQoS cmdQoS : UInt8} (hsub : subQoS ≠ 0) (hcmd : cmdQoS ≠ 0) {spec : SubscriptionSpec}
    (hspec : spec ∈ derive entries connectorID subQoS cmdQoS) : Explicit spec := by
  obtain ⟨e, -, he⟩ := List.mem_filterMap.mp hspec
  split at he
  · cases he
  cases he
  refine ⟨hsub, ?_⟩
  cases e.writable with
  | true => exact hcmd
  | false => rfl

theorem Client.explicit_of_mem_desired {Msg : Type} {c : Client Msg} {connectorID : String}
    {spec : SubscriptionSpec} (hspec : spec ∈ c.desired connectorID) : Explicit spec :=
  explicit_of_mem_derive (defaultQoS_ne_zero _ _) (defaultQoS_ne_zero _ _) hspec

theorem lookup_status_desired (revision : String) {specs : List SubscriptionSpec}
    (hspecs : ∀ s ∈ specs, Explicit s) {idx : TopicIndex}
    (hidx : ∀ topic, idx.points.lookup topic = (ApplyRequest.desired
      { revision := revision, points := specs.map pointConfigFromSpec }).lookup topic)
    {status : SubscriptionStatusReply} (hstatus : Reports idx status) (topic : String) :
    (byTopic status.subscriptions).lookup topic = (byTopic specs).lookup topic := by
  have hkeyed : Dict.KeyedBy PointConfig.topic idx.points := fun t p hp =>
    desired_keyedBy _ t p ((hidx t).symm.trans hp)
  rw [lookup_status hkeyed hstatus, hidx, lookup_desired, Option.map_map]
  cases hspec : (byTopic specs).lookup topic with
  | none => rfl
  | some spec =>
    obtain ⟨spec', hmem, -, rfl⟩ := Dict.exists_of_lookup_insertAll hspec
    rw [Option.map_some, Function.comp_apply, id_eq,
      statusSpec_pointConfigFromSpec (hspecs spec' hmem)]

/-! ## The connector between an apply and a preview -/

inductive Effect (c : MqttConnector) (a : Action) (c' : MqttConnector) : Prop
  | idle : c'.apply = c.apply → c'.topics = c.topics → c'.replies = c.replies → Effect c a c'
  | begins (req : ApplyRequest) : a = .begin req → c'.apply = some (c.plan req) →
      c'.topics = c.topics → c'.replies = c.replies → Effect c a c'
  | goesOn (ap ap' : Apply) : c.apply = some ap → c'.apply = some ap' → ap'.next = ap.next →
      c'.topics = c.topics → c'.replies = c.replies → Effect c a c'
  | refuses (req : ApplyRequest) (reply : ApplyReply) : a = .begin req → reply.applied = false →
      c'.apply = none → c'.topics = c.topics → c'.replies = c.replies ++ [reply] → Effect c a c'
  | fails (ap : Apply) (reply : ApplyReply) : c.apply = some ap → reply.applied = false →
      c'.apply = none → c'.topics = c.topics → c'.replies = c.replies ++ [reply] → Effect c a c'
  | stores (ap : Apply) : c.apply = some ap → c'.apply = none → c'.topics = ap.next →
      c'.replies = c.replies ++ [ap.reply] → Effect c a c'

section Steps

variable {c c' : MqttConnector} {a : Action} {req : ApplyRequest}

theorem step_effect (hstep : MqttConnector.Steps c a c') :
    c'.subscriptions = c.subscriptions ∧ Effect c a c' := by
  rw [MqttConnector.Steps] at hstep
  revert hstep
  fun_cases MqttConnector.step with
  | case2 req =>
    rintro ⟨⟩
    exact ⟨rfl, .refuses req _ rfl rfl rfl rfl rfl⟩
  | case3 req =>
    rintro ⟨⟩
    exact ⟨rfl, .begins req rfl rfl rfl rfl⟩
  | case5 err ap hap | case6 err ap hap | case10 err ap hap | case11 ap hap | case12 ap hap =>
    rintro ⟨⟩
    exact ⟨rfl, .goesOn ap _ hap rfl rfl rfl rfl⟩
  | case7 err ap hap =>
    rintro ⟨⟩
    exact ⟨rfl, .fails ap _ hap rfl rfl rfl rfl⟩
  | case15 ap hap =>
    rintro ⟨⟩
    exact ⟨rfl, .stores ap hap rfl rfl rfl⟩
  | case18 | case20 =>
    rintro ⟨⟩
    exact ⟨rfl, .idle rfl rfl rfl⟩
  | case1 | case4 | case8 | case9 | case13 | case14 | case16 | case17 | case19 => rintro ⟨⟩

def indexOf (req : ApplyRequest) (c : MqttConnector) : TopicIndex :=
  newTopicIndex req.desired.values c.subscriptions req.revision

theorem indexOf_congr (h : c'.subscriptions = c.subscriptions) :
    indexOf req c' = indexOf req c := by
  rw [indexOf, indexOf, h]

/-- The request has been applied; an apply under way is of the same request. -/
structure Settled (req : ApplyRequest) (c : MqttConnector) : Prop where
  topics : c.topics = indexOf req c
  next : ∀ ap, c.apply = some ap → ap.next = indexOf req c

/-- How far the apply has come that began when these replies had been given. -/
inductive Progress (req : ApplyRequest) (before : List ApplyReply) (c : MqttConnector) : Prop
  | running (ap : Apply) : c.apply = some ap → ap.next = indexOf req c → c.replies = before →
      Progress req before c
  | failed (reply : ApplyReply) : c.apply = none → reply.applied = false →
      c.replies = before ++ [reply] → Progress req before c
  | done (reply : ApplyReply) : c.apply = none → c.topics = indexOf req c →
      c.replies = before ++ [reply] → Progress req before c

theorem Settled.step (h : Settled req c) (hstep : MqttConnector.Steps c a c')
    (hsame : ∀ req', a = .begin req' → req' = req) : Settled req c' := by
  obtain ⟨hsubs, heffect⟩ := step_effect hstep
  have hidx : indexOf req c' = indexOf req c := indexOf_congr hsubs
  have hplan : (c.plan req).next = indexOf req c := rfl
  cases heffect <;> constructor <;> grind [Settled]

theorem Progress.step {before : List ApplyReply} (h : Progress req before c)
    (hstep : MqttConnector.Steps c a c') (ha : ∀ req', a ≠ .begin req') :
    Progress req before c' := by
  obtain ⟨hsubs, heffect⟩ := step_effect hstep
  have hidx : indexOf req c' = indexOf req c := indexOf_congr hsubs
  cases h with
  | failed reply hnone hfailed hreplies =>
    exact .failed reply (by grind [Effect]) hfailed (by grind [Effect])
  | done reply hnone htopics hreplies =>
    exact .done reply (by grind [Effect]) (by grind [Effect]) (by grind [Effect])
  | running ap hap hnext hreplies =>
    cases heffect <;> grind [Progress]

theorem progress_begin (hstep : MqttConnector.Steps c (.begin req) c') :
    Progress req c.replies c' := by
  rw [MqttConnector.Steps, MqttConnector.step] at hstep
  split at hstep
  · cases hstep
  split at hstep <;> cases hstep
  · exact .failed _ rfl rfl rfl
  · exact .running _ rfl rfl rfl

theorem settled_of_applied {c₀ c₁ : MqttConnector} {as : List Action} {reply : ApplyReply}
    (hbegin : MqttConnector.Steps c₀ (.begin req) c) (hrun : Run MqttConnector.Steps c as c₁)
    (hone : ∀ a ∈ as, ∀ req', a ≠ .begin req') (hreply : c₁.replies = c₀.replies ++ [reply])
    (happlied : reply.applied = true) : Settled req c₁ := by
  have hmeet : Run (Meeting MqttConnector.Steps fun _ a => ∀ req', a ≠ .begin req') c as c₁ :=
    hrun.meeting_of_forall fun a ha _ => hone a ha
  have hprogress : Progress req c₀.replies c₁ :=
    hmeet.invariant (progress_begin hbegin) fun _ _ _ h hstep => h.step hstep.1 hstep.2
  cases hprogress with
  | running ap _ _ hreplies =>
    rw [hreplies] at hreply
    simp at hreply
  | failed reply' _ hfailed hreplies =>
    obtain rfl : reply' = reply := by simpa using hreplies.symm.trans hreply
    rw [hfailed] at happlied
    cases happlied
  | done _ happly htopics _ =>
    refine ⟨htopics, fun ap hap => ?_⟩
    cases happly.symm.trans hap

theorem settled_of_run {as : List Action} (h : Settled req c)
    (hrun : Run MqttConnector.Steps c as c') (hsame : ∀ req', .begin req' ∈ as → req' = req) :
    Settled req c' := by
  have hmeet : Run (Meeting MqttConnector.Steps fun _ a => ∀ req', a = .begin req' → req' = req)
      c as c' :=
    hrun.meeting_of_forall fun a ha _ req' hreq => hsame req' (hreq ▸ ha)
  exact hmeet.invariant h fun _ _ _ h hstep => h.step hstep.1 hstep.2

end Steps

/-! ## The round trip -/

section RoundTrip

variable {Msg : Type} {client : Client Msg} {connectorID : String}

theorem receiveApply_applyRequest {data : Msg} {req : ApplyRequest}
    (hdata : client.applyRequest connectorID = .ok data)
    (hreq : receiveApply client.rt data = .ok req) :
    req = { revision := revisionOf client.rt (client.desired connectorID)
            points := (client.desired connectorID).map pointConfigFromSpec } := by
  simp only [Client.applyRequest] at hdata
  split at hdata
  · cases hdata
  cases hdata
  rw [receiveApply, client.rt.unmarshalApply_marshalApply] at hreq
  cases hreq
  rfl

theorem preview_status (status : SubscriptionStatusReply) :
    client.preview connectorID (.ok (client.rt.marshalStatus status)) =
      .ok { computeDiff client.rt status.subscriptions (client.desired connectorID) with
        currentRevision := status.appliedRevision
        targetRevision := revisionOf client.rt (client.desired connectorID) } := by
  rw [Client.preview, Client.status, client.rt.unmarshalStatus_marshalStatus]
  rfl

theorem apply_reply {data : Msg} (hdata : client.applyRequest connectorID = .ok data)
    (reply : ApplyReply) :
    client.apply connectorID (fun _ => .ok (client.rt.marshalReply reply)) = .ok reply := by
  simp only [Client.apply, hdata, ok_bind, client.rt.unmarshalReply_marshalReply, Except.mapError]

/-- `Apply` is a fixed point of `Preview`.  A connector in any state receives what `Apply`
    sends, and the apply, whatever else happens to the connection meanwhile, returns
    `Applied`.  From then on, until another request comes, `Preview` against the same Point
    List reports nothing to add, change or remove, and equal revisions. -/
theorem preview_after_apply (client : Client Msg) (connectorID : String) {data : Msg}
    {req : ApplyRequest} {c₀ c c₁ c₂ : MqttConnector} {as bs : List Action} {reply : ApplyReply}
    {status : SubscriptionStatusReply} (hdata : client.applyRequest connectorID = .ok data)
    (hreq : receiveApply client.rt data = .ok req)
    (hbegin : MqttConnector.Steps c₀ (.begin req) c) (hrun : Run MqttConnector.Steps c as c₁)
    (hone : ∀ a ∈ as, ∀ req', a ≠ .begin req') (hreply : c₁.replies = c₀.replies ++ [reply])
    (happlied : reply.applied = true) (hlater : Run MqttConnector.Steps c₁ bs c₂)
    (hsame : ∀ req', .begin req' ∈ bs → req' = req) (hstatus : Reports c₂.topics status) :
    client.apply connectorID (fun _ => .ok (client.rt.marshalReply reply)) = .ok reply ∧
      ∃ diff, client.preview connectorID (.ok (client.rt.marshalStatus status)) = .ok diff ∧
        diff.added = [] ∧ diff.changed = [] ∧ diff.removed = [] ∧
        diff.currentRevision = diff.targetRevision := by
  have hsettled : Settled req c₂ :=
    settled_of_run (settled_of_applied hbegin hrun hone hreply happlied) hlater hsame
  obtain rfl := receiveApply_applyRequest hdata hreq
  have hlookup : ∀ topic, (byTopic status.subscriptions).lookup topic =
      (byTopic (client.desired connectorID)).lookup topic := by
    refine lookup_status_desired (revisionOf client.rt (client.desired connectorID))
      (fun _ => Client.explicit_of_mem_desired) (fun topic => ?_) hstatus
    rw [hsettled.topics]
    exact lookup_points
  have hrevision : status.appliedRevision = revisionOf client.rt (client.desired connectorID) := by
    rw [hstatus.revision, hsettled.topics]
    rfl
  refine ⟨apply_reply hdata reply, _, preview_status status, ?_⟩
  rw [computeDiff_eq hlookup]
  exact ⟨rfl, rfl, rfl, hrevision⟩

inductive Message where
  | apply (req : SubscriptionApplyRequest)
  | reply (reply : ApplyReply)
  | status (status : SubscriptionStatusReply)
  | specs (specs : List SubscriptionSpec)

def TopicLE (a b : SubscriptionSpec) : Prop := a.topic ≤ b.topic

instance : DecidableRel TopicLE := fun a b => inferInstanceAs (Decidable (a.topic ≤ b.topic))

instance : Std.Total TopicLE := ⟨fun a b => String.le_total a.topic b.topic⟩

instance : IsTrans SubscriptionSpec TopicLE := ⟨fun _ _ _ => String.le_trans⟩

def messages : Runtime Message where
  marshalApply := .apply
  unmarshalApply
    | .apply req => .ok req
    | _ => .error "unexpected message"
  unmarshalApply_marshalApply _ := rfl
  marshalReply := .reply
  unmarshalReply
    | .reply reply => .ok reply
    | _ => .error "unexpected message"
  unmarshalReply_marshalReply _ := rfl
  marshalStatus := .status
  unmarshalStatus
    | .status status => .ok status
    | _ => .error "unexpected message"
  unmarshalStatus_marshalStatus _ := rfl
  marshalSpecs := .specs
  sha256
    | .specs specs => toString specs.length
    | _ => ""
  sortSpecs specs := specs.insertionSort TopicLE
  sortSpecs_perm specs := List.perm_insertionSort TopicLE specs
  sortSpecs_sorted specs := List.pairwise_insertionSort TopicLE specs

def plantClient : Client Message :=
  { rt := messages
    resolver := SyncedResolver.new.update
      [{ connectorID := "m1", protocol := "mqtt", localID := "plant/a", pointID := "p1" },
        { connectorID := "m1", protocol := "mqtt", localID := "plant/b", pointID := "p2",
          writable := true },
        { connectorID := "m1", protocol := "mqtt", localID := "plant/a", pointID := "p3",
          unit := "kW" }]
    cfg := {} }

def plantRequest : ApplyRequest :=
  { revision := "sha256:3"
    points := (plantClient.desired "m1").map pointConfigFromSpec }

/-- A connector with another point and a static filter, before and after the apply; the
    connection is lost meanwhile. -/
theorem preview_after_apply_plant :
    ∃ c₀ c₁ : MqttConnector,
      Run MqttConnector.Steps (MqttConnector.init [⟨"plant/+", 1⟩] [{ topic := "old" }])
        [.reconnect] c₀ ∧
      Run MqttConnector.Steps c₀ [.begin plantRequest, .subscribe "", .disconnect,
        .unsubscribe (some "EOF"), .store, .reconnect] c₁ ∧
      (plantClient.desired "m1").length = 3 ∧ c₁.topics.points.keys.length = 2 ∧
      ∃ diff, plantClient.preview "m1" (.ok (.status (subscriptionStatus c₁.topics))) = .ok diff ∧
        diff.added = [] ∧ diff.changed = [] ∧ diff.removed = [] ∧
        diff.currentRevision = diff.targetRevision := by
  obtain ⟨c₀, c, c₁, hconnect, hbegin, hrun, ⟨reply, hreply, happlied⟩, hkeys⟩ :
      ∃ c₀ c c₁ : MqttConnector,
        Run MqttConnector.Steps (MqttConnector.init [⟨"plant/+", 1⟩] [{ topic := "old" }])
          [.reconnect] c₀ ∧
        MqttConnector.Steps c₀ (.begin plantRequest) c ∧
        Run MqttConnector.Steps c [.subscribe "", .disconnect, .unsubscribe (some "EOF"), .store,
          .reconnect] c₁ ∧
        (∃ reply, c₁.replies = c₀.replies ++ [reply] ∧ reply.applied = true) ∧
        c₁.topics.points.keys.length = 2 :=
    ⟨_, _, _, Run.of_foldlM rfl, rfl, Run.of_foldlM rfl, ⟨_, rfl, rfl⟩, rfl⟩
  have hdata : plantClient.applyRequest "m1" =
      .ok (.apply { revision := "sha256:3", points := plantClient.desired "m1" }) := rfl
  exact ⟨c₀, c₁, hconnect, hrun.cons hbegin, rfl, hkeys,
    (preview_after_apply plantClient "m1" hdata rfl hbegin hrun (by simp) hreply happlied (.nil _)
      (by simp) ⟨rfl, .refl _⟩).2⟩

end RoundTrip

end NexusGateway.MqttSync
