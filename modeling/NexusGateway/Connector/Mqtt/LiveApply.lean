/-
`ApplySubscriptions` as one call, on a connection that stays up.  The calls
to the broker may fail: a `Subscribe` that fails has no effect, and an
`Unsubscribe` that fails is reported and ignored.

The broker starts with the static filters and the explicit subscriptions of
the first index.  A plan says what to add and what to remove only; that the
two agree again after every call needs the plan to be exact about topics
that become explicit, or stop being so, because a wildcard point comes or
goes.
-/

import NexusGateway.Lib.Prog
import NexusGateway.Connector.Mqtt.Resubscribe

namespace NexusGateway.Connector.Mqtt

open Lib Lib.Prog

/-! ## The call -/

/-- A request with the answers of the broker; `none` is no error. -/
structure ApplyCall where
  req : ApplyRequest
  subscribeErr : Option String := none
  unsubscribeErr : Option String := none

namespace MqttConnector

/-- `cm.Subscribe`: all entries, or an error and no effect. -/
def brokerSubscribe (opts : List SubscribeOptions) (err : Option String) :
    Prog MqttConnector ApplyReply Unit :=
  act fun c =>
    match err with
    | some err => (.error { errors := ["subscribe: " ++ err] }, c)
    | none => (.ok (), { c with broker := subscribeAll c.broker opts })

/-- `cm.Unsubscribe`, if there is something to remove, with the errors it adds to the
    reply. -/
def brokerUnsubscribe (topics : List String) (err : Option String) :
    Prog MqttConnector ApplyReply (List String) :=
  if topics.isEmpty then pure []
  else act fun c =>
    match err with
    | some err => (.ok ["unsubscribe: " ++ err], c)
    | none => (.ok [], { c with broker := topics.foldl (fun b topic => b.erase topic) c.broker })

/-- `ApplySubscriptions`, of a connection manager that is there.  A reply returned early is
    an error here. -/
def applySubscriptions (call : ApplyCall) : Prog MqttConnector ApplyReply ApplyReply := do
  let c ← get
  match validatePoints call.req.desired.values with
  | some err => Prog.fail { errors := ["invalid_request: " ++ err] }
  | none => do
      let ap := c.plan call.req
      when (!ap.toSubscribe.isEmpty) (brokerSubscribe ap.toSubscribe call.subscribeErr)
      let errs ← brokerUnsubscribe ap.toUnsubscribe call.unsubscribeErr
      modify fun c => { c with topics := ap.next }
      pure { ap.reply with errors := errs }

def connect (subscriptions : List SubscriptionConfig) (points : List PointConfig) :
    MqttConnector :=
  { init subscriptions points with
    connected := true
    broker := subscribeAll ∅
      (brokerSubscriptions subscriptions (newTopicIndex points subscriptions "")) }

def applyAll (c : MqttConnector) (calls : List ApplyCall) : MqttConnector :=
  calls.foldl (fun c call => (applySubscriptions call c).state) c

def subscribedBroker (c : MqttConnector) (req : ApplyRequest) : Dict String SubscribeOptions :=
  subscribeAll c.broker (c.plan req).toSubscribe

def appliedBroker (c : MqttConnector) (req : ApplyRequest) : Dict String SubscribeOptions :=
  (c.plan req).toUnsubscribe.foldl (fun b topic => b.erase topic) (c.subscribedBroker req)

/-! ## In step -/

/-- What the broker is to hold for a filter: the static filters plus the explicit
    subscriptions of the index. -/
def wanted (subscriptions : List SubscriptionConfig) (idx : TopicIndex) (filter : String) :
    Option SubscribeOptions :=
  (idx.explicitSubs.lookup filter).or ((staticOptions subscriptions).lookup filter)

def InStep (c : MqttConnector) : Prop :=
  ∀ filter, c.broker.lookup filter = wanted c.subscriptions c.topics filter

structure Settled (subscriptions : List SubscriptionConfig) (c : MqttConnector) : Prop where
  config : c.subscriptions = subscriptions
  topics : Consistent subscriptions c.topics
  inStep : InStep c

theorem settled_connect (subscriptions : List SubscriptionConfig) (points : List PointConfig) :
    Settled subscriptions (connect subscriptions points) where
  config := rfl
  topics := consistent_newTopicIndex points subscriptions ""
  inStep := lookup_reconnected (consistent_newTopicIndex points subscriptions "")

section Call

variable {subscriptions : List SubscriptionConfig} {c : MqttConnector} {call : ApplyCall}

theorem Settled.static (hc : Settled subscriptions c) :
    Holds c.broker (staticOptions subscriptions) := by
  intro topic o ho
  rw [hc.inStep, wanted, hc.config, ho]
  cases he : c.topics.explicitSubs.lookup topic with
  | none => rfl
  | some o' =>
    have hnone := hc.topics.apart topic o' he
    rw [hnone] at ho
    cases ho

theorem Settled.explicit (hc : Settled subscriptions c) : Holds c.broker c.topics.explicitSubs := by
  intro topic o ho
  rw [hc.inStep, wanted, ho]
  rfl

theorem Settled.planOk (hc : Settled subscriptions c) (req : ApplyRequest) :
    PlanOk subscriptions c.topics (c.plan req) := by
  have hplan := Mqtt.planOk c (hc.config ▸ hc.topics) req
  rwa [hc.config] at hplan

theorem Settled.lookup_unwanted (hc : Settled subscriptions c) {req : ApplyRequest}
    {filter : String} (hnone : wanted subscriptions (c.plan req).next filter = none) :
    (c.subscribedBroker req).lookup filter = c.topics.explicitSubs.lookup filter := by
  obtain ⟨hnext, hstatic⟩ := Option.or_eq_none_iff.mp hnone
  rcases lookup_subscribeAll c.broker (c.plan req).toSubscribe filter with
    ⟨-, hsame⟩ | ⟨o, ho, rfl, -⟩
  · rw [subscribedBroker, hsame, hc.inStep, wanted, hc.config, hstatic, Option.or_none]
  · have hadded := (hc.planOk req).added o ho
    rw [hnext] at hadded
    cases hadded

theorem Settled.lookup_applied (hc : Settled subscriptions c) (req : ApplyRequest)
    (filter : String) :
    (c.appliedBroker req).lookup filter = wanted subscriptions (c.plan req).next filter := by
  have hplan := hc.planOk req
  obtain ⟨hstatic, hnext⟩ := hplan.holds_subscribed hc.static hc.explicit
  obtain ⟨hstatic', hnext'⟩ := hplan.holds_unsubscribed hstatic hnext
  cases hw : wanted subscriptions (c.plan req).next filter with
  | some o =>
    rcases Option.or_eq_some_iff.mp hw with he | ⟨-, hs⟩
    · exact hnext' filter o he
    · exact hstatic' filter o hs
  | none =>
    rw [appliedBroker, Dict.lookup_foldl_erase, hc.lookup_unwanted hw]
    split
    · rfl
    · next hkept =>
      -- an explicit subscription that is not wanted is among the removals
      by_contra hsome
      obtain ⟨o, ho⟩ := Option.ne_none_iff_exists'.mp hsome
      have hremoved : filter ∈ (planSubscriptions c.topics (c.plan req).next
          (changedTopics c.topics.points req.desired)).2 :=
        mem_unsubscribe.mpr ⟨⟨o, ho⟩, (Option.or_eq_none_iff.mp hw).1⟩
      exact hkept hremoved

theorem isSome_subscribeAll {broker : Dict String SubscribeOptions} {filter : String}
    (opts : List SubscribeOptions) (hold : (broker.lookup filter).isSome) :
    ((subscribeAll broker opts).lookup filter).isSome := by
  rcases lookup_subscribeAll broker opts filter with ⟨-, hsame⟩ | ⟨o, -, -, hlookup⟩
  · rw [hsame]
    exact hold
  · rw [hlookup]
    rfl

/-! ## What a call does -/

def Accepted (c : MqttConnector) (call : ApplyCall) : Prop :=
  validatePoints call.req.desired.values = none ∧
    ((c.plan call.req).toSubscribe = [] ∨ call.subscribeErr = none)

/-- The broker of a state in the middle of a call is the old one, or the call is accepted
    and the filters of both the old index and the new are there. -/
def MidCall (subscriptions : List SubscriptionConfig) (c : MqttConnector) (call : ApplyCall)
    (t : MqttConnector) : Prop :=
  t.broker = c.broker ∨ Accepted c call ∧
    ∀ filter, (c.broker.lookup filter).isSome →
      (wanted subscriptions (c.plan call.req).next filter).isSome → (t.broker.lookup filter).isSome

theorem brokerSubscribe_triple (hvalid : validatePoints call.req.desired.values = none) :
    Triple (MidCall subscriptions c call) (· = c)
      (when (!(c.plan call.req).toSubscribe.isEmpty)
        (brokerSubscribe (c.plan call.req).toSubscribe call.subscribeErr))
      (fun _ c' => Accepted c call ∧ c' = { c with broker := c.subscribedBroker call.req })
      fun _ c' => ¬ Accepted c call ∧ c' = c := by
  apply Triple.when
  · intro hsome
    apply Triple.act
    intro c' hc'
    rw [hc']
    cases herr : call.subscribeErr with
    | some err =>
      refine ⟨Or.inl rfl, fun hacc => ?_, rfl⟩
      rcases hacc.2 with hnil | hok
      · rw [hnil] at hsome
        cases hsome
      · rw [herr] at hok
        cases hok
    | none =>
      have hacc : Accepted c call := ⟨hvalid, Or.inr herr⟩
      exact ⟨Or.inr ⟨hacc, fun _ hold _ => isSome_subscribeAll _ hold⟩, hacc, rfl⟩
  · intro hempty c' hc'
    have hnil : (c.plan call.req).toSubscribe = [] := by simpa using hempty
    refine ⟨⟨hvalid, Or.inl hnil⟩, ?_⟩
    rw [hc', subscribedBroker, hnil]
    rfl

theorem Settled.midCall (hc : Settled subscriptions c) (hacc : Accepted c call)
    (topics : TopicIndex) :
    MidCall subscriptions c call
      { c with topics := topics, broker := c.appliedBroker call.req } := by
  refine Or.inr ⟨hacc, fun filter _ hnew => ?_⟩
  show ((c.appliedBroker call.req).lookup filter).isSome
  rw [hc.lookup_applied]
  exact hnew

theorem brokerUnsubscribe_triple {F : ApplyReply → MqttConnector → Prop}
    (hc : Settled subscriptions c) (hacc : Accepted c call)
    (hunsub : call.unsubscribeErr = none) :
    Triple (MidCall subscriptions c call) (· = { c with broker := c.subscribedBroker call.req })
      (brokerUnsubscribe (c.plan call.req).toUnsubscribe call.unsubscribeErr)
      (fun _ c' => c' = { c with broker := c.appliedBroker call.req }) F := by
  rw [brokerUnsubscribe]
  split
  · next hempty =>
    apply Triple.pure
    intro c' hc'
    rw [hc', appliedBroker, List.isEmpty_iff.mp hempty]
    rfl
  · apply Triple.act
    intro c' hc'
    rw [hc', hunsub]
    exact ⟨hc.midCall hacc c.topics, rfl⟩

theorem applySubscriptions_triple (hc : Settled subscriptions c)
    (hunsub : call.unsubscribeErr = none) :
    Triple (MidCall subscriptions c call) (· = c) (applySubscriptions call)
      (fun _ c' => Accepted c call ∧
        c' = { c with topics := (c.plan call.req).next, broker := c.appliedBroker call.req })
      fun _ c' => ¬ Accepted c call ∧ c' = c := by
  apply Triple.get_bind_eq
  cases hvalid : validatePoints call.req.desired.values with
  | some err =>
    apply Triple.fail
    intro c' hc'
    refine ⟨fun hacc => ?_, hc'⟩
    rw [hacc.1] at hvalid
    cases hvalid
  | none =>
    apply Triple.bind (brokerSubscribe_triple hvalid)
    intro _
    apply Triple.of_fact
    intro hacc
    apply Triple.bind (brokerUnsubscribe_triple hc hacc hunsub)
    intro errs
    apply Triple.bind (Q := fun _ c' => c' =
      { c with topics := (c.plan call.req).next, broker := c.appliedBroker call.req })
    · apply Triple.modify
      intro c' hc'
      rw [hc']
      exact ⟨hc.midCall hacc _, rfl⟩
    · exact fun _ => Triple.pure fun c' hc' => ⟨hacc, hc'⟩

theorem Settled.applySubscriptions (hc : Settled subscriptions c)
    (hunsub : call.unsubscribeErr = none) :
    Settled subscriptions (applySubscriptions call c).state := by
  have hcall := applySubscriptions_triple hc hunsub
  cases hres : (MqttConnector.applySubscriptions call c).result with
  | ok reply =>
    have hstate := (hcall.of_ok rfl hres).2
    rw [hstate]
    exact ⟨hc.config, (hc.planOk call.req).next, fun filter => by
      rw [hc.lookup_applied, hc.config]⟩
  | error reply =>
    rw [(hcall.of_error rfl hres).2]
    exact hc

theorem Settled.applyAll (hc : Settled subscriptions c) {calls : List ApplyCall}
    (hunsub : ∀ call ∈ calls, call.unsubscribeErr = none) :
    Settled subscriptions (c.applyAll calls) := by
  induction calls generalizing c with
  | nil => exact hc
  | cons call calls ih =>
    have hfirst := hc.applySubscriptions (hunsub call (List.mem_cons_self ..))
    exact ih hfirst fun call' hmem => hunsub call' (List.mem_cons_of_mem _ hmem)

end Call

/-! ## The broker and the index -/

/-- After any calls whose `Unsubscribe`s succeed, the broker holds exactly the static
    filters and the explicit subscriptions of the index.  A further call that returns an
    error leaves both as they were, and in all states a call goes through the broker has
    every filter that it has before the call and after it. -/
theorem broker_in_step (subscriptions : List SubscriptionConfig) (points : List PointConfig)
    (calls : List ApplyCall) (hunsub : ∀ call ∈ calls, call.unsubscribeErr = none)
    (call : ApplyCall) (hunsub' : call.unsubscribeErr = none) :
    let c := (connect subscriptions points).applyAll calls
    let outcome := applySubscriptions call c
    (∀ filter, c.broker.lookup filter =
        (c.topics.explicitSubs.lookup filter).or ((staticOptions subscriptions).lookup filter)) ∧
      (∀ reply, outcome.result = .error reply →
        outcome.state.topics = c.topics ∧ outcome.state.broker = c.broker) ∧
      ∀ t ∈ outcome.trace, ∀ filter, (c.broker.lookup filter).isSome →
        (outcome.state.broker.lookup filter).isSome → (t.broker.lookup filter).isSome := by
  intro c outcome
  have hc : Settled subscriptions c := (settled_connect subscriptions points).applyAll hunsub
  have hcall := applySubscriptions_triple hc hunsub'
  refine ⟨fun filter => ?_, fun reply hres => ?_, fun t ht filter hold hnew => ?_⟩
  · rw [hc.inStep, wanted, hc.config]
  · have hstate := (hcall.of_error rfl hres).2
    rw [hstate]
    exact ⟨rfl, rfl⟩
  · rcases hcall.trace rfl ht with hsame | ⟨hacc, hmid⟩
    · rw [hsame]
      exact hold
    · apply hmid filter hold
      cases hres : outcome.result with
      | ok reply =>
        have hstate := (hcall.of_ok rfl hres).2
        rw [hstate, hc.lookup_applied] at hnew
        exact hnew
      | error reply => exact absurd hacc (hcall.of_error rfl hres).1

def coveredLater : List ApplyCall :=
  [{ req := oneTopic }, { req := ⟨"r2", [{ topic := "a/b" }, { topic := "a/#" }]⟩ }]

theorem broker_in_step_covered :
    let c := (connect [⟨"s/#", 1⟩] []).applyAll coveredLater
    c.topics.explicitSubs.lookup "a/b" = none ∧ c.broker.lookup "a/b" = none ∧
      c.broker.lookup "a/#" = some ⟨"a/#", 1, false⟩ ∧
      c.broker.lookup "s/#" = some ⟨"s/#", 1, false⟩ := by
  have hstep := (broker_in_step [⟨"s/#", 1⟩] [] coveredLater (by decide) { req := oneTopic } rfl).1
  exact ⟨rfl, (hstep "a/b").trans rfl, (hstep "a/#").trans rfl, (hstep "s/#").trans rfl⟩

/-! ## The call as steps -/

section Steps

variable {c : MqttConnector} {call : ApplyCall}

theorem steps_begin (hidle : c.apply = none)
    (hvalid : validatePoints call.req.desired.values = none) :
    Steps c (.begin call.req) { c with apply := some (c.plan call.req) } := by
  simp only [Steps, step, hidle, hvalid]

theorem steps_subscribe (hup : c.connected = true) :
    Steps { c with apply := some (c.plan call.req) } (.subscribe "")
      { c with
        broker := c.subscribedBroker call.req
        apply := some { c.plan call.req with stage := .subscribed } } := by
  have hstage : (c.plan call.req).stage = .planned := rfl
  simp only [Steps, step, hstage, hup]
  split_ifs with hbad hempty
  · exact absurd rfl hbad
  · simp only [subscribedBroker, List.isEmpty_iff.mp hempty]
    rfl
  · rfl

def unsubscribedApply (c : MqttConnector) (req : ApplyRequest) (errs : List String) : Apply :=
  { c.plan req with stage := .unsubscribed, reply := { (c.plan req).reply with errors := errs } }

theorem brokerUnsubscribe_steps {F : ApplyReply → MqttConnector → Prop}
    (hup : c.connected = true) :
    Triple (fun _ => True) (· = { c with broker := c.subscribedBroker call.req })
      (brokerUnsubscribe (c.plan call.req).toUnsubscribe call.unsubscribeErr)
      (fun errs c' =>
        Steps
          { c with
            broker := c.subscribedBroker call.req
            apply := some { c.plan call.req with stage := .subscribed } }
          (.unsubscribe call.unsubscribeErr)
          { c' with apply := some (c.unsubscribedApply call.req errs) } ∧
        c'.apply = c.apply ∧ c'.replies = c.replies) F := by
  rw [brokerUnsubscribe]
  split
  · next hempty =>
    apply Triple.pure
    intro c' hc'
    rw [hc']
    refine ⟨?_, rfl, rfl⟩
    simp only [Steps, step, hempty]
    rfl
  · next hempty =>
    apply Triple.act
    intro c' hc'
    rw [hc']
    refine ⟨trivial, ?_⟩
    cases call.unsubscribeErr with
    | none =>
      refine ⟨?_, rfl, rfl⟩
      simp only [Steps, step, hempty, hup]
      rfl
    | some err =>
      refine ⟨?_, rfl, rfl⟩
      simp only [Steps, step, hempty]
      rfl

theorem steps_store {c₁ : MqttConnector} {errs : List String} (hidle : c₁.apply = none) :
    Steps { c₁ with apply := some (c.unsubscribedApply call.req errs) } .store
      { c₁ with
        topics := (c.plan call.req).next
        replies := c₁.replies ++ [{ (c.plan call.req).reply with errors := errs }] } := by
  simp only [Steps, step, unsubscribedApply, replied, hidle, if_true]

/-- A call that returns a reply of a finished apply is a run of the apply's steps with
    nothing in between. -/
theorem run_of_applySubscriptions {reply : ApplyReply} (hidle : c.apply = none)
    (hup : c.connected = true) (hres : (applySubscriptions call c).result = .ok reply) :
    Run Steps c [.begin call.req, .subscribe "", .unsubscribe call.unsubscribeErr, .store]
      { (applySubscriptions call c).state with replies := c.replies ++ [reply] } := by
  have hcall : Triple (fun _ => True) (· = c) (applySubscriptions call)
      (fun reply c' => Run Steps c
        [.begin call.req, .subscribe "", .unsubscribe call.unsubscribeErr, .store]
        { c' with replies := c.replies ++ [reply] }) fun _ _ => True := by
    apply Triple.get_bind_eq
    cases hvalid : validatePoints call.req.desired.values with
    | some err => exact Triple.fail fun _ _ => trivial
    | none =>
      have hbegin := steps_begin hidle hvalid
      have hsub : Steps { c with apply := some (c.plan call.req) } (.subscribe "") _ :=
        steps_subscribe hup
      apply Triple.bind (Q := fun _ c' => c' = { c with broker := c.subscribedBroker call.req })
      · have hbroker : Triple (MidCall c.subscriptions c call) _ _ _ _ :=
          brokerSubscribe_triple hvalid
        exact (hbroker.inv fun _ _ => trivial).post (fun _ _ hh => hh.2) fun _ _ _ => trivial
      · intro _
        apply Triple.bind (brokerUnsubscribe_steps hup)
        intro errs
        apply Triple.bind (Q := fun _ c' => Run Steps c
          [.begin call.req, .subscribe "", .unsubscribe call.unsubscribeErr, .store]
          { c' with
            replies := c.replies ++ [{ (c.plan call.req).reply with errors := errs }] })
        · apply Triple.modify
          rintro c₁ ⟨hunsub, hidle₁, hreplies⟩
          refine ⟨trivial, ?_⟩
          have hstore : Steps { c₁ with apply := some (c.unsubscribedApply call.req errs) }
              .store _ := steps_store (hidle₁.trans hidle)
          rw [← hreplies]
          exact .cons hbegin (.cons hsub (.cons hunsub (.single hstore)))
        · exact fun _ => Triple.pure fun _ hrun => hrun
  exact hcall.of_ok rfl hres

end Steps

end MqttConnector

end NexusGateway.Connector.Mqtt
