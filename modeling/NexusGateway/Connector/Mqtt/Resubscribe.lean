/-
Whether the broker holds what the index says.  An apply subscribes before it
swaps the index.  A connection that is lost and comes back in between
subscribes the old index, and nothing subscribes the new topics again: the
next apply trusts the index and plans differences only.

The condition is on reconnects: while an apply stands between its `Subscribe`
and its store, a reconnect finds nothing in its plan that the old index does
not subscribe with the same options.  Runs that meet it recover; a reconnect
that breaks it leads to a broker without one of the topics.
-/

import NexusGateway.Connector.Mqtt.Apply

namespace NexusGateway.Connector.Mqtt

open Lib

/-! ## Plans -/

theorem mem_subscribe {current next : TopicIndex} {changed : List String} {o : SubscribeOptions} :
    o ∈ (planSubscriptions current next changed).1 ↔
      ∃ topic, next.explicitSubs.lookup topic = some o ∧
        (current.explicitSubs.lookup topic = none ∨ topic ∈ changed) := by
  simp only [planSubscriptions, List.mem_insertionSort, Dict.mem_map_filter_entries,
    Bool.or_eq_true, Option.isNone_iff_eq_none, List.contains_eq_mem, decide_eq_true_eq]
  constructor
  · rintro ⟨topic, o, hnext, hold, rfl⟩
    exact ⟨topic, hnext, hold⟩
  · rintro ⟨topic, hnext, hold⟩
    exact ⟨topic, o, hnext, hold, rfl⟩

theorem mem_unsubscribe {current next : TopicIndex} {changed : List String} {topic : String} :
    topic ∈ (planSubscriptions current next changed).2 ↔
      (∃ o, current.explicitSubs.lookup topic = some o) ∧
        next.explicitSubs.lookup topic = none := by
  simp only [planSubscriptions, List.mem_insertionSort, List.mem_filter,
    Option.isNone_iff_eq_none, ← Option.isSome_iff_exists, AList.lookup_isSome]
  rfl

structure PlanOk (subscriptions : List SubscriptionConfig) (current : TopicIndex) (ap : Apply) :
    Prop where
  next : Consistent subscriptions ap.next
  /-- what is not subscribed anew is subscribed already, with the same options -/
  kept : ∀ topic o, ap.next.explicitSubs.lookup topic = some o →
    o ∈ ap.toSubscribe ∨ current.explicitSubs.lookup topic = some o
  added : ∀ o ∈ ap.toSubscribe, ap.next.explicitSubs.lookup o.topic = some o
  removed : ∀ topic ∈ ap.toUnsubscribe, ap.next.explicitSubs.lookup topic = none ∧
    (staticOptions subscriptions).lookup topic = none

theorem eq_of_not_changed {current desired : Dict String PointConfig} {topic : String}
    {p q : PointConfig} (hp : current.lookup topic = some p) (hq : desired.lookup topic = some q)
    (h : topic ∉ changedTopics current desired) : p = q := by
  by_contra hne
  have hmem := AList.mem_lookup_iff.mp hq
  refine h (List.mem_map.mpr ⟨⟨topic, q⟩, List.mem_filter.mpr ⟨hmem, ?_⟩, rfl⟩)
  rw [hp]
  exact decide_eq_true hne

theorem planOk (c : MqttConnector) (hc : Consistent c.subscriptions c.topics)
    (req : ApplyRequest) : PlanOk c.subscriptions c.topics (c.plan req) := by
  have hnext : Consistent c.subscriptions (c.plan req).next :=
    consistent_newTopicIndex req.desired.values c.subscriptions req.revision
  refine ⟨hnext, ?_, ?_, ?_⟩
  · intro topic o ho
    by_cases hsub : c.topics.explicitSubs.lookup topic = none ∨
        topic ∈ changedTopics c.topics.points req.desired
    · exact Or.inl (mem_subscribe.mpr ⟨topic, ho, hsub⟩)
    · rw [not_or] at hsub
      obtain ⟨o', ho'⟩ := Option.ne_none_iff_exists'.mp hsub.1
      obtain ⟨p', hp', -, rfl⟩ := hc.ofPoint topic o' ho'
      obtain ⟨p, hp, -, rfl⟩ := hnext.ofPoint topic o ho
      have heq := eq_of_not_changed hp' (lookup_points.symm.trans hp) hsub.2
      rw [← heq]
      exact Or.inr ho'
  · intro o ho
    obtain ⟨topic, hlookup, -⟩ := mem_subscribe.mp ho
    rw [hnext.keyedBy topic o hlookup]
    exact hlookup
  · intro topic htopic
    have hplan : topic ∈ (planSubscriptions c.topics (c.plan req).next
        (changedTopics c.topics.points req.desired)).2 := htopic
    obtain ⟨⟨o, ho⟩, hnone⟩ := mem_unsubscribe.mp hplan
    exact ⟨hnone, hc.apart topic o ho⟩

/-! ## What the broker holds -/

def Holds (broker subs : Dict String SubscribeOptions) : Prop :=
  ∀ topic o, subs.lookup topic = some o → broker.lookup topic = some o

/-- The static filters and the explicit subscriptions of the index, with their
    current options. -/
structure Recovered (c : MqttConnector) : Prop where
  static : Holds c.broker (staticOptions c.subscriptions)
  explicit : Holds c.broker c.topics.explicitSubs

variable {ap : Apply} {broker : Dict String SubscribeOptions}

section Broker

variable {subscriptions : List SubscriptionConfig} {idx : TopicIndex}

theorem lookup_reconnected (h : Consistent subscriptions idx) (topic : String) :
    (subscribeAll ∅ (brokerSubscriptions subscriptions idx)).lookup topic =
      (idx.explicitSubs.lookup topic).or ((staticOptions subscriptions).lookup topic) := by
  have hsplit : subscribeAll ∅ (brokerSubscriptions subscriptions idx) =
      subscribeAll (staticOptions subscriptions) idx.explicitSubs.values := by
    simp only [subscribeAll, staticOptions, brokerSubscriptions, Dict.insertAll,
      List.foldl_append]
  rw [hsplit, subscribeAll]
  cases ho : idx.explicitSubs.lookup topic with
  | some o =>
    have hkey := h.keyedBy topic o ho
    have hmem : o ∈ idx.explicitSubs.values := by
      rw [h.keyedBy.mem_values_iff, hkey]
      exact ho
    have hfound : (Dict.insertAll SubscribeOptions.topic id idx.explicitSubs.values
        (staticOptions subscriptions)).lookup o.topic = some (id o) :=
      Dict.lookup_insertAll_of_mem h.keyedBy.nodup_map_values hmem
    rw [hkey] at hfound
    rw [hfound]
    rfl
  | none =>
    have hnot : topic ∉ idx.explicitSubs.values.map SubscribeOptions.topic := by
      rintro hmem
      obtain ⟨o, hmem', rfl⟩ := List.mem_map.mp hmem
      rw [h.keyedBy.mem_values_iff.mp hmem'] at ho
      cases ho
    rw [Dict.lookup_insertAll_of_not_mem hnot]
    rfl

theorem recovered_reconnected (h : Consistent subscriptions idx) :
    Holds (subscribeAll ∅ (brokerSubscriptions subscriptions idx)) (staticOptions subscriptions) ∧
      Holds (subscribeAll ∅ (brokerSubscriptions subscriptions idx)) idx.explicitSubs := by
  refine ⟨fun topic o ho => ?_, fun topic o ho => ?_⟩
  · rw [lookup_reconnected h]
    cases he : idx.explicitSubs.lookup topic with
    | some o' => cases ho.symm.trans (h.apart topic o' he)
    | none => exact ho
  · rw [lookup_reconnected h, ho, Option.some_or]

theorem lookup_subscribeAll (broker : Dict String SubscribeOptions) (opts : List SubscribeOptions)
    (topic : String) :
    ((∀ o ∈ opts, o.topic ≠ topic) ∧
      (subscribeAll broker opts).lookup topic = broker.lookup topic) ∨
    ∃ o ∈ opts, o.topic = topic ∧ (subscribeAll broker opts).lookup topic = some o := by
  rw [subscribeAll, Dict.lookup_insertAll]
  cases hf : opts.reverse.find? fun x => x.topic = topic with
  | none =>
    refine Or.inl ⟨?_, rfl⟩
    intro o ho htopic
    exact List.find?_eq_none.mp hf o (List.mem_reverse.mpr ho) (decide_eq_true htopic)
  | some o =>
    have htopic := List.find?_some hf
    exact Or.inr ⟨o, List.mem_reverse.mp (List.mem_of_find?_eq_some hf),
      of_decide_eq_true htopic, rfl⟩

theorem PlanOk.holds_subscribed (h : PlanOk subscriptions idx ap)
    (hstatic : Holds broker (staticOptions subscriptions))
    (hexplicit : Holds broker idx.explicitSubs) :
    Holds (subscribeAll broker ap.toSubscribe) (staticOptions subscriptions) ∧
      Holds (subscribeAll broker ap.toSubscribe) ap.next.explicitSubs := by
  have happart := h.next.apart
  have hkeyed : ∀ topic o, ap.next.explicitSubs.lookup topic = some o → o.topic = topic :=
    h.next.keyedBy
  constructor
  · intro topic o ho
    have hlookup := lookup_subscribeAll broker ap.toSubscribe topic
    grind [Holds, PlanOk]
  · intro topic o ho
    have hlookup := lookup_subscribeAll broker ap.toSubscribe topic
    grind [Holds, PlanOk]

theorem PlanOk.holds_unsubscribed (h : PlanOk subscriptions idx ap)
    (hstatic : Holds broker (staticOptions subscriptions))
    (hnext : Holds broker ap.next.explicitSubs) :
    Holds (ap.toUnsubscribe.foldl (fun b topic => b.erase topic) broker)
        (staticOptions subscriptions) ∧
      Holds (ap.toUnsubscribe.foldl (fun b topic => b.erase topic) broker)
        ap.next.explicitSubs := by
  constructor <;> grind [Holds, Dict.lookup_foldl_erase, PlanOk]

end Broker

/-! ## Runs -/

/-- The apply in progress has subscribed and not stored yet, and its plan has
    subscriptions that the index does not have. -/
def Apply.Pending (idx : TopicIndex) (ap : Apply) : Prop :=
  ap.stage ≠ .planned ∧ ∃ o ∈ ap.toSubscribe, idx.explicitSubs.lookup o.topic ≠ some o

instance (idx : TopicIndex) (ap : Apply) : Decidable (ap.Pending idx) :=
  inferInstanceAs (Decidable (_ ∧ ∃ o ∈ ap.toSubscribe, _))

def Timely (c : MqttConnector) : Action → Prop
  | .reconnect => ∀ ap ∈ c.apply.toList, ¬ ap.Pending c.topics
  | _ => True

instance (c : MqttConnector) : ∀ a, Decidable (Timely c a)
  | .reconnect => inferInstanceAs (Decidable (∀ ap ∈ c.apply.toList, ¬ ap.Pending c.topics))
  | .begin _ | .subscribe _ | .unsubscribe _ | .store | .disconnect => isTrue trivial

structure Inv (c : MqttConnector) : Prop where
  topics : Consistent c.subscriptions c.topics
  plan : ∀ ap, c.apply = some ap → PlanOk c.subscriptions c.topics ap
  static : c.connected = true → Holds c.broker (staticOptions c.subscriptions)
  /-- until an apply has subscribed, the broker holds the index -/
  explicit : c.connected = true → (∀ ap, c.apply = some ap → ap.stage = .planned) →
    Holds c.broker c.topics.explicitSubs
  /-- from then on it holds the new index -/
  next : c.connected = true → ∀ ap, c.apply = some ap → ap.stage ≠ .planned →
    Holds c.broker ap.next.explicitSubs
  down : c.connected = false → c.broker = ∅

theorem inv_init (subscriptions : List SubscriptionConfig) (points : List PointConfig) :
    Inv (MqttConnector.init subscriptions points) where
  topics := consistent_newTopicIndex points subscriptions ""
  plan := nofun
  static := nofun
  explicit := nofun
  next := nofun
  down _ := rfl

section Steps

variable {c c' : MqttConnector}

theorem Inv.replied (hI : Inv c) (hplanned : ∀ ap, c.apply = some ap → ap.stage = .planned)
    (reply : ApplyReply) : Inv (c.replied reply) where
  topics := hI.topics
  plan := nofun
  static := hI.static
  explicit hup _ := hI.explicit hup hplanned
  next _ := nofun
  down := hI.down

theorem Inv.goesOn (hI : Inv c) {ap' : Apply} (hap : c.apply = some ap)
    (hnext : ap'.next = ap.next) (hsub : ap'.toSubscribe = ap.toSubscribe)
    (hunsub : ap'.toUnsubscribe = ap.toUnsubscribe) (hstage : ap'.stage ≠ .planned)
    (hstatic : c.connected = true → Holds broker (staticOptions c.subscriptions))
    (hholds : c.connected = true → Holds broker ap.next.explicitSubs)
    (hdown : c.connected = false → broker = ∅) :
    Inv { c with broker := broker, apply := some ap' } := by
  have hplan := hI.plan ap hap
  refine ⟨hI.topics, ?_, hstatic, ?_, ?_, hdown⟩
  · rintro _ ⟨⟩
    constructor <;> grind [PlanOk]
  · grind
  · grind

theorem Inv.begin (hI : Inv c) (hidle : c.apply = none) (req : ApplyRequest) :
    Inv { c with apply := some (c.plan req) } := by
  have hplan := planOk c hI.topics req
  have hstage : (c.plan req).stage = .planned := rfl
  constructor <;> grind [Inv]

theorem Inv.subscribed (hI : Inv c) (hap : c.apply = some ap) (hstage : ap.stage = .planned)
    (hup : ap.toSubscribe ≠ [] → c.connected = true) :
    Inv { c with
      broker := subscribeAll c.broker ap.toSubscribe
      apply := some { ap with stage := .subscribed } } := by
  have hplanned : ∀ ap', c.apply = some ap' → ap'.stage = .planned := by grind
  have hholds := fun h =>
    (hI.plan ap hap).holds_subscribed (hI.static h) (hI.explicit h hplanned)
  refine hI.goesOn hap rfl rfl rfl nofun (fun h => (hholds h).1) (fun h => (hholds h).2)
    fun hdown => ?_
  have hnil : ap.toSubscribe = [] := by
    by_contra hne
    cases hdown.symm.trans (hup hne)
  rw [hnil]
  exact hI.down hdown

theorem Inv.reconnect (hI : Inv c) (hdown : c.connected = false) (hok : Timely c .reconnect) :
    Inv { c with
      connected := true
      broker := subscribeAll c.broker (brokerSubscriptions c.subscriptions c.topics) } := by
  rw [hI.down hdown]
  obtain ⟨hstatic, hexplicit⟩ := recovered_reconnected hI.topics
  refine ⟨hI.topics, hI.plan, fun _ => hstatic, fun _ _ => hexplicit, ?_, nofun⟩
  intro _ ap hap hstage topic o ho
  have hplan := hI.plan ap hap
  have hpending := hok ap (by rw [hap]; exact List.mem_singleton_self ap)
  rcases hplan.kept topic o ho with hnew | hold
  · have hsame : c.topics.explicitSubs.lookup o.topic = some o := by
      by_contra hne
      exact hpending ⟨hstage, o, hnew, hne⟩
    rw [hplan.next.keyedBy topic o ho] at hsame
    exact hexplicit topic o hsame
  · exact hexplicit topic o hold

theorem Inv.step (hI : Inv c) {a : Action} (hstep : Meeting MqttConnector.Steps Timely c a c') :
    Inv c' := by
  obtain ⟨hstep, hok⟩ := hstep
  unfold MqttConnector.Steps at hstep
  revert hstep
  fun_cases MqttConnector.step with
  | case2 req hidle =>
    -- the request is refused
    rintro ⟨⟩
    exact hI.replied (by simp [hidle]) _
  | case3 req hidle =>
    rintro ⟨⟩
    exact hI.begin hidle req
  | case5 err ap hap hstage hempty =>
    -- nothing to subscribe
    rintro ⟨⟩
    have hnil := List.isEmpty_iff.mp hempty
    have hI' := hI.subscribed hap (not_not.mp hstage) (fun h => absurd hnil h)
    rwa [show subscribeAll c.broker ap.toSubscribe = c.broker by rw [hnil]; rfl] at hI'
  | case6 err ap hap hstage hempty hup =>
    rintro ⟨⟩
    exact hI.subscribed hap (not_not.mp hstage) fun _ => hup
  | case7 err ap hap hstage =>
    -- `Subscribe` fails
    rintro ⟨⟩
    exact hI.replied (by simpa [hap] using hstage) _
  | case10 err ap hap hstage | case11 ap hap hstage =>
    -- nothing to unsubscribe, or `Unsubscribe` fails
    rintro ⟨⟩
    exact hI.goesOn hap rfl rfl rfl nofun hI.static
      (fun hup => hI.next hup ap hap (by simp [not_not.mp hstage])) hI.down
  | case12 ap hap hstage hempty hup =>
    -- the broker unsubscribes
    rintro ⟨⟩
    have hkept := (hI.plan ap hap).holds_unsubscribed (hI.static hup)
      (hI.next hup ap hap (by simp [not_not.mp hstage]))
    exact hI.goesOn hap rfl rfl rfl nofun (fun _ => hkept.1) (fun _ => hkept.2) (by simp [hup])
  | case15 ap hap hstage =>
    -- the new index is stored
    rintro ⟨⟩
    exact ⟨(hI.plan ap hap).next, nofun, hI.static,
      fun hup _ => hI.next hup ap hap (by simp [hstage]), fun _ => nofun, hI.down⟩
  | case18 =>
    rintro ⟨⟩
    exact ⟨hI.topics, hI.plan, nofun, nofun, nofun, fun _ => rfl⟩
  | case20 hdown =>
    rintro ⟨⟩
    exact hI.reconnect (Bool.eq_false_iff.mpr hdown) hok
  | case1 | case4 | case8 | case9 | case13 | case14 | case16 | case17 | case19 => rintro ⟨⟩

theorem exists_stored (hap : c.apply = some ap) (hstage : ap.stage ≠ .planned) :
    ∃ as d, Run MqttConnector.Steps c as d ∧ d.apply = none ∧ d.topics = ap.next ∧
      d.connected = c.connected ∧ d.broker = c.broker := by
  have hstore : ∀ {c : MqttConnector} {ap : Apply}, c.apply = some ap →
      ap.stage = .unsubscribed →
      MqttConnector.Steps c .store { c.replied ap.reply with topics := ap.next } := by
    intro c ap hap hstage
    simp only [MqttConnector.Steps, MqttConnector.step, hap, hstage, if_true]
  cases hs : ap.stage with
  | planned => exact absurd hs hstage
  | unsubscribed =>
    exact ⟨[.store], _, Run.single (hstore hap hs), rfl, rfl, rfl, rfl⟩
  | subscribed =>
    -- its `Unsubscribe` fails, or has nothing to do
    obtain ⟨ap', hnext, hstage', hstep⟩ : ∃ ap', ap'.next = ap.next ∧
        ap'.stage = .unsubscribed ∧
        MqttConnector.Steps c (.unsubscribe (some "")) { c with apply := some ap' } := by
      by_cases hempty : ap.toUnsubscribe.isEmpty = true
      · exact ⟨{ ap with stage := .unsubscribed }, rfl, rfl, by
          simp [MqttConnector.Steps, MqttConnector.step, hap, hs, hempty]⟩
      · let failed : Apply :=
          { ap with
            stage := .unsubscribed
            reply := { ap.reply with errors := ap.reply.errors ++ ["unsubscribe: " ++ ""] } }
        refine ⟨failed, rfl, rfl, ?_⟩
        simp [MqttConnector.Steps, MqttConnector.step, hap, hs, hempty, failed]
    have hlast := hstore (c := { c with apply := some ap' }) rfl hstage'
    exact ⟨_, _, (Run.single hstep).trans (Run.single hlast), rfl, hnext, rfl, rfl⟩

theorem Inv.exists_missing (hI : Inv c) (hbad : ¬ Timely c .reconnect)
    (hstep : MqttConnector.Steps c .reconnect c') :
    ∃ as d, Run MqttConnector.Steps c' as d ∧ d.apply = none ∧ d.connected = true ∧
      ¬ Recovered d := by
  simp only [Timely, not_forall, not_not] at hbad
  obtain ⟨ap, hmem, hstage, o, ho, hne⟩ := hbad
  have hap : c.apply = some ap := Option.mem_toList.mp hmem
  simp only [MqttConnector.Steps, MqttConnector.step] at hstep
  split at hstep
  · cases hstep
  · next hdown =>
    cases hstep
    obtain ⟨as, d, hrun, hidle, htopics, hup, hbroker⟩ := exists_stored (c :=
      { c with
        connected := true
        broker := subscribeAll c.broker (brokerSubscriptions c.subscriptions c.topics) })
      hap hstage
    refine ⟨as, d, hrun, hidle, hup, ?_⟩
    intro hrec
    have hplan := hI.plan ap hap
    have hnew := hplan.added o ho
    -- the reconnect subscribed the old index, and `o` is no static filter
    have hold : d.broker.lookup o.topic = c.topics.explicitSubs.lookup o.topic := by
      rw [hbroker]
      show (subscribeAll c.broker _).lookup o.topic = _
      rw [hI.down (Bool.eq_false_iff.mpr hdown), lookup_reconnected hI.topics,
        hplan.next.apart o.topic o hnew, Option.or_none]
    have hheld := hrec.explicit o.topic o (by rw [htopics]; exact hnew)
    exact hne (hold.symm.trans hheld)

theorem inv_of_run {subscriptions : List SubscriptionConfig} {points : List PointConfig}
    {as : List Action}
    (hrun : Run (Meeting MqttConnector.Steps Timely) (MqttConnector.init subscriptions points)
      as c) : Inv c :=
  hrun.invariant (inv_init subscriptions points) fun _ _ _ hI hstep => hI.step hstep

end Steps

/-! ## Recovery -/

/-- In every run in which no reconnect comes while an apply is pending: whenever no
    apply is in progress and the connection is up, the broker holds every static
    filter and every explicit subscription of the index, with their options.  And
    from such a run, a reconnect while an apply is pending can lead to a state
    where it does not. -/
theorem subscriptions_recover {subscriptions : List SubscriptionConfig}
    {points : List PointConfig} {as : List Action} {c : MqttConnector}
    (hrun : Run (Meeting MqttConnector.Steps Timely) (MqttConnector.init subscriptions points)
      as c) :
    (c.apply = none → c.connected = true → Recovered c) ∧
    ∀ c', MqttConnector.Steps c .reconnect c' → ¬ Timely c .reconnect →
      ∃ bs d, Run MqttConnector.Steps c' bs d ∧ d.apply = none ∧ d.connected = true ∧
        ¬ Recovered d := by
  have hI := inv_of_run hrun
  refine ⟨fun hidle hup => ⟨hI.static hup, hI.explicit hup fun ap hap => ?_⟩,
    fun c' hstep hbad => hI.exists_missing hbad hstep⟩
  rw [hidle] at hap
  cases hap

def oneTopic : ApplyRequest := ⟨"r1", [{ topic := "a/b" }]⟩

/-- An apply, and then a lost connection that comes back. -/
theorem subscriptions_recover_after_apply :
    ∃ c, Run (Meeting MqttConnector.Steps Timely)
        (MqttConnector.init [⟨"s/#", 1⟩] [])
        [.reconnect, .begin oneTopic, .subscribe "", .unsubscribe none, .store, .disconnect,
          .reconnect] c ∧
      c.topics.explicitSubs.lookup "a/b" = some ⟨"a/b", 1, false⟩ ∧
      c.broker.lookup "a/b" = some ⟨"a/b", 1, false⟩ := by
  have hrun : Run (Meeting MqttConnector.Steps Timely) (MqttConnector.init [⟨"s/#", 1⟩] [])
      [.reconnect, .begin oneTopic, .subscribe "", .unsubscribe none, .store, .disconnect,
        .reconnect] _ := Run.meeting_of_foldlM rfl
  exact ⟨_, hrun, rfl, ((subscriptions_recover hrun).1 rfl rfl).explicit _ _ rfl⟩

/-- The connection is lost and comes back between the `Subscribe` of an apply and
    its store: the index has the topic and the broker does not. -/
theorem subscription_missing_after_reconnect :
    ∃ c, Run MqttConnector.Steps (MqttConnector.init [] [])
        [.reconnect, .begin oneTopic, .subscribe "", .disconnect, .reconnect, .unsubscribe none,
          .store] c ∧
      c.apply = none ∧ c.connected = true ∧
      c.topics.explicitSubs.lookup "a/b" = some ⟨"a/b", 1, false⟩ ∧
      c.broker.lookup "a/b" = none :=
  ⟨_, Run.of_foldlM rfl, rfl, rfl, rfl, rfl⟩

end NexusGateway.Connector.Mqtt
