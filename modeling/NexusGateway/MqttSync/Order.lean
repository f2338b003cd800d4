/-
What the order of a Point List changes.  `applyDiff` hands the entries over
in the order of a map, so the same list reaches `Derive` in any order.  The
diff compares by topic and keeps the last spec of each, and `sortSpecs`
orders by topic alone: with one spec for each topic both forget the order,
and with two different specs for a topic neither does.
-/

import NexusGateway.MqttSync.Client

namespace NexusGateway.MqttSync

open Lib PointList

def OneSpecPerTopic (specs : List SubscriptionSpec) : Prop :=
  ∀ a ∈ specs, ∀ b ∈ specs, a.topic = b.topic → a = b

structure SameChanges (d d' : Diff) : Prop where
  added : d.added = d'.added
  changed : d.changed = d'.changed
  removed : d.removed = d'.removed

/-! ## Specs by topic -/

section ByTopic

variable {specs specs' : List SubscriptionSpec}

theorem byTopic_keyedBy (specs : List SubscriptionSpec) :
    Dict.KeyedBy SubscriptionSpec.topic (byTopic specs) :=
  Dict.keyedBy_empty.insertAll specs

theorem byTopic_perm (hperm : specs.Perm specs') (hone : OneSpecPerTopic specs) (topic : String) :
    (byTopic specs).lookup topic = (byTopic specs').lookup topic :=
  Dict.lookup_insertAll_perm hperm hone ∅ topic

theorem lookup_byTopic_concat (specs : List SubscriptionSpec) (spec : SubscriptionSpec) :
    (byTopic (specs ++ [spec])).lookup spec.topic = some spec := by
  rw [byTopic, Dict.lookup_insertAll, Dict.find?_reverse_concat, if_pos (decide_eq_true rfl)]
  rfl

theorem mem_select {d : Dict String SubscriptionSpec} {cond : String → SubscriptionSpec → Bool}
    {spec : SubscriptionSpec} :
    spec ∈ select d cond ↔ ∃ topic, d.lookup topic = some spec ∧ cond topic spec = true := by
  rw [select, Dict.mem_map_filter_entries]
  constructor
  · rintro ⟨topic, spec, hlookup, hcond, rfl⟩
    exact ⟨topic, hlookup, hcond⟩
  · rintro ⟨topic, hlookup, hcond⟩
    exact ⟨topic, spec, hlookup, hcond, rfl⟩

theorem select_perm {d d' : Dict String SubscriptionSpec}
    (h : ∀ topic, d.lookup topic = d'.lookup topic) (cond : String → SubscriptionSpec → Bool) :
    (select d cond).Perm (select d' cond) := by
  have hentries : d.entries.Perm d'.entries := by
    apply List.lookup_ext d.nodupKeys d'.nodupKeys
    intro topic spec
    rw [Option.mem_def, Option.mem_def]
    exact iff_of_eq (congrArg (· = some spec) (h topic))
  exact (hentries.filter _).map _

theorem oneSpecPerTopic_select {d : Dict String SubscriptionSpec}
    (hd : Dict.KeyedBy SubscriptionSpec.topic d) (cond : String → SubscriptionSpec → Bool) :
    OneSpecPerTopic (select d cond) := by
  intro a ha b hb htopic
  obtain ⟨ta, hta, -⟩ := mem_select.mp ha
  obtain ⟨tb, htb, -⟩ := mem_select.mp hb
  have hkeys : ta = tb := (hd ta a hta).symm.trans (htopic.trans (hd tb b htb))
  rw [hkeys, htb] at hta
  exact (Option.some.inj hta).symm

end ByTopic

/-! ## One spec for each topic -/

section Forgets

variable {Msg : Type} (rt : Runtime Msg) {specs specs' : List SubscriptionSpec}

/-- `sort.Slice` is not stable, but where only equal specs tie that is not seen. -/
theorem sortSpecs_perm_eq (hperm : specs.Perm specs') (hone : OneSpecPerTopic specs) :
    rt.sortSpecs specs = rt.sortSpecs specs' := by
  have hsorted : (rt.sortSpecs specs).Perm (rt.sortSpecs specs') :=
    (rt.sortSpecs_perm specs).trans (hperm.trans (rt.sortSpecs_perm specs').symm)
  apply List.Perm.eq_of_pairwise _ (rt.sortSpecs_sorted specs) (rt.sortSpecs_sorted specs') hsorted
  intro a b ha hb hab hba
  have hb' : b ∈ specs := hperm.mem_iff.mpr ((rt.sortSpecs_perm specs').mem_iff.mp hb)
  exact hone a ((rt.sortSpecs_perm specs).mem_iff.mp ha) b hb' (String.le_antisymm hab hba)

theorem revisionOf_perm (hperm : specs.Perm specs') (hone : OneSpecPerTopic specs) :
    revisionOf rt specs = revisionOf rt specs' := by
  rw [revisionOf, revisionOf, sortSpecs_perm_eq rt hperm hone]

theorem computeDiff_congr
    (h : ∀ topic, (byTopic specs).lookup topic = (byTopic specs').lookup topic)
    (current : List SubscriptionSpec) :
    SameChanges (computeDiff rt current specs) (computeDiff rt current specs') := by
  have hsort : ∀ cond, rt.sortSpecs (select (byTopic specs) cond) =
      rt.sortSpecs (select (byTopic specs') cond) := fun cond =>
    sortSpecs_perm_eq rt (select_perm h cond) (oneSpecPerTopic_select (byTopic_keyedBy specs) cond)
  refine ⟨hsort _, hsort _, ?_⟩
  simp only [computeDiff, h]

theorem mem_added_nil (specs : List SubscriptionSpec) (spec : SubscriptionSpec) :
    spec ∈ (computeDiff rt [] specs).added ↔ (byTopic specs).lookup spec.topic = some spec := by
  show spec ∈ rt.sortSpecs (select _ _) ↔ _
  rw [(rt.sortSpecs_perm _).mem_iff, mem_select]
  constructor
  · rintro ⟨topic, hlookup, -⟩
    rwa [byTopic_keyedBy specs topic spec hlookup]
  · intro hlookup
    exact ⟨spec.topic, hlookup, rfl⟩

end Forgets

/-! ## Point Lists -/

section PointLists

variable {Msg : Type} (rt : Runtime Msg) (entries : List Entry) (connectorID : String)
  (subQoS cmdQoS : UInt8)

theorem exists_perm_lookup {spec : SubscriptionSpec}
    (hspec : spec ∈ derive entries connectorID subQoS cmdQoS) :
    ∃ entries' : List Entry, entries'.Perm entries ∧
      (byTopic (derive entries' connectorID subQoS cmdQoS)).lookup spec.topic = some spec := by
  obtain ⟨e, he, hderive⟩ := List.mem_filterMap.mp hspec
  obtain ⟨before, after, rfl⟩ := List.append_of_mem he
  refine ⟨before ++ after ++ [e], ?_, ?_⟩
  · rw [List.append_assoc]
    exact List.Perm.append_left before (List.perm_append_singleton e after)
  · have hlast : derive (before ++ after ++ [e]) connectorID subQoS cmdQoS =
        derive (before ++ after) connectorID subQoS cmdQoS ++ [spec] := by
      rw [derive, List.filterMap_append]
      exact congrArg (_ ++ ·) (List.filterMap_cons_some hderive)
    rw [hlast]
    exact lookup_byTopic_concat _ spec

/-- The revision and the changes are the same for every order of the entries, against every
    set of subscriptions, exactly when the entries of one topic ask for the same spec. -/
theorem revision_diff_order_iff :
    (∀ entries' : List Entry, entries'.Perm entries → ∀ current : List SubscriptionSpec,
      revisionOf rt (derive entries' connectorID subQoS cmdQoS) =
          revisionOf rt (derive entries connectorID subQoS cmdQoS) ∧
        SameChanges (computeDiff rt current (derive entries' connectorID subQoS cmdQoS))
          (computeDiff rt current (derive entries connectorID subQoS cmdQoS))) ↔
      OneSpecPerTopic (derive entries connectorID subQoS cmdQoS) := by
  constructor
  · intro hsame
    have hlookup : ∀ spec ∈ derive entries connectorID subQoS cmdQoS,
        (byTopic (derive entries connectorID subQoS cmdQoS)).lookup spec.topic = some spec := by
      intro spec hspec
      obtain ⟨entries', hperm, hlast⟩ :=
        exists_perm_lookup entries connectorID subQoS cmdQoS hspec
      rw [← mem_added_nil rt, ← (hsame entries' hperm []).2.added]
      exact (mem_added_nil rt _ spec).mpr hlast
    intro a ha b hb htopic
    have hfirst := hlookup a ha
    rw [htopic, hlookup b hb] at hfirst
    exact (Option.some.inj hfirst).symm
  · intro hone entries' hperm current
    have hspecs : (derive entries connectorID subQoS cmdQoS).Perm
        (derive entries' connectorID subQoS cmdQoS) := hperm.symm.filterMap _
    constructor
    · exact (revisionOf_perm rt hspecs hone).symm
    · apply computeDiff_congr
      intro topic
      exact (byTopic_perm hspecs hone topic).symm

end PointLists

def roofPoint : Entry :=
  { connectorID := "m1", protocol := "mqtt", localID := "plant/a", pointID := "p1",
    deviceRef := "roof" }

def cellarPoint : Entry :=
  { connectorID := "m1", protocol := "mqtt", localID := "plant/a", pointID := "p2",
    deviceRef := "cellar" }

/-- A runtime whose hash tells apart what the devices of the specs tell apart. -/
def deviceHash : Runtime Message :=
  { messages with
    sha256 := fun
      | .specs specs => ",".intercalate (specs.map SubscriptionSpec.deviceRef)
      | _ => "" }

/-- Both orders of the two points, against no subscriptions. -/
theorem revision_diff_two_orders :
    [cellarPoint, roofPoint].Perm [roofPoint, cellarPoint] ∧
      revisionOf deviceHash (derive [roofPoint, cellarPoint] "m1" 1 1) = "sha256:roof,cellar" ∧
      revisionOf deviceHash (derive [cellarPoint, roofPoint] "m1" 1 1) = "sha256:cellar,roof" ∧
      (computeDiff deviceHash [] (derive [roofPoint, cellarPoint] "m1" 1 1)).added =
        [{ topic := "plant/a", qos := 1, deviceRef := "cellar" }] ∧
      (computeDiff deviceHash [] (derive [cellarPoint, roofPoint] "m1" 1 1)).added =
        [{ topic := "plant/a", qos := 1, deviceRef := "roof" }] :=
  ⟨List.Perm.swap _ _ _, rfl, rfl, rfl, rfl⟩

end NexusGateway.MqttSync
