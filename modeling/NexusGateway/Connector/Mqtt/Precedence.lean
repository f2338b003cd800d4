/-
Which point governs a received topic: an exact point before every wildcard
point, and among the wildcard points that match the one with the most
literal levels, ties by name.

The live apply hands `newTopicIndex` the points of a map, in no order.  Where
the topics are distinct this is not seen: the maps are filled alike, and the
wildcard points have only one sorted order.
-/

import NexusGateway.Connector.Mqtt.TopicIndex

namespace NexusGateway.Connector.Mqtt

open Lib
open Lib.TopicFilter

/-! ## The order of the wildcard points -/

theorem moreSpecific_total (p q : PointConfig) : MoreSpecific p q ∨ MoreSpecific q p := by
  rcases Nat.lt_trichotomy (literalLevels p.topic) (literalLevels q.topic) with h | h | h
  · exact Or.inr (Or.inl h)
  · rcases String.le_total p.topic q.topic with hle | hle
    · exact Or.inl (Or.inr ⟨h, hle⟩)
    · exact Or.inr (Or.inr ⟨h.symm, hle⟩)
  · exact Or.inl (Or.inl h)

theorem MoreSpecific.trans {p q r : PointConfig} (hpq : MoreSpecific p q)
    (hqr : MoreSpecific q r) : MoreSpecific p r := by
  rcases hpq with hlt | ⟨heq, hle⟩
  · rcases hqr with hlt' | ⟨heq', -⟩
    · exact Or.inl (Nat.lt_trans hlt' hlt)
    · exact Or.inl (heq' ▸ hlt)
  · rcases hqr with hlt' | ⟨heq', hle'⟩
    · exact Or.inl (heq ▸ hlt')
    · exact Or.inr ⟨heq.trans heq', String.le_trans hle hle'⟩

theorem MoreSpecific.topic_eq {p q : PointConfig} (hpq : MoreSpecific p q)
    (hqp : MoreSpecific q p) : p.topic = q.topic := by
  rcases hpq with hlt | ⟨heq, hle⟩
  · rcases hqp with hlt' | ⟨heq', -⟩
    · omega
    · omega
  · rcases hqp with hlt' | ⟨-, hle'⟩
    · omega
    · exact String.le_antisymm hle hle'

instance : Std.Total MoreSpecific := ⟨moreSpecific_total⟩

instance : IsTrans PointConfig MoreSpecific := ⟨fun _ _ _ => MoreSpecific.trans⟩

theorem sorted_unique {ws vs : List PointConfig} (hperm : ws.Perm vs)
    (hdistinct : (ws.map PointConfig.topic).Nodup) (hws : ws.Pairwise MoreSpecific)
    (hvs : vs.Pairwise MoreSpecific) : ws = vs := by
  apply List.Perm.eq_of_pairwise _ hws hvs hperm
  intro p q hp hq hpq hqp
  exact List.inj_on_of_nodup_map hdistinct hp (hperm.mem_iff.mpr hq) (hpq.topic_eq hqp)

/-! ## Independence of the order -/

section Perm

variable {points points' : List PointConfig} {subs : List SubscriptionConfig} {rev : String}

theorem wildcards_perm (hperm : points'.Perm points)
    (hdistinct : (points.map PointConfig.topic).Nodup) :
    (newTopicIndex points' subs rev).wildcards = (newTopicIndex points subs rev).wildcards := by
  have hfilter : (wildcardPoints points').Perm (wildcardPoints points) := hperm.filter _
  have hsorted : ((wildcardPoints points').insertionSort MoreSpecific).Perm
      ((wildcardPoints points).insertionSort MoreSpecific) :=
    (List.perm_insertionSort _ _).trans (hfilter.trans (List.perm_insertionSort _ _).symm)
  have hsub : ((wildcardPoints points').map PointConfig.topic).Nodup :=
    ((hfilter.map _).nodup_iff).mpr (hdistinct.sublist (List.filter_sublist.map _))
  apply sorted_unique hsorted
  · exact (((List.perm_insertionSort _ _).map _).nodup_iff).mpr hsub
  · exact List.pairwise_insertionSort _ _
  · exact List.pairwise_insertionSort _ _

theorem covered_perm (hperm : points'.Perm points) (p : PointConfig) :
    covered (wildcardPoints points') subs p = covered (wildcardPoints points) subs p := by
  have hfilter : (wildcardPoints points').Perm (wildcardPoints points) := hperm.filter _
  rw [covered, covered, hfilter.any_eq]

theorem points_perm (hperm : points'.Perm points)
    (hdistinct : (points.map PointConfig.topic).Nodup) (t : String) :
    (newTopicIndex points' subs rev).points.lookup t =
      (newTopicIndex points subs rev).points.lookup t := by
  apply Dict.lookup_insertAll_perm hperm
  intro p hp q hq htopic
  exact List.inj_on_of_nodup_map hdistinct (hperm.mem_iff.mp hp) (hperm.mem_iff.mp hq) htopic

theorem explicitSubs_perm (hperm : points'.Perm points)
    (hdistinct : (points.map PointConfig.topic).Nodup) (t : String) :
    (newTopicIndex points' subs rev).explicitSubs.lookup t =
      (newTopicIndex points subs rev).explicitSubs.lookup t := by
  have hcovered : (points'.filter fun p => !covered (wildcardPoints points') subs p) =
      points'.filter fun p => !covered (wildcardPoints points) subs p := by
    simp only [covered_perm hperm]
  show AList.lookup t (Dict.insertAll _ _ (points'.filter _) ∅) = _
  rw [hcovered]
  apply Dict.lookup_insertAll_perm (hperm.filter _)
  intro p hp q hq htopic
  have hmem : ∀ {p}, p ∈ points'.filter (fun p => !covered (wildcardPoints points) subs p) →
      p ∈ points := fun hp => hperm.mem_iff.mp (List.mem_filter.mp hp).1
  rw [List.inj_on_of_nodup_map hdistinct (hmem hp) (hmem hq) htopic]

theorem resolve_perm (hperm : points'.Perm points)
    (hdistinct : (points.map PointConfig.topic).Nodup) (t : String) :
    (newTopicIndex points' subs rev).resolve t = (newTopicIndex points subs rev).resolve t := by
  rw [TopicIndex.resolve, TopicIndex.resolve, points_perm hperm hdistinct,
    wildcards_perm hperm hdistinct]

end Perm

/-! ## The governing point -/

/-- The point that is to govern a topic, with its `explicit` flag: the exact one; without
    it the most specific of the wildcard points that match; without such a point none. -/
inductive Governs (points : List PointConfig) (t : String) : Option (PointConfig × Bool) → Prop
  | exact {p : PointConfig} : p ∈ points → p.topic = t → Governs points t (some (p, true))
  | wildcard {w : PointConfig} : (∀ p ∈ points, p.topic ≠ t) → w ∈ points →
      hasWildcard w.topic = true → TopicMatches w.topic t →
      (∀ v ∈ points, hasWildcard v.topic = true → TopicMatches v.topic t → MoreSpecific w v) →
      Governs points t (some (w, false))
  | unknown : (∀ p ∈ points, p.topic ≠ t) →
      (∀ v ∈ points, hasWildcard v.topic = true → ¬ TopicMatches v.topic t) →
      Governs points t none

theorem moreSpecific_of_find? {ws : List PointConfig} {cond : PointConfig → Bool}
    {w v : PointConfig} (hsorted : ws.Pairwise MoreSpecific) (hw : ws.find? cond = some w)
    (hv : v ∈ ws) (hcond : cond v = true) : MoreSpecific w v := by
  obtain ⟨hcw, before, after, rfl, hbefore⟩ := List.find?_eq_some_iff_append.mp hw
  rcases List.mem_append.mp hv with hv | hv
  · have hnot := hbefore v hv
    rw [hcond] at hnot
    cases hnot
  · rcases List.mem_cons.mp hv with rfl | hv
    · exact (moreSpecific_total v v).elim id id
    · exact List.rel_of_pairwise_cons (List.pairwise_append.mp hsorted).2.1 hv

theorem resolve_governs {points : List PointConfig} {subs : List SubscriptionConfig}
    {rev t : String} (hdistinct : (points.map PointConfig.topic).Nodup)
    (ht : hasWildcard t = false) :
    Governs points t ((newTopicIndex points subs rev).resolve t) := by
  rw [TopicIndex.resolve]
  cases hlookup : (newTopicIndex points subs rev).points.lookup t with
  | some p =>
    obtain ⟨q, hq, htopic, rfl⟩ := Dict.exists_of_lookup_insertAll hlookup
    exact .exact hq htopic
  | none =>
    have hexact : ∀ p ∈ points, p.topic ≠ t := by
      rintro p hp rfl
      have hfound : (newTopicIndex points subs rev).points.lookup p.topic = some p :=
        Dict.lookup_insertAll_of_mem hdistinct hp
      rw [hfound] at hlookup
      cases hlookup
    cases hfind : (newTopicIndex points subs rev).wildcards.find?
        fun w => filterMatches w.topic t with
    | none =>
      rw [List.find?_eq_none] at hfind
      refine .unknown hexact fun v hv hwild hmatch => ?_
      exact hfind v (mem_wildcards_newTopicIndex.mpr ⟨hv, hwild⟩)
        ((filterMatches_iff ht).mpr hmatch)
    | some w =>
      have hmem := mem_wildcards_newTopicIndex.mp (List.mem_of_find?_eq_some hfind)
      have hmatch := List.find?_some hfind
      refine .wildcard hexact hmem.1 hmem.2 ((filterMatches_iff ht).mp hmatch) ?_
      intro v hv hwild hmatches
      have hsorted : (newTopicIndex points subs rev).wildcards.Pairwise MoreSpecific :=
        List.pairwise_insertionSort _ _
      exact moreSpecific_of_find? hsorted hfind
        (mem_wildcards_newTopicIndex.mpr ⟨hv, hwild⟩) ((filterMatches_iff ht).mpr hmatches)

/-- For points of distinct topics in any order, all static filters and every topic name: the
    index subscribes alike and routes the topic alike, and routes it to the point that is to
    govern it. -/
theorem resolve_order_independent {points points' : List PointConfig} (hperm : points'.Perm points)
    (hdistinct : (points.map PointConfig.topic).Nodup) (subs : List SubscriptionConfig)
    (rev : String) {t : String} (ht : hasWildcard t = false) :
    (∀ topic, (newTopicIndex points' subs rev).explicitSubs.lookup topic =
      (newTopicIndex points subs rev).explicitSubs.lookup topic) ∧
    (newTopicIndex points' subs rev).resolve t = (newTopicIndex points subs rev).resolve t ∧
    Governs points t ((newTopicIndex points subs rev).resolve t) :=
  ⟨explicitSubs_perm hperm hdistinct, resolve_perm hperm hdistinct t, resolve_governs hdistinct ht⟩

/-- `a/+` and `+/b` both match `a/b` with one literal level; `+/b` is the smaller name. -/
theorem resolve_order_independent_tie :
    (newTopicIndex [{ topic := "a/+" }, { topic := "#" }, { topic := "+/b" }] [] "").resolve "a/b" =
      some ({ topic := "+/b" }, false) ∧
    Governs [{ topic := "#" }, { topic := "+/b" }, { topic := "a/+" }] "a/b"
      (some ({ topic := "+/b" }, false)) := by
  have hperm : List.Perm [({ topic := "a/+" } : PointConfig), { topic := "#" }, { topic := "+/b" }]
      [{ topic := "#" }, { topic := "+/b" }, { topic := "a/+" }] := by decide
  obtain ⟨-, hsame, hgoverns⟩ := resolve_order_independent hperm (by decide) [] ""
    (show hasWildcard "a/b" = false by decide)
  have hresolve : (newTopicIndex [{ topic := "#" }, { topic := "+/b" }, { topic := "a/+" }] []
      "").resolve "a/b" = some ({ topic := "+/b" }, false) := by decide
  rw [hresolve] at hsame hgoverns
  exact ⟨hsame, hgoverns⟩

end NexusGateway.Connector.Mqtt
