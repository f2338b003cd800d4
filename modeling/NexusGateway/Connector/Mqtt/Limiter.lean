/-
The limit on wildcard topics over whole sequences of messages.  The table of
`allowWildcard` forgets: a purge drops what limits nothing any more, and if
that is not enough everything goes.  What keeps the spacing is that a topic
the table has forgotten was last accepted long ago, and that what survives a
purge was accepted within one interval, so that with few topics in every
interval a purge is always enough.
-/

import NexusGateway.Connector.Mqtt.Receive
import Mathlib.Data.Finset.Card

namespace NexusGateway.Connector.Mqtt

open Lib

/-! ## Sequences of calls -/

abbrev WildcardCall := String × Int

structure Limiter where
  wildLast : Dict String Int := ∅
  accepted : List WildcardCall := []

variable {log : List WildcardCall} {topic : String}

namespace Limiter

def call (minGap : Int) (l : Limiter) (c : WildcardCall) : Limiter :=
  let (allowed, wildLast) := allowWildcard minGap c.2 c.1 l.wildLast
  { wildLast := wildLast, accepted := if allowed then l.accepted ++ [c] else l.accepted }

def run (minGap : Int) (calls : List WildcardCall) : Limiter :=
  calls.foldl (call minGap) {}

def lastAccepted (log : List WildcardCall) (topic : String) : Option Int :=
  (log.reverse.find? fun a => a.1 = topic).map Prod.snd

def topicsIn (minGap start : Int) (log : List WildcardCall) : Finset String :=
  ((log.filter fun a => start < a.2 ∧ a.2 ≤ start + minGap).map Prod.fst).toFinset

def Sparse (minGap : Int) (log : List WildcardCall) : Prop :=
  ∀ start, (topicsIn minGap start log).card < maxWildcardTracked

theorem run_concat (minGap : Int) (calls : List WildcardCall) (c : WildcardCall) :
    run minGap (calls ++ [c]) = (run minGap calls).call minGap c := by
  rw [run, List.foldl_append]
  rfl

theorem lastAccepted_concat (log : List WildcardCall) (c : WildcardCall) (topic : String) :
    lastAccepted (log ++ [c]) topic =
      if c.1 = topic then some c.2 else lastAccepted log topic := by
  rw [lastAccepted, Dict.find?_reverse_concat]
  by_cases htopic : c.1 = topic
  · simp [htopic]
  · simp [htopic, lastAccepted]

theorem mem_of_lastAccepted {t : Int} (h : lastAccepted log topic = some t) : (topic, t) ∈ log := by
  obtain ⟨⟨topic', t'⟩, hfind, rfl⟩ := Option.map_eq_some_iff.mp h
  have htopic := List.find?_some hfind
  obtain rfl : topic' = topic := of_decide_eq_true htopic
  exact List.mem_reverse.mp (List.mem_of_find?_eq_some hfind)

theorem exists_lastAccepted {a : WildcardCall} (ha : a ∈ log) :
    ∃ t, lastAccepted log a.1 = some t := by
  have hsome : (log.reverse.find? fun b => b.1 = a.1).isSome := by
    rw [List.find?_isSome]
    exact ⟨a, List.mem_reverse.mpr ha, decide_eq_true rfl⟩
  obtain ⟨b, hb⟩ := Option.isSome_iff_exists.mp hsome
  exact ⟨b.2, by rw [lastAccepted, hb, Option.map_some]⟩

theorem mem_topicsIn {minGap start : Int} :
    topic ∈ topicsIn minGap start log ↔
      ∃ t, (topic, t) ∈ log ∧ start < t ∧ t ≤ start + minGap := by
  simp [topicsIn]

theorem Sparse.of_append {minGap : Int} {rest : List WildcardCall}
    (h : Sparse minGap (log ++ rest)) : Sparse minGap log := by
  intro start
  apply Nat.lt_of_le_of_lt (Finset.card_le_card _) (h start)
  intro topic hmem
  obtain ⟨t, ht, hstart, hend⟩ := mem_topicsIn.mp hmem
  exact mem_topicsIn.mpr ⟨t, List.mem_append_left _ ht, hstart, hend⟩

end Limiter

/-! ## Making room -/

section MakeRoom

variable {minGap now : Int} {wildLast : Dict String Int}

theorem lookup_purge (topic : String) (t : Int) :
    (purge minGap now wildLast).lookup topic = some t ↔
      wildLast.lookup topic = some t ∧ now - t < minGap := by
  rw [purge, Dict.lookup_foldl_erase]
  have hold : topic ∈ (wildLast.entries.filter fun e => now - e.2 ≥ minGap).map Sigma.fst ↔
      ∃ t, wildLast.lookup topic = some t ∧ now - t ≥ minGap := by
    rw [Dict.mem_map_filter_entries]
    constructor
    · rintro ⟨topic, t, hlookup, ht, rfl⟩
      exact ⟨t, hlookup, of_decide_eq_true ht⟩
    · rintro ⟨t, hlookup, ht⟩
      exact ⟨topic, t, hlookup, decide_eq_true ht, rfl⟩
  split
  next hmem =>
    obtain ⟨t', hlookup, ht'⟩ := hold.mp hmem
    simp only [reduceCtorEq, false_iff]
    rintro ⟨hsame, ht⟩
    rw [hlookup] at hsame
    cases hsame
    omega
  next hmem =>
    constructor
    · intro hlookup
      refine ⟨hlookup, ?_⟩
      by_contra hlt
      exact hmem (hold.mpr ⟨t, hlookup, by omega⟩)
    · exact And.left

theorem makeRoom_cases (minGap now : Int) (wildLast : Dict String Int) :
    (makeRoom minGap now wildLast = wildLast ∧
        wildLast.entries.length < maxWildcardTracked) ∨
      (makeRoom minGap now wildLast = purge minGap now wildLast ∧
        (purge minGap now wildLast).entries.length < maxWildcardTracked) ∨
      (makeRoom minGap now wildLast = ∅ ∧
        maxWildcardTracked ≤ (purge minGap now wildLast).entries.length) := by
  by_cases hroom : wildLast.entries.length < maxWildcardTracked
  · exact Or.inl ⟨if_pos hroom, hroom⟩
  · have hfull : makeRoom minGap now wildLast =
        if (purge minGap now wildLast).entries.length < maxWildcardTracked
        then purge minGap now wildLast else ∅ := if_neg hroom
    by_cases hkept : (purge minGap now wildLast).entries.length < maxWildcardTracked
    · exact Or.inr (Or.inl ⟨hfull.trans (if_pos hkept), hkept⟩)
    · exact Or.inr (Or.inr ⟨hfull.trans (if_neg hkept), Nat.not_lt.mp hkept⟩)

theorem length_makeRoom_lt (minGap now : Int) (wildLast : Dict String Int) :
    (makeRoom minGap now wildLast).entries.length < maxWildcardTracked := by
  rcases makeRoom_cases minGap now wildLast with ⟨h, hlt⟩ | ⟨h, hlt⟩ | ⟨h, -⟩
  · rwa [h]
  · rwa [h]
  · rw [h]
    exact Nat.zero_lt_succ _

end MakeRoom

/-! ## The invariant -/

namespace Limiter

structure Inv (minGap now : Int) (l : Limiter) : Prop where
  recorded : ∀ {topic t}, l.wildLast.lookup topic = some t →
    lastAccepted l.accepted topic = some t
  forgotten : ∀ {topic t}, lastAccepted l.accepted topic = some t →
    l.wildLast.lookup topic = none → minGap ≤ now - t
  past : ∀ a ∈ l.accepted, a.2 ≤ now
  latest : ∀ a ∈ l.accepted, ∀ t, lastAccepted l.accepted a.1 = some t → a.2 ≤ t
  spaced : l.accepted.Pairwise fun a b => a.1 = b.1 → minGap ≤ b.2 - a.2

section Steps

variable {minGap now : Int} {l : Limiter} {c : WildcardCall}

theorem allowWildcard_iff (hgap : 0 < minGap) (topic : String) (wildLast : Dict String Int) :
    (allowWildcard minGap now topic wildLast).1 = true ↔
      ∀ last, wildLast.lookup topic = some last → minGap ≤ now - last := by
  rw [allowWildcard, if_neg (by omega)]
  cases wildLast.lookup topic with
  | none => simp
  | some last =>
    by_cases hlive : now - last < minGap
    · simp [hlive]
    · simpa [hlive] using Int.not_lt.mp hlive

theorem call_cases (hgap : 0 < minGap) (l : Limiter) (c : WildcardCall) :
    ((allowWildcard minGap c.2 c.1 l.wildLast).1 = false ∧ l.call minGap c = l) ∨
      ((allowWildcard minGap c.2 c.1 l.wildLast).1 = true ∧ l.call minGap c =
        { wildLast := (makeRoom minGap c.2 l.wildLast).insert c.1 c.2
          accepted := l.accepted ++ [c] }) := by
  have hne : ¬ minGap = 0 := by omega
  by_cases hlive : ((l.wildLast.lookup c.1).any fun last => c.2 - last < minGap) = true
  · left
    simp only [call, allowWildcard, if_neg hne, if_pos hlive]
    exact ⟨trivial, rfl⟩
  · right
    simp only [call, allowWildcard, if_neg hne, if_neg hlive]
    exact ⟨trivial, rfl⟩

theorem length_call_le (hgap : 0 < minGap) (h : l.wildLast.entries.length ≤ maxWildcardTracked)
    (c : WildcardCall) : (l.call minGap c).wildLast.entries.length ≤ maxWildcardTracked := by
  rcases call_cases hgap l c with ⟨-, hcall⟩ | ⟨-, hcall⟩
  · rwa [hcall]
  · rw [hcall, AList.entries_insert, List.length_cons]
    have hrest := (List.kerase_sublist c.1 (makeRoom minGap c.2 l.wildLast).entries).length_le
    have hroom := length_makeRoom_lt minGap c.2 l.wildLast
    omega

theorem Inv.length_purge_lt (h : Inv minGap now l) (hnow : now ≤ c.2)
    (hsparse : Sparse minGap l.accepted) :
    (purge minGap c.2 l.wildLast).entries.length < maxWildcardTracked := by
  have hsub : (purge minGap c.2 l.wildLast).keys.toFinset ⊆
      topicsIn minGap (c.2 - minGap) l.accepted := by
    intro topic hmem
    rw [List.mem_toFinset, ← AList.mem_keys, ← AList.lookup_isSome] at hmem
    obtain ⟨t, ht⟩ := Option.isSome_iff_exists.mp hmem
    obtain ⟨hlookup, hlive⟩ := (lookup_purge topic t).mp ht
    have haccepted := mem_of_lastAccepted (h.recorded hlookup)
    have hpast := h.past _ haccepted
    exact mem_topicsIn.mpr ⟨t, haccepted, by omega, by omega⟩
  have hcard := Finset.card_le_card hsub
  rw [List.toFinset_card_of_nodup (purge minGap c.2 l.wildLast).keys_nodup, AList.keys,
    List.keys, List.length_map] at hcard
  exact Nat.lt_of_le_of_lt hcard (hsparse (c.2 - minGap))

theorem lookup_of_makeRoom {wildLast : Dict String Int} {t : Int}
    (h : (makeRoom minGap now wildLast).lookup topic = some t) :
    wildLast.lookup topic = some t := by
  rcases makeRoom_cases minGap now wildLast with ⟨hroom, -⟩ | ⟨hroom, -⟩ | ⟨hroom, -⟩
  · rwa [hroom] at h
  · rw [hroom] at h
    exact ((lookup_purge topic t).mp h).1
  · rw [hroom] at h
    cases h

theorem Inv.makeRoom_forgotten (h : Inv minGap now l) (hnow : now ≤ c.2)
    (hsparse : Sparse minGap l.accepted) {t : Int}
    (hlast : lastAccepted l.accepted topic = some t)
    (hnone : (makeRoom minGap c.2 l.wildLast).lookup topic = none) : minGap ≤ c.2 - t := by
  cases hlookup : l.wildLast.lookup topic with
  | none =>
    have hold := h.forgotten hlast hlookup
    omega
  | some t' =>
    obtain rfl : t = t' := Option.some.inj (hlast.symm.trans (h.recorded hlookup))
    rcases makeRoom_cases minGap c.2 l.wildLast with ⟨hroom, -⟩ | ⟨hroom, -⟩ | ⟨-, hfull⟩
    · rw [hroom, hlookup] at hnone
      cases hnone
    · by_contra hlive
      have hkept := (lookup_purge topic t).mpr ⟨hlookup, Int.not_le.mp hlive⟩
      rw [hroom, hkept] at hnone
      cases hnone
    · exact absurd hfull (Nat.not_le.mpr (h.length_purge_lt hnow hsparse))

theorem Inv.le_of_allowed (h : Inv minGap now l) (hgap : 0 < minGap) (hnow : now ≤ c.2)
    (hallowed : (allowWildcard minGap c.2 c.1 l.wildLast).1 = true) :
    ∀ a ∈ l.accepted, a.1 = c.1 → minGap ≤ c.2 - a.2 := by
  intro a ha htopic
  obtain ⟨t, ht⟩ := exists_lastAccepted ha
  have hle := h.latest a ha t ht
  rw [htopic] at ht
  cases hlookup : l.wildLast.lookup c.1 with
  | none =>
    have hold := h.forgotten ht hlookup
    omega
  | some t' =>
    obtain rfl : t = t' := Option.some.inj (ht.symm.trans (h.recorded hlookup))
    have hlast := (allowWildcard_iff hgap _ _).mp hallowed t hlookup
    omega

theorem Inv.mono (h : Inv minGap now l) {later : Int} (hlater : now ≤ later) :
    Inv minGap later l := by
  refine { h with forgotten := fun hlast hnone => ?_,
                  past := fun a ha => Int.le_trans (h.past a ha) hlater }
  have hold := h.forgotten hlast hnone
  omega

theorem Inv.call (h : Inv minGap now l) (hgap : 0 < minGap) (hnow : now ≤ c.2)
    (hsparse : Sparse minGap (l.call minGap c).accepted) : Inv minGap c.2 (l.call minGap c) := by
  rcases call_cases hgap l c with ⟨-, hcall⟩ | ⟨hallowed, hcall⟩
  · rw [hcall]
    exact h.mono hnow
  rw [hcall] at hsparse ⊢
  have hold : Sparse minGap l.accepted := hsparse.of_append
  have hpast : ∀ a ∈ l.accepted, a.2 ≤ c.2 := fun a ha => Int.le_trans (h.past a ha) hnow
  constructor
  case recorded =>
    intro topic t hlookup
    rw [Dict.lookup_insert_ite] at hlookup
    rw [lastAccepted_concat]
    split at hlookup
    next htopic => rwa [if_pos htopic.symm]
    next htopic =>
      rw [if_neg fun heq => htopic heq.symm]
      exact h.recorded (lookup_of_makeRoom hlookup)
  case forgotten =>
    intro topic t hlast hnone
    rw [Dict.lookup_insert_ite] at hnone
    rw [lastAccepted_concat] at hlast
    split at hnone
    · cases hnone
    next htopic =>
      rw [if_neg fun heq => htopic heq.symm] at hlast
      exact h.makeRoom_forgotten hnow hold hlast hnone
  case past =>
    intro a ha
    rcases List.mem_append.mp ha with ha | ha
    · exact hpast a ha
    · rw [List.mem_singleton.mp ha]
  case latest =>
    intro a ha t hlast
    rw [lastAccepted_concat] at hlast
    split at hlast
    · cases hlast
      rcases List.mem_append.mp ha with ha | ha
      · exact hpast a ha
      · rw [List.mem_singleton.mp ha]
    next htopic =>
      rcases List.mem_append.mp ha with ha | ha
      · exact h.latest a ha t hlast
      · exact absurd (congrArg Prod.fst (List.mem_singleton.mp ha)).symm htopic
  case spaced =>
    rw [List.pairwise_append]
    refine ⟨h.spaced, List.pairwise_singleton _ _, fun a ha b hb => ?_⟩
    rw [List.mem_singleton.mp hb]
    exact h.le_of_allowed hgap hnow hallowed a ha

end Steps

/-! ## Whole sequences -/

section Runs

variable {minGap : Int} {calls : List WildcardCall}

theorem accepted_run_append (hgap : 0 < minGap) (pre post : List WildcardCall) :
    ∃ rest, (run minGap (pre ++ post)).accepted = (run minGap pre).accepted ++ rest := by
  induction post using List.reverseRecOn with
  | nil => exact ⟨[], by rw [List.append_nil, List.append_nil]⟩
  | append_singleton post c ih =>
    obtain ⟨rest, hrest⟩ := ih
    rw [← List.append_assoc, run_concat]
    rcases call_cases hgap (run minGap (pre ++ post)) c with ⟨-, hcall⟩ | ⟨-, hcall⟩
    · exact ⟨rest, by rw [hcall, hrest]⟩
    · exact ⟨rest ++ [c], by rw [hcall, hrest, List.append_assoc]⟩

theorem sparse_of_append (hgap : 0 < minGap) {pre post : List WildcardCall}
    (h : Sparse minGap (run minGap (pre ++ post)).accepted) :
    Sparse minGap (run minGap pre).accepted := by
  obtain ⟨rest, hrest⟩ := accepted_run_append hgap pre post
  rw [hrest] at h
  exact h.of_append

theorem length_run_le (hgap : 0 < minGap) (calls : List WildcardCall) :
    (run minGap calls).wildLast.entries.length ≤ maxWildcardTracked := by
  induction calls using List.reverseRecOn with
  | nil => exact Nat.zero_le _
  | append_singleton calls c ih =>
    rw [run_concat]
    exact length_call_le hgap ih c

theorem inv_run (hgap : 0 < minGap) (hmono : calls.Pairwise fun a b => a.2 ≤ b.2) {now : Int}
    (hnow : ∀ c ∈ calls, c.2 ≤ now) (hsparse : Sparse minGap (run minGap calls).accepted) :
    Inv minGap now (run minGap calls) := by
  induction calls using List.reverseRecOn generalizing now with
  | nil => exact ⟨nofun, nofun, nofun, nofun, .nil⟩
  | append_singleton calls c ih =>
    obtain ⟨hbefore, -, hlast⟩ := List.pairwise_append.mp hmono
    have hprev : Inv minGap c.2 (run minGap calls) :=
      ih hbefore (fun a ha => hlast a ha c (List.mem_singleton_self c))
        (sparse_of_append hgap hsparse)
    rw [run_concat] at hsparse ⊢
    exact (hprev.call hgap (Int.le_refl _) hsparse).mono
      (hnow c (List.mem_append_right _ (List.mem_singleton_self c)))

/-- Messages with times that do not decrease, on any topics.  The table stays within its
    bound.  With fewer accepted topics than that in every window of an interval's length, a
    topic is accepted at most once per interval, and always when its last one is over. -/
theorem allowWildcard_bounded_spaced (hgap : 0 < minGap)
    (hmono : calls.Pairwise fun a b => a.2 ≤ b.2) :
    (∀ pre post, calls = pre ++ post →
      (run minGap pre).wildLast.entries.length ≤ maxWildcardTracked) ∧
    (Sparse minGap (run minGap calls).accepted →
      ((run minGap calls).accepted.Pairwise fun a b => a.1 = b.1 → minGap ≤ b.2 - a.2) ∧
      ∀ pre c post, calls = pre ++ c :: post →
        (∀ last, lastAccepted (run minGap pre).accepted c.1 = some last → minGap ≤ c.2 - last) →
        (allowWildcard minGap c.2 c.1 (run minGap pre).wildLast).1 = true) := by
  refine ⟨fun pre post _ => length_run_le hgap pre, fun hsparse => ⟨?_, ?_⟩⟩
  · -- an upper bound of the times is the time of the last call
    cases hlast : calls.getLast? with
    | none =>
      rw [List.getLast?_eq_none_iff.mp hlast]
      exact .nil
    | some c =>
      obtain ⟨before, rfl⟩ := List.getLast?_eq_some_iff.mp hlast
      obtain ⟨-, -, hle⟩ := List.pairwise_append.mp hmono
      have hnow : ∀ a ∈ before ++ [c], a.2 ≤ c.2 := by
        intro a ha
        rcases List.mem_append.mp ha with ha | ha
        · exact hle a ha c (List.mem_singleton_self c)
        · rw [List.mem_singleton.mp ha]
      exact (inv_run hgap hmono hnow hsparse).spaced
  · intro pre c post hcalls hlast
    subst hcalls
    obtain ⟨hpre, -, hle⟩ := List.pairwise_append.mp hmono
    have hinv : Inv minGap c.2 (run minGap pre) :=
      inv_run hgap hpre (fun a ha => hle a ha c (List.mem_cons_self ..))
        (sparse_of_append hgap hsparse)
    rw [allowWildcard_iff hgap]
    intro last hlookup
    exact hlast last (hinv.recorded hlookup)

end Runs

def twoTopics : List WildcardCall := [("a", 0), ("a", 9), ("b", 9), ("a", 10)]

theorem allowWildcard_bounded_spaced_two :
    (run 10 twoTopics).accepted = [("a", 0), ("b", 9), ("a", 10)] ∧
      Sparse 10 (run 10 twoTopics).accepted ∧
      ((run 10 twoTopics).accepted.Pairwise fun a b => a.1 = b.1 → 10 ≤ b.2 - a.2) := by
  have haccepted : (run 10 twoTopics).accepted = [("a", 0), ("b", 9), ("a", 10)] := rfl
  have hsparse : Sparse 10 (run 10 twoTopics).accepted := by
    intro start
    have hcard := List.toFinset_card_le ((((run 10 twoTopics).accepted.filter fun a =>
      start < a.2 ∧ a.2 ≤ start + 10)).map Prod.fst)
    have hlength := List.length_filter_le (fun a : WildcardCall => start < a.2 ∧ a.2 ≤ start + 10)
      (run 10 twoTopics).accepted
    rw [List.length_map] at hcard
    have hthree : (run 10 twoTopics).accepted.length = 3 := rfl
    have hbound : 3 < maxWildcardTracked := by decide
    exact Nat.lt_of_le_of_lt hcard (by omega)
  have hspaced := @allowWildcard_bounded_spaced 10 twoTopics (by decide) (by decide)
  exact ⟨haccepted, hsparse, (hspaced.2 hsparse).1⟩

end Limiter

end NexusGateway.Connector.Mqtt
