/-
The bound and the consistency of the table of `connector/sdk/dedup.go`: the
key list has no duplicates, it lists exactly the keys of the map, and the map
holds at most `cap` entries.

The key list is always the last `cap` granted ids (`keys_eq_recent`).
`TryReserve` keeps the three facts.  `Complete` writes the map without
looking at the key list, so it keeps them exactly when its id is still among
those last `cap` grants: a completion that comes later adds an entry that no
eviction will ever reach.
-/

import NexusGateway.Connector.CommandDedup
import NexusGateway.Lib.Bounded

namespace NexusGateway.Connector

open Lib

variable {d : CommandDedup} {id : String}

namespace CommandDedup

structure Consistent (d : CommandDedup) : Prop where
  nodup : d.keys.Nodup
  domain : ∀ id, id ∈ d.keys ↔ id ∈ d.entries
  bounded : d.entries.keys.length ≤ d.cap

theorem consistent_new (cap : Nat) : (newCommandDedup cap).Consistent where
  nodup := List.nodup_nil
  domain id := by simp [newCommandDedup]
  bounded := Nat.zero_le _

theorem consistent_of_keys (hnodup : d.keys.Nodup) (hdomain : ∀ id, id ∈ d.keys ↔ id ∈ d.entries)
    (hlength : d.keys.length ≤ d.cap) :
    d.Consistent where
  nodup := hnodup
  domain := hdomain
  bounded := by
    have hsub : d.entries.keys ⊆ d.keys := fun id hid => (hdomain id).mpr hid
    exact Nat.le_trans (d.entries.keys_nodup.length_le_of_subset hsub) hlength

theorem mem_entries_iff : id ∈ d.entries ↔ d.entries.lookup id ≠ none := by
  rw [← AList.lookup_isSome, Option.isSome_iff_ne_none]

@[simp] theorem cap_evict (d : CommandDedup) : d.evict.cap = d.cap := by
  unfold evict
  cases d.victim with
  | none | some oldest => rfl

@[simp] theorem cap_tryReserve (d : CommandDedup) (id : String) :
    (d.tryReserve id).1.cap = d.cap := by
  unfold tryReserve
  rcases d.entries.lookup id with _ | _ | reply
  · exact cap_evict d
  · rfl
  · rfl

theorem keys_evict (d : CommandDedup) :
    d.evict.keys = if d.cap ≤ d.keys.length then d.keys.tail else d.keys := by
  unfold evict victim
  split
  · next oldest h =>
    split at h
    · next hfull => rw [if_pos hfull]
    · cases h
  · next h =>
    split at h
    · next hfull =>
      have hnil : d.keys = [] := List.head?_eq_none_iff.mp h
      rw [if_pos hfull, hnil, List.tail_nil]
    · next hroom => rw [if_neg hroom]

theorem keys_tryReserve (hcap : 0 < d.cap) (hlength : d.keys.length ≤ d.cap)
    (h : (d.tryReserve id).2 = .proceed) :
    (d.tryReserve id).1.keys = pushBounded d.cap d.keys id := by
  have hnone := tryReserve_proceed_iff.mp h
  rw [pushBounded_of_length_le hcap hlength, ← keys_evict]
  simp only [tryReserve, hnone]

theorem victim_eq_some (h : d.victim = some id) :
    d.cap ≤ d.keys.length ∧ d.keys = id :: d.keys.tail := by
  unfold victim at h
  split at h
  · next hfull =>
    obtain ⟨rest, hrest⟩ := List.head?_eq_some_iff.mp h
    exact ⟨hfull, by rw [hrest, List.tail_cons]⟩
  · cases h

theorem mem_keys_evict (hnodup : d.keys.Nodup) (id : String) :
    id ∈ d.evict.keys ↔ id ∈ d.keys ∧ d.victim ≠ some id := by
  unfold evict
  cases hv : d.victim with
  | none => simp
  | some oldest =>
    obtain ⟨-, hkeys⟩ := victim_eq_some hv
    rw [hkeys, List.nodup_cons] at hnodup
    show id ∈ d.keys.tail ↔ id ∈ d.keys ∧ some oldest ≠ some id
    constructor
    · intro hmem
      refine ⟨List.mem_of_mem_tail hmem, ?_⟩
      rintro h
      cases h
      exact hnodup.1 hmem
    · rintro ⟨hmem, hne⟩
      rw [hkeys] at hmem
      rcases List.mem_cons.mp hmem with rfl | htail
      · exact absurd rfl hne
      · exact htail

theorem Consistent.tryReserve (h : d.Consistent) (hcap : 0 < d.cap)
    (hlength : d.keys.length ≤ d.cap) (hp : (d.tryReserve id).2 = .proceed) :
    (d.tryReserve id).1.Consistent := by
  have hnone := tryReserve_proceed_iff.mp hp
  have hkeys : (d.tryReserve id).1.keys = d.evict.keys ++ [id] := by
    simp only [CommandDedup.tryReserve, hnone]
  have hfresh : id ∉ d.keys := fun hmem => mem_entries_iff.mp ((h.domain id).mp hmem) hnone
  have hmem := mem_keys_evict h.nodup
  refine consistent_of_keys ?_ ?_ ?_
  · rw [hkeys]
    have hsub : d.evict.keys.Sublist d.keys := by
      rw [keys_evict]
      split
      · exact List.tail_sublist _
      · exact List.Sublist.refl _
    refine List.nodup_append.mpr ⟨h.nodup.sublist hsub, List.nodup_singleton _, ?_⟩
    intro a ha b hb hab
    rw [List.mem_singleton] at hb
    rw [hab, hb] at ha
    exact hfresh ((hmem id).mp ha).1
  · intro id'
    rw [hkeys, List.mem_append, List.mem_singleton, hmem, mem_entries_iff, lookup_tryReserve hp,
      h.domain id', mem_entries_iff]
    by_cases hid : id' = id
    · simp [hid]
    · by_cases hv : d.victim = some id'
      · simp [hid, hv]
      · simp [hid, hv]
  · rw [keys_tryReserve hcap hlength hp, length_pushBounded, cap_tryReserve]
    exact Nat.min_le_left _ _

theorem Consistent.complete_iff {reply : WriteReply} (h : d.Consistent)
    (hlength : d.keys.length ≤ d.cap) : (d.complete id reply).Consistent ↔ id ∈ d.keys := by
  constructor
  · intro hafter
    refine (hafter.domain id).mpr (mem_entries_iff.mpr ?_)
    simp [CommandDedup.complete]
  · intro hmem
    refine consistent_of_keys h.nodup ?_ hlength
    intro id'
    show id' ∈ d.keys ↔ id' ∈ d.entries.insert id (some reply)
    rw [h.domain id', AList.mem_insert]
    refine ⟨Or.inr, ?_⟩
    rintro (rfl | hold)
    · exact (h.domain id').mp hmem
    · exact hold

end CommandDedup

/-! ## Whole interleavings -/

variable {cap : Nat} {c : DedupCall}

namespace Calls

def granted (log : List DedupEvent) : List String :=
  log.filterMap fun e =>
    match e with
    | .reserved _ id => some id
    | .refused .. => none
    | .completed .. => none

def InTime (cap : Nat) (log : List DedupEvent) : Prop :=
  EachAfter (fun before e => ∀ n id, e = .completed n id → id ∈ (granted before).rtake cap) log

structure Listed (cap : Nat) (s : Calls) : Prop where
  cap_eq : s.dedup.cap = cap
  keys_eq_recent : s.dedup.keys = (granted s.log).rtake cap

theorem listed_init (cap : Nat) : Listed cap (init cap) where
  cap_eq := rfl
  keys_eq_recent := (List.rtake_nil _).symm

theorem Listed.length_le {s : Calls} (h : Listed cap s) : s.dedup.keys.length ≤ cap := by
  rw [h.keys_eq_recent, length_rtake]
  exact Nat.min_le_left _ _

theorem Listed.step (hcap : 0 < cap) {s t : Calls} (h : Listed cap s) (hstep : s.step c = some t) :
    Listed cap t := by
  have hlength : s.dedup.keys.length ≤ s.dedup.cap := h.cap_eq ▸ h.length_le
  have hpos : 0 < s.dedup.cap := h.cap_eq ▸ hcap
  cases step_effect hstep with
  | reserved hp =>
    refine ⟨(CommandDedup.cap_tryReserve _ _).trans h.cap_eq, ?_⟩
    rw [CommandDedup.keys_tryReserve hpos hlength hp, h.cap_eq, h.keys_eq_recent,
      pushBounded_rtake]
    simp [granted]
  | refused hr =>
    refine ⟨(CommandDedup.cap_tryReserve _ _).trans h.cap_eq, ?_⟩
    rw [CommandDedup.tryReserve_of_refused hr, h.keys_eq_recent]
    simp [granted]
  | completed hw =>
    refine ⟨h.cap_eq, ?_⟩
    show s.dedup.keys = _
    rw [h.keys_eq_recent]
    simp [granted]

theorem exists_log_eq {s t : Calls} (h : s.step c = some t) : ∃ e, t.log = s.log ++ [e] := by
  cases step_effect h with
  | reserved hp | refused hr | completed hw => exact ⟨_, rfl⟩

/-- From a consistent table, a call leaves a consistent one exactly when it is in time. -/
theorem consistent_step_iff (hcap : 0 < cap) {s t : Calls} {e : DedupEvent} (h : Listed cap s)
    (hs : s.dedup.Consistent) (hstep : s.step c = some t) (hlog : t.log = s.log ++ [e]) :
    t.dedup.Consistent ↔ ∀ n id, e = .completed n id → id ∈ (granted s.log).rtake cap := by
  have hlength : s.dedup.keys.length ≤ s.dedup.cap := h.cap_eq ▸ h.length_le
  have hpos : 0 < s.dedup.cap := h.cap_eq ▸ hcap
  cases step_effect hstep with
  | reserved hp =>
    have he := List.append_cancel_left hlog
    simp only [List.cons.injEq, and_true] at he
    exact iff_of_true (hs.tryReserve hpos hlength hp) (by rw [← he]; simp)
  | refused hr =>
    have he := List.append_cancel_left hlog
    simp only [List.cons.injEq, and_true] at he
    refine iff_of_true ?_ (by rw [← he]; simp)
    rw [CommandDedup.tryReserve_of_refused hr]
    exact hs
  | completed hw =>
    have he := List.append_cancel_left hlog
    simp only [List.cons.injEq, and_true] at he
    rw [hs.complete_iff hlength, ← h.keys_eq_recent, ← he]
    constructor
    · intro hmem n id hid
      cases hid
      exact hmem
    · intro hall
      exact hall _ _ rfl

abbrev Steps (s : Calls) (c : DedupCall) (t : Calls) : Prop := s.step c = some t

theorem log_prefix_of_run {s t : Calls} {cs : List DedupCall} (hrun : Run Steps s cs t) :
    ∃ rest, t.log = s.log ++ rest := by
  induction hrun with
  | nil => exact ⟨[], (List.append_nil _).symm⟩
  | snoc _ hstep ih =>
    obtain ⟨rest, hrest⟩ := ih
    obtain ⟨e, he⟩ := exists_log_eq hstep
    exact ⟨rest ++ [e], by rw [he, hrest, List.append_assoc]⟩

theorem consistent_of_inTime (hcap : 0 < cap) {cs : List DedupCall} {s : Calls}
    (hrun : Run Steps (init cap) cs s) (htime : InTime cap s.log) : s.dedup.Consistent := by
  induction hrun with
  | nil => exact CommandDedup.consistent_new cap
  | snoc hpre hstep ih =>
    have hlisted := hpre.invariant (listed_init cap) fun _ _ _ h hs => h.step hcap hs
    obtain ⟨e, he⟩ := exists_log_eq hstep
    rw [he] at htime
    exact (consistent_step_iff hcap hlisted (ih htime.of_append) hstep he).mpr htime.last

/-- **Bounded and consistent.**  An interleaving of `TryReserve` and `Complete`
    passes through consistent tables only — no key listed twice, the listed
    keys exactly those of the map, at most `cap` entries — if and only if every
    `Complete` comes while its id is among the last `cap` granted ones. -/
theorem consistent_iff_inTime (cap : Nat) (hcap : 1 ≤ cap) (cs : List DedupCall) (s : Calls)
    (hrun : Run Steps (init cap) cs s) :
    (∀ (before after : List DedupCall) (m : Calls), before ++ after = cs →
        Run Steps (init cap) before m → Run Steps m after s → m.dedup.Consistent) ↔
      InTime cap s.log := by
  constructor
  · intro hall
    induction hrun with
    | nil => exact eachAfter_nil
    | snoc hpre hstep ih =>
      have hlisted := hpre.invariant (listed_init cap) fun _ _ _ h hs => h.step hcap hs
      have hmiddle := hall _ _ _ rfl hpre (Run.single hstep)
      have hlast := hall _ [] _ (List.append_nil _) (hpre.snoc hstep) (Run.nil _)
      have hearlier : InTime cap _ := ih fun before after m heq hb ha =>
        hall before (after ++ [_]) m (by rw [← List.append_assoc, heq]) hb (ha.snoc hstep)
      obtain ⟨e, he⟩ := exists_log_eq hstep
      rw [he]
      exact hearlier.snoc ((consistent_step_iff hcap hlisted hmiddle hstep he).mp hlast)
  · intro htime before after m _ hb ha
    obtain ⟨rest, hrest⟩ := log_prefix_of_run ha
    rw [hrest] at htime
    exact consistent_of_inTime hcap hb htime.of_append

/-- Two slots, and a command completed after one other was granted. -/
theorem consistent_iff_inTime_two :
    ∃ s, Run Steps (init 2)
        [.tryReserve "a", .tryReserve "b", .complete 0 "a" ⟨true, "ok"⟩] s ∧
      InTime 2 s.log ∧ s.dedup.Consistent := by
  have hrun : Run Steps (init 2)
      [.tryReserve "a", .tryReserve "b", .complete 0 "a" ⟨true, "ok"⟩] _ := Run.of_foldlM rfl
  have hnone : InTime 2 [] := eachAfter_nil
  have hfirst : InTime 2 [.reserved 0 "a"] := hnone.snoc (by simp)
  have hsecond : InTime 2 [.reserved 0 "a", .reserved 1 "b"] := hfirst.snoc (by simp)
  have htime : InTime 2 [.reserved 0 "a", .reserved 1 "b", .completed 0 "a"] := by
    refine hsecond.snoc ?_
    rintro n id h
    cases h
    decide
  exact ⟨_, hrun, htime,
    (consistent_iff_inTime 2 (by decide) _ _ hrun).mpr htime _ [] _ (List.append_nil _) hrun
      (Run.nil _)⟩

/-- One slot: the reservation of `"b"` evicts `"a"`, and the completion of `"a"`
    then stores an entry that is not listed, the second one of the map. -/
theorem not_consistent_cap_one :
    ∃ s, Run Steps (init 1)
        [.tryReserve "a", .tryReserve "b", .complete 0 "a" ⟨true, "ok"⟩] s ∧
      "a" ∈ s.dedup.entries ∧ "a" ∉ s.dedup.keys ∧ s.dedup.entries.keys.length = 2 ∧
      ¬ s.dedup.Consistent := by
  refine ⟨_, Run.of_foldlM rfl, by decide, by decide, by decide, ?_⟩
  intro h
  have hbound := h.bounded
  revert hbound
  decide

end Calls

end NexusGateway.Connector
