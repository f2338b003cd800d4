/-
When applying a delta reaches the served list.

A point of the new list can be lost only in the `Changed` pass: a changed
entry deletes the point that owned its address in the old list, even when
that point is still served and has merely moved.  It survives exactly when
its own changed entry comes later in the pass.
-/

import NexusGateway.PointSync.Loop

namespace NexusGateway.PointSync

open Lib
open PointList

/-- `r` is a delta from `cur` to `nxt`, its parts in any order. -/
structure IsDelta (cur nxt : ServedList) (r : FetchResult) : Prop where
  not_full : r.full = false
  removed : r.removed.Perm (cur.ids.filter fun p => p ∉ nxt.ids)
  added : r.added.Perm (nxt.entries.filter fun e => e.pointID ∉ cur.ids)
  changed : r.changed.Perm (nxt.entries.filter fun e => e.pointID ∈ cur.ids ∧ e ∉ cur.entries)

/-- The point that owns an address key in the current list: the last writer. -/
def owner (current : List Entry) (k : String) : Option String :=
  ((addressed current).reverse.find? fun o => o.key = k).map Entry.pointID

/-- The point a changed entry deletes: the old owner of its address, when that is
    a different point. -/
def evicted (current : List Entry) (e : Entry) : Option String :=
  let oldPID := (owner current e.key).getD ""
  if e.releaseOf = "" ∧ oldPID ≠ "" ∧ oldPID ≠ e.pointID then some oldPID else none

/-- Every served point that a changed entry deletes is written again by a later
    changed entry. -/
def KeepsOwners (current : List Entry) (nxt : ServedList) : List Entry → Prop
  | [] => True
  | e :: changed =>
    (∀ o ∈ evicted current e, o ∈ nxt.ids → o ∈ changed.map Entry.pointID) ∧
      KeepsOwners current nxt changed

instance (current : List Entry) (nxt : ServedList) :
    ∀ changed, Decidable (KeepsOwners current nxt changed)
  | [] => inferInstanceAs (Decidable True)
  | _ :: changed =>
    have := instDecidableKeepsOwners current nxt changed
    inferInstanceAs (Decidable (_ ∧ _))

/-! ## Lookups after each pass -/

theorem lookup_byLocal (current : List Entry) (k : String) :
    (byLocal current).lookup k = owner current k := by
  rw [byLocal, Dict.lookup_insertAll, AList.lookup_empty, Option.or_none]
  rfl

theorem ne_pointID_of_evicted {current : List Entry} {e : Entry} {o : String}
    (h : evicted current e = some o) : o ≠ e.pointID := by
  rw [evicted, Option.ite_none_right_eq_some, Option.some.injEq] at h
  obtain ⟨hev, rfl⟩ := h
  exact hev.2.2

theorem lookup_applyChanged (current : List Entry) (m : Dict String Entry) (e : Entry)
    (p : String) :
    (applyChanged (byLocal current) m e).lookup p
      = if e.pointID = p then some e
        else if evicted current e = some p then none else m.lookup p := by
  rw [applyChanged, Dict.lookup_insert_ite, lookup_byLocal]
  by_cases hp : p = e.pointID
  · simp [hp]
  · have hp' : ¬ e.pointID = p := fun h => hp h.symm
    rw [if_neg hp, if_neg hp', evicted]
    split
    · simp only [Dict.lookup_erase_ite, Option.some.injEq, eq_comm]
    · simp

def touches (current : List Entry) (p : String) (e : Entry) : Bool :=
  e.pointID = p ∨ evicted current e = some p

theorem lookup_foldl_applyChanged (current : List Entry) (changed : List Entry)
    (m : Dict String Entry) (p : String) :
    (changed.foldl (applyChanged (byLocal current)) m).lookup p
      = match changed.reverse.find? (touches current p) with
        | none => m.lookup p
        | some e => if e.pointID = p then some e else none := by
  induction changed using List.reverseRecOn with
  | nil => rfl
  | append_singleton changed e ih =>
    rw [List.foldl_append, List.foldl_cons, List.foldl_nil, lookup_applyChanged, ih,
      List.reverse_append, List.reverse_singleton, List.singleton_append, List.find?_cons]
    by_cases hid : e.pointID = p
    · simp [touches, hid]
    · by_cases hev : evicted current e = some p
      · simp [touches, hid, hev]
      · simp [touches, hid, hev]

theorem keepsOwners_iff (current : List Entry) (nxt : ServedList) (changed : List Entry) :
    KeepsOwners current nxt changed ↔ ∀ p ∈ nxt.ids, ∀ e,
      changed.reverse.find? (touches current p) = some e → e.pointID = p := by
  induction changed with
  | nil => simp [KeepsOwners]
  | cons x changed ih =>
    rw [KeepsOwners, ih]
    simp only [List.reverse_cons, List.find?_append]
    constructor
    · rintro ⟨hx, hrest⟩ p hp e he
      cases hlater : changed.reverse.find? (touches current p) with
      | some y =>
        rw [hlater, Option.some_or, Option.some.injEq] at he
        exact he ▸ hrest p hp y hlater
      | none =>
        rw [hlater, Option.none_or, List.find?_singleton, Option.ite_none_right_eq_some,
          Option.some.injEq] at he
        obtain ⟨htouch, rfl⟩ := he
        rcases of_decide_eq_true htouch with hid | hev
        · exact hid
        · -- the deleted point is set again later, so `x` was not the last to touch it
          obtain ⟨y, hy, hyp⟩ := List.mem_map.mp (hx p hev hp)
          have hnot := List.find?_eq_none.mp hlater y (List.mem_reverse.mpr hy)
          exact absurd (decide_eq_true (Or.inl hyp)) hnot
    · intro h
      refine ⟨fun o ho hserved => ?_, fun p hp e he => h p hp e (by rw [he, Option.some_or])⟩
      cases hlater : changed.reverse.find? (touches current o) with
      | some y =>
        have hid := h o hserved y (by rw [hlater, Option.some_or])
        have hy := List.mem_reverse.mp (List.mem_of_find?_eq_some hlater)
        exact List.mem_map.mpr ⟨y, hy, hid⟩
      | none =>
        have htouch : touches current o x = true := decide_eq_true (Or.inr ho)
        have hid := h o hserved x (by rw [hlater, List.find?_singleton, if_pos htouch]; rfl)
        exact absurd hid.symm (ne_pointID_of_evicted ho)

/-! ## One delta -/

section Delta

variable {cur nxt : ServedList} {current : List Entry} {r : FetchResult}

theorem lookup_afterAdded_of_not_served (hcur : cur.HeldBy current) (hd : IsDelta cur nxt r)
    {p : String} (hp : p ∉ nxt.ids) : (afterAdded current r).lookup p = none := by
  have hadded : p ∉ r.added.map Entry.pointID := by
    intro h
    obtain ⟨e, he, rfl⟩ := List.mem_map.mp h
    exact hp (List.mem_map_of_mem (List.mem_of_mem_filter (hd.added.mem_iff.mp he)))
  rw [afterAdded, Dict.lookup_insertAll_of_not_mem hadded, Dict.lookup_foldl_erase]
  by_cases hold : p ∈ cur.ids
  · have hrem : p ∈ r.removed := by
      rw [hd.removed.mem_iff, List.mem_filter]
      exact ⟨hold, decide_eq_true hp⟩
    rw [if_pos hrem]
  · rw [Dict.lookup_insertAll_of_not_mem (mt hcur.mem_ids.mp hold), AList.lookup_empty, ite_self]

theorem lookup_afterAdded_of_served (hcur : cur.HeldBy current) (hd : IsDelta cur nxt r)
    {e : Entry} (he : e ∈ nxt.entries) (hch : e ∉ r.changed) :
    (afterAdded current r).lookup e.pointID = some e := by
  have haddnd : (r.added.map Entry.pointID).Nodup := by
    rw [(hd.added.map Entry.pointID).nodup_iff]
    exact nxt.nodup_ids.sublist (List.filter_sublist.map _)
  by_cases hnew : e.pointID ∈ cur.ids
  · have hadded : e.pointID ∉ r.added.map Entry.pointID := by
      intro h
      obtain ⟨x, hx, hid⟩ := List.mem_map.mp h
      have hxnew := (List.mem_filter.mp (hd.added.mem_iff.mp hx)).2
      exact of_decide_eq_true hxnew (hid ▸ hnew)
    have hrem : e.pointID ∉ r.removed := by
      rw [hd.removed.mem_iff, List.mem_filter]
      rintro ⟨-, hgone⟩
      exact of_decide_eq_true hgone (List.mem_map_of_mem he)
    have hsame : e ∈ current := by
      rw [hcur.2]
      by_contra hdiff
      exact hch (hd.changed.mem_iff.mpr (List.mem_filter.mpr ⟨he, decide_eq_true ⟨hnew, hdiff⟩⟩))
    rw [afterAdded, Dict.lookup_insertAll_of_not_mem hadded, Dict.lookup_foldl_erase,
      if_neg hrem, Dict.lookup_insertAll_of_mem hcur.nodup_ids hsame]
    rfl
  · have hadd : e ∈ r.added :=
      hd.added.mem_iff.mpr (List.mem_filter.mpr ⟨he, decide_eq_true hnew⟩)
    rw [afterAdded, Dict.lookup_insertAll_of_mem haddnd hadd]
    rfl

theorem mem_served_of_changed (hd : IsDelta cur nxt r) {e : Entry} (he : e ∈ r.changed) :
    e ∈ nxt.entries :=
  List.mem_of_mem_filter (hd.changed.mem_iff.mp he)

theorem lookup_afterChanged_iff (hcur : cur.HeldBy current) (hd : IsDelta cur nxt r) :
    (∀ p, (afterChanged current r).lookup p = nxt.find p) ↔
      KeepsOwners current nxt r.changed := by
  rw [keepsOwners_iff]
  refine forall_congr' fun p => ?_
  rw [afterChanged, lookup_foldl_applyChanged]
  cases hlast : r.changed.reverse.find? (touches current p) with
  | none =>
    -- nothing touches `p`: the earlier passes already left what is served
    simp only [reduceCtorEq, false_implies, implies_true, iff_true]
    cases hserved : nxt.find p with
    | none => exact lookup_afterAdded_of_not_served hcur hd (nxt.find_eq_none_iff.mp hserved)
    | some e =>
      obtain ⟨he, rfl⟩ := nxt.find_eq_some_iff.mp hserved
      refine lookup_afterAdded_of_served hcur hd he fun hch => ?_
      exact List.find?_eq_none.mp hlast e (List.mem_reverse.mpr hch)
        (decide_eq_true (Or.inl rfl))
  | some e =>
    have hch := List.mem_reverse.mp (List.mem_of_find?_eq_some hlast)
    simp only [Option.some.injEq, forall_eq']
    by_cases hid : e.pointID = p
    · have hfind := nxt.find_eq_some_iff.mpr ⟨mem_served_of_changed hd hch, hid⟩
      simp [hid, hfind]
    · rw [if_neg hid, eq_comm, nxt.find_eq_none_iff]
      exact ⟨fun h hp => absurd hp h, fun h hp => hid (h hp)⟩

theorem keyedBy_afterChanged (current : List Entry) (r : FetchResult) :
    Dict.KeyedBy Entry.pointID (afterChanged current r) := by
  have hcur : Dict.KeyedBy Entry.pointID (Dict.insertAll Entry.pointID id current ∅) :=
    Dict.keyedBy_empty.insertAll current
  have hremoved := hcur.foldl (fun _ p h => h.erase p) r.removed
  have hadded := hremoved.insertAll r.added
  refine hadded.foldl (fun m e hm => ?_) r.changed
  rw [applyChanged]
  split
  · exact (hm.erase _).insert e
  · exact hm.insert e

/-- Applying a delta gives the served list exactly when every served point that
    a changed entry deletes is written again later. -/
theorem applyDiff_heldBy_iff (hcur : cur.HeldBy current) (hd : IsDelta cur nxt r) :
    nxt.HeldBy (applyDiff current r) ↔ KeepsOwners current nxt r.changed := by
  have hkeyed := keyedBy_afterChanged current r
  rw [← lookup_afterChanged_iff hcur hd, ServedList.HeldBy, applyDiff]
  simp only [hkeyed.values_nodup, true_and, hkeyed.mem_values_iff]
  constructor
  · intro h p
    ext e
    rw [nxt.find_eq_some_iff]
    constructor
    · intro hp
      have hid := hkeyed p e hp
      exact ⟨(h e).mp (hid ▸ hp), hid⟩
    · rintro ⟨he, rfl⟩
      exact (h e).mpr he
  · intro h e
    rw [h, nxt.find_eq_some_iff]
    exact ⟨And.left, fun he => ⟨he, rfl⟩⟩

/-- `sync` with a delta leaves the resolver at the list its revision names
    exactly under the same condition. -/
theorem sync_delta_heldBy_iff (l : Loop) (known : String) (hd : IsDelta cur nxt r) :
    (nxt.HeldBy (applyDiff cur.entries r) ∧
      nxt.HeldBy (l.sync ⟨known, cur.entries⟩ (.ok (some r))).1.resolver.snapshot ∧
      (l.sync ⟨known, cur.entries⟩ (.ok (some r))).1.appliedRevision = r.etag) ↔
      KeepsOwners cur.entries nxt r.changed := by
  rw [← applyDiff_heldBy_iff cur.heldBy_self hd]
  simp only [Loop.sync, Loop.appliedRevision, FetchResult.onto, hd.not_full, Bool.false_eq_true,
    if_false, SyncedResolver.snapshot_update, and_true, and_self]

end Delta

def placed (a b : String) (h : a ≠ b) : ServedList where
  entries := [{ connectorID := "c", localID := a, pointID := "A" },
    { connectorID := "c", localID := b, pointID := "B" }]
  nodup_ids := by simp
  nodup_addrs := by simp [addressed, h]

def moved (nxt : ServedList) : FetchResult :=
  { etag := "r2", full := false, changed := nxt.entries }

/-- Two points that swap their addresses: the second changed entry deletes the
    first, and `A` is lost. -/
theorem not_heldBy_swap :
    IsDelta (placed "l1" "l2" (by decide)) (placed "l2" "l1" (by decide))
        (moved (placed "l2" "l1" (by decide))) ∧
      applyDiff (placed "l1" "l2" (by decide)).entries (moved (placed "l2" "l1" (by decide)))
        = [{ connectorID := "c", localID := "l1", pointID := "B" }] ∧
      ¬ (placed "l2" "l1" (by decide)).HeldBy
        (applyDiff (placed "l1" "l2" (by decide)).entries
          (moved (placed "l2" "l1" (by decide)))) := by
  have hdiff : applyDiff (placed "l1" "l2" (by decide)).entries
      (moved (placed "l2" "l1" (by decide)))
        = [{ connectorID := "c", localID := "l1", pointID := "B" }] := by decide
  refine ⟨⟨rfl, by decide, by decide, by decide⟩, hdiff, ?_⟩
  rw [hdiff]
  rintro ⟨-, hmem⟩
  have hA := (hmem { connectorID := "c", localID := "l2", pointID := "A" }).mpr (by decide)
  revert hA
  decide

/-- Moving `A` to the address `B` leaves works when `B` comes after `A`. -/
theorem heldBy_move :
    (placed "l2" "l3" (by decide)).HeldBy
      (applyDiff (placed "l1" "l2" (by decide)).entries
        (moved (placed "l2" "l3" (by decide)))) :=
  ((sync_delta_heldBy_iff ⟨.new, ""⟩ "r1" ⟨rfl, by decide, by decide, by decide⟩).mpr
    (by decide)).1

end NexusGateway.PointSync
