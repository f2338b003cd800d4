/-
Finite maps with an iteration order, over Mathlib's association lists.

`Dict κ ν` is the non-dependent `AList`: the list of entries carries the
proof that no key occurs twice.  The lemmas state lookups after an update
as a case split on the key, which is the form the loops over maps are
reasoned about in, and relate iterating over the values to lookups.
-/

import Mathlib.Algebra.Ring.Nat
import Mathlib.Data.List.AList

namespace NexusGateway.Lib

/-- A finite map from `κ` to `ν`. -/
abbrev Dict (κ ν : Type _) := AList (fun _ : κ => ν)

namespace Dict

variable {κ ν : Type _}

def values (d : Dict κ ν) : List ν := d.entries.map Sigma.snd

variable [DecidableEq κ]

theorem lookup_insert_ite (d : Dict κ ν) (k k' : κ) (v : ν) :
    AList.lookup k (AList.insert k' v d) = if k = k' then some v else AList.lookup k d := by
  by_cases h : k = k'
  · subst h
    simp
  · rw [if_neg h, AList.lookup_insert_ne h]

theorem lookup_erase_ite (d : Dict κ ν) (k k' : κ) :
    AList.lookup k (AList.erase k' d) = if k = k' then none else AList.lookup k d := by
  by_cases h : k = k'
  · subst h
    simp
  · rw [if_neg h, AList.lookup_erase_ne h]

def adjust (k : κ) (f : ν → ν) (d : Dict κ ν) : Dict κ ν :=
  match AList.lookup k d with
  | some v => AList.insert k (f v) d
  | none => d

theorem lookup_adjust (d : Dict κ ν) (k k' : κ) (f : ν → ν) :
    AList.lookup k (adjust k' f d)
      = if k = k' then (AList.lookup k d).map f else AList.lookup k d := by
  unfold adjust
  by_cases hk : k = k'
  · subst hk
    cases hv : AList.lookup k d with
    | some v => simp
    | none => simp [hv]
  · cases AList.lookup k' d with
    | some v | none => simp [hk]

/-! ## Filling a map from a list -/

variable {α : Type _}

theorem find?_reverse_concat (p : α → Bool) (xs : List α) (x : α) :
    (xs ++ [x]).reverse.find? p = if p x = true then some x else xs.reverse.find? p := by
  rw [List.reverse_append, List.reverse_singleton, List.singleton_append, List.find?_cons]
  cases p x with
  | true | false => rfl

/-- Store every element of a list under its key, in order: the last writer of a
    key wins. -/
def insertAll (key : α → κ) (val : α → ν) (xs : List α) (d : Dict κ ν) : Dict κ ν :=
  xs.foldl (fun d x => d.insert (key x) (val x)) d

theorem lookup_insertAll (key : α → κ) (val : α → ν) (xs : List α) (d : Dict κ ν) (k : κ) :
    AList.lookup k (insertAll key val xs d)
      = ((xs.reverse.find? fun x => key x = k).map val).or (AList.lookup k d) := by
  induction xs generalizing d with
  | nil => simp [insertAll]
  | cons x xs ih =>
    have hstep : insertAll key val (x :: xs) d
        = insertAll key val xs (d.insert (key x) (val x)) := rfl
    rw [hstep, ih, lookup_insert_ite, List.reverse_cons, List.find?_append]
    cases hfind : xs.reverse.find? fun x => key x = k with
    | some y => simp
    | none =>
      by_cases hk : k = key x
      · simp [hk]
      · have hk' : ¬ key x = k := fun h => hk h.symm
        simp [hk, hk']

theorem exists_of_lookup_insertAll {key : α → κ} {val : α → ν} {xs : List α} {k : κ} {v : ν}
    (h : AList.lookup k (insertAll key val xs ∅) = some v) : ∃ x ∈ xs, key x = k ∧ val x = v := by
  rw [lookup_insertAll, AList.lookup_empty, Option.or_none, Option.map_eq_some_iff] at h
  obtain ⟨x, hx, hv⟩ := h
  have hkey := List.find?_some hx
  exact ⟨x, List.mem_reverse.mp (List.mem_of_find?_eq_some hx), of_decide_eq_true hkey, hv⟩

theorem lookup_insertAll_of_mem {key : α → κ} {val : α → ν} {xs : List α} {d : Dict κ ν} {x : α}
    (hnd : (xs.map key).Nodup) (hx : x ∈ xs) :
    AList.lookup (key x) (insertAll key val xs d) = some (val x) := by
  have hsome : (xs.reverse.find? fun y => key y = key x).isSome := by
    rw [List.find?_isSome]
    exact ⟨x, List.mem_reverse.mpr hx, decide_eq_true rfl⟩
  obtain ⟨y, hy⟩ := Option.isSome_iff_exists.mp hsome
  have hkey := List.find?_some hy
  have hmem := List.mem_reverse.mp (List.mem_of_find?_eq_some hy)
  have hyx := List.inj_on_of_nodup_map hnd hmem hx (of_decide_eq_true hkey)
  rw [lookup_insertAll, hy, hyx, Option.map_some, Option.some_or]

theorem lookup_insertAll_of_not_mem {key : α → κ} {val : α → ν} {xs : List α} {d : Dict κ ν}
    {k : κ} (hk : k ∉ xs.map key) :
    AList.lookup k (insertAll key val xs d) = AList.lookup k d := by
  have hnone : (xs.reverse.find? fun x => key x = k) = none := by
    rw [List.find?_eq_none]
    intro x hx hkey
    exact hk (List.mem_map.mpr ⟨x, List.mem_reverse.mp hx, of_decide_eq_true hkey⟩)
  rw [lookup_insertAll, hnone, Option.map_none, Option.none_or]

theorem lookup_insertAll_perm {key : α → κ} {val : α → ν} {xs ys : List α} (hperm : xs.Perm ys)
    (hsame : ∀ x ∈ xs, ∀ y ∈ xs, key x = key y → val x = val y) (d : Dict κ ν) (k : κ) :
    AList.lookup k (insertAll key val xs d) = AList.lookup k (insertAll key val ys d) := by
  rw [lookup_insertAll, lookup_insertAll]
  cases hx : xs.reverse.find? fun x => key x = k with
  | none =>
    have hy : (ys.reverse.find? fun y => key y = k) = none := by
      rw [List.find?_eq_none] at hx ⊢
      intro y hmem
      exact hx y (List.mem_reverse.mpr (hperm.mem_iff.mpr (List.mem_reverse.mp hmem)))
    rw [hy]
  | some x =>
    have hxs : x ∈ xs := List.mem_reverse.mp (List.mem_of_find?_eq_some hx)
    have hxk := List.find?_some hx
    have hsome : (ys.reverse.find? fun y => key y = k).isSome := by
      rw [List.find?_isSome]
      exact ⟨x, List.mem_reverse.mpr (hperm.mem_iff.mp hxs), hxk⟩
    obtain ⟨y, hy⟩ := Option.isSome_iff_exists.mp hsome
    have hys : y ∈ xs :=
      hperm.mem_iff.mpr (List.mem_reverse.mp (List.mem_of_find?_eq_some hy))
    have hyk := List.find?_some hy
    have hkeys : key x = key y := (of_decide_eq_true hxk).trans (of_decide_eq_true hyk).symm
    rw [hy, Option.map_some, Option.map_some, hsame x hxs y hys hkeys]

theorem lookup_foldl_erase (ks : List κ) (d : Dict κ ν) (k : κ) :
    AList.lookup k (ks.foldl (fun d k => d.erase k) d)
      = if k ∈ ks then none else AList.lookup k d := by
  induction ks generalizing d with
  | nil => simp
  | cons k' ks ih =>
    rw [List.foldl_cons, ih, lookup_erase_ite]
    by_cases hk : k ∈ ks
    · simp [hk]
    · simp [hk]

theorem isSome_lookup_insertAll (key : α → κ) (val : α → ν) {xs : List α} (d : Dict κ ν) {x : α}
    (hx : x ∈ xs) : (AList.lookup (key x) (insertAll key val xs d)).isSome := by
  rw [lookup_insertAll, Option.isSome_or, Option.isSome_map, Bool.or_eq_true, List.find?_isSome]
  exact Or.inl ⟨x, List.mem_reverse.mpr hx, decide_eq_true rfl⟩

/-! ## Iteration -/

theorem mem_map_filter_entries {β : Type _} {d : Dict κ ν}
    {cond : (Sigma fun _ : κ => ν) → Bool} {f : (Sigma fun _ : κ => ν) → β} {b : β} :
    b ∈ (d.entries.filter cond).map f ↔
      ∃ k v, AList.lookup k d = some v ∧ cond ⟨k, v⟩ = true ∧ f ⟨k, v⟩ = b := by
  rw [List.mem_map]
  constructor
  · rintro ⟨⟨k, v⟩, hmem, hb⟩
    obtain ⟨hentry, hcond⟩ := List.mem_filter.mp hmem
    exact ⟨k, v, AList.mem_lookup_iff.mpr hentry, hcond, hb⟩
  · rintro ⟨k, v, hlookup, hcond, hb⟩
    exact ⟨⟨k, v⟩, List.mem_filter.mpr ⟨AList.mem_lookup_iff.mp hlookup, hcond⟩, hb⟩

theorem mem_values_iff {d : Dict κ ν} {v : ν} :
    v ∈ d.values ↔ ∃ k, AList.lookup k d = some v := by
  constructor
  · intro h
    obtain ⟨⟨k, w⟩, hmem, hw⟩ := List.mem_map.mp h
    refine ⟨k, ?_⟩
    rw [← hw]
    exact AList.mem_lookup_iff.mpr hmem
  · rintro ⟨k, hk⟩
    exact List.mem_map.mpr ⟨⟨k, v⟩, AList.mem_lookup_iff.mp hk, rfl⟩

/-! ## Sums -/

theorem sum_kerase (k : κ) (l : List (Sigma fun _ : κ => Nat)) :
    ((l.kerase k).map Sigma.snd).sum + (l.dlookup k).getD 0 = (l.map Sigma.snd).sum := by
  induction l with
  | nil => rfl
  | cons e l ih =>
    by_cases hk : k = e.1
    · subst hk
      rw [List.kerase_cons_eq rfl, List.dlookup_cons_eq]
      simp only [List.map_cons, List.sum_cons, Option.getD_some]
      omega
    · rw [List.kerase_cons_ne hk, List.dlookup_cons_ne _ _ hk]
      simp only [List.map_cons, List.sum_cons]
      omega

theorem sum_values_insert_add (d : Dict κ Nat) (k : κ) (n : Nat) :
    (values (AList.insert k ((AList.lookup k d).getD 0 + n) d)).sum = d.values.sum + n := by
  have hsum := sum_kerase k d.entries
  have hvalues : values (AList.insert k ((AList.lookup k d).getD 0 + n) d) =
      ((AList.lookup k d).getD 0 + n) :: (d.entries.kerase k).map Sigma.snd := rfl
  have hlookup : (AList.lookup k d).getD 0 = (d.entries.dlookup k).getD 0 := rfl
  rw [hvalues, List.sum_cons, hlookup, values]
  omega

/-! ## Maps keyed by a function of the value -/

def KeyedBy (f : ν → κ) (d : Dict κ ν) : Prop :=
  ∀ k v, AList.lookup k d = some v → f v = k

variable {f : ν → κ} {d : Dict κ ν}

theorem keyedBy_empty : KeyedBy f (∅ : Dict κ ν) := by
  intro k v h
  rw [AList.lookup_empty] at h
  cases h

theorem KeyedBy.insert (hd : KeyedBy f d) (v : ν) : KeyedBy f (AList.insert (f v) v d) := by
  intro k w h
  rw [lookup_insert_ite] at h
  split at h
  · next hk =>
    rw [Option.some.injEq] at h
    rw [← h, hk]
  · exact hd k w h

theorem KeyedBy.erase (hd : KeyedBy f d) (k' : κ) : KeyedBy f (AList.erase k' d) := by
  intro k w h
  rw [lookup_erase_ite] at h
  split at h
  · cases h
  · exact hd k w h

theorem KeyedBy.foldl {step : Dict κ ν → α → Dict κ ν} (hd : KeyedBy f d)
    (hstep : ∀ d x, KeyedBy f d → KeyedBy f (step d x)) (xs : List α) :
    KeyedBy f (xs.foldl step d) := by
  induction xs generalizing d with
  | nil => exact hd
  | cons x xs ih => exact ih (hstep d x hd)

theorem KeyedBy.nodup_map_values (hd : KeyedBy f d) : (d.values.map f).Nodup := by
  have hkeys : d.values.map f = d.keys := by
    rw [values, List.map_map]
    refine List.map_congr_left ?_
    rintro ⟨k, v⟩ hmem
    exact hd k v (AList.mem_lookup_iff.mpr hmem)
  rw [hkeys]
  exact d.keys_nodup

theorem KeyedBy.values_nodup (hd : KeyedBy f d) : d.values.Nodup := hd.nodup_map_values.of_map

theorem KeyedBy.insertAll (hd : KeyedBy f d) (vs : List ν) : KeyedBy f (insertAll f id vs d) :=
  hd.foldl (fun _ v hd => hd.insert v) vs

theorem KeyedBy.mem_values_iff (hd : KeyedBy f d) {v : ν} :
    v ∈ d.values ↔ AList.lookup (f v) d = some v := by
  rw [Dict.mem_values_iff]
  constructor
  · rintro ⟨k, hk⟩
    rw [hd k v hk]
    exact hk
  · intro h
    exact ⟨_, h⟩

theorem KeyedBy.lookup_insertAll_perm {ν' : Type _} {f' : ν' → κ} {g : ν → ν'} (hd : KeyedBy f d)
    (hg : ∀ v, f' (g v) = f v) {vs : List ν'} (hvs : vs.Perm (d.values.map g)) (k : κ) :
    AList.lookup k (Dict.insertAll f' id vs ∅) = (AList.lookup k d).map g := by
  have hkeys : (vs.map f').Perm (d.values.map f) := by
    have hmap := hvs.map f'
    rwa [List.map_map, show f' ∘ g = f from funext hg] at hmap
  have hnodup : (vs.map f').Nodup := hkeys.nodup_iff.mpr hd.nodup_map_values
  cases hv : AList.lookup k d with
  | some v =>
    obtain rfl := hd k v hv
    have hmem : g v ∈ vs := hvs.mem_iff.mpr (List.mem_map_of_mem (hd.mem_values_iff.mpr hv))
    rw [← hg v, lookup_insertAll_of_mem hnodup hmem]
    rfl
  | none =>
    rw [lookup_insertAll_of_not_mem, AList.lookup_empty]
    · rfl
    rw [hkeys.mem_iff]
    rintro hk
    obtain ⟨v, hmem, rfl⟩ := List.mem_map.mp hk
    rw [hd.mem_values_iff.mp hmem] at hv
    cases hv

end Dict

end NexusGateway.Lib
