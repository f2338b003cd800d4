/-
Maps iterated in the order in which their keys were first stored, as Python's
`dict` is.  Storing under a key that is there changes its value and keeps its
place; a new key goes to the end.

The entries carry the proof that no key occurs twice, so that a lookup is
membership of an entry (`mem_set` is the form the proofs use).
-/

import Mathlib.Data.List.Nodup

namespace NexusGateway.Lib

structure OrderedDict (κ ν : Type _) where
  entries : List (κ × ν)
  nodup : (entries.map Prod.fst).Nodup

namespace OrderedDict

variable {κ ν : Type _}

def keys (d : OrderedDict κ ν) : List κ := d.entries.map Prod.fst

/-- `len(d)`. -/
def length (d : OrderedDict κ ν) : Nat := d.entries.length

/-- `{}`. -/
def empty : OrderedDict κ ν := ⟨[], List.nodup_nil⟩

theorem length_keys (d : OrderedDict κ ν) : d.keys.length = d.length := List.length_map _

theorem mem_keys_of_mem {d : OrderedDict κ ν} {k : κ} {v : ν} (h : (k, v) ∈ d.entries) :
    k ∈ d.keys := List.mem_map_of_mem h

theorem exists_of_mem_keys {d : OrderedDict κ ν} {k : κ} (h : k ∈ d.keys) :
    ∃ v, (k, v) ∈ d.entries := by
  obtain ⟨⟨k', v⟩, hmem, hk⟩ := List.mem_map.mp h
  cases hk
  exact ⟨v, hmem⟩

theorem eq_of_mem {d : OrderedDict κ ν} {k : κ} {v v' : ν} (h : (k, v) ∈ d.entries)
    (h' : (k, v') ∈ d.entries) : v = v' := by
  have heq := List.inj_on_of_nodup_map d.nodup h h' rfl
  exact (Prod.mk.injEq _ _ _ _ ▸ heq).2

/-! ## The oldest entry -/

theorem nodup_tail (d : OrderedDict κ ν) : (d.entries.tail.map Prod.fst).Nodup :=
  d.nodup.sublist (d.entries.tail_sublist.map Prod.fst)

/-- `del d[next(iter(d))]`. -/
def dropOldest (d : OrderedDict κ ν) : OrderedDict κ ν := ⟨d.entries.tail, d.nodup_tail⟩

/-- `next(iter(d))`, with its value. -/
def oldest? (d : OrderedDict κ ν) : Option (κ × ν) := d.entries.head?

theorem length_dropOldest (d : OrderedDict κ ν) : d.dropOldest.length = d.length - 1 :=
  List.length_tail

theorem keys_dropOldest (d : OrderedDict κ ν) : d.dropOldest.keys = d.keys.tail :=
  List.map_tail

theorem mem_dropOldest {d : OrderedDict κ ν} {old : κ × ν} (hold : d.oldest? = some old)
    (e : κ × ν) : e ∈ d.dropOldest.entries ↔ e ∈ d.entries ∧ e.1 ≠ old.1 := by
  obtain ⟨rest, hentries⟩ := List.head?_eq_some_iff.mp hold
  have hnodup := d.nodup
  rw [hentries, List.map_cons, List.nodup_cons] at hnodup
  show e ∈ d.entries.tail ↔ _
  rw [hentries, List.tail_cons, List.mem_cons]
  constructor
  · intro he
    refine ⟨Or.inr he, ?_⟩
    intro heq
    exact hnodup.1 (heq ▸ List.mem_map_of_mem he)
  · rintro ⟨heq | he, hne⟩
    · exact absurd (congrArg Prod.fst heq) hne
    · exact he

/-! ## Storing -/

variable [DecidableEq κ]

/-- The entries after `d[k] = v`. -/
def setEntries (k : κ) (v : ν) (es : List (κ × ν)) : List (κ × ν) :=
  if k ∈ es.map Prod.fst then es.map fun e => if e.1 = k then (k, v) else e
  else es ++ [(k, v)]

theorem keys_setEntries (k : κ) (v : ν) (es : List (κ × ν)) :
    (setEntries k v es).map Prod.fst
      = if k ∈ es.map Prod.fst then es.map Prod.fst else es.map Prod.fst ++ [k] := by
  unfold setEntries
  split
  · rw [List.map_map]
    apply List.map_congr_left
    intro e _
    show (if e.1 = k then (k, v) else e).1 = e.1
    split
    · next heq => exact heq.symm
    · rfl
  · rw [List.map_append, List.map_singleton]

theorem nodup_setEntries (k : κ) (v : ν) {es : List (κ × ν)} (h : (es.map Prod.fst).Nodup) :
    ((setEntries k v es).map Prod.fst).Nodup := by
  rw [keys_setEntries]
  split
  · exact h
  · next hk =>
    rw [← List.concat_eq_append]
    exact h.concat hk

/-- `d[k] = v`. -/
def set (d : OrderedDict κ ν) (k : κ) (v : ν) : OrderedDict κ ν :=
  ⟨setEntries k v d.entries, nodup_setEntries k v d.nodup⟩

theorem keys_set_of_mem {d : OrderedDict κ ν} {k : κ} (h : k ∈ d.keys) (v : ν) :
    (d.set k v).keys = d.keys := (keys_setEntries k v d.entries).trans (if_pos h)

theorem keys_set_of_not_mem {d : OrderedDict κ ν} {k : κ} (h : k ∉ d.keys) (v : ν) :
    (d.set k v).keys = d.keys ++ [k] := (keys_setEntries k v d.entries).trans (if_neg h)

theorem entries_set_of_not_mem {d : OrderedDict κ ν} {k : κ} (h : k ∉ d.keys) (v : ν) :
    (d.set k v).entries = d.entries ++ [(k, v)] := if_neg h

theorem mem_set (d : OrderedDict κ ν) (k : κ) (v : ν) (e : κ × ν) :
    e ∈ (d.set k v).entries ↔ e = (k, v) ∨ e ∈ d.entries ∧ e.1 ≠ k := by
  show e ∈ setEntries k v d.entries ↔ _
  unfold setEntries
  split
  · next hk =>
    rw [List.mem_map]
    constructor
    · rintro ⟨e', he', rfl⟩
      split
      · exact Or.inl rfl
      · next hne => exact Or.inr ⟨he', hne⟩
    · rintro (rfl | ⟨he, hne⟩)
      · obtain ⟨e', he', hk'⟩ := List.mem_map.mp hk
        exact ⟨e', he', if_pos hk'⟩
      · exact ⟨e, he, if_neg hne⟩
  · next hk =>
    rw [List.mem_append, List.mem_singleton, or_comm]
    apply or_congr_right
    constructor
    · intro he
      exact ⟨he, fun heq => hk (heq ▸ List.mem_map_of_mem he)⟩
    · exact And.left

def get? (d : OrderedDict κ ν) (k : κ) : Option ν :=
  (d.entries.find? fun e => e.1 = k).map Prod.snd

theorem get?_eq_none_iff {d : OrderedDict κ ν} {k : κ} : d.get? k = none ↔ k ∉ d.keys := by
  rw [get?, Option.map_eq_none_iff, List.find?_eq_none]
  constructor
  · intro h hk
    obtain ⟨v, hmem⟩ := exists_of_mem_keys hk
    exact h (k, v) hmem (decide_eq_true rfl)
  · intro h e he heq
    exact h (of_decide_eq_true heq ▸ mem_keys_of_mem he)

end OrderedDict

end NexusGateway.Lib
