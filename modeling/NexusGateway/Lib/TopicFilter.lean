/-
MQTT 5.0 topic filters (§4.7): the matching relation between a filter and a
topic name, both split into levels at `/`, and language inclusion between
filters.

* `+` matches exactly one level, a final `#` matches its parent level and
  everything below it, every other level matches itself.
* A filter that starts with a wildcard matches no topic whose first level
  starts with `$`.

A filter can also be compared with another filter by reading the second one
as a topic.  `Matches.trans_of_not_plusMeetsHash` says what that comparison is
worth: it gives inclusion of the topics the filters match, unless a `+` of
the first filter stands where the second has its `#`.
-/

import Mathlib.Data.List.Basic

namespace NexusGateway.Lib.TopicFilter

/-- The levels of a filter or topic name: the text split at every `/`. -/
def levels (s : String) : List String :=
  (s.toList.splitOn '/').map String.ofList

theorem levels_ne_nil (s : String) : levels s ≠ [] := by
  intro h
  exact List.splitOn_ne_nil '/' s.toList (List.map_eq_nil_iff.mp h)

theorem levels_injective : Function.Injective levels := by
  intro s t h
  have hchars := (List.map_injective_iff.mpr fun _ _ => String.ofList_injective) h
  refine String.toList_injective ?_
  calc s.toList = ['/'].intercalate (s.toList.splitOn '/') := (List.intercalate_splitOn '/').symm
    _ = ['/'].intercalate (t.toList.splitOn '/') := by rw [hchars]
    _ = t.toList := List.intercalate_splitOn '/'

theorem mem_intersperse {α : Type} {x : α} (sep : α) {xs : List α} (h : x ∈ xs) :
    x ∈ xs.intersperse sep := by
  fun_induction List.intersperse sep xs with
  | case1 => cases h
  | case2 y => exact h
  | case3 y ys hne ih =>
    rcases List.mem_cons.mp h with rfl | htail
    · exact List.mem_cons_self
    · exact List.mem_cons_of_mem _ (List.mem_cons_of_mem _ (ih htail))

theorem mem_of_mem_level {s l : String} {c : Char} (hl : l ∈ levels s) (hc : c ∈ l.toList) :
    c ∈ s.toList := by
  obtain ⟨cs, hcs, rfl⟩ := List.mem_map.mp hl
  rw [String.toList_ofList] at hc
  have hjoined : c ∈ ['/'].intercalate (s.toList.splitOn '/') :=
    List.mem_flatten_of_mem (mem_intersperse _ hcs) hc
  rw [List.intercalate_splitOn] at hjoined
  exact hjoined

def IsWildcard (l : String) : Prop := l = "+" ∨ l = "#"

instance (l : String) : Decidable (IsWildcard l) :=
  inferInstanceAs (Decidable (_ ∨ _))

/-- A topic filter: not empty, wildcard characters only as whole levels, and `#` only as
    the last one. -/
structure IsFilter (s : String) : Prop where
  ne_empty : s ≠ ""
  plus : ∀ l ∈ levels s, '+' ∈ l.toList → l = "+"
  hash : ∀ l ∈ levels s, '#' ∈ l.toList → l = "#"
  last : "#" ∉ (levels s).dropLast

structure IsTopicName (s : String) : Prop where
  ne_empty : s ≠ ""
  plus : '+' ∉ s.toList
  hash : '#' ∉ s.toList

theorem IsTopicName.literal {s l : String} (h : IsTopicName s) (hl : l ∈ levels s) :
    ¬ IsWildcard l := by
  rintro (rfl | rfl)
  · exact h.plus (mem_of_mem_level hl (by decide))
  · exact h.hash (mem_of_mem_level hl (by decide))

inductive Matches : List String → List String → Prop
  | nil : Matches [] []
  | hash (ts : List String) : Matches ["#"] ts
  | plus {fs ts : List String} (t : String) : Matches fs ts → Matches ("+" :: fs) (t :: ts)
  | literal {fs ts : List String} {l : String} : ¬ IsWildcard l →
      Matches fs ts → Matches (l :: fs) (l :: ts)

def Reserved (ls : List String) : Prop :=
  ∃ l ∈ ls.head?, l.toList.head? = some '$'

def TopicMatches (filter topic : String) : Prop :=
  (Reserved (levels topic) → ∀ l ∈ (levels filter).head?, ¬ IsWildcard l) ∧
    Matches (levels filter) (levels topic)

def PlusMeetsHash : List String → List String → Prop
  | f :: fs, g :: gs => (f = "+" ∧ g = "#") ∨ PlusMeetsHash fs gs
  | _, _ => False

theorem Matches.refl {ts : List String} (h : ∀ l ∈ ts, ¬ IsWildcard l) : Matches ts ts := by
  induction ts with
  | nil => exact .nil
  | cons t ts ih =>
    refine .literal (h t (List.mem_cons_self ..)) (ih ?_)
    exact fun l hl => h l (List.mem_cons_of_mem _ hl)

theorem Matches.eq_of_literal {fs ts : List String} (h : Matches fs ts)
    (hlit : ∀ l ∈ fs, ¬ IsWildcard l) : fs = ts := by
  induction h with
  | nil => rfl
  | hash ts => exact absurd (Or.inr rfl) (hlit "#" (List.mem_cons_self ..))
  | plus t _ _ => exact absurd (Or.inl rfl) (hlit "+" (List.mem_cons_self ..))
  | literal _ _ ih => rw [ih fun l hl => hlit l (List.mem_cons_of_mem _ hl)]

/-- Reading `gs` as a topic, a match `fs ∋ gs` is inclusion of the matched
    topics unless a `+` of `fs` meets the `#` of `gs`: there `fs` asks for one
    level where `gs` accepts any number of them. -/
theorem Matches.trans_of_not_plusMeetsHash {fs gs ts : List String}
    (hfg : Matches fs gs) (hno : ¬ PlusMeetsHash fs gs) (hgt : Matches gs ts) :
    Matches fs ts := by
  induction hfg generalizing ts with
  | nil => exact hgt
  | hash _ => exact .hash ts
  | @plus fs gs g _ ih =>
    simp only [PlusMeetsHash, true_and, not_or] at hno
    cases hgt with
    | hash => exact absurd rfl hno.1
    | plus t hrest => exact .plus t (ih hno.2 hrest)
    | literal _ hrest => exact .plus _ (ih hno.2 hrest)
  | @literal fs gs l hl _ ih =>
    simp only [PlusMeetsHash, not_or] at hno
    cases hgt with
    | hash => exact absurd (Or.inr rfl) hl
    | plus => exact absurd (Or.inl rfl) hl
    | literal _ hrest => exact .literal hl (ih hno.2 hrest)

theorem Matches.head_eq {fs ts : List String} {l : String} (h : Matches fs ts)
    (hl : fs.head? = some l) (hlit : ¬ IsWildcard l) : ts.head? = some l := by
  cases h with
  | nil => cases hl
  | hash =>
    cases hl
    exact absurd (Or.inr rfl) hlit
  | plus =>
    cases hl
    exact absurd (Or.inl rfl) hlit
  | literal _ _ => exact hl

end NexusGateway.Lib.TopicFilter
