/-
`connector/mqtt/topicmatch.go`: `filterMatches` and `hasWildcard`, and what
the first decides.  On a concrete topic it is the MQTT relation
(`filterMatches_iff`); between two filters it gives inclusion only where no
`+` meets a `#` (`TopicMatches.of_filterMatches`).
-/

import NexusGateway.Lib.TopicFilter

namespace NexusGateway.Connector.Mqtt

open Lib.TopicFilter

/-- `strings.HasPrefix(level, "$")`. -/
def hasDollar (level : String) : Bool := level.toList.head? == some '$'

/-- The level loop of `filterMatches` with its final length comparison. -/
def matchLevels : List String → List String → Bool
  | [], topicLevels => topicLevels.isEmpty
  | fl :: filterLevels, topicLevels =>
    if fl = "#" then filterLevels.isEmpty
    else match topicLevels with
      | [] => false
      | tl :: topicLevels =>
        if fl ≠ "+" ∧ fl ≠ tl then false else matchLevels filterLevels topicLevels

def filterMatches (filter topic : String) : Bool :=
  if filter = topic then true
  else if (levels topic).head?.any hasDollar && !(levels filter).head?.any hasDollar then false
  else matchLevels (levels filter) (levels topic)

def hasWildcard (filter : String) : Bool :=
  (levels filter).any fun level => level == "+" || level == "#"

/-! ## The level loop -/

theorem hasWildcard_eq_false_iff {s : String} :
    hasWildcard s = false ↔ ∀ l ∈ levels s, ¬ IsWildcard l := by
  simp [hasWildcard, IsWildcard]

theorem matches_of_matchLevels {fs ts : List String} (h : matchLevels fs ts = true) :
    Matches fs ts := by
  fun_induction matchLevels fs ts with
  | case1 ts =>
    rw [List.isEmpty_iff.mp h]
    exact .nil
  | case2 fs ts =>
    rw [List.isEmpty_iff.mp h]
    exact .hash ts
  | case3 | case4 => cases h
  | case5 f fs hhash t ts hlit ih =>
    by_cases hplus : f = "+"
    · rw [hplus]
      exact .plus t (ih h)
    · have hft : f = t := by
        by_contra hne
        exact hlit ⟨hplus, hne⟩
      rw [← hft]
      exact .literal (fun hw => hw.elim hplus hhash) (ih h)

theorem matchLevels_of_matches {fs ts : List String} (h : Matches fs ts) :
    matchLevels fs ts = true := by
  induction h with
  | nil => rfl
  | hash ts => simp [matchLevels]
  | plus t _ ih => simp [matchLevels, ih]
  | literal hlit _ ih =>
    have hhash : ¬ _ = "#" := fun hl => hlit (Or.inr hl)
    simp [matchLevels, hhash, ih]

theorem matchLevels_iff {fs ts : List String} : matchLevels fs ts = true ↔ Matches fs ts :=
  ⟨matches_of_matchLevels, matchLevels_of_matches⟩

/-! ## The `$` rule -/

theorem reserved_iff {ls : List String} : Reserved ls ↔ ls.head?.any hasDollar = true := by
  cases ls with
  | nil => simp [Reserved]
  | cons l ls => simp [Reserved, hasDollar]

theorem hasDollar_eq_false {l : String} (h : IsWildcard l) : hasDollar l = false := by
  rcases h with rfl | rfl <;> rfl

theorem topicMatches_iff_of_ne {f t : String} (hne : f ≠ t) :
    filterMatches f t = true ↔ TopicMatches f t := by
  obtain ⟨f0, fs, hf⟩ := List.exists_cons_of_ne_nil (levels_ne_nil f)
  obtain ⟨t0, ts, ht⟩ := List.exists_cons_of_ne_nil (levels_ne_nil t)
  simp only [filterMatches, if_neg hne, TopicMatches, reserved_iff, ← matchLevels_iff, hf, ht,
    List.head?_cons, Option.any_some, Option.mem_def, Option.some.injEq, forall_eq']
  by_cases hres : hasDollar t0 = true
  · by_cases hflag : hasDollar f0 = true
    · have hlit : ¬ IsWildcard f0 := by
        intro hw
        rw [hasDollar_eq_false hw] at hflag
        cases hflag
      simp [hres, hflag, hlit]
    · simp only [hres, hflag, Bool.not_false, Bool.and_self, if_true, forall_const,
        Bool.false_eq_true, false_iff, not_and]
      -- a literal first level would have to be `t0` itself, which starts with `$`
      intro hlit hm
      have h0 := (matches_of_matchLevels hm).head_eq rfl hlit
      rw [List.head?_cons, Option.some.injEq] at h0
      rw [h0] at hres
      exact hflag hres
  · simp [hres]

theorem filterMatches_iff {f t : String} (ht : hasWildcard t = false) :
    filterMatches f t = true ↔ TopicMatches f t := by
  by_cases hne : f = t
  · subst hne
    have hlit := hasWildcard_eq_false_iff.mp ht
    have hself : TopicMatches f f :=
      ⟨fun _ l hl => hlit l (List.mem_of_mem_head? hl), .refl hlit⟩
    simp [filterMatches, hself]
  · exact topicMatches_iff_of_ne hne

/-- For every topic filter and every topic name `filterMatches` decides the MQTT relation. -/
theorem filterMatches_decides : ∀ filter topic : String, IsFilter filter → IsTopicName topic →
    (filterMatches filter topic = true ↔ TopicMatches filter topic) := by
  intro filter topic _ htopic
  apply filterMatches_iff
  rw [hasWildcard_eq_false_iff]
  intro l hl
  exact htopic.literal hl

/-- `sport/#` reaches its parent level; a leading wildcard does not reach `$SYS`. -/
theorem filterMatches_decides_parent :
    TopicMatches "sport/#" "sport" ∧ ¬ TopicMatches "+/load" "$SYS/load" := by
  constructor
  · exact (filterMatches_decides "sport/#" "sport"
      ⟨by decide, by decide, by decide, by decide⟩ ⟨by decide, by decide, by decide⟩).mp (by decide)
  · intro h
    have hmatch := (filterMatches_decides "+/load" "$SYS/load"
      ⟨by decide, by decide, by decide, by decide⟩ ⟨by decide, by decide, by decide⟩).mpr h
    revert hmatch
    decide

/-! ## Comparing filters -/

/-- What a positive answer about two filters is worth: every topic of `g` is a
    topic of `f`, unless a `+` of `f` stands at the `#` of `g`. -/
theorem TopicMatches.of_filterMatches {f g t : String} (hfg : filterMatches f g = true)
    (hno : ¬ PlusMeetsHash (levels f) (levels g)) (hgt : TopicMatches g t) :
    TopicMatches f t := by
  by_cases hne : f = g
  · rw [hne]
    exact hgt
  · obtain ⟨hdollar, hm⟩ := (topicMatches_iff_of_ne hne).mp hfg
    refine ⟨fun hres => ?_, hm.trans_of_not_plusMeetsHash hno hgt.2⟩
    -- `g` matches a reserved topic, so it starts with that reserved level
    have hlit := hgt.1 hres
    obtain ⟨g0, gs, hg⟩ := List.exists_cons_of_ne_nil (levels_ne_nil g)
    rw [hg, List.head?_cons] at hlit
    have ht0 := hgt.2.head_eq (by rw [hg]; rfl) (hlit g0 rfl)
    refine hdollar ?_
    rw [reserved_iff] at hres ⊢
    rw [hg, List.head?_cons, ← ht0]
    exact hres

end NexusGateway.Connector.Mqtt
