/-
Finite runs of a labelled transition system, and the induction rules the
safety proofs of this development are assembled from.

A system is a relation `R s a t` — action `a` takes state `s` to state `t`.
`Run R s as t` is the finite runs, with the actions oldest first; it grows
at the end, so that a proof by induction looks at the last action.

Three rules cover every use: an inductive invariant (`Run.invariant`), a
preorder that every step respects (`Run.mono`), and the executable form of
a run of a partial step function (`Run.of_foldlM`), which is how concrete
schedules are exhibited.  `Meeting` restricts a system to the steps that
meet a condition on the state before them.
-/

import Mathlib.Data.List.Induction

namespace NexusGateway.Lib

variable {σ α : Type _}

/-- `Run R s as t`: the actions `as`, oldest first, lead from `s` to `t`. -/
inductive Run (R : σ → α → σ → Prop) : σ → List α → σ → Prop
  | nil (s : σ) : Run R s [] s
  | snoc {s t u : σ} {as : List α} {a : α} :
      Run R s as t → R t a u → Run R s (as ++ [a]) u

namespace Run

variable {R : σ → α → σ → Prop} {s t u : σ} {as bs : List α} {a : α}

theorem single (h : R s a t) : Run R s [a] t := by
  have hrun : Run R s ([] ++ [a]) t := snoc (nil s) h
  exact hrun

theorem trans (h₁ : Run R s as t) (h₂ : Run R t bs u) : Run R s (as ++ bs) u := by
  induction h₂ with
  | nil => simpa using h₁
  | snoc _ hstep ih =>
    rw [← List.append_assoc]
    exact snoc ih hstep

theorem cons (h : R s a t) (hrun : Run R t as u) : Run R s (a :: as) u :=
  (single h).trans hrun

theorem invariant {I : σ → Prop} (hrun : Run R s as t) (hinit : I s)
    (hstep : ∀ s a t, I s → R s a t → I t) : I t := by
  induction hrun with
  | nil => exact hinit
  | snoc _ hR ih => exact hstep _ _ _ ih hR

theorem mono {I : σ → Prop} {le : σ → σ → Prop} (hrun : Run R s as t) (hinit : I s)
    (hI : ∀ s a t, I s → R s a t → I t)
    (hrefl : ∀ s, le s s) (htrans : ∀ s t u, le s t → le t u → le s u)
    (hle : ∀ s a t, I s → R s a t → le s t) : le s t := by
  induction hrun with
  | nil => exact hrefl _
  | snoc hpre hR ih =>
    exact htrans _ _ _ ih (hle _ _ _ (hpre.invariant hinit hI) hR)

theorem of_foldlM {step : σ → α → Option σ} (h : as.foldlM step s = some t) :
    Run (fun s a t => step s a = some t) s as t := by
  induction as generalizing s with
  | nil =>
    rw [List.foldlM_nil] at h
    cases h
    exact nil _
  | cons a as ih =>
    rw [List.foldlM_cons] at h
    cases hs : step s a with
    | none => simp [hs] at h
    | some m =>
      rw [hs] at h
      exact cons hs (ih h)

end Run

/-! ## Runs whose steps all meet a condition -/

/-- The steps of `R` whose action meets `ok` in the state before the step. -/
def Meeting (R : σ → α → σ → Prop) (ok : σ → α → Prop) (s : σ) (a : α) (t : σ) : Prop :=
  R s a t ∧ ok s a

namespace Run

variable {R : σ → α → σ → Prop} {ok : σ → α → Prop} {s t : σ} {as : List α}

theorem meeting_of_forall (h : Run R s as t) (hok : ∀ a ∈ as, ∀ s, ok s a) :
    Run (Meeting R ok) s as t := by
  induction h with
  | nil => exact nil _
  | snoc _ hstep ih =>
    refine snoc (ih fun a ha => hok a (List.mem_append_left _ ha)) ⟨hstep, ?_⟩
    exact hok _ (List.mem_append_right _ (List.mem_singleton.mpr rfl)) _

theorem meeting_of_foldlM {step : σ → α → Option σ} [∀ s a, Decidable (ok s a)]
    (h : as.foldlM (fun s a => if ok s a then step s a else none) s = some t) :
    Run (Meeting (fun s a t => step s a = some t) ok) s as t := by
  have hrun := of_foldlM h
  clear h
  induction hrun with
  | nil => exact nil _
  | snoc _ hstep ih =>
    split at hstep
    · next hok => exact snoc ih ⟨hstep, hok⟩
    · cases hstep

end Run

/-! ## Logs that grow at the end -/

theorem snoc_eq_split {l pre post : List α} {e x : α} (h : l ++ [e] = pre ++ x :: post) :
    (post = [] ∧ pre = l ∧ x = e) ∨ ∃ post', post = post' ++ [e] ∧ l = pre ++ x :: post' := by
  rcases List.eq_nil_or_concat post with rfl | ⟨post', y, rfl⟩
  · obtain ⟨hl, he⟩ := List.append_inj' h rfl
    simp only [List.cons.injEq, and_true] at he
    exact Or.inl ⟨rfl, hl.symm, he.symm⟩
  · rw [List.concat_eq_append] at h ⊢
    rw [← List.cons_append, ← List.append_assoc] at h
    obtain ⟨hl, he⟩ := List.append_inj' h rfl
    simp only [List.cons.injEq, and_true] at he
    exact Or.inr ⟨post', by rw [he], hl⟩

/-- Every element of the log was admissible after what stood before it. -/
def EachAfter (ok : List α → α → Prop) (log : List α) : Prop :=
  ∀ pre x post, log = pre ++ x :: post → ok pre x

theorem eachAfter_nil {ok : List α → α → Prop} : EachAfter ok [] := by
  intro pre x post h
  simp at h

theorem EachAfter.snoc {ok : List α → α → Prop} {log : List α} {e : α} (h : EachAfter ok log)
    (he : ok log e) : EachAfter ok (log ++ [e]) := by
  intro pre x post hsplit
  rcases snoc_eq_split hsplit with ⟨-, rfl, rfl⟩ | ⟨post', -, hbefore⟩
  · exact he
  · exact h pre x post' hbefore

theorem EachAfter.of_append {ok : List α → α → Prop} {log rest : List α}
    (h : EachAfter ok (log ++ rest)) : EachAfter ok log := by
  intro pre x post hsplit
  exact h pre x (post ++ rest) (by rw [hsplit, List.append_assoc, List.cons_append])

theorem EachAfter.last {ok : List α → α → Prop} {log : List α} {e : α}
    (h : EachAfter ok (log ++ [e])) : ok log e :=
  h log e [] rfl

theorem exists_split_of_countP {p : α → Bool} {l : List α} {n : Nat}
    (h : l.countP p = n + 1) :
    ∃ pre x post, l = pre ++ x :: post ∧ p x = true ∧ pre.countP p = n := by
  induction l using List.reverseRecOn with
  | nil => simp at h
  | append_singleton l x ih =>
    rw [List.countP_append, List.countP_singleton] at h
    split at h
    · next hx => exact ⟨l, x, [], rfl, hx, by omega⟩
    · obtain ⟨pre, y, post, rfl, hy, hn⟩ := ih h
      exact ⟨pre, y, post ++ [x], by simp, hy, hn⟩

end NexusGateway.Lib
