/-
Programs over an explicit state, whose intermediate states are observable.

A `Prog σ ε α` returns a value or an error, like a function of a language
with error returns, and reports every state it wrote on the way.  The
triple

    Triple I P p Q F

says: from a state with `P`, every state `p` writes has `I`, a value `a` is
returned in a state with `Q a`, and an error `e` in a state with `F e`.
There is one rule per combinator; a proof of a whole program follows its
text.  `TripleOr` adds a way out: the triple need not hold of the runs
that end in a given set of states.
-/

import Mathlib.Tactic.Common

namespace NexusGateway.Lib

variable {σ τ ε α β : Type}

/-- What a program did: its result, the state it left, and the states it wrote,
    oldest first. -/
structure Outcome (σ ε α : Type) where
  result : Except ε α
  state : σ
  trace : List σ

/-- A program on states `σ`, with errors `ε` and values `α`. -/
def Prog (σ ε α : Type) : Type := σ → Outcome σ ε α

namespace Prog

/-! ## Combinators -/

/-- Run `p`, then `f` on its value; an error of `p` ends the program. -/
def bind (p : Prog σ ε α) (f : α → Prog σ ε β) : Prog σ ε β := fun s =>
  match (p s).result with
  | .ok a =>
    { result := (f a (p s).state).result
      state := (f a (p s).state).state
      trace := (p s).trace ++ (f a (p s).state).trace }
  | .error e => ⟨.error e, (p s).state, (p s).trace⟩

instance : Monad (Prog σ ε) where
  pure a := fun s => ⟨.ok a, s, []⟩
  bind := bind

def get : Prog σ ε σ := fun s => ⟨.ok s, s, []⟩

def act (f : σ → Except ε α × σ) : Prog σ ε α := fun s => ⟨(f s).1, (f s).2, [(f s).2]⟩

def modify (f : σ → σ) : Prog σ ε Unit := act fun s => (.ok (), f s)

def fail (e : ε) : Prog σ ε α := fun s => ⟨.error e, s, []⟩

def check (ok : Bool) (e : ε) : Prog σ ε Unit := if ok then pure () else fail e

def when (cond : Bool) (p : Prog σ ε Unit) : Prog σ ε Unit := if cond then p else pure ()

def ofExcept : Except ε α → Prog σ ε α
  | .ok a => pure a
  | .error e => fail e

/-- Run `p` and hand its result, value or error, to the caller. -/
def attempt (p : Prog σ ε α) : Prog σ ε (Except ε α) := fun s =>
  ⟨.ok (p s).result, (p s).state, (p s).trace⟩

/-- Run `p`; on an error, continue with `h`. -/
def recover (p : Prog σ ε α) (h : ε → Prog σ ε α) : Prog σ ε α := do
  match ← attempt p with
  | .ok a => pure a
  | .error e => h e

def runAll : List (Prog σ ε Unit) → Prog σ ε Unit
  | [] => pure ()
  | p :: ps => do
      p
      runAll ps

def zoom (get : τ → σ) (set : σ → τ → τ) (p : Prog σ ε α) : Prog τ ε α := fun t =>
  { result := (p (get t)).result
    state := set (p (get t)).state t
    trace := (p (get t)).trace.map (set · t) }

/-! ## The state a program ends in -/

theorem get_bind_apply (f : σ → Prog σ ε α) (s : σ) : (Prog.get >>= f) s = f s s := rfl

theorem check_true_bind_apply (e : ε) (f : Unit → Prog σ ε α) (s : σ) :
    (check true e >>= f) s = f () s :=
  rfl

theorem ofExcept_ok_bind_apply (a : α) (f : α → Prog σ ε β) (s : σ) :
    (ofExcept (.ok a) >>= f) s = f a s :=
  rfl

theorem bind_state_of_ok {p : Prog σ ε α} {f : α → Prog σ ε β} {s : σ} {a : α}
    (hr : (p s).result = .ok a) : ((p >>= f) s).state = (f a (p s).state).state := by
  show (bind p f s).state = (f a (p s).state).state
  simp only [bind, hr]

theorem bind_state_of_error {p : Prog σ ε α} {f : α → Prog σ ε β} {s : σ} {e : ε}
    (hr : (p s).result = .error e) : ((p >>= f) s).state = (p s).state := by
  show (bind p f s).state = (p s).state
  simp only [bind, hr]

theorem bind_apply_congr {p : Prog σ ε α} {f g : α → Prog σ ε β} {s : σ}
    (h : ∀ a, (p s).result = .ok a → f a (p s).state = g a (p s).state) :
    (p >>= f) s = (p >>= g) s := by
  show bind p f s = bind p g s
  simp only [bind]
  cases hr : (p s).result with
  | ok a => simp only [h a hr]
  | error e => rfl

theorem bind_apply_congr_left {p q : Prog σ ε α} {f : α → Prog σ ε β} {s : σ}
    (h : p s = q s) : (p >>= f) s = (q >>= f) s := by
  show bind p f s = bind q f s
  simp only [bind, h]

theorem recover_state_of_ok {p : Prog σ ε α} {s : σ} {a : α} (h : ε → Prog σ ε α)
    (hr : (p s).result = .ok a) : (recover p h s).state = (p s).state := by
  show (bind (attempt p) _ s).state = (p s).state
  simp only [bind, attempt, hr]
  rfl

theorem recover_state_of_error {p : Prog σ ε α} {s : σ} {e : ε} (h : ε → Prog σ ε α)
    (hr : (p s).result = .error e) : (recover p h s).state = (h e (p s).state).state := by
  show (bind (attempt p) _ s).state = (h e (p s).state).state
  simp only [bind, attempt, hr]

/-! ## Triples -/

/-- The result meets the postcondition for values or the one for errors. -/
def Ends (Q : α → σ → Prop) (F : ε → σ → Prop) : Except ε α → σ → Prop
  | .ok a => Q a
  | .error e => F e

/-- From `P`, every state written has `I`, values end in `Q` and errors in `F`. -/
def Triple (I P : σ → Prop) (p : Prog σ ε α) (Q : α → σ → Prop) (F : ε → σ → Prop) : Prop :=
  ∀ s, P s → (∀ t ∈ (p s).trace, I t) ∧ Ends Q F (p s).result (p s).state

namespace Triple

variable {I P P' : σ → Prop} {Q Q' : α → σ → Prop} {R : β → σ → Prop} {F F' : ε → σ → Prop}
  {p : Prog σ ε α}

theorem trace (h : Triple I P p Q F) {s t : σ} (hs : P s) (ht : t ∈ (p s).trace) : I t :=
  (h s hs).1 t ht

theorem of_ok (h : Triple I P p Q F) {s : σ} (hs : P s) {a : α} (hr : (p s).result = .ok a) :
    Q a (p s).state := by
  have := (h s hs).2
  rwa [hr] at this

theorem of_error (h : Triple I P p Q F) {s : σ} (hs : P s) {e : ε}
    (hr : (p s).result = .error e) : F e (p s).state := by
  have := (h s hs).2
  rwa [hr] at this

theorem state {R : σ → Prop} (h : Triple I P p (fun _ => R) fun _ => R) {s : σ} (hs : P s) :
    R (p s).state := by
  cases hr : (p s).result with
  | ok a => exact h.of_ok hs hr
  | error e => exact h.of_error hs hr

theorem conseq (h : Triple I P p Q F) (hP : ∀ s, P' s → P s) (hQ : ∀ a s, Q a s → Q' a s)
    (hF : ∀ e s, F e s → F' e s) : Triple I P' p Q' F' := by
  intro s hs
  obtain ⟨htrace, hends⟩ := h s (hP s hs)
  refine ⟨htrace, ?_⟩
  cases hr : (p s).result with
  | ok a => exact hQ a _ (h.of_ok (hP s hs) hr)
  | error e => exact hF e _ (h.of_error (hP s hs) hr)

theorem pre (h : Triple I P p Q F) (hP : ∀ s, P' s → P s) : Triple I P' p Q F :=
  h.conseq hP (fun _ _ hq => hq) fun _ _ hf => hf

theorem post (h : Triple I P p Q F) (hQ : ∀ a s, Q a s → Q' a s)
    (hF : ∀ e s, F e s → F' e s) : Triple I P p Q' F' :=
  h.conseq (fun _ hs => hs) hQ hF

theorem post_ok (h : Triple I P p Q F) (hQ : ∀ a s, Q a s → Q' a s) : Triple I P p Q' F :=
  h.post hQ fun _ _ hf => hf

theorem post_error (h : Triple I P p Q F) (hF : ∀ e s, F e s → F' e s) : Triple I P p Q F' :=
  h.post (fun _ _ hq => hq) hF

theorem top : Triple (fun _ => True) P p (fun _ _ => True) fun _ _ => True := by
  intro s _
  refine ⟨fun _ _ => trivial, ?_⟩
  cases (p s).result with
  | ok a | error e => exact trivial

theorem inv {J : σ → Prop} (h : Triple I P p Q F) (hI : ∀ s, I s → J s) : Triple J P p Q F :=
  fun s hs => ⟨fun t ht => hI t (h.trace hs ht), (h s hs).2⟩

theorem of_forall (h : ∀ s, P s → Triple I (· = s) p Q F) : Triple I P p Q F :=
  fun s hs => h s hs s rfl

theorem of_fact {φ : Prop} (h : φ → Triple I P p Q F) : Triple I (fun s => φ ∧ P s) p Q F :=
  fun s hs => h hs.1 s hs.2

theorem pure {a : α} (h : ∀ s, P s → Q a s) : Triple I P (pure a : Prog σ ε α) Q F :=
  fun s hs => ⟨fun _ ht => absurd ht List.not_mem_nil, h s hs⟩

theorem fail {e : ε} (h : ∀ s, P s → F e s) : Triple I P (fail e : Prog σ ε α) Q F :=
  fun s hs => ⟨fun _ ht => absurd ht List.not_mem_nil, h s hs⟩

theorem check {ok : Bool} {e : ε} {Q : Unit → σ → Prop}
    (hok : ok = true → ∀ s, P s → Q () s) (he : ∀ s, P s → F e s) :
    Triple I P (check ok e) Q F := by
  cases hb : ok with
  | true => exact pure (hok hb)
  | false => exact fail he

theorem when {cond : Bool} {p : Prog σ ε Unit} {Q : Unit → σ → Prop}
    (hp : cond = true → Triple I P p Q F) (hskip : cond = false → ∀ s, P s → Q () s) :
    Triple I P (when cond p) Q F := by
  cases hc : cond with
  | true => exact hp hc
  | false => exact pure (hskip hc)

theorem bind {f : α → Prog σ ε β} (hp : Triple I P p Q F)
    (hf : ∀ a, Triple I (Q a) (f a) R F) : Triple I P (p >>= f) R F := by
  intro s hs
  show (∀ t ∈ (Prog.bind p f s).trace, I t) ∧
    Ends R F (Prog.bind p f s).result (Prog.bind p f s).state
  simp only [Prog.bind]
  cases hr : (p s).result with
  | ok a =>
    have hq := hf a _ (hp.of_ok hs hr)
    refine ⟨fun t ht => ?_, hq.2⟩
    rcases List.mem_append.mp ht with ht | ht
    · exact hp.trace hs ht
    · exact hq.1 t ht
  | error e => exact ⟨fun t ht => hp.trace hs ht, hp.of_error hs hr⟩

theorem get : Triple I P (get : Prog σ ε σ) (fun s t => t = s ∧ P t) F :=
  fun _ hs => ⟨fun _ ht => absurd ht List.not_mem_nil, rfl, hs⟩

theorem get_bind {f : σ → Prog σ ε β} (h : ∀ s, Triple I (fun t => t = s ∧ P t) (f s) R F) :
    Triple I P (Prog.get >>= f) R F :=
  get.bind h

theorem get_bind_eq {s : σ} {f : σ → Prog σ ε β} (h : Triple I (· = s) (f s) R F) :
    Triple I (· = s) (Prog.get >>= f) R F := by
  refine get_bind fun t u hu => ?_
  obtain ⟨rfl, rfl⟩ := hu
  exact h u rfl

theorem check_bind_cases {ok : Bool} {e : ε} {f : Unit → Prog σ ε β}
    (he : ok = false → ∀ s, P s → F e s) (h : ok = true → Triple I P (f ()) R F) :
    Triple I P (Prog.check ok e >>= f) R F := by
  cases hok : ok with
  | true => exact bind (Q := fun _ => P) (pure fun _ hs => hs) fun _ => h hok
  | false => exact bind (Q := fun _ _ => False) (fail (he hok)) fun _ s hs => hs.elim

theorem check_bind {ok : Bool} {e : ε} {f : Unit → Prog σ ε β} (he : ∀ s, P s → F e s)
    (h : ok = true → Triple I P (f ()) R F) : Triple I P (Prog.check ok e >>= f) R F :=
  check_bind_cases (fun _ => he) h

theorem ofExcept {x : Except ε α} (hok : ∀ a, x = .ok a → ∀ s, P s → Q a s)
    (he : ∀ e, x = .error e → ∀ s, P s → F e s) : Triple I P (ofExcept x) Q F := by
  cases x with
  | ok a => exact pure (hok a rfl)
  | error e => exact fail (he e rfl)

theorem ofExcept_bind {x : Except ε α} {f : α → Prog σ ε β}
    (he : ∀ e, x = .error e → ∀ s, P s → F e s)
    (h : ∀ a, x = .ok a → Triple I P (f a) R F) : Triple I P (Prog.ofExcept x >>= f) R F := by
  refine bind (Q := fun a s => x = .ok a ∧ P s) ?_ fun a => of_fact (h a)
  exact ofExcept (fun a ha s hs => ⟨ha, hs⟩) he

theorem act {f : σ → Except ε α × σ} (h : ∀ s, P s → I (f s).2 ∧ Ends Q F (f s).1 (f s).2) :
    Triple I P (act f) Q F := by
  intro s hs
  obtain ⟨hI, hends⟩ := h s hs
  exact ⟨fun t ht => List.mem_singleton.mp ht ▸ hI, hends⟩

theorem modify {f : σ → σ} {Q : Unit → σ → Prop} (h : ∀ s, P s → I (f s) ∧ Q () (f s)) :
    Triple I P (modify f) Q F :=
  act h

theorem act_inv {J : σ → Prop} {f : σ → Except ε α × σ} (h : Triple J P (Prog.act f) Q F)
    (hQ : ∀ a s, Q a s → I s) (hF : ∀ e s, F e s → I s) : Triple I P (Prog.act f) Q F := by
  refine Triple.act fun s hs => ⟨?_, (h s hs).2⟩
  cases hr : (Prog.act f s).result with
  | ok a => exact hQ a _ (h.of_ok hs hr)
  | error e => exact hF e _ (h.of_error hs hr)

theorem attempt {Q : Except ε α → σ → Prop}
    (h : Triple I P p (fun a => Q (.ok a)) fun e => Q (.error e)) :
    Triple I P (attempt p) Q F := by
  intro s hs
  refine ⟨fun t ht => h.trace hs ht, ?_⟩
  show Q (p s).result (p s).state
  cases hr : (p s).result with
  | ok a => exact h.of_ok hs hr
  | error e => exact h.of_error hs hr

theorem recover {h : ε → Prog σ ε α} {G : ε → σ → Prop} (hp : Triple I P p Q G)
    (hh : ∀ e, Triple I (G e) (h e) Q F) : Triple I P (recover p h) Q F := by
  refine bind (Q := fun r => match r with | .ok a => Q a | .error e => G e) (attempt hp) ?_
  intro r
  cases r with
  | ok a => exact pure fun _ h => h
  | error e => exact hh e

theorem runAll_nil {Q : Unit → σ → Prop} (h : ∀ s, P s → Q () s) :
    Triple I P (runAll []) Q F :=
  pure h

theorem runAll_cons {p : Prog σ ε Unit} {ps : List (Prog σ ε Unit)} {Q : Unit → σ → Prop}
    {R : σ → Prop} (hp : Triple I P p (fun _ => R) F) (hps : Triple I R (runAll ps) Q F) :
    Triple I P (runAll (p :: ps)) Q F :=
  hp.bind fun _ => hps

/-- On a component: the rest of the state is the one the program started from. -/
theorem zoom {I P : τ → Prop} {get : τ → σ} {set : σ → τ → τ} {Q : α → τ → Prop}
    {F : ε → τ → Prop}
    (h : ∀ t, P t → Triple (fun s => I (set s t)) (· = get t) p (fun a s => Q a (set s t))
      fun e s => F e (set s t)) :
    Triple I P (zoom get set p) Q F := by
  intro t ht
  obtain ⟨htrace, hends⟩ := h t ht (get t) rfl
  refine ⟨fun u hu => ?_, ?_⟩
  · obtain ⟨s, hs, rfl⟩ := List.mem_map.mp hu
    exact htrace s hs
  · show Ends Q F (p (get t)).result (set (p (get t)).state t)
    cases hr : (p (get t)).result with
    | ok a => exact (h t ht).of_ok rfl hr
    | error e => exact (h t ht).of_error rfl hr

end Triple

/-! ## Triples with a way out -/

/-- From `P`, the program ends in `B`, or does what the triple says. -/
def TripleOr (B : Except ε α → σ → Prop) (I P : σ → Prop) (p : Prog σ ε α) (Q : α → σ → Prop)
    (F : ε → σ → Prop) : Prop :=
  ∀ s, P s → B (p s).result (p s).state ∨
    (∀ t ∈ (p s).trace, I t) ∧ Ends Q F (p s).result (p s).state

namespace TripleOr

variable {I P P' : σ → Prop} {Q : α → σ → Prop} {R : β → σ → Prop} {F : ε → σ → Prop}
  {B : Except ε β → σ → Prop}

theorem state {p : Prog σ ε β} {S : σ → Prop} (h : TripleOr B I P p (fun _ => S) fun _ => S)
    {s : σ} (hs : P s) (hB : ¬ B (p s).result (p s).state) :
    (∀ t ∈ (p s).trace, I t) ∧ S (p s).state := by
  obtain ⟨htrace, hends⟩ := (h s hs).resolve_left hB
  refine ⟨htrace, ?_⟩
  cases hr : (p s).result with
  | ok a | error e =>
    rw [hr] at hends
    exact hends

theorem of_triple {p : Prog σ ε β} (h : Triple I P p R F) : TripleOr B I P p R F :=
  fun s hs => Or.inr (h s hs)

theorem of_ends {J : σ → Prop} {p : Prog σ ε β}
    (h : Triple J P p (fun a => B (.ok a)) fun e => B (.error e)) : TripleOr B I P p R F := by
  intro s hs
  left
  cases hr : (p s).result with
  | ok a => exact h.of_ok hs hr
  | error e => exact h.of_error hs hr

theorem of_forall {p : Prog σ ε β} (h : ∀ s, P s → TripleOr B I (· = s) p R F) :
    TripleOr B I P p R F :=
  fun s hs => h s hs s rfl

theorem of_fact {φ : Prop} {p : Prog σ ε β} (h : φ → TripleOr B I P p R F) :
    TripleOr B I (fun s => φ ∧ P s) p R F :=
  fun s hs => h hs.1 s hs.2

theorem conseq {B' : Except ε β → σ → Prop} {I' : σ → Prop} {R' : β → σ → Prop}
    {F' : ε → σ → Prop} {p : Prog σ ε β} (h : TripleOr B I P p R F) (hB : ∀ r s, B r s → B' r s)
    (hI : ∀ s, I s → I' s) (hR : ∀ a s, R a s → R' a s) (hF : ∀ e s, F e s → F' e s) :
    TripleOr B' I' P p R' F' := by
  intro s hs
  rcases h s hs with hout | hq
  · exact Or.inl (hB _ _ hout)
  · right
    have hp : Triple I (· = s) p R F := by
      intro t ht
      rw [ht]
      exact hq
    exact (hp.inv hI).conseq (fun _ ht => ht) hR hF s rfl

theorem bind {p : Prog σ ε α} {f : α → Prog σ ε β} (hp : Triple I P p Q F)
    (hf : ∀ a, TripleOr B I (Q a) (f a) R F) : TripleOr B I P (p >>= f) R F := by
  intro s hs
  cases hr : (p s).result with
  | ok a =>
    rcases hf a _ (hp.of_ok hs hr) with hB | hq
    · left
      show B (Prog.bind p f s).result (Prog.bind p f s).state
      simp only [Prog.bind, hr]
      exact hB
    · right
      have hfa : Triple I (· = (p s).state) (f a) R F := by
        intro t ht
        rw [ht]
        exact hq
      have hpa : Triple I (· = s) p (fun b t => b = a ∧ t = (p s).state) F := by
        intro t ht
        rw [ht, hr]
        exact ⟨fun u hu => hp.trace hs hu, rfl, rfl⟩
      refine Triple.bind hpa (fun b => Triple.of_fact fun hb => ?_) s rfl
      rw [hb]
      exact hfa
  | error e =>
    right
    have hpe : Triple I (· = s) p (fun _ _ => False) F := by
      intro t ht
      rw [ht, hr]
      exact ⟨fun u hu => hp.trace hs hu, hp.of_error hs hr⟩
    exact Triple.bind hpe (fun _ t ht => ht.elim) s rfl

theorem recover {p : Prog σ ε β} {h : ε → Prog σ ε β} {G : ε → σ → Prop}
    (hp : Triple I P p R G) (hh : ∀ e, TripleOr B I (G e) (h e) R F) :
    TripleOr B I P (Prog.recover p h) R F := by
  refine bind (Q := fun r => match r with | .ok a => R a | .error e => G e)
    (Triple.attempt hp) fun r => ?_
  cases r with
  | ok a => exact of_triple (Triple.pure fun _ h => h)
  | error e => exact hh e

end TripleOr

end Prog

end NexusGateway.Lib
