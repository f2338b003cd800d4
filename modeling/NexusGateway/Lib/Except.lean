/-
Fallible functions as sequences of steps in `Except`: when a sequence, a
check and a relabelled error succeed.
-/

import Mathlib.Logic.Basic

namespace NexusGateway.Lib

variable {ε α β : Type}

/-- The early return of a guard: an error when the condition holds. -/
def refuse (condition : Bool) (err : ε) : Except ε Unit :=
  if condition then .error err else .ok ()

theorem ok_bind (a : α) (f : α → Except ε β) : (Except.ok a >>= f) = f a := rfl

theorem bind_eq_ok {x : Except ε α} {f : α → Except ε β} {b : β} :
    (x >>= f) = .ok b ↔ ∃ a, x = .ok a ∧ f a = .ok b := by
  cases x with
  | error e =>
    constructor
    · intro h
      cases h
    · rintro ⟨_, h, _⟩
      cases h
  | ok a =>
    constructor
    · exact fun h => ⟨a, rfl, h⟩
    · rintro ⟨_, h, hf⟩
      cases h
      exact hf

theorem refuse_bind_eq_ok {condition : Bool} {err : ε} {f : Unit → Except ε β} {b : β} :
    (refuse condition err >>= f) = .ok b ↔ condition = false ∧ f () = .ok b := by
  cases condition with
  | true =>
    constructor
    · intro h
      cases h
    · rintro ⟨h, _⟩
      cases h
  | false => exact ⟨fun h => ⟨rfl, h⟩, fun h => h.2⟩

theorem elim_eq_ok {err : ε} {o : Option α} {a : α} :
    o.elim (.error err) .ok = Except.ok a ↔ o = some a := by
  cases o with
  | none =>
    constructor <;>
    · intro h
      cases h
  | some b => exact ⟨fun h => congrArg _ (Except.ok.inj h), fun h => congrArg _ (Option.some.inj h)⟩

theorem mapError_eq_ok {ε' : Type} {f : ε → ε'} {x : Except ε α} {a : α} :
    x.mapError f = .ok a ↔ x = .ok a := by
  cases x with
  | error e =>
    constructor <;>
    · intro h
      cases h
  | ok b => exact ⟨fun h => congrArg _ (Except.ok.inj h), fun h => congrArg _ (Except.ok.inj h)⟩

theorem foldlM_invariant {f : β → α → Except ε β} {I : β → Prop} {xs : List α} {b b' : β}
    (h : xs.foldlM f b = .ok b') (hinit : I b)
    (hstep : ∀ a b b', I b → f b a = .ok b' → I b') : I b' := by
  induction xs generalizing b with
  | nil =>
    rw [List.foldlM_nil] at h
    cases h
    exact hinit
  | cons a xs ih =>
    rw [List.foldlM_cons] at h
    obtain ⟨c, hc, h⟩ := bind_eq_ok.mp h
    exact ih h (hstep a b c hinit hc)

end NexusGateway.Lib
