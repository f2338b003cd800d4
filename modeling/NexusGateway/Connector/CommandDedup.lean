/-
`connector/sdk/dedup.go`: per-command idempotency for connector write
handlers.  The table maps a control id to `nil` while the first caller is
still writing and to the cached reply afterwards; it is bounded, and a
reservation at capacity evicts the oldest key.

`TryReserve` and `Complete` each run under one mutex, so an interleaving of
goroutines is a sequence of these two calls.  `Calls` adds what the write
handlers keep on their own stacks — which reservations were granted and not
yet completed — and the log of what every call returned.
-/

import NexusGateway.Lib.Run
import NexusGateway.Lib.Dict

namespace NexusGateway.Connector

open Lib

structure WriteReply where
  success : Bool
  response : String
deriving DecidableEq, Repr

/-! ## The table -/

/-- `sdk.CommandDedup`: `entries` holds `none` for a command in flight and the
    reply of a finished one; `keys` is the insertion order. -/
structure CommandDedup where
  entries : Dict String (Option WriteReply)
  keys : List String
  cap : Nat

def newCommandDedup (cap : Nat) : CommandDedup :=
  { entries := ∅, keys := [], cap := cap }

namespace CommandDedup

inductive Reserve where
  | proceed
  | inFlight
  | cached (reply : WriteReply)
deriving DecidableEq, Repr

def victim (d : CommandDedup) : Option String :=
  if d.cap ≤ d.keys.length then d.keys.head? else none

/-- `delete(d.entries, oldest)` together with `d.keys = d.keys[1:]`. -/
def evict (d : CommandDedup) : CommandDedup :=
  match d.victim with
  | some oldest => { d with entries := d.entries.erase oldest, keys := d.keys.tail }
  | none => d

def tryReserve (d : CommandDedup) (controlID : String) : CommandDedup × Reserve :=
  match d.entries.lookup controlID with
  | some none => (d, .inFlight)
  | some (some reply) => (d, .cached reply)
  | none =>
    let d := d.evict
    ({ d with entries := d.entries.insert controlID none,
              keys := d.keys ++ [controlID] }, .proceed)

def complete (d : CommandDedup) (controlID : String) (reply : WriteReply) : CommandDedup :=
  { d with entries := d.entries.insert controlID (some reply) }

theorem lookup_evict (d : CommandDedup) (id : String) :
    d.evict.entries.lookup id
      = if d.victim = some id then none else d.entries.lookup id := by
  unfold evict
  cases hv : d.victim with
  | none => simp
  | some oldest =>
    by_cases h : id = oldest
    · subst h
      simp
    · have h' : ¬ oldest = id := fun he => h he.symm
      simp [h', AList.lookup_erase_ne h]

theorem tryReserve_proceed_iff {d : CommandDedup} {id : String} :
    (d.tryReserve id).2 = .proceed ↔ d.entries.lookup id = none := by
  unfold tryReserve
  rcases h : d.entries.lookup id with _ | _ | reply <;> simp

theorem tryReserve_of_refused {d : CommandDedup} {id : String}
    (h : (d.tryReserve id).2 ≠ .proceed) : (d.tryReserve id).1 = d := by
  unfold tryReserve at h ⊢
  rcases hl : d.entries.lookup id with _ | _ | reply
  · simp [hl] at h
  · rfl
  · rfl

theorem lookup_tryReserve {d : CommandDedup} {id : String}
    (h : (d.tryReserve id).2 = .proceed) (id' : String) :
    (d.tryReserve id).1.entries.lookup id'
      = if id' = id then some none
        else if d.victim = some id' then none else d.entries.lookup id' := by
  have hnone := tryReserve_proceed_iff.mp h
  simp only [tryReserve, hnone, Dict.lookup_insert_ite, lookup_evict]

end CommandDedup

/-! ## Interleavings of write handlers -/

/-- One returned call.  Calls of `TryReserve` are numbered; `completed n id`
    is the `Complete` of the caller whose `TryReserve` was call `n`. -/
inductive DedupEvent where
  | reserved (n : Nat) (id : String)
  | refused (n : Nat) (id : String)
  | completed (n : Nat) (id : String)
deriving DecidableEq, Repr

/-- The table, the callers that were told to proceed and have not called
    `Complete` yet, the number of the next call, and the log (oldest first). -/
structure Calls where
  dedup : CommandDedup
  writing : List (Nat × String)
  next : Nat
  log : List DedupEvent

inductive DedupCall where
  | tryReserve (id : String)
  | complete (n : Nat) (id : String) (reply : WriteReply)

namespace Calls

def init (cap : Nat) : Calls :=
  { dedup := newCommandDedup cap, writing := [], next := 0, log := [] }

/-- One call.  `Complete` is made only by a caller that was told to proceed,
    once, as `handleWrite` does. -/
def step (s : Calls) : DedupCall → Option Calls
  | .tryReserve id =>
    match s.dedup.tryReserve id with
    | (d, .proceed) => some
        { dedup := d, writing := s.writing ++ [(s.next, id)], next := s.next + 1,
          log := s.log ++ [.reserved s.next id] }
    | (d, _) => some
        { s with dedup := d, next := s.next + 1, log := s.log ++ [.refused s.next id] }
  | .complete n id reply =>
    if (n, id) ∈ s.writing then some
      { s with dedup := s.dedup.complete id reply, writing := s.writing.erase (n, id),
               log := s.log ++ [.completed n id] }
    else none

inductive Effect (s : Calls) : DedupCall → Calls → Prop
  | reserved {id : String} (h : (s.dedup.tryReserve id).2 = .proceed) :
      Effect s (.tryReserve id)
        { dedup := (s.dedup.tryReserve id).1, writing := s.writing ++ [(s.next, id)],
          next := s.next + 1, log := s.log ++ [.reserved s.next id] }
  | refused {id : String} (h : (s.dedup.tryReserve id).2 ≠ .proceed) :
      Effect s (.tryReserve id)
        { s with dedup := (s.dedup.tryReserve id).1, next := s.next + 1,
                 log := s.log ++ [.refused s.next id] }
  | completed {n : Nat} {id : String} {reply : WriteReply} (h : (n, id) ∈ s.writing) :
      Effect s (.complete n id reply)
        { s with dedup := s.dedup.complete id reply, writing := s.writing.erase (n, id),
                 log := s.log ++ [.completed n id] }

theorem step_effect {s t : Calls} {c : DedupCall} (h : s.step c = some t) : Effect s c t := by
  cases c with
  | tryReserve id =>
    simp only [step] at h
    split at h
    · next d heq =>
      cases h
      have hd : (s.dedup.tryReserve id).1 = d := by rw [heq]
      rw [← hd]
      exact .reserved (by rw [heq])
    · next d r hr heq =>
      cases h
      have hd : (s.dedup.tryReserve id).1 = d := by rw [heq]
      rw [← hd]
      refine .refused ?_
      rw [heq]
      exact hr
  | complete n id reply =>
    simp only [step] at h
    split at h
    · next hw =>
      cases h
      exact .completed hw
    · cases h

def EvictsInFlight (s : Calls) : DedupCall → Prop
  | .tryReserve id => s.dedup.entries.lookup id = none ∧
      ∃ p ∈ s.writing, s.dedup.victim = some p.2
  | .complete .. => False

instance (s : Calls) (c : DedupCall) : Decidable (EvictsInFlight s c) :=
  match c with
  | .tryReserve _ => inferInstanceAs (Decidable (_ ∧ _))
  | .complete .. => isFalse id

def safeStep (s : Calls) (c : DedupCall) : Option Calls :=
  if EvictsInFlight s c then none else s.step c

def Exclusive (log : List DedupEvent) : Prop :=
  ∀ pre mid post n n' id,
    log = pre ++ .reserved n id :: (mid ++ .reserved n' id :: post) →
      .completed n id ∈ mid

/-! ## Exclusivity -/

/-- What an interleaving keeps as long as no call evicts a command in flight:
    every granted and uncompleted command holds its sentinel, no two of them
    share an id, and a grant in the log is matched by its completion or by the
    caller still writing, never by both. -/
structure Inv (s : Calls) : Prop where
  sentinel : ∀ n id, (n, id) ∈ s.writing → s.dedup.entries.lookup id = some none
  distinct : (s.writing.map Prod.snd).Nodup
  matched : ∀ pre post n id, s.log = pre ++ .reserved n id :: post →
    .completed n id ∈ post ∨ (n, id) ∈ s.writing
  granted : ∀ n id, (n, id) ∈ s.writing →
    ∃ pre post, s.log = pre ++ .reserved n id :: post ∧ .completed n id ∉ post
  exclusive : Exclusive s.log

theorem inv_init (cap : Nat) : Inv (init cap) where
  sentinel := by simp [init]
  distinct := by simp [init]
  matched := by simp [init]
  granted := by simp [init]
  exclusive := by
    intro pre mid post n n' id h
    simp [init] at h

theorem granted_snoc {log : List DedupEvent} {e : DedupEvent} {n : Nat} {id : String}
    (h : ∃ pre post, log = pre ++ .reserved n id :: post ∧ .completed n id ∉ post)
    (he : e ≠ .completed n id) :
    ∃ pre post, log ++ [e] = pre ++ .reserved n id :: post ∧ .completed n id ∉ post := by
  obtain ⟨pre, post, rfl, hpost⟩ := h
  refine ⟨pre, post ++ [e], by simp, ?_⟩
  intro hmem
  rcases List.mem_append.mp hmem with hp | hp
  · exact hpost hp
  · exact he (List.mem_singleton.mp hp).symm

theorem Exclusive.snoc {log : List DedupEvent} {e : DedupEvent} (h : Exclusive log)
    (he : ∀ n id, e ≠ .reserved n id) : Exclusive (log ++ [e]) := by
  intro pre mid post n n' id hlog
  rw [← List.cons_append, ← List.append_assoc] at hlog
  rcases snoc_eq_split hlog with ⟨_, _, hx⟩ | ⟨post', rfl, hl⟩
  · exact absurd hx.symm (he n' id)
  · rw [List.append_assoc, List.cons_append] at hl
    exact h pre mid post' n n' id hl

theorem Inv.exclusive_reserved {s : Calls} (h : Inv s) {id : String}
    (hfree : ∀ n, (n, id) ∉ s.writing) :
    Exclusive (s.log ++ [.reserved s.next id]) := by
  intro pre mid post n n' id' hlog
  rw [← List.cons_append, ← List.append_assoc] at hlog
  rcases snoc_eq_split hlog with ⟨_, hpre, hx⟩ | ⟨post', rfl, hl⟩
  · -- The later grant is the new one: the earlier one must have completed.
    cases hx
    rcases h.matched pre mid n id hpre.symm with hc | hw
    · exact hc
    · exact absurd hw (hfree n)
  · rw [List.append_assoc, List.cons_append] at hl
    exact h.exclusive pre mid post' n n' id' hl

theorem Inv.refused {s : Calls} (h : Inv s) {id : String}
    (hr : (s.dedup.tryReserve id).2 ≠ .proceed) :
    Inv { s with dedup := (s.dedup.tryReserve id).1, next := s.next + 1,
                 log := s.log ++ [.refused s.next id] } where
  sentinel := by
    rw [CommandDedup.tryReserve_of_refused hr]
    exact h.sentinel
  distinct := h.distinct
  matched := by
    intro pre post n id' hlog
    rcases snoc_eq_split hlog with ⟨_, _, hx⟩ | ⟨post', rfl, hl⟩
    · cases hx
    · rcases h.matched pre post' n id' hl with hc | hw
      · exact Or.inl (List.mem_append_left _ hc)
      · exact Or.inr hw
  granted := fun n id' hw => granted_snoc (h.granted n id' hw) (by simp)
  exclusive := h.exclusive.snoc (by simp)

theorem Inv.reserved {s : Calls} (h : Inv s) {id : String}
    (hp : (s.dedup.tryReserve id).2 = .proceed)
    (hok : ¬ EvictsInFlight s (.tryReserve id)) :
    Inv { dedup := (s.dedup.tryReserve id).1, writing := s.writing ++ [(s.next, id)],
          next := s.next + 1, log := s.log ++ [.reserved s.next id] } := by
  have hnone := CommandDedup.tryReserve_proceed_iff.mp hp
  have hfree : ∀ n, (n, id) ∉ s.writing := by
    intro n hn
    rw [h.sentinel n id hn] at hnone
    cases hnone
  refine ⟨?_, ?_, ?_, ?_, h.exclusive_reserved hfree⟩
  · intro n id' hmem
    rw [CommandDedup.lookup_tryReserve hp]
    rcases List.mem_append.mp hmem with hold | hnew
    · have hne : id' ≠ id := by
        rintro rfl
        exact hfree n hold
      have hkept : s.dedup.victim ≠ some id' := fun hv => hok ⟨hnone, (n, id'), hold, hv⟩
      rw [if_neg hne, if_neg hkept]
      exact h.sentinel n id' hold
    · simp only [List.mem_singleton, Prod.mk.injEq] at hnew
      rw [if_pos hnew.2]
  · rw [List.map_append, List.map_singleton]
    refine List.nodup_append.mpr ⟨h.distinct, List.nodup_singleton _, ?_⟩
    intro a ha b hb hab
    obtain ⟨⟨n, id'⟩, hmem, rfl⟩ := List.mem_map.mp ha
    rw [List.mem_singleton] at hb
    subst hb
    exact hfree n (hab ▸ hmem)
  · intro pre post n id' hlog
    rcases snoc_eq_split hlog with ⟨_, _, hx⟩ | ⟨post', rfl, hl⟩
    · cases hx
      exact Or.inr (List.mem_append_right _ (List.mem_singleton_self _))
    · rcases h.matched pre post' n id' hl with hc | hw
      · exact Or.inl (List.mem_append_left _ hc)
      · exact Or.inr (List.mem_append_left _ hw)
  · intro n id' hmem
    rcases List.mem_append.mp hmem with hold | hnew
    · exact granted_snoc (h.granted n id' hold) (by simp)
    · simp only [List.mem_singleton, Prod.mk.injEq] at hnew
      obtain ⟨rfl, rfl⟩ := hnew
      exact ⟨s.log, [], rfl, by simp⟩

theorem Inv.completed {s : Calls} (h : Inv s) {n : Nat} {id : String} {reply : WriteReply}
    (hw : (n, id) ∈ s.writing) :
    Inv { s with dedup := s.dedup.complete id reply, writing := s.writing.erase (n, id),
                 log := s.log ++ [.completed n id] } := by
  have hnd : s.writing.Nodup := h.distinct.of_map
  refine ⟨?_, ?_, ?_, ?_, h.exclusive.snoc (by simp)⟩
  · intro m id' hmem
    obtain ⟨hne, hold⟩ := (hnd.mem_erase_iff).mp hmem
    have hid : id' ≠ id := by
      rintro rfl
      exact hne (List.inj_on_of_nodup_map h.distinct hold hw rfl)
    rw [CommandDedup.complete, Dict.lookup_insert_ite, if_neg hid]
    exact h.sentinel m id' hold
  · exact h.distinct.sublist (List.erase_sublist.map _)
  · intro pre post m id' hlog
    rcases snoc_eq_split hlog with ⟨_, _, hx⟩ | ⟨post', rfl, hl⟩
    · cases hx
    · rcases h.matched pre post' m id' hl with hc | hold
      · exact Or.inl (List.mem_append_left _ hc)
      · by_cases heq : (m, id') = (n, id)
        · cases heq
          exact Or.inl (List.mem_append_right _ (List.mem_singleton_self _))
        · exact Or.inr ((hnd.mem_erase_iff).mpr ⟨heq, hold⟩)
  · intro m id' hmem
    obtain ⟨hne, hold⟩ := (hnd.mem_erase_iff).mp hmem
    refine granted_snoc (h.granted m id' hold) ?_
    intro he
    cases he
    exact hne rfl

theorem Inv.step {s t : Calls} {c : DedupCall} (h : Inv s) (hok : ¬ EvictsInFlight s c)
    (hstep : s.step c = some t) : Inv t := by
  cases step_effect hstep with
  | reserved hp => exact h.reserved hp hok
  | refused hr => exact h.refused hr
  | completed hw => exact h.completed hw

theorem Inv.safeStep {s t : Calls} {c : DedupCall} (h : Inv s)
    (hstep : s.safeStep c = some t) : Inv t := by
  unfold Calls.safeStep at hstep
  split at hstep
  · cases hstep
  · rename_i hok
    exact h.step hok hstep

theorem second_grant_of_evictsInFlight {s t : Calls} {c : DedupCall} (h : Inv s)
    (hstep : s.step c = some t) (hev : EvictsInFlight s c) :
    ∃ c' u, t.step c' = some u ∧ ¬ Exclusive u.log := by
  cases c with
  | complete n id reply => exact hev.elim
  | tryReserve id =>
    obtain ⟨hnone, ⟨n, oldest⟩, hw, hv⟩ := hev
    have hp := CommandDedup.tryReserve_proceed_iff.mpr hnone
    have hne : oldest ≠ id := by
      rintro rfl
      rw [h.sentinel n oldest hw] at hnone
      cases hnone
    obtain ⟨d, hd⟩ : ∃ d, s.dedup.tryReserve id = (d, .proceed) :=
      ⟨_, Prod.ext rfl hp⟩
    have hgone : d.entries.lookup oldest = none := by
      have hl := CommandDedup.lookup_tryReserve hp oldest
      rwa [hd, if_neg hne, if_pos hv] at hl
    obtain ⟨d', hd'⟩ : ∃ d', d.tryReserve oldest = (d', .proceed) :=
      ⟨_, Prod.ext rfl (CommandDedup.tryReserve_proceed_iff.mpr hgone)⟩
    simp only [Calls.step, hd, Option.some.injEq] at hstep
    subst hstep
    refine ⟨.tryReserve oldest,
      { dedup := d', writing := s.writing ++ [(s.next, id)] ++ [(s.next + 1, oldest)],
        next := s.next + 1 + 1,
        log := s.log ++ [.reserved s.next id] ++ [.reserved (s.next + 1) oldest] },
      by simp only [Calls.step, hd'], ?_⟩
    intro hex
    -- The first grant of `oldest` is in the log and was never completed.
    obtain ⟨pre, post, hlog, hopen⟩ := h.granted n oldest hw
    have hc := hex pre (post ++ [.reserved s.next id]) [] n (s.next + 1) oldest
      (by simp [hlog])
    rcases List.mem_append.mp hc with hc | hc
    · exact hopen hc
    · simp at hc

/-- **In-flight exclusivity.**  As long as no reservation evicts the key of a
    command that is still being written, no id is granted a second time before
    the first grant completed.  The condition cannot be dropped: after any such
    interleaving, a reservation that does evict a command in flight can be
    followed at once by a second grant of that command. -/
theorem exclusive_of_noInFlightEviction (cap : Nat) (cs : List DedupCall) (s : Calls)
    (hrun : Run (fun s c t => s.safeStep c = some t) (init cap) cs s) :
    Exclusive s.log ∧
      ∀ c t, s.step c = some t → EvictsInFlight s c →
        ∃ c' u, t.step c' = some u ∧ ¬ Exclusive u.log := by
  have hinv : Inv s := hrun.invariant (inv_init cap) (fun _ _ _ h hs => h.safeStep hs)
  refine ⟨hinv.exclusive, ?_⟩
  intro c t hstep hev
  exact second_grant_of_evictsInFlight hinv hstep hev

/-- Two ids in a table of one slot: the first id is granted again while its
    first caller is still writing. -/
theorem not_exclusive_cap_one :
    ∃ s, Run (fun s c t => s.step c = some t) (init 1)
        [.tryReserve "a", .tryReserve "b", .tryReserve "a"] s ∧ ¬ Exclusive s.log := by
  refine ⟨_, Run.of_foldlM rfl, ?_⟩
  intro h
  have hc := h [] [.reserved 1 "b"] [] 0 2 "a" rfl
  revert hc
  decide

/-- A third id in a table of two slots evicts the finished one of the first two. -/
theorem exclusive_cap_two :
    ∃ s, Run (fun s c t => s.safeStep c = some t) (init 2)
        [.tryReserve "a", .complete 0 "a" ⟨true, "ok"⟩, .tryReserve "b", .tryReserve "c"] s ∧
      Exclusive s.log := by
  have hrun : Run (fun s c t => s.safeStep c = some t) (init 2)
      [.tryReserve "a", .complete 0 "a" ⟨true, "ok"⟩, .tryReserve "b", .tryReserve "c"] _ :=
    Run.of_foldlM rfl
  exact ⟨_, hrun, (exclusive_of_noInFlightEviction 2 _ _ hrun).1⟩

end Calls

end NexusGateway.Connector
