/-
Items that are handed on and settled one by one.

Producers accept items and put them on a queue, or keep them and work them
off themselves.  One consumer takes items from the queue, one at a time, and
does not take the next before the last is settled.  An item is attempted
any number of times by whoever holds it, acknowledged after an attempt that
succeeded, or dropped after one that failed.

Three facts hold of every run: an item is acknowledged at most once and
only after a successful attempt; the items of the queue are first attempted,
and first succeed, in the order they were put on it; and every accepted item
is somewhere.  A
system has them if its steps are steps of this one, or change nothing here.
-/

import Mathlib.Data.List.Nodup
import Mathlib.Logic.Function.Basic
import NexusGateway.Lib.Run

namespace NexusGateway.Lib

namespace Custody

inductive Place where
  /-- with a producer that has not decided what to do with it -/
  | incoming
  /-- with a producer that works it off itself -/
  | direct
  | queued
  | consumer
  | acked
  | dropped
deriving DecidableEq

inductive Event where
  | attempt (id : Nat) (ok : Bool)
  | ack (id : Nat)
  | drop (id : Nat)
deriving DecidableEq

end Custody

structure Custody where
  next : Nat := 0
  place : Nat → Option Custody.Place := fun _ => none
  queue : List Nat := []
  consumer : Option Nat := none
  taken : List Nat := []
  log : List Custody.Event := []

namespace Custody

variable {c c' : Custody} {id : Nat}

def enqueued (c : Custody) : List Nat := c.taken ++ c.queue

def attempts : List Event → List Nat :=
  List.filterMap fun
    | .attempt id _ => some id
    | _ => none

def successes : List Event → List Nat :=
  List.filterMap fun
    | .attempt id true => some id
    | _ => none

def queueAttempts (c : Custody) : List Nat := (attempts c.log).filter fun id => id ∈ c.enqueued

def queueSuccesses (c : Custody) : List Nat := (successes c.log).filter fun id => id ∈ c.enqueued

def Holds (c : Custody) (id : Nat) : Prop :=
  c.place id = some .direct ∨ c.place id = some .consumer

def settle (c : Custody) (id : Nat) (place : Place) (e : Event) : Custody :=
  { c with
    place := Function.update c.place id (some place)
    consumer := if c.consumer = some id then none else c.consumer
    log := c.log ++ [e] }

inductive Step : Custody → Custody → Prop
  | accept (c : Custody) :
      Step c { c with next := c.next + 1, place := Function.update c.place c.next (some .incoming) }
  | enqueue (c : Custody) (id : Nat) : c.place id = some .incoming →
      Step c { c with
        place := Function.update c.place id (some .queued)
        queue := c.queue ++ [id] }
  | bypass (c : Custody) (id : Nat) : c.place id = some .incoming →
      Step c { c with place := Function.update c.place id (some .direct) }
  | take (c : Custody) (id : Nat) (rest : List Nat) : c.queue = id :: rest → c.consumer = none →
      Step c { c with
        place := Function.update c.place id (some .consumer)
        queue := rest
        consumer := some id
        taken := c.taken ++ [id] }
  | attempt (c : Custody) (id : Nat) (ok : Bool) : c.Holds id →
      Step c { c with log := c.log ++ [.attempt id ok] }
  | ack (c : Custody) (id : Nat) : c.Holds id → .attempt id true ∈ c.log →
      Step c (c.settle id .acked (.ack id))
  | drop (c : Custody) (id : Nat) : c.Holds id → id ∈ attempts c.log →
      Step c (c.settle id .dropped (.drop id))

/-! ## First attempts -/

theorem attempts_append (l : List Event) (e : Event) :
    attempts (l ++ [e]) = attempts l ++ attempts [e] :=
  List.filterMap_append

theorem attempts_attempt (l : List Event) (id : Nat) (ok : Bool) :
    attempts (l ++ [.attempt id ok]) = attempts l ++ [id] :=
  attempts_append l _

theorem mem_attempts {l : List Event} : id ∈ attempts l ↔ ∃ ok, .attempt id ok ∈ l := by
  simp only [attempts, List.mem_filterMap]
  constructor
  · rintro ⟨e, he, hid⟩
    cases e with
    | attempt id' ok =>
      cases hid
      exact ⟨ok, he⟩
    | ack id' | drop id' => cases hid
  · rintro ⟨ok, he⟩
    exact ⟨_, he, rfl⟩

theorem successes_append (l : List Event) (e : Event) :
    successes (l ++ [e]) = successes l ++ successes [e] :=
  List.filterMap_append

theorem successes_subset {l : List Event} (h : id ∈ successes l) : id ∈ attempts l := by
  rw [successes, List.mem_filterMap] at h
  obtain ⟨e, he, hid⟩ := h
  apply mem_attempts.mpr
  split at hid
  · cases hid
    exact ⟨true, he⟩
  · cases hid

theorem eraseDups_snoc (l : List Nat) (id : Nat) :
    (l ++ [id]).eraseDups = if id ∈ l then l.eraseDups else l.eraseDups ++ [id] := by
  rw [List.eraseDups_append]
  split
  · next hmem => simp [List.removeAll, hmem]
  · next hmem => simp [List.removeAll, hmem, List.eraseDups_cons]

theorem eq_of_isPrefix_of_subset {l m : List Nat} (hinitial : l <+: m) (hnodup : m.Nodup)
    (hsub : ∀ id ∈ m, id ∈ l) : l = m := by
  obtain ⟨t, rfl⟩ := hinitial
  cases t with
  | nil => exact (List.append_nil l).symm
  | cons id t =>
    have hmem : id ∈ l := hsub id (by simp)
    exact (List.disjoint_of_nodup_append hnodup hmem (by simp)).elim

theorem isPrefix_of_not_mem {l pre : List Nat} (hinitial : l <+: pre ++ [id]) (hnot : id ∉ l) :
    l <+: pre := by
  rcases List.prefix_concat_iff.mp hinitial with heq | hpre
  · rw [heq] at hnot
    simp at hnot
  · exact hpre

theorem eraseDups_snoc_sublist {l pre : List Nat} (h : l.eraseDups.Sublist (pre ++ [id])) :
    (l ++ [id]).eraseDups.Sublist (pre ++ [id]) := by
  rw [eraseDups_snoc]
  split
  · exact h
  · next hnot =>
    apply List.Sublist.append _ (List.Sublist.refl _)
    obtain ⟨l₁, l₂, heq, h₁, h₂⟩ := List.sublist_append_iff.mp h
    have hnil : l₂ = [] := by
      apply List.eq_nil_iff_forall_not_mem.mpr
      intro id' hmem
      have hid := List.mem_singleton.mp (h₂.subset hmem)
      apply hnot
      rw [← List.mem_eraseDups, heq, ← hid]
      exact List.mem_append_right _ hmem
    rw [heq, hnil, List.append_nil]
    exact h₁

/-! ## The invariant -/

def WasTaken : Option Place → Prop
  | some .consumer | some .acked | some .dropped => True
  | _ => False

def WasHeld : Option Place → Prop
  | some .direct | some .consumer | some .acked | some .dropped => True
  | _ => False

/-- What `place` says of one item is what the rest of the state says of it. -/
structure Located (c : Custody) (id : Nat) (p : Option Place) : Prop where
  fresh : p = none ↔ c.next ≤ id
  queued : id ∈ c.queue ↔ p = some .queued
  consumer : c.consumer = some id ↔ p = some .consumer
  taken : id ∈ c.taken → WasTaken p
  attempted : id ∈ attempts c.log → WasHeld p
  /-- the consumer has attempted all it took before -/
  tried : id ∈ c.taken → c.consumer ≠ some id → id ∈ attempts c.log
  acked : .ack id ∈ c.log ↔ p = some .acked
  dropped : .drop id ∈ c.log ↔ p = some .dropped

structure Inv (c : Custody) : Prop where
  located : ∀ id, Located c id (c.place id)
  nodup : c.enqueued.Nodup
  last : ∀ id, c.consumer = some id → ∃ pre, c.taken = pre ++ [id]
  order : c.queueAttempts.eraseDups <+: c.taken
  stored : c.queueSuccesses.eraseDups.Sublist c.taken
  ackedOnce : ∀ pre id post, c.log = pre ++ .ack id :: post →
    .ack id ∉ pre ∧ .attempt id true ∈ pre

theorem inv_empty : Inv {} where
  located id := by constructor <;> simp [attempts]
  nodup := List.nodup_nil
  last := nofun
  order := by simp [queueAttempts, attempts]
  stored := by simp [queueSuccesses, successes]
  ackedOnce pre id post h := by simp at h

theorem located_update {c' : Custody} {p : Place} (hid : Located c' id (some p))
    (hothers : ∀ id' ≠ id, Located c' id' (c.place id')) (id' : Nat) :
    Located c' id' (Function.update c.place id (some p) id') := by
  by_cases heq : id' = id
  · rw [heq, Function.update_self]
    exact hid
  · rw [Function.update_of_ne heq]
    exact hothers id' heq

theorem filter_enqueued_snoc {ids : List Nat} (hid : id ∉ ids) :
    (ids.filter fun id' => id' ∈ c.enqueued ++ [id]) = ids.filter fun id' => id' ∈ c.enqueued := by
  apply List.filter_congr
  intro id' hmem
  have hne : id' ≠ id := by
    rintro rfl
    exact hid hmem
  simp [hne]

namespace Inv

theorem not_enqueued (hI : Inv c) (htaken : ¬ WasTaken (c.place id))
    (hqueued : c.place id ≠ some .queued) : id ∉ c.enqueued := by
  intro hmem
  rcases List.mem_append.mp hmem with hmem | hmem
  · exact htaken ((hI.located id).taken hmem)
  · exact hqueued ((hI.located id).queued.mp hmem)

theorem accept (hI : Inv c) :
    Inv { c with
      next := c.next + 1
      place := Function.update c.place c.next (some .incoming) } := by
  have h := hI.located c.next
  rw [h.fresh.mpr (Nat.le_refl _)] at h
  refine { hI with located := located_update ?_ fun id' hne => ?_ }
  · constructor <;> grind [Located, WasTaken, WasHeld]
  · have h' := hI.located id'
    exact { h' with fresh := by rw [h'.fresh]; show c.next ≤ id' ↔ c.next + 1 ≤ id'; omega }

theorem bypass (hI : Inv c) (hid : c.place id = some .incoming) :
    Inv { c with place := Function.update c.place id (some .direct) } := by
  have h := hI.located id
  rw [hid] at h
  refine { hI with located := located_update ?_ fun id' hne => { hI.located id' with } }
  constructor <;> grind [Located, WasTaken, WasHeld]

theorem enqueue (hI : Inv c) (hid : c.place id = some .incoming) :
    Inv { c with
      place := Function.update c.place id (some .queued)
      queue := c.queue ++ [id] } := by
  have h := hI.located id
  rw [hid] at h
  have hnot : id ∉ c.enqueued := hI.not_enqueued (by simp [hid, WasTaken]) (by simp [hid])
  have hunattempted : id ∉ attempts c.log := h.attempted
  have henqueued : c.taken ++ (c.queue ++ [id]) = c.enqueued ++ [id] :=
    (List.append_assoc ..).symm
  refine ⟨located_update ?_ fun id' hne => ?_, ?_, hI.last, ?_, ?_, hI.ackedOnce⟩
  · constructor <;> grind [Located, WasTaken, WasHeld]
  · exact { hI.located id' with queued := by simpa [hne] using (hI.located id').queued }
  · show (c.taken ++ (c.queue ++ [id])).Nodup
    rw [henqueued]
    exact List.Nodup.append hI.nodup (List.nodup_singleton id) (by simpa using hnot)
  · show ((attempts c.log).filter fun id' => id' ∈ c.taken ++ (c.queue ++ [id])).eraseDups <+: _
    rw [henqueued, filter_enqueued_snoc hunattempted]
    exact hI.order
  · show ((successes c.log).filter fun id' =>
      id' ∈ c.taken ++ (c.queue ++ [id])).eraseDups.Sublist _
    rw [henqueued, filter_enqueued_snoc fun h => hunattempted (successes_subset h)]
    exact hI.stored

theorem take (hI : Inv c) {rest : List Nat} (hqueue : c.queue = id :: rest)
    (hidle : c.consumer = none) :
    Inv { c with
      place := Function.update c.place id (some .consumer)
      queue := rest
      consumer := some id
      taken := c.taken ++ [id] } := by
  have h := hI.located id
  rw [h.queued.mp (by simp [hqueue])] at h
  have henqueued : c.taken ++ [id] ++ rest = c.enqueued := by
    rw [enqueued, hqueue, List.append_assoc]
    rfl
  have hnodup : (c.taken ++ [id] ++ rest).Nodup := henqueued ▸ hI.nodup
  refine ⟨located_update ?_ fun id' hne => ?_, hnodup, ?_, ?_, ?_, hI.ackedOnce⟩
  · have hrest : id ∉ rest := fun hmem =>
      List.disjoint_of_nodup_append hnodup (by simp) hmem
    constructor <;> grind [Located, WasTaken, WasHeld]
  · have h' := hI.located id'
    constructor <;> grind [Located]
  · intro id' h
    rw [← Option.some.inj h]
    exact ⟨c.taken, rfl⟩
  · show ((attempts c.log).filter fun id' => id' ∈ c.taken ++ [id] ++ rest).eraseDups <+: _
    rw [henqueued]
    exact hI.order.trans (List.prefix_append ..)
  · show ((successes c.log).filter fun id' => id' ∈ c.taken ++ [id] ++ rest).eraseDups.Sublist _
    rw [henqueued]
    exact hI.stored.trans (List.sublist_append_left ..)

theorem order_first (hI : Inv c) {pre : List Nat} (hcons : c.consumer = some id)
    (hpre : c.taken = pre ++ [id]) (hfirst : id ∉ c.queueAttempts) :
    c.queueAttempts.eraseDups ++ [id] <+: c.taken := by
  have hnodup : (pre ++ [id]).Nodup := hpre ▸ hI.nodup.of_append_left
  have hinitial : c.queueAttempts.eraseDups <+: pre := by
    apply isPrefix_of_not_mem (hpre ▸ hI.order)
    rw [List.mem_eraseDups]
    exact hfirst
  have hall : c.queueAttempts.eraseDups = pre := by
    apply eq_of_isPrefix_of_subset hinitial hnodup.of_append_left
    intro id' hmem
    have hne : c.consumer ≠ some id' := by
      rw [hcons]
      intro heq
      rw [← Option.some.inj heq] at hmem
      exact List.disjoint_of_nodup_append hnodup hmem (by simp)
    have htaken : id' ∈ c.taken := by simp [hpre, hmem]
    rw [List.mem_eraseDups]
    exact List.mem_filter.mpr ⟨(hI.located id').tried htaken hne,
      decide_eq_true (List.mem_append_left _ htaken)⟩
  have heq : c.queueAttempts.eraseDups ++ [id] = c.taken := by rw [hall, hpre]
  exact heq ▸ List.prefix_rfl

theorem of_holds (hI : Inv c) (hid : c.Holds id) :
    id ∉ c.enqueued ∨ id ∈ c.enqueued ∧ c.consumer = some id ∧ ∃ pre, c.taken = pre ++ [id] := by
  rcases hid with hdirect | hconsumer
  · exact Or.inl (hI.not_enqueued (by simp [hdirect, WasTaken]) (by simp [hdirect]))
  · have hcons : c.consumer = some id := (hI.located id).consumer.mpr hconsumer
    obtain ⟨pre, hpre⟩ := hI.last id hcons
    exact Or.inr ⟨List.mem_append_left _ (by simp [hpre]), hcons, pre, hpre⟩

theorem attempt (hI : Inv c) (ok : Bool) (hid : c.Holds id) :
    Inv { c with log := c.log ++ [.attempt id ok] } := by
  have hattempts := attempts_attempt c.log id ok
  refine ⟨fun id' => ?_, hI.nodup, hI.last, ?_, ?_, fun pre id' post hlog => ?_⟩
  · have h := hI.located id'
    constructor <;> grind [Located, Holds, WasHeld]
  · show ((attempts (c.log ++ [.attempt id ok])).filter fun id' => id' ∈ c.enqueued).eraseDups <+: _
    rw [hattempts, List.filter_append]
    rcases hI.of_holds hid with hnot | ⟨hmem, hcons, pre, hpre⟩
    · simp only [List.filter_singleton, hnot, decide_false, cond_false, List.append_nil]
      exact hI.order
    · simp only [List.filter_singleton, hmem, decide_true, cond_true, eraseDups_snoc]
      split
      · exact hI.order
      · next hfirst => exact hI.order_first hcons hpre hfirst
  · show ((successes (c.log ++ [.attempt id ok])).filter fun id' =>
      id' ∈ c.enqueued).eraseDups.Sublist _
    rw [successes_append, List.filter_append]
    cases ok with
    | false =>
      show (c.queueSuccesses ++ []).eraseDups.Sublist _
      rw [List.append_nil]
      exact hI.stored
    | true =>
      show (c.queueSuccesses ++ [id].filter _).eraseDups.Sublist _
      rcases hI.of_holds hid with hnot | ⟨hmem, -, pre, hpre⟩
      · simp only [List.filter_singleton, hnot, decide_false, cond_false, List.append_nil]
        exact hI.stored
      · simp only [List.filter_singleton, hmem, decide_true, cond_true]
        have hstored := hI.stored
        rw [hpre] at hstored ⊢
        exact eraseDups_snoc_sublist hstored
  · rcases snoc_eq_split hlog with ⟨-, -, he⟩ | ⟨post', -, hlog'⟩
    · cases he
    · exact hI.ackedOnce pre id' post' hlog'

theorem settle (hI : Inv c) {p : Place} {e : Event} (hid : c.Holds id)
    (htried : id ∈ attempts c.log)
    (he : p = .acked ∧ e = .ack id ∧ .attempt id true ∈ c.log ∨ p = .dropped ∧ e = .drop id) :
    Inv (c.settle id p e) := by
  have h := hI.located id
  have hattempts : attempts (c.log ++ [e]) = attempts c.log := by
    rcases he with ⟨-, rfl, -⟩ | ⟨-, rfl⟩ <;> simp [attempts]
  have hsuccesses : successes (c.log ++ [e]) = successes c.log := by
    rcases he with ⟨-, rfl, -⟩ | ⟨-, rfl⟩ <;> simp [successes]
  refine ⟨located_update ?_ fun id' hne => ?_, hI.nodup, fun id' hcons => ?_, ?_, ?_,
    fun pre id' post hlog => ?_⟩
  · constructor <;> grind [Located, Holds, WasTaken, WasHeld, Custody.settle]
  · have h' := hI.located id'
    constructor <;> grind [Located, Custody.settle]
  · exact hI.last id' (by grind [Custody.settle])
  · show ((attempts (c.log ++ [e])).filter fun id' => id' ∈ c.enqueued).eraseDups <+: _
    rw [hattempts]
    exact hI.order
  · show ((successes (c.log ++ [e])).filter fun id' => id' ∈ c.enqueued).eraseDups.Sublist _
    rw [hsuccesses]
    exact hI.stored
  · rcases snoc_eq_split hlog with ⟨-, rfl, heq⟩ | ⟨post', -, hlog'⟩
    · -- what is acknowledged now is still held
      obtain ⟨-, rfl, hok⟩ | ⟨-, rfl⟩ := he
      · cases heq
        exact ⟨by grind [Located, Holds], hok⟩
      · cases heq
    · exact hI.ackedOnce pre id' post' hlog'

theorem step (hI : Inv c) (hstep : Step c c') : Inv c' := by
  cases hstep with
  | accept => exact hI.accept
  | enqueue id hid => exact hI.enqueue hid
  | bypass id hid => exact hI.bypass hid
  | take id rest hqueue hidle => exact hI.take hqueue hidle
  | attempt id ok hid => exact hI.attempt ok hid
  | ack id hid hok =>
    exact hI.settle hid (mem_attempts.mpr ⟨true, hok⟩) (Or.inl ⟨rfl, rfl, hok⟩)
  | drop id hid htried => exact hI.settle hid htried (Or.inr ⟨rfl, rfl⟩)

/-- Items of the queue are first attempted in the order they were put on it. -/
theorem first_attempts (hI : Inv c) : c.queueAttempts.eraseDups <+: c.enqueued :=
  hI.order.trans (List.prefix_append ..)

theorem first_successes (hI : Inv c) : c.queueSuccesses.eraseDups.Sublist c.enqueued :=
  hI.stored.trans (List.sublist_append_left ..)

theorem settled_or_queued (hI : Inv c) (hid : id < c.next)
    (hproducer : c.place id ≠ some .incoming ∧ c.place id ≠ some .direct)
    (hidle : c.consumer = none) : .ack id ∈ c.log ∨ .drop id ∈ c.log ∨ id ∈ c.queue := by
  have h := hI.located id
  rw [h.acked, h.dropped, h.queued]
  cases hplace : c.place id with
  | none => exact absurd (h.fresh.mp hplace) (Nat.not_le_of_lt hid)
  | some p =>
    cases p with
    | incoming => exact absurd hplace hproducer.1
    | direct => exact absurd hplace hproducer.2
    | consumer => cases hidle.symm.trans (h.consumer.mpr hplace)
    | queued | acked | dropped => simp

end Inv

end Custody

end NexusGateway.Lib
