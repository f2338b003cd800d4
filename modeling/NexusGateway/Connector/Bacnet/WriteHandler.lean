/-
`write_handler.py` of the BACnet connector: `handle` coroutines that
interleave at their awaits.  A coroutine reserves its control id in the table
before it waits for its write, and stores the reply when the write is done.

Storing a reply makes room first: from `_DEDUP_MAX` entries on it deletes the
oldest one, whether its command is done or not.  As long as the entry deleted
is that of a command that is done, the markers in the table are exactly the
writes in flight, no control id is written twice at once, and the table holds
at most `_DEDUP_MAX` entries beside them (`Recorded.step`).  This is so if no
write is overtaken by `_DEDUP_MAX - 1` others (`evictsDone_of_prompt`).
-/

import Mathlib.Data.List.InsertIdx
import NexusGateway.Connector.Bacnet.Poll
import NexusGateway.Connector.CommandDedup
import NexusGateway.Lib.OrderedDict
import NexusGateway.Lib.Text

namespace NexusGateway.Connector.Bacnet

open Lib

/-! ## Commands and writes -/

/-- `ControlCommand`, with values in `V`. -/
structure ControlCommand (V : Type) where
  controlID : String
  localID : String
  value : Option V := none
  priority : Nat := 0
  release : Bool := false
deriving DecidableEq

/-- A call of `write_property` on the connector's device. -/
structure Write (V : Type) where
  controlID : String
  localID : String
  value : Option V
  priority : Nat
deriving DecidableEq

inductive WriteOutcome where
  | ok
  | timeout
  | failed (message : String)
deriving DecidableEq, Repr

def WriteOutcome.reply : WriteOutcome → WriteReply
  | .ok => ⟨true, "ok"⟩
  | .timeout => ⟨false, "timeout"⟩
  | .failed message => ⟨false, "device_error: " ++ message⟩

structure HandlerConfig where
  config : Config
  defaultWritePriority : Nat

variable {V : Type}

def HandlerConfig.write? (cfg : HandlerConfig) (cmd : ControlCommand V) : Option (Write V) :=
  match cfg.config.pointMap cmd.localID with
  | none => none
  | some pt =>
    if !pt.writable then none
    else some {
      controlID := cmd.controlID
      localID := cmd.localID
      value := if cmd.release then none else cmd.value
      priority := if cmd.priority > 0 then cmd.priority else cfg.defaultWritePriority }

variable {cfg : HandlerConfig} {w : Write V}

theorem HandlerConfig.controlID_write {cmd : ControlCommand V} (h : cfg.write? cmd = some w) :
    w.controlID = cmd.controlID := by
  unfold write? at h
  split at h
  · cases h
  · split at h
    · cases h
    · cases h
      rfl

/-! ## The table -/

/-- `_dedup`: a reply, or the marker `None` of a command in flight. -/
abbrev Table := OrderedDict String (Option WriteReply)

def dedupMax : Nat := 1000

def evict (t : Table) : Table := if dedupMax ≤ t.length then t.dropOldest else t

def cache (t : Table) (controlID : String) (result : WriteReply) : Table :=
  (evict t).set controlID (some result)

/-! ## The coroutines -/

/-- The handler: its table, the writes being waited for, the commands accepted so far and
    the replies sent so far, oldest first. -/
structure Handler (V : Type) where
  dedup : Table := .empty
  inFlight : List (Write V) := []
  accepted : List String := []
  replies : List WriteReply := []

/-- What the event loop does next: deliver a message (`none`: it cannot be parsed), whose
    coroutine runs up to its write, or resume a coroutine whose write is over. -/
inductive Action (V : Type) where
  | deliver (cmd : Option (ControlCommand V))
  | resume (i : Nat) (outcome : WriteOutcome)
deriving DecidableEq

namespace Handler

def respond (s : Handler V) (reply : WriteReply) : Handler V :=
  { s with replies := s.replies ++ [reply] }

/-- `self._dedup[cmd.control_id] = None`. -/
def reserve (s : Handler V) (controlID : String) : Handler V :=
  { s with dedup := s.dedup.set controlID none, accepted := s.accepted ++ [controlID] }

def finish (s : Handler V) (controlID : String) (result : WriteReply) : Handler V :=
  { s with dedup := cache s.dedup controlID result, replies := s.replies ++ [result] }

/-- `handle` up to its write, or to its end if there is none. -/
def deliver (cfg : HandlerConfig) (s : Handler V) : Option (ControlCommand V) → Handler V
  | none => s.respond ⟨false, "bad_request"⟩
  | some cmd =>
    match s.dedup.get? cmd.controlID with
    | some (some cached) => s.respond cached
    | some none => s.respond ⟨false, "in_flight"⟩
    | none =>
      match cfg.write? cmd with
      | some w => { s.reserve cmd.controlID with inFlight := s.inFlight ++ [w] }
      | none => (s.reserve cmd.controlID).finish cmd.controlID ⟨false, "not_writable"⟩

def step (cfg : HandlerConfig) (s : Handler V) : Action V → Option (Handler V)
  | .deliver cmd => some (s.deliver cfg cmd)
  | .resume i outcome =>
    match s.inFlight[i]? with
    | some w =>
      some ({ s with inFlight := s.inFlight.eraseIdx i }.finish w.controlID outcome.reply)
    | none => none

def writing (s : Handler V) : List String := s.inFlight.map Write.controlID

/-- No control id is written twice at once, and the table holds at most `_DEDUP_MAX` entries
    beside the commands in flight. -/
structure Sound (s : Handler V) : Prop where
  once : s.writing.Nodup
  bounded : s.dedup.length ≤ dedupMax + s.inFlight.length

end Handler

/-! ## What the table says about the commands in flight -/

/-- How many commands have been accepted since the last time this one was. -/
def since (controlID : String) (accepted : List String) : Nat :=
  (accepted.reverse.takeWhile fun id => id ≠ controlID).length

theorem since_snoc_self (id : String) (accepted : List String) :
    since id (accepted ++ [id]) = 0 := by
  simp [since]

theorem since_snoc_of_ne {id id' : String} (h : id' ≠ id) (accepted : List String) :
    since id (accepted ++ [id']) = since id accepted + 1 := by
  simp [since, h]

/-- The markers of a table are the commands pending, each of them once; the others are at
    most `_DEDUP_MAX`; and what stands behind a command was accepted after it. -/
structure Marks (t : Table) (accepted pending : List String) : Prop where
  marked : ∀ id, (id, none) ∈ t.entries ↔ id ∈ pending
  once : pending.Nodup
  bounded : t.length ≤ dedupMax + pending.length
  behind : ∀ pre id post, t.keys = pre ++ id :: post → post.length ≤ since id accepted

theorem marks_empty : Marks .empty [] [] where
  marked id := by simp [OrderedDict.empty]
  once := List.nodup_nil
  bounded := Nat.zero_le _
  behind pre id post h := by simp [OrderedDict.keys, OrderedDict.empty] at h

/-- The entry that would have to go is that of a command that is done. -/
def OldestDone (t : Table) : Prop :=
  dedupMax ≤ t.length → t.oldest?.all (fun e => e.2.isSome) = true

instance (t : Table) : Decidable (OldestDone t) := inferInstanceAs (Decidable (_ → _))

namespace Marks

variable {t : Table} {accepted pending : List String} {id : String}

theorem not_mem_pending (h : Marks t accepted pending) (hid : id ∉ t.keys) : id ∉ pending := by
  intro hmem
  exact hid (OrderedDict.mem_keys_of_mem ((h.marked id).mpr hmem))

theorem reserve (h : Marks t accepted pending) (hid : id ∉ t.keys) :
    Marks (t.set id none) (accepted ++ [id]) (pending ++ [id]) where
  marked id' := by
    rw [OrderedDict.mem_set, h.marked, List.mem_append, List.mem_singleton, Prod.mk.injEq]
    constructor
    · rintro (⟨heq, -⟩ | ⟨hmem, -⟩)
      · exact Or.inr heq
      · exact Or.inl hmem
    · rintro (hmem | heq)
      · exact Or.inr ⟨hmem, fun heq => h.not_mem_pending hid (heq ▸ hmem)⟩
      · exact Or.inl ⟨heq, rfl⟩
  once := by
    rw [← List.concat_eq_append]
    exact h.once.concat (h.not_mem_pending hid)
  bounded := by
    have hbounded := h.bounded
    rw [← OrderedDict.length_keys] at hbounded ⊢
    rw [OrderedDict.keys_set_of_not_mem hid, List.length_append, List.length_append,
      List.length_singleton]
    omega
  behind pre id' post hkeys := by
    rw [OrderedDict.keys_set_of_not_mem hid] at hkeys
    rcases snoc_eq_split hkeys with ⟨hpost, -, -⟩ | ⟨post', hpost, hbefore⟩
    · rw [hpost]
      exact Nat.zero_le _
    · have hmem : id' ∈ t.keys := by
        rw [hbefore]
        exact List.mem_append_right _ List.mem_cons_self
      have hne : id ≠ id' := fun heq => hid (heq ▸ hmem)
      have hle := h.behind pre id' post' hbefore
      rw [since_snoc_of_ne hne, hpost, List.length_append, List.length_singleton]
      omega

theorem mem_evict (hdone : OldestDone t) (id : String) :
    (id, none) ∈ (evict t).entries ↔ (id, none) ∈ t.entries := by
  unfold evict
  split
  · next hfull =>
    cases hold : t.oldest? with
    | none =>
      have hnil : t.entries = [] := List.head?_eq_none_iff.mp hold
      show (id, none) ∈ t.entries.tail ↔ _
      rw [hnil, List.tail_nil]
    | some old =>
      have hsome : old.2.isSome = true := by
        have hall := hdone hfull
        rw [hold] at hall
        exact hall
      rw [OrderedDict.mem_dropOldest hold]
      constructor
      · exact And.left
      · intro hmem
        refine ⟨hmem, ?_⟩
        rintro rfl
        have hmemold : (old.1, old.2) ∈ t.entries := List.mem_of_mem_head? hold
        rw [← OrderedDict.eq_of_mem hmem hmemold] at hsome
        cases hsome
  · exact Iff.rfl

theorem length_evict_le {n : Nat} (h : t.length ≤ dedupMax + (n + 1)) :
    (evict t).length ≤ dedupMax + n := by
  unfold evict
  split
  · rw [OrderedDict.length_dropOldest]
    omega
  · omega

theorem keys_evict {pre post : List String} (h : (evict t).keys = pre ++ id :: post) :
    ∃ pre', t.keys = pre' ++ id :: post := by
  unfold evict at h
  split at h
  · rw [OrderedDict.keys_dropOldest] at h
    cases hkeys : t.keys with
    | nil =>
      rw [hkeys] at h
      simp at h
    | cons old rest =>
      rw [hkeys, List.tail_cons] at h
      exact ⟨old :: pre, by rw [h, List.cons_append]⟩
  · exact ⟨pre, h⟩

theorem finish (h : Marks t accepted pending) (hid : id ∈ pending) (hdone : OldestDone t)
    (result : WriteReply) : Marks (cache t id result) accepted (pending.erase id) := by
  have hmem : id ∈ (evict t).keys :=
    OrderedDict.mem_keys_of_mem ((mem_evict hdone id).mpr ((h.marked id).mpr hid))
  constructor
  case marked =>
    intro id'
    rw [cache, OrderedDict.mem_set, mem_evict hdone, h.marked, h.once.mem_erase_iff, and_comm]
    simp
  case once => exact h.once.erase id
  case bounded =>
    rw [cache, ← OrderedDict.length_keys, OrderedDict.keys_set_of_mem hmem, OrderedDict.length_keys]
    apply length_evict_le
    have hlength := List.length_erase_add_one hid
    have hbounded := h.bounded
    omega
  case behind =>
    intro pre id' post hkeys
    rw [cache, OrderedDict.keys_set_of_mem hmem] at hkeys
    obtain ⟨pre', hkeys'⟩ := keys_evict hkeys
    exact h.behind pre' id' post hkeys'

theorem oldestDone (h : Marks t accepted pending)
    (hprompt : ∀ id ∈ pending, since id accepted + 1 < dedupMax) : OldestDone t := by
  intro hfull
  cases hold : t.oldest? with
  | none => rfl
  | some old =>
    obtain ⟨id, reply⟩ := old
    cases reply with
    | some reply => rfl
    | none =>
      obtain ⟨rest, hentries⟩ := List.head?_eq_some_iff.mp hold
      have hmem : (id, none) ∈ t.entries := List.mem_of_mem_head? hold
      have hkeys : t.keys = [] ++ id :: rest.map Prod.fst := by
        rw [OrderedDict.keys, hentries]
        rfl
      have hbehind := h.behind [] id (rest.map Prod.fst) hkeys
      have hlength : t.length = (rest.map Prod.fst).length + 1 := by
        rw [← OrderedDict.length_keys, hkeys, List.nil_append, List.length_cons]
      have hsince := hprompt id ((h.marked id).mp hmem)
      omega

end Marks

/-! ## The event loop -/

variable {s : Handler V} {a : Action V}

namespace Handler

def Recorded (s : Handler V) : Prop := Marks s.dedup s.accepted s.writing

theorem Recorded.sound (h : s.Recorded) : s.Sound := by
  refine ⟨h.once, ?_⟩
  have hbounded := h.bounded
  rw [writing, List.length_map] at hbounded
  exact hbounded

def storesIn (cfg : HandlerConfig) (s : Handler V) : Action V → Option Table
  | .deliver none => none
  | .deliver (some cmd) =>
    if s.dedup.get? cmd.controlID = none ∧ (cfg.write? cmd).isNone then
      some (s.dedup.set cmd.controlID none)
    else none
  | .resume _ _ => some s.dedup

/-- If the action makes room in the table, it is the entry of a command that is done that goes. -/
def EvictsDone (cfg : HandlerConfig) (s : Handler V) (a : Action V) : Prop :=
  ∀ t ∈ s.storesIn cfg a, OldestDone t

instance (cfg : HandlerConfig) (s : Handler V) (a : Action V) : Decidable (s.EvictsDone cfg a) :=
  inferInstanceAs (Decidable (∀ t ∈ s.storesIn cfg a, OldestDone t))

theorem Recorded.deliver (h : s.Recorded) (cmd : Option (ControlCommand V))
    (hevicts : s.EvictsDone cfg (.deliver cmd)) : (s.deliver cfg cmd).Recorded := by
  unfold Handler.deliver
  split
  · exact h
  · next cmd =>
    split
    · exact h
    · exact h
    · next hnew =>
      have hkeys := OrderedDict.get?_eq_none_iff.mp hnew
      have hreserved := h.reserve hkeys
      split
      · next w hw =>
        show Marks _ _ ((s.inFlight ++ [w]).map Write.controlID)
        rw [List.map_append, List.map_singleton, cfg.controlID_write hw]
        exact hreserved
      · next hw =>
        have hdone := hevicts (s.dedup.set cmd.controlID none) (by simp [storesIn, hnew, hw])
        have hfinished := hreserved.finish List.mem_append_cons_self hdone
          ⟨false, "not_writable"⟩
        rw [List.erase_append_right _ (h.not_mem_pending hkeys), List.erase_cons_head,
          List.append_nil] at hfinished
        exact hfinished

theorem mem_writing {i : Nat} (hw : s.inFlight[i]? = some w) :
    w.controlID ∈ s.writing := List.mem_map_of_mem (List.mem_of_getElem? hw)

theorem writing_eraseIdx (honce : s.writing.Nodup) {i : Nat} (hw : s.inFlight[i]? = some w) :
    (s.inFlight.eraseIdx i).map Write.controlID = s.writing.erase w.controlID := by
  have hid : s.writing[i]? = some w.controlID := by
    rw [writing, List.getElem?_map, hw]
    rfl
  obtain ⟨hi, hget⟩ := List.getElem?_eq_some_iff.mp hid
  rw [← hget, honce.erase_getElem, writing, List.eraseIdx_map]

theorem Recorded.resume (h : s.Recorded) {i : Nat} (hw : s.inFlight[i]? = some w)
    (hdone : OldestDone s.dedup) (result : WriteReply) :
    ({ s with inFlight := s.inFlight.eraseIdx i }.finish w.controlID result).Recorded := by
  have hfinished := h.finish (mem_writing hw) hdone result
  rw [← writing_eraseIdx h.once hw] at hfinished
  exact hfinished

theorem Recorded.step {t : Handler V} (h : s.Recorded) (hstep : s.step cfg a = some t)
    (hevicts : s.EvictsDone cfg a) : t.Recorded := by
  unfold Handler.step at hstep
  split at hstep
  · next cmd =>
    cases hstep
    exact h.deliver cmd hevicts
  · next i outcome =>
    split at hstep
    · next w hw =>
      cases hstep
      exact h.resume hw (hevicts s.dedup rfl) outcome.reply
    · cases hstep

theorem Recorded.evictsDone_of_prompt {t : Handler V} (h : s.Recorded)
    (hstep : s.step cfg a = some t)
    (hprompt : ∀ id ∈ s.writing, since id t.accepted + 1 < dedupMax) : s.EvictsDone cfg a := by
  intro table htable
  cases a with
  | deliver cmd =>
    cases cmd with
    | none => cases htable
    | some cmd =>
      rw [storesIn] at htable
      split at htable
      · next hnew =>
        cases htable
        cases hstep
        obtain ⟨hget, hw⟩ := hnew
        rw [Option.isNone_iff_eq_none] at hw
        simp only [Handler.deliver, hget, hw] at hprompt
        apply (h.reserve (OrderedDict.get?_eq_none_iff.mp hget)).oldestDone
        intro id hid
        rcases List.mem_append.mp hid with hmem | hself
        · exact hprompt id hmem
        · rw [List.mem_singleton.mp hself, since_snoc_self]
          decide
      · cases htable
  | resume i outcome =>
    cases htable
    rw [Handler.step] at hstep
    split at hstep
    · cases hstep
      exact h.oldestDone hprompt
    · cases hstep

/-! ## A marker that goes -/

def Evicts (cfg : HandlerConfig) (s : Handler V) (a : Action V) (id : String) : Prop :=
  ∃ t ∈ s.storesIn cfg a, dedupMax ≤ t.length ∧ t.oldest?.map Prod.fst = some id

theorem not_mem_keys_cache {t : Table} {id id' : String} (hfull : dedupMax ≤ t.length)
    (hold : t.oldest?.map Prod.fst = some id) (hne : id ≠ id') (result : WriteReply) :
    id ∉ (cache t id' result).keys := by
  obtain ⟨old, hentry, rfl⟩ := Option.map_eq_some_iff.mp hold
  intro hmem
  obtain ⟨v, hv⟩ := OrderedDict.exists_of_mem_keys hmem
  rw [cache, OrderedDict.mem_set, evict, if_pos hfull, OrderedDict.mem_dropOldest hentry] at hv
  rcases hv with heq | ⟨⟨-, hgone⟩, -⟩
  · exact hne (congrArg Prod.fst heq)
  · exact hgone rfl

theorem Recorded.not_mem_keys_of_evicts {t : Handler V} {id : String} (h : s.Recorded)
    (hstep : s.step cfg a = some t) (hevicts : s.Evicts cfg a id) (hid : id ∈ t.writing) :
    id ∉ t.dedup.keys := by
  obtain ⟨table, htable, hfull, hold⟩ := hevicts
  cases a with
  | deliver cmd =>
    cases cmd with
    | none => cases htable
    | some cmd =>
      rw [storesIn] at htable
      split at htable
      · next hnew =>
        cases htable
        cases hstep
        obtain ⟨hget, hw⟩ := hnew
        rw [Option.isNone_iff_eq_none] at hw
        have hne : id ≠ cmd.controlID := by
          rintro rfl
          simp only [Handler.deliver, hget, hw] at hid
          exact h.not_mem_pending (OrderedDict.get?_eq_none_iff.mp hget) hid
        simp only [Handler.deliver, hget, hw]
        exact not_mem_keys_cache hfull hold hne ⟨false, "not_writable"⟩
      · cases htable
  | resume i outcome =>
    cases htable
    rw [Handler.step] at hstep
    split at hstep
    · next w hw =>
      cases hstep
      have hne : id ≠ w.controlID := by
        rintro rfl
        have hleft : w.controlID ∈ s.writing.erase w.controlID := by
          rw [← writing_eraseIdx h.once hw]
          exact hid
        exact h.once.not_mem_erase hleft
      exact not_mem_keys_cache hfull hold hne outcome.reply
    · cases hstep

theorem not_once_deliver {cmd : ControlCommand V} (hwriting : cmd.controlID ∈ s.writing)
    (hkeys : cmd.controlID ∉ s.dedup.keys) (hw : (cfg.write? cmd).isSome) :
    ¬ (s.deliver cfg (some cmd)).writing.Nodup := by
  obtain ⟨w, hw⟩ := Option.isSome_iff_exists.mp hw
  intro honce
  simp only [Handler.deliver, OrderedDict.get?_eq_none_iff.mpr hkeys, hw] at honce
  rw [writing, List.map_append, List.map_singleton, cfg.controlID_write hw] at honce
  exact (List.nodup_append.mp honce).2.2 _ hwriting _ List.mem_cons_self rfl

/-! ## Any interleaving -/

def valve : HandlerConfig where
  config := {
    connectorID := "bacnet"
    bacnetDeviceID := 1
    points := [{ localID := "valve", deviceRef := "device", writable := true }] }
  defaultWritePriority := 8

def turn (id : String) : ControlCommand Nat :=
  { controlID := id, localID := "valve", value := some 1 }

def turning (id : String) : Write Nat := ⟨id, "valve", some 1, 8⟩

theorem write_turn (id : String) : valve.write? (turn id) = some (turning id) := rfl

theorem recorded_init : ({} : Handler V).Recorded := marks_empty

/-- In every interleaving in which room is made only by removing commands that are done, no
    control id is written twice at once and the table is bounded.  An action that removes the
    marker of a command still in flight instead lets it be written again when it comes again. -/
theorem sound_of_evictsDone (cfg : HandlerConfig) (as : List (Action V)) (s : Handler V)
    (hrun : Run (Meeting (fun s a t => s.step cfg a = some t) (EvictsDone cfg)) {} as s) :
    s.Sound ∧
      ∀ a t id, s.step cfg a = some t → s.Evicts cfg a id → id ∈ t.writing →
        ∀ cmd, cmd.controlID = id → (cfg.write? cmd).isSome →
          ¬ (t.deliver cfg (some cmd)).Sound := by
  have hrecorded : s.Recorded :=
    hrun.invariant recorded_init fun s a t h hstep => h.step hstep.1 hstep.2
  refine ⟨hrecorded.sound, ?_⟩
  intro a t id hstep hevicts hid cmd hcmd hw
  have hgone := hrecorded.not_mem_keys_of_evicts hstep hevicts hid
  subst hcmd
  intro hsound
  exact not_once_deliver hid hgone hw hsound.once

/-- Two writes at once, the later one over first, and its command once more in between. -/
def interleaved : List (Action Nat) :=
  [.deliver (some (turn "a")), .deliver (some (turn "b")), .resume 1 .ok,
    .deliver (some (turn "b")), .resume 0 .timeout]

theorem sound_two_writes :
    ∃ s, Run (Meeting (fun s a t => s.step valve a = some t) (EvictsDone valve)) {}
        interleaved s ∧ s.Sound := by
  have hrun : Run (Meeting (fun s a t => s.step valve a = some t) (EvictsDone valve)) {}
      interleaved _ := Run.meeting_of_foldlM rfl
  exact ⟨_, hrun, (sound_of_evictsDone valve _ _ hrun).1⟩

/-- In particular, this is so if every write is over before `_DEDUP_MAX - 1` further commands
    have been accepted. -/
theorem sound_of_prompt {as : List (Action V)}
    (hrun : Run (fun s a t => s.step cfg a = some t ∧
      ∀ id ∈ s.writing, since id t.accepted + 1 < dedupMax) {} as s) : s.Sound := by
  have hrecorded : s.Recorded := hrun.invariant recorded_init fun s a t h hstep =>
    h.step hstep.1 (h.evictsDone_of_prompt hstep.1 hstep.2)
  exact hrecorded.sound

theorem sound_of_prompt_interleaved :
    ∃ s : Handler Nat, Run (fun s a t => s.step valve a = some t ∧
        ∀ id ∈ s.writing, since id t.accepted + 1 < dedupMax) {} interleaved s ∧
      s.replies = [⟨true, "ok"⟩, ⟨true, "ok"⟩, ⟨false, "timeout"⟩] ∧ s.Sound := by
  have hrun : Run (fun (s : Handler Nat) a t => s.step valve a = some t ∧
      ∀ id ∈ s.writing, since id t.accepted + 1 < dedupMax) {} interleaved _ :=
    Run.cons ⟨rfl, by decide⟩ (Run.cons ⟨rfl, by decide⟩ (Run.cons ⟨rfl, by decide⟩
      (Run.cons ⟨rfl, by decide⟩ (Run.single ⟨rfl, by decide⟩))))
  exact ⟨_, hrun, rfl, sound_of_prompt hrun⟩

/-! ## A thousand commands in flight -/

theorem run_started (ids : List String) (s : Handler Nat) (hnew : (s.dedup.keys ++ ids).Nodup) :
    ∃ t, Run (fun s a t => s.step valve a = some t) s
        (ids.map fun id => .deliver (some (turn id))) t ∧
      t.dedup.entries = s.dedup.entries ++ ids.map (fun id => (id, none)) ∧
      t.inFlight = s.inFlight ++ ids.map turning := by
  induction ids generalizing s with
  | nil => exact ⟨s, .nil s, (List.append_nil _).symm, (List.append_nil _).symm⟩
  | cons id ids ih =>
    have hid : id ∉ s.dedup.keys := by
      intro hmem
      exact (List.nodup_append.mp hnew).2.2 id hmem id List.mem_cons_self rfl
    have hkeys := OrderedDict.keys_set_of_not_mem hid (none : Option WriteReply)
    have hstep : s.deliver valve (some (turn id))
        = { s.reserve id with inFlight := s.inFlight ++ [turning id] } := by
      have hget : s.dedup.get? (turn id).controlID = none := OrderedDict.get?_eq_none_iff.mpr hid
      simp only [Handler.deliver, hget, write_turn]
      rfl
    obtain ⟨t, hrun, hentries, hwrites⟩ :=
      ih { s.reserve id with inFlight := s.inFlight ++ [turning id] } (by
        show ((s.dedup.set id none).keys ++ ids).Nodup
        rw [hkeys, List.append_assoc]
        exact hnew)
    refine ⟨t, Run.cons (congrArg some hstep) hrun, ?_, ?_⟩
    · rw [hentries]
      show (s.dedup.set id none).entries ++ _ = _
      rw [OrderedDict.entries_set_of_not_mem hid, List.append_assoc, List.map_cons]
      rfl
    · rw [hwrites, List.append_assoc, List.map_cons]
      rfl

theorem run_resumed (ids : List String) (s : Handler Nat)
    (done : List (String × Option WriteReply))
    (hentries : s.dedup.entries = ids.map (fun id => (id, none)) ++ done)
    (hwrites : s.inFlight = ids.map turning) (hfull : dedupMax ≤ s.dedup.length) :
    ∃ t, Run (fun s a t => s.step valve a = some t) s
        (List.replicate ids.length (.resume 0 .ok)) t ∧
      t.inFlight = [] ∧ t.dedup.length = s.dedup.length := by
  induction ids generalizing s done with
  | nil => exact ⟨s, .nil s, hwrites, rfl⟩
  | cons id ids ih =>
    have hnodup := s.dedup.nodup
    rw [hentries, List.map_cons, List.cons_append, List.map_cons, List.nodup_cons] at hnodup
    have hevict : (evict s.dedup).entries = ids.map (fun id => (id, none)) ++ done := by
      rw [evict, if_pos hfull]
      show s.dedup.entries.tail = _
      rw [hentries]
      rfl
    have hid : id ∉ (evict s.dedup).keys := by
      rw [OrderedDict.keys, hevict]
      exact hnodup.1
    have hcache : (cache s.dedup id WriteOutcome.ok.reply).entries
        = ids.map (fun id => (id, none)) ++ (done ++ [(id, some WriteOutcome.ok.reply)]) := by
      rw [cache, OrderedDict.entries_set_of_not_mem hid, hevict, List.append_assoc]
    have hlength : (cache s.dedup id WriteOutcome.ok.reply).length = s.dedup.length := by
      rw [OrderedDict.length, OrderedDict.length, hcache, hentries]
      simp only [List.length_append, List.length_map, List.length_cons, List.length_nil]
      omega
    have hstep : s.step valve (.resume 0 .ok)
        = some ({ s with inFlight := ids.map turning }.finish id WriteOutcome.ok.reply) := by
      rw [Handler.step, hwrites]
      rfl
    obtain ⟨t, hrun, hnone, hsame⟩ :=
      ih ({ s with inFlight := ids.map turning }.finish id WriteOutcome.ok.reply) _ hcache rfl
        (Nat.le_trans hfull (Nat.le_of_eq hlength.symm))
    exact ⟨t, Run.cons hstep hrun, hnone, hsame.trans hlength⟩

theorem run_started_init (ids : List String) (hids : ids.Nodup) :
    ∃ t : Handler Nat, Run (fun s a t => s.step valve a = some t) {}
        (ids.map fun id => .deliver (some (turn id))) t ∧
      t.dedup.entries = ids.map (fun id => (id, none)) ∧ t.inFlight = ids.map turning :=
  run_started ids {} hids

theorem exists_written_twice {first second : String} {others : List String}
    (hids : (first :: second :: others).Nodup) (hmany : dedupMax ≤ others.length + 2) :
    ∃ (as : List (Action Nat)) (s : Handler Nat),
      Run (fun s a t => s.step valve a = some t) {} as s ∧ ¬ s.writing.Nodup := by
  obtain ⟨s, hrun, hentries, hwrites⟩ := run_started_init _ hids
  have hfull : dedupMax ≤ s.dedup.length := by
    rw [OrderedDict.length, hentries]
    simpa using hmany
  have hold : s.dedup.oldest?.map Prod.fst = some first := by
    rw [OrderedDict.oldest?, hentries]
    rfl
  have hne : first ≠ second := by
    intro heq
    exact (List.nodup_cons.mp hids).1 (heq ▸ List.mem_cons_self)
  have hstep : s.step valve (.resume 1 .ok)
      = some ({ s with inFlight := s.inFlight.eraseIdx 1 }.finish second
          WriteOutcome.ok.reply) := by
    rw [Handler.step, hwrites]
    rfl
  have hgone := not_mem_keys_cache hfull hold hne WriteOutcome.ok.reply
  have hwriting : first ∈ (s.inFlight.eraseIdx 1).map Write.controlID := by
    rw [hwrites]
    exact List.mem_cons_self
  have hrepeated : ∀ t : Handler Nat,
      t.step valve (.deliver (some (turn first))) = some (t.deliver valve (some (turn first))) :=
    fun _ => rfl
  exact ⟨_, _, (hrun.snoc hstep).snoc (hrepeated _), not_once_deliver hwriting hgone rfl⟩

theorem exists_table_too_long {ids : List String} (hids : ids.Nodup)
    (hmany : dedupMax < ids.length) :
    ∃ (as : List (Action Nat)) (s : Handler Nat),
      Run (fun s a t => s.step valve a = some t) {} as s ∧
        dedupMax + s.inFlight.length < s.dedup.length := by
  obtain ⟨s, hstarted, hentries, hwrites⟩ := run_started_init ids hids
  have hlength : s.dedup.length = ids.length := by
    rw [OrderedDict.length, hentries, List.length_map]
  obtain ⟨t, hresumed, hnone, hsame⟩ := run_resumed ids s []
    (hentries.trans (List.append_nil _).symm) hwrites (by omega)
  refine ⟨_, t, hstarted.trans hresumed, ?_⟩
  rw [hnone, hsame, hlength, List.length_nil]
  exact hmany

theorem nodup_unary (n : Nat) : (unary 0 :: unary 1 :: (List.range' 2 n).map unary).Nodup := by
  have hrange : (List.range' 0 (n + 2)).Nodup := List.nodup_range'
  exact hrange.map unary_injective

theorem length_unary (n : Nat) :
    (unary 0 :: unary 1 :: (List.range' 2 n).map unary).length = n + 2 := by
  rw [List.length_cons, List.length_cons, List.length_map, List.length_range']

/-- Neither half holds of every interleaving. -/
theorem not_always_sound :
    (∃ (as : List (Action Nat)) (s : Handler Nat),
        Run (fun s a t => s.step valve a = some t) {} as s ∧ ¬ s.writing.Nodup) ∧
      ∃ (as : List (Action Nat)) (s : Handler Nat),
        Run (fun s a t => s.step valve a = some t) {} as s ∧
          dedupMax + s.inFlight.length < s.dedup.length := by
  constructor
  · exact exists_written_twice (nodup_unary 998) (length_unary 998).ge
  · apply exists_table_too_long (nodup_unary 999)
    rw [length_unary]
    decide

end Handler

end NexusGateway.Connector.Bacnet
