/-
`WriteHandler.java` of the OPC-UA connector: one command after another, with a
table of the replies given so far.  A command whose control id is in the
table is answered from it.  The table is bounded: after an execution, entries
are removed until at most `DEDUP_MAX` are left, each time the first completed
one in the map's iteration order.

That order says nothing about age, so it is part of the call here, as any
enumeration of the keys.  If a table that is too large is iterated from its
least recently executed entry on, the one removed has `DEDUP_MAX` others
executed since (`OldestFirst.spent`), and every recent command is remembered.
-/

import Mathlib.Data.List.Dedup
import NexusGateway.Connector.CommandDedup
import NexusGateway.Lib.Text

namespace NexusGateway.Connector.Opcua

open Lib

/-! ## Commands -/

/-- `PointConfig`, as far as a write reads it. -/
structure PointConfig where
  localId : String
  writable : Bool
  methodNodeId : Option String := none
deriving DecidableEq, Repr

/-- `ControlCommand`, as far as the handler reads it; a field that is missing is null. -/
structure ControlCommand where
  controlId : Option String
  localId : Option String
deriving DecidableEq, Repr

inductive WriteOutcome where
  | rejected
  | ok
  | timeout
  | failed (message : String)
  | interrupted
deriving DecidableEq, Repr

def inFlight : String := "__in_flight__"

/-- `execute`: the reply, for what the write comes to. -/
def execute (points : List PointConfig) (cmd : ControlCommand) (outcome : WriteOutcome) :
    WriteReply :=
  match points.find? (fun pt => some pt.localId = cmd.localId) with
  | none => ⟨false, "not_writable"⟩
  | some pt =>
    if !pt.writable then ⟨false, "not_writable"⟩
    else
      match outcome with
      | .rejected => ⟨false, "device_error: executor_shutdown"⟩
      | .ok => ⟨true, "ok"⟩
      | .timeout => ⟨false, "timeout"⟩
      | .failed message => ⟨false, "device_error: " ++ message⟩
      | .interrupted => ⟨false, "interrupted"⟩

theorem execute_response_ne (points : List PointConfig) (cmd : ControlCommand)
    (outcome : WriteOutcome) : (execute points cmd outcome).response ≠ inFlight := by
  unfold execute
  split
  · decide
  · split
    · decide
    · cases outcome with
      | rejected | ok | timeout | interrupted => decide
      | failed message =>
        intro h
        have hhead : ("device_error: ".toList ++ message.toList).head?
            = inFlight.toList.head? := by
          rw [← String.toList_append]
          exact congrArg (fun s => s.toList.head?) h
        simp [inFlight] at hhead

/-! ## The table -/

/-- `dedup`. -/
abbrev Table := Dict String WriteReply

def dedupMax : Nat := 1000

/-- The order in which the map is iterated: some enumeration of its keys. -/
structure IterationOrder where
  keys : Table → List String
  perm : ∀ t, (keys t).Perm t.keys

def firstCompleted (order : IterationOrder) (t : Table) : Option String :=
  (order.keys t).find? fun k => (t.lookup k).any fun reply => reply.response != inFlight

variable {order : IterationOrder} {t : Table} {k : String}

theorem mem_of_firstCompleted (h : firstCompleted order t = some k) : k ∈ t.keys := by
  exact (order.perm t).mem_iff.mp (List.mem_of_find?_eq_some h)

theorem length_keys_erase (h : k ∈ t.keys) : (t.erase k).keys.length + 1 = t.keys.length := by
  rw [AList.keys_erase, List.length_erase_of_mem h]
  have hpos := List.length_pos_of_mem h
  omega

def evictIfNeeded (order : IterationOrder) (t : Table) : Table :=
  if dedupMax < t.keys.length then
    match _h : firstCompleted order t with
    | some k => evictIfNeeded order (t.erase k)
    | none => t
  else t
termination_by t.keys.length
decreasing_by
  have hlength := length_keys_erase (mem_of_firstCompleted _h)
  omega

theorem evictIfNeeded_of_le (h : t.keys.length ≤ dedupMax) (order : IterationOrder) :
    evictIfNeeded order t = t := by
  rw [evictIfNeeded, if_neg (by omega)]

/-- The first entry of a table that is too large. -/
def evicted (order : IterationOrder) (t : Table) : Option String :=
  if dedupMax < t.keys.length then (order.keys t).head? else none

theorem mem_of_evicted (h : evicted order t = some k) : dedupMax < t.keys.length ∧ k ∈ t.keys := by
  rw [evicted] at h
  split_ifs at h with hmany
  exact ⟨hmany, (order.perm t).mem_iff.mp (List.mem_of_head? h)⟩

/-- Every entry is completed, so the first one is removed. -/
theorem evictIfNeeded_eq
    (hdone : ∀ id reply, t.lookup id = some reply → reply.response ≠ inFlight)
    (hlength : t.keys.length ≤ dedupMax + 1) (order : IterationOrder) :
    evictIfNeeded order t = (evicted order t).elim t t.erase := by
  by_cases hmany : dedupMax < t.keys.length
  · have hfirst : firstCompleted order t = (order.keys t).head? := by
      rw [firstCompleted]
      cases hkeys : order.keys t with
      | nil => rfl
      | cons k rest =>
        have hmem : k ∈ t.keys := by
          rw [← (order.perm t).mem_iff, hkeys]
          exact List.mem_cons_self
        obtain ⟨reply, hreply⟩ := Option.isSome_iff_exists.mp (AList.lookup_isSome.mpr hmem)
        exact List.find?_cons_of_pos (by simpa [hreply] using hdone k reply hreply)
    rw [evictIfNeeded, if_pos hmany, evicted, if_pos hmany, ← hfirst]
    split
    · next k hk =>
      have hlength' := length_keys_erase (mem_of_firstCompleted hk)
      rw [hk, Option.elim_some]
      exact evictIfNeeded_of_le (by omega) order
    · next hnone => rw [hnone, Option.elim_none]
  · rw [evictIfNeeded, if_neg hmany, evicted, if_neg hmany, Option.elim_none]

/-! ## Handling commands -/

/-- A message: the command it parses to, if it does, what its write would come to, and
    the order of the map if it has to be evicted from. -/
structure Call where
  cmd : Option ControlCommand
  outcome : WriteOutcome
  order : IterationOrder

def Call.controlId (c : Call) : Option String := c.cmd.bind ControlCommand.controlId

/-- What handling a message comes to: a reply to an unparseable one, an exception for a
    command without a control id, an execution, or an answer from the table. -/
inductive Handled where
  | badRequest
  | failed
  | executed (id : String) (reply : WriteReply)
  | answered (id : String) (reply : WriteReply)
deriving DecidableEq, Repr

def handle (points : List PointConfig) (t : Table) (c : Call) : Table × Handled :=
  match c.cmd with
  | none => (t, .badRequest)
  | some cmd =>
    match cmd.controlId with
    | none => (t, .failed)
    | some id =>
      match t.lookup id with
      | some previous =>
        if previous.response = inFlight then (t, .answered id ⟨false, "in_flight"⟩)
        else (t, .answered id previous)
      | none =>
        let t := t.insert id ⟨false, inFlight⟩
        let result := execute points cmd c.outcome
        (evictIfNeeded c.order (t.insert id result), .executed id result)

structure State where
  table : Table := ∅
  log : List Handled := []

def State.step (points : List PointConfig) (s : State) (c : Call) : State :=
  { table := (handle points s.table c).1, log := s.log ++ [(handle points s.table c).2] }

def run (points : List PointConfig) (calls : List Call) : State :=
  calls.foldl (State.step points) {}

/-! ## What is remembered -/

def Handled.id : Handled → Option String
  | .badRequest => none
  | .failed => none
  | .executed id _ => some id
  | .answered id _ => some id

def Handled.execution : Handled → Option (String × WriteReply)
  | .executed id reply => some (id, reply)
  | _ => none

def recent (log : List Handled) : List (String × WriteReply) :=
  (log.filterMap Handled.execution).reverse

def lastReply (log : List Handled) (id : String) : Option WriteReply :=
  ((recent log).find? fun e => e.1 = id).map Prod.snd

/-- The commands executed since the last execution of this one, the latest first. -/
def executedSince (log : List Handled) (id : String) : List String :=
  ((recent log).takeWhile fun e => e.1 ≠ id).map Prod.fst

/-- How many other commands have been executed since the last execution of this one. -/
def othersSince (log : List Handled) (id : String) : Nat := (executedSince log id).dedup.length

/-- A command executed with fewer than `DEDUP_MAX` others executed since is answered with
    the reply of its execution. -/
def Remembered (past : List Handled) (e : Handled) : Prop :=
  ∀ id reply, lastReply past id = some reply → othersSince past id < dedupMax →
    e.id = some id → e = .answered id reply

def Remembers (log : List Handled) : Prop := EachAfter Remembered log

theorem recent_executed (log : List Handled) (id : String) (reply : WriteReply) :
    recent (log ++ [.executed id reply]) = (id, reply) :: recent log := by
  rw [recent, List.filterMap_append, List.reverse_append]
  rfl

theorem recent_of_not_executed {e : Handled} (he : e.execution = none) (log : List Handled) :
    recent (log ++ [e]) = recent log := by
  rw [recent, List.filterMap_append, List.filterMap_cons_none he, List.filterMap_nil,
    List.append_nil]
  rfl

theorem lastReply_executed (log : List Handled) (id id' : String) (reply : WriteReply) :
    lastReply (log ++ [.executed id' reply]) id
      = if id = id' then some reply else lastReply log id := by
  rw [lastReply, recent_executed]
  by_cases h : id = id'
  · subst h
    simp
  · have hne : id' ≠ id := fun heq => h heq.symm
    simp [h, hne, lastReply]

theorem othersSince_executed_self (log : List Handled) (id : String) (reply : WriteReply) :
    othersSince (log ++ [.executed id reply]) id = 0 := by
  simp [othersSince, executedSince, recent_executed]

theorem length_dedup_le_cons (x : String) (l : List String) :
    l.dedup.length ≤ (x :: l).dedup.length := by
  by_cases hx : x ∈ l
  · rw [List.dedup_cons_of_mem hx]
  · rw [List.dedup_cons_of_notMem hx, List.length_cons]
    omega

theorem othersSince_le_executed {id id' : String} (h : id' ≠ id) (log : List Handled)
    (reply : WriteReply) :
    othersSince log id ≤ othersSince (log ++ [.executed id' reply]) id := by
  rw [othersSince, othersSince, executedSince, executedSince, recent_executed,
    List.takeWhile_cons_of_pos (by simpa using h), List.map_cons]
  exact length_dedup_le_cons _ _

/-! ## One call -/

variable {c : Call}

theorem handle_of_no_id (hc : c.controlId = none) (points : List PointConfig) (t : Table) :
    (handle points t c).1 = t ∧ (handle points t c).2.id = none ∧
      (handle points t c).2.execution = none := by
  unfold handle
  cases hcmd : c.cmd with
  | none => exact ⟨rfl, rfl, rfl⟩
  | some cmd =>
    rw [Call.controlId, hcmd, Option.bind_some] at hc
    simp [hc, Handled.id, Handled.execution]

theorem handle_of_stored {id : String} {reply : WriteReply} (hc : c.controlId = some id)
    (ht : t.lookup id = some reply) (hreply : reply.response ≠ inFlight)
    (points : List PointConfig) : handle points t c = (t, .answered id reply) := by
  obtain ⟨cmd, hcmd, hid⟩ := Option.bind_eq_some_iff.mp hc
  simp only [handle, hcmd, hid, ht, if_neg hreply]

theorem handle_of_new {cmd : ControlCommand} {id : String} (hcmd : c.cmd = some cmd)
    (hid : cmd.controlId = some id) (ht : t.lookup id = none) (points : List PointConfig) :
    handle points t c
      = (evictIfNeeded c.order (t.insert id (execute points cmd c.outcome)),
          .executed id (execute points cmd c.outcome)) := by
  simp only [handle, hcmd, hid, ht, AList.insert_insert]

/-! ## What the table recalls -/

/-- The table holds replies of last executions only, and a command that is not in it has
    `DEDUP_MAX` others executed since. -/
structure Accounts (t : Table) (log : List Handled) : Prop where
  completed : ∀ id reply, t.lookup id = some reply → reply.response ≠ inFlight
  stored : ∀ id reply, t.lookup id = some reply → lastReply log id = some reply
  forgotten : ∀ id reply, t.lookup id = none → lastReply log id = some reply →
    dedupMax ≤ othersSince log id

structure Recalls (s : State) : Prop extends Accounts s.table s.log where
  bounded : s.table.keys.length ≤ dedupMax

theorem recalls_init : Recalls {} where
  bounded := Nat.zero_le _
  completed := nofun
  stored := nofun
  forgotten := nofun

theorem Recalls.remembered {s : State} (h : Recalls s) (points : List PointConfig) (c : Call) :
    Remembered s.log (handle points s.table c).2 := by
  intro id reply hlast hfew hid
  cases hc : c.controlId with
  | none =>
    rw [(handle_of_no_id hc points s.table).2.1] at hid
    cases hid
  | some id' =>
    cases hlookup : s.table.lookup id' with
    | some reply' =>
      rw [handle_of_stored hc hlookup (h.completed _ _ hlookup)] at hid ⊢
      cases hid
      have hstored := h.stored _ _ hlookup
      rw [hlast] at hstored
      cases hstored
      rfl
    | none =>
      obtain ⟨cmd, hcmd, hcid⟩ := Option.bind_eq_some_iff.mp hc
      rw [handle_of_new hcmd hcid hlookup] at hid
      cases hid
      have hmany := h.forgotten _ _ hlookup hlast
      omega

theorem Recalls.quiet {s : State} (h : Recalls s) {e : Handled} (he : e.execution = none) :
    Recalls ⟨s.table, s.log ++ [e]⟩ := by
  refine { h with stored := ?_, forgotten := ?_ }
  · simpa only [lastReply, recent_of_not_executed he] using h.stored
  · simpa only [lastReply, othersSince, executedSince, recent_of_not_executed he] using h.forgotten

section Executed

variable {log : List Handled} {id : String} {result : WriteReply}

theorem Accounts.insert (h : Accounts t log) (hresult : result.response ≠ inFlight) :
    Accounts (t.insert id result) (log ++ [.executed id result]) := by
  constructor
  · grind [Dict.lookup_insert_ite, Accounts]
  · grind [Dict.lookup_insert_ite, lastReply_executed, Accounts]
  · intro id' reply hlookup hlast
    rw [Dict.lookup_insert_ite] at hlookup
    split_ifs at hlookup with hne
    rw [lastReply_executed, if_neg hne] at hlast
    exact Nat.le_trans (h.forgotten id' reply hlookup hlast)
      (othersSince_le_executed (Ne.symm hne) log result)

theorem Accounts.erase (h : Accounts t log) (hspent : dedupMax ≤ othersSince log k) :
    Accounts (t.erase k) log := by
  constructor <;> grind [Dict.lookup_erase_ite, Accounts]

theorem Recalls.executed {s : State} (h : Recalls s) (order : IterationOrder)
    (hnew : s.table.lookup id = none) (hresult : result.response ≠ inFlight)
    (hspent : ∀ k, evicted order (s.table.insert id result) = some k →
      dedupMax ≤ othersSince (s.log ++ [.executed id result]) k) :
    Recalls ⟨evictIfNeeded order (s.table.insert id result),
      s.log ++ [.executed id result]⟩ := by
  have haccounts : Accounts (s.table.insert id result) (s.log ++ [.executed id result]) :=
    h.toAccounts.insert hresult
  have hlength : (s.table.insert id result).keys.length = s.table.keys.length + 1 := by
    rw [AList.keys_insert, List.erase_of_not_mem (AList.lookup_eq_none.mp hnew), List.length_cons]
  have hbounded := h.bounded
  rw [evictIfNeeded_eq haccounts.completed (by omega)]
  cases hevicted : evicted order (s.table.insert id result) with
  | none =>
    refine ⟨haccounts, Nat.le_of_not_lt fun hmany => ?_⟩
    have hmany : dedupMax < (s.table.insert id result).keys.length := hmany
    rw [evicted, if_pos hmany, List.head?_eq_none_iff] at hevicted
    have hperm := (order.perm (s.table.insert id result)).length_eq
    rw [hevicted, hlength] at hperm
    cases hperm
  | some k =>
    refine ⟨haccounts.erase (hspent k hevicted), ?_⟩
    have herase := length_keys_erase (mem_of_evicted hevicted).2
    show ((s.table.insert id result).erase k).keys.length ≤ dedupMax
    omega

end Executed

/-! ## The oldest entry first -/

/-- If the table is too large, its iteration begins with the least recently executed entry. -/
def OldestFirst (log : List Handled) (order : IterationOrder) (t : Table) : Prop :=
  ∀ k, evicted order t = some k → ∀ k' ∈ t.keys, k' ≠ k → k' ∈ executedSince log k

def EvictsOldest (points : List PointConfig) (s : State) (c : Call) : Prop :=
  ∀ cmd id, c.cmd = some cmd → cmd.controlId = some id → s.table.lookup id = none →
    OldestFirst (s.step points c).log c.order
      (s.table.insert id (execute points cmd c.outcome))

/-- Counting: in a table that is too large `DEDUP_MAX` entries stand behind the first. -/
theorem OldestFirst.spent {log : List Handled} (h : OldestFirst log order t)
    (hk : evicted order t = some k) : dedupMax ≤ othersSince log k := by
  obtain ⟨hmany, hmem⟩ := mem_of_evicted hk
  have hothers : t.keys.erase k ⊆ (executedSince log k).dedup := by
    intro k' hk'
    obtain ⟨hne, hmem'⟩ := (t.keys_nodup.mem_erase_iff).mp hk'
    exact List.mem_dedup.mpr (h k hk k' hmem' hne)
  have hlength := (List.subperm_of_subset (t.keys_nodup.erase k) hothers).length_le
  rw [List.length_erase_of_mem hmem] at hlength
  show dedupMax ≤ (executedSince log k).dedup.length
  omega

variable {points : List PointConfig}

theorem Recalls.step {s : State} (h : Recalls s) (holdest : EvictsOldest points s c) :
    Recalls (s.step points c) := by
  cases hc : c.controlId with
  | none =>
    obtain ⟨htable, -, hexecution⟩ := handle_of_no_id hc points s.table
    rw [State.step, htable]
    exact h.quiet hexecution
  | some id =>
    cases hlookup : s.table.lookup id with
    | some reply =>
      rw [State.step, handle_of_stored hc hlookup (h.completed _ _ hlookup)]
      exact h.quiet rfl
    | none =>
      obtain ⟨cmd, hcmd, hid⟩ := Option.bind_eq_some_iff.mp hc
      have hresult := execute_response_ne points cmd c.outcome
      have hfirst := holdest cmd id hcmd hid hlookup
      rw [State.step, handle_of_new hcmd hid hlookup] at hfirst ⊢
      exact h.executed c.order hlookup hresult fun k hk => hfirst.spent hk

/-! ## Sequences of calls -/

theorem run_snoc (points : List PointConfig) (calls : List Call) (c : Call) :
    run points (calls ++ [c]) = (run points calls).step points c := by
  rw [run, List.foldl_append]
  rfl

def AllEvictOldest (points : List PointConfig) (calls : List Call) : Prop :=
  EachAfter (fun earlier c => EvictsOldest points (run points earlier) c) calls

theorem recalls_run {calls : List Call} (h : AllEvictOldest points calls) :
    Recalls (run points calls) ∧ Remembers (run points calls).log := by
  induction calls using List.reverseRecOn with
  | nil => exact ⟨recalls_init, eachAfter_nil⟩
  | append_singleton calls c ih =>
    obtain ⟨hrecalls, hremembers⟩ := ih h.of_append
    rw [run_snoc]
    exact ⟨hrecalls.step h.last, hremembers.snoc (hrecalls.remembered points c)⟩

/-- Whatever order the map is iterated in: as long as every call that makes it too large
    finds its least recently executed entry first, every recent command is answered with
    its stored reply. -/
theorem remembers_of_oldestFirst (points : List PointConfig) (calls : List Call)
    (holdest : AllEvictOldest points calls) : Remembers (run points calls).log :=
  (recalls_run holdest).2

theorem not_remembers_of_forgotten {calls : List Call} {reply : WriteReply}
    (hlookup : (run points calls).table.lookup k = none)
    (hlast : lastReply (run points calls).log k = some reply)
    (hrecent : othersSince (run points calls).log k < dedupMax) (hc : c.controlId = some k) :
    ¬ Remembers (run points (calls ++ [c])).log := by
  intro hremembers
  obtain ⟨cmd, hcmd, hid⟩ := Option.bind_eq_some_iff.mp hc
  rw [run_snoc, State.step, handle_of_new hcmd hid hlookup] at hremembers
  cases hremembers.last k reply hlast hrecent rfl

/-! ## Distinct commands -/

def keysFrom (id : String) (t : Table) : List String :=
  if id ∈ t.keys then id :: t.keys.erase id else t.keys

theorem keysFrom_perm (id : String) (t : Table) : (keysFrom id t).Perm t.keys := by
  unfold keysFrom
  split
  · next hmem => exact (List.perm_cons_erase hmem).symm
  · exact List.Perm.refl _

def startingAt (id : String) : IterationOrder := ⟨keysFrom id, keysFrom_perm id⟩

/-- A command for the valve, with the map iterated from this key on, if it is there. -/
def turn (first id : String) : Call := ⟨some ⟨some id, some "valve"⟩, .ok, startingAt first⟩

theorem head_keysFrom {first : String} (hmem : first ∈ t.keys) :
    (keysFrom first t).head? = some first := by
  rw [keysFrom, if_pos hmem]
  rfl

section Full

variable {first id : String} {ids : List String}

theorem handle_turn (points : List PointConfig) (hnew : id ∉ t.keys) :
    handle points t (turn first id) =
      (evictIfNeeded (startingAt first)
          (t.insert id (execute points ⟨some id, some "valve"⟩ .ok)),
        .executed id (execute points ⟨some id, some "valve"⟩ .ok)) :=
  handle_of_new rfl rfl (AList.lookup_eq_none.mpr hnew) points

/-- A sequence of distinct commands that fits into the table. -/
theorem run_turn (points : List PointConfig) (first : String) (ids : List String)
    (hids : ids.Nodup) (hfew : ids.length ≤ dedupMax) :
    (run points (ids.map (turn first))).table.keys = ids.reverse ∧
      (recent (run points (ids.map (turn first))).log).map Prod.fst = ids.reverse ∧
      AllEvictOldest points (ids.map (turn first)) := by
  induction ids using List.reverseRecOn with
  | nil => exact ⟨rfl, rfl, eachAfter_nil⟩
  | append_singleton ids id ih =>
    rw [List.length_append, List.length_singleton] at hfew
    obtain ⟨hnodup, -, hdisjoint⟩ := List.nodup_append.mp hids
    obtain ⟨hkeys, hrecent, holdest⟩ := ih hnodup (by omega)
    have hnew : id ∉ (run points (ids.map (turn first))).table.keys := by
      rw [hkeys, List.mem_reverse]
      exact fun hmem => hdisjoint id hmem id List.mem_cons_self rfl
    have hinsert : ∀ reply, ((run points (ids.map (turn first))).table.insert id reply).keys
        = (ids ++ [id]).reverse := by
      intro reply
      rw [AList.keys_insert, List.erase_of_not_mem hnew, hkeys, List.reverse_append]
      rfl
    have hroom : ∀ reply,
        ((run points (ids.map (turn first))).table.insert id reply).keys.length ≤ dedupMax := by
      intro reply
      rw [hinsert, List.length_reverse, List.length_append]
      exact hfew
    rw [List.map_append, List.map_singleton, run_snoc, State.step, handle_turn points hnew]
    refine ⟨?_, ?_, holdest.snoc ?_⟩
    · show (evictIfNeeded _ _).keys = _
      rw [evictIfNeeded_of_le (hroom _), hinsert]
    · rw [recent_executed, List.map_cons, hrecent, List.reverse_append]
      rfl
    · rintro cmd id' ⟨⟩ ⟨⟩ - k hk
      exact absurd (mem_of_evicted hk).1 (Nat.not_lt_of_le (hroom _))

/-- One command more than the table holds, and the map is iterated from `first` on. -/
theorem run_full (points : List PointConfig) (first : String) (hids : (ids ++ [id]).Nodup)
    (hfull : ids.length = dedupMax) (hfirst : first ∈ ids ++ [id]) {reply : WriteReply}
    (hreply : reply = execute points ⟨some id, some "valve"⟩ .ok) :
    id ∉ (run points (ids.map (turn first))).table.keys ∧
      ((run points (ids.map (turn first))).table.insert id reply).keys = id :: ids.reverse ∧
      evicted (startingAt first) ((run points (ids.map (turn first))).table.insert id reply) =
        some first ∧
      (run points (ids.map (turn first) ++ [turn first id])).table =
        ((run points (ids.map (turn first))).table.insert id reply).erase first ∧
      (run points (ids.map (turn first) ++ [turn first id])).log =
        (run points (ids.map (turn first))).log ++ [.executed id reply] := by
  obtain ⟨hnodup, -, hdisjoint⟩ := List.nodup_append.mp hids
  obtain ⟨hkeys, -, holdest⟩ := run_turn points first ids hnodup (by omega)
  have hnew : id ∉ (run points (ids.map (turn first))).table.keys := by
    rw [hkeys, List.mem_reverse]
    exact fun hmem => hdisjoint id hmem id List.mem_cons_self rfl
  have hinsert : ((run points (ids.map (turn first))).table.insert id reply).keys
      = id :: ids.reverse := by
    rw [AList.keys_insert, List.erase_of_not_mem hnew, hkeys]
  have hlength : ((run points (ids.map (turn first))).table.insert id reply).keys.length
      = dedupMax + 1 := by
    rw [hinsert, List.length_cons, List.length_reverse, hfull]
  have hevicted : evicted (startingAt first)
      ((run points (ids.map (turn first))).table.insert id reply) = some first := by
    rw [evicted, if_pos (by omega)]
    exact head_keysFrom (by rw [hinsert]; simpa [or_comm] using hfirst)
  have hdone : reply.response ≠ inFlight := hreply ▸ execute_response_ne _ _ _
  rw [run_snoc, State.step, handle_turn points hnew, ← hreply]
  refine ⟨hnew, hinsert, hevicted, ?_, rfl⟩
  show evictIfNeeded _ _ = _
  rw [evictIfNeeded_eq ((recalls_run holdest).1.toAccounts.insert hdone).completed (by omega),
    hevicted, Option.elim_some]

theorem not_remembers_turn (points : List PointConfig) (hids : (ids ++ [id]).Nodup)
    (hfull : ids.length = dedupMax) :
    ¬ Remembers (run points (ids.map (turn id) ++ [turn id id] ++ [turn id id])).log := by
  obtain ⟨-, -, -, htable, hlog⟩ := run_full points id hids hfull (by simp) rfl
  apply not_remembers_of_forgotten (k := id)
  · rw [htable]
    exact AList.lookup_erase _ _
  · rw [hlog, lastReply_executed, if_pos rfl]
  · rw [hlog, othersSince_executed_self]
    decide
  · rfl

theorem executedSince_eq_takeWhile (log : List Handled) (id : String) :
    executedSince log id = ((recent log).map Prod.fst).takeWhile fun id' => id' ≠ id := by
  rw [executedSince, List.takeWhile_map]
  rfl

/-- A table that was filled one by one is iterated from its oldest entry on, that entry is
    removed, and then one of the others comes again. -/
theorem allEvictOldest_turn (points : List PointConfig) {again : String}
    (hids : (first :: ids ++ [id]).Nodup) (hfull : (first :: ids).length = dedupMax)
    (hagain : again ∈ ids) :
    AllEvictOldest points ((first :: ids).map (turn first) ++ [turn first id] ++
      [turn first again]) := by
  obtain ⟨hnew, hkeys, hevicted, htable, hlog⟩ := run_full points first hids hfull (by simp) rfl
  have hfresh : first ∉ ids ++ [id] := (List.nodup_cons.mp hids).1
  obtain ⟨-, hrecent, hshort⟩ := run_turn points first (first :: ids)
    (List.nodup_append.mp hids).1 (by omega)
  refine (hshort.snoc ?_).snoc ?_
  · rintro cmd id' ⟨⟩ ⟨⟩ - k hk k' hk' hne
    obtain rfl : first = k := Option.some.inj (hevicted.symm.trans hk)
    have hother : ∀ x ∈ id :: ids.reverse, decide (x ≠ first) = true := by
      intro x hx
      rw [decide_eq_true_eq]
      rintro rfl
      exact hfresh (by simpa [or_comm] using hx)
    rw [run_snoc] at hlog
    rw [executedSince_eq_takeWhile, hlog, recent_executed, List.map_cons, hrecent,
      List.reverse_cons, ← List.cons_append, List.takeWhile_append_of_pos hother]
    have hk' : k' ∈ id :: (first :: ids).reverse := hkeys ▸ hk'
    rw [List.reverse_cons, ← List.cons_append, List.mem_append, List.mem_singleton] at hk'
    exact List.mem_append_left _ (hk'.resolve_right hne)
  · rintro cmd id' ⟨⟩ ⟨⟩ hnone
    have hne : again ≠ first := by
      rintro rfl
      exact hfresh (List.mem_append_left _ hagain)
    rw [htable, Dict.lookup_erase_ite, if_neg hne, AList.lookup_eq_none, AList.mem_keys,
      hkeys] at hnone
    exact absurd hagain (by simp at hnone; tauto)

end Full

/-- The ids of the sample after the first one. -/
def unaries (n : Nat) : List String := (List.range n).map fun k => unary (k + 1)

theorem unaries_eq (n : Nat) : unary 0 :: unaries n = (List.range (n + 1)).map unary := by
  rw [List.range_succ_eq_map, List.map_cons, List.map_map]
  rfl

theorem nodup_unaries (n : Nat) : (unary 0 :: unaries n ++ [unary (n + 1)]).Nodup := by
  have hnodup := (List.nodup_range (n := n + 2)).map unary_injective
  rw [List.range_succ, List.map_append, List.map_singleton, ← unaries_eq] at hnodup
  exact hnodup

theorem length_unaries (n : Nat) : (unary 0 :: unaries n).length = n + 1 := by
  rw [List.length_cons, unaries, List.length_map, List.length_range]

/-- A thousand and one commands, with the oldest first: that one is forgotten, and the next
    oldest is still answered. -/
theorem remembers_of_oldestFirst_evicting :
    (run [⟨"valve", true, none⟩] ((unary 0 :: unaries 999).map (turn (unary 0)) ++
      [turn (unary 0) (unary 1000)])).table.lookup (unary 0) = none ∧
    Remembers (run [⟨"valve", true, none⟩] ((unary 0 :: unaries 999).map (turn (unary 0)) ++
      [turn (unary 0) (unary 1000)] ++ [turn (unary 0) (unary 1)])).log := by
  have hids := nodup_unaries 999
  have hfull : (unary 0 :: unaries 999).length = dedupMax := length_unaries 999
  have hagain : unary 1 ∈ unaries 999 :=
    List.mem_map.mpr ⟨0, List.mem_range.mpr (by decide), rfl⟩
  constructor
  · obtain ⟨-, -, -, htable, -⟩ :=
      run_full [⟨"valve", true, none⟩] (unary 0) hids hfull (by simp) rfl
    rw [htable]
    exact AList.lookup_erase _ _
  · exact remembers_of_oldestFirst _ _ (allEvictOldest_turn _ hids hfull hagain)

theorem not_remembers_thousand_and_one :
    ¬ Remembers (run [⟨"valve", true, none⟩] ((unary 0 :: unaries 999).map (turn (unary 1000)) ++
      [turn (unary 1000) (unary 1000)] ++ [turn (unary 1000) (unary 1000)])).log :=
  not_remembers_turn _ (nodup_unaries 999) (length_unaries 999)

end NexusGateway.Connector.Opcua
