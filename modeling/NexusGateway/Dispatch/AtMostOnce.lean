/-
At most one device write per control id.  Between the lookup of a call and its
store nothing marks its control id as taken, so a second call for the id that
looks up in between goes to the device as well.  When a call passes the gate
only while no other call for its id is in flight and none has stored a result
since its lookup, the cache does what it is for: one request per id, and one
result for every call that was not refused.
-/

import NexusGateway.Dispatch.Dispatcher

namespace NexusGateway.Dispatch

open Lib
open PointList

/-! ## In flight -/

def Phase.inFlight : Phase → Bool
  | .admitted | .requested | .executed _ => true
  | _ => false

def Phase.sent : Phase → Bool
  | .requested | .executed _ => true
  | _ => false

theorem Phase.inFlight_of_sent {p : Phase} (h : p.sent = true) : p.inFlight = true := by
  cases p <;> first | rfl | cases h

namespace State

def inFlight (s : State) (id : String) : Bool :=
  s.calls.entries.any fun e => e.2.cmd.controlId = id && e.2.phase.inFlight

/-- The condition on admission: the id has no stored result and no other call for
    it is in flight. -/
def alone (s : State) : Action → Bool
  | .enter n true =>
    match s.calls.lookup n with
    | some c => (s.dedup.lookup c.cmd.controlId).isNone && !s.inFlight c.cmd.controlId
    | none => true
  | _ => true

theorem not_inFlight {s : State} {id : String} (h : s.inFlight id = false) {m : Nat} {c : Call}
    (hm : s.calls.lookup m = some c) (hid : c.cmd.controlId = id) : c.phase.inFlight = false := by
  rw [inFlight, List.any_eq_false] at h
  have hc := h ⟨m, c⟩ (AList.mem_lookup_iff.mp hm)
  simpa [hid] using hc

def requests (s : State) (id : String) : Nat := s.published.countP fun req => req.2.controlID = id

end State

/-! ## The invariant -/

structure Inv (s : State) : Prop where
  /-- while a call is in flight, nothing is stored for its id -/
  unstored : ∀ n c, s.calls.lookup n = some c → c.phase.inFlight = true →
    s.dedup.lookup c.cmd.controlId = none
  /-- one call in flight per id -/
  single : ∀ n m c c', s.calls.lookup n = some c → s.calls.lookup m = some c' →
    c.phase.inFlight = true → c'.phase.inFlight = true →
    c.cmd.controlId = c'.cmd.controlId → n = m
  /-- what was returned is what is stored -/
  returned : ∀ n c r, s.calls.lookup n = some c → c.phase = .returned r →
    s.dedup.lookup c.cmd.controlId = some r
  requests_le : ∀ id, s.requests id ≤ 1
  /-- a published request belongs to a stored result or to a call in flight -/
  requested : ∀ id, 0 < s.requests id → s.dedup.lookup id ≠ none ∨
    ∃ n c, s.calls.lookup n = some c ∧ c.cmd.controlId = id ∧ c.phase.sent = true

theorem inv_init (gate : Bool) (resolver : SyncedResolver) : Inv (State.init gate resolver) where
  unstored n c h := by cases h
  single n m c c' h := by cases h
  returned n c r h := by cases h
  requests_le _ := Nat.zero_le 1
  requested _ h := absurd h (Nat.lt_irrefl 0)

theorem Inv.same_result {s : State} (hI : Inv s) : ∀ n m c c' r r', s.calls.lookup n = some c →
    s.calls.lookup m = some c' → c.cmd.controlId = c'.cmd.controlId → c.phase = .returned r →
    c'.phase = .returned r' → r = r' := by
  intro n m c c' r r' hn hm hid hr hr'
  have hstored := hI.returned n c r hn hr
  rw [hid, hI.returned m c' r' hm hr', Option.some.injEq] at hstored
  exact hstored.symm

section Steps

variable {s t : State} {n : Nat} {cmd : ControlCommand} {p : Phase}

theorem lookup_setPhase (s : State) (n m : Nat) (cmd : ControlCommand) (p : Phase) :
    (s.setPhase n cmd p).calls.lookup m =
      if m = n then some ⟨cmd, p⟩ else s.calls.lookup m :=
  Dict.lookup_insert_ite ..

theorem Inv.setPhase (hI : Inv s)
    (hflight : p.inFlight = true → s.dedup.lookup cmd.controlId = none ∧
      ∀ m c, s.calls.lookup m = some c → m ≠ n → c.cmd.controlId = cmd.controlId →
        c.phase.inFlight = false)
    (hreturned : ∀ r, p = .returned r → s.dedup.lookup cmd.controlId = some r)
    (hsent : ∀ c, s.calls.lookup n = some c → c.phase.sent = true →
      c.cmd = cmd ∧ p.sent = true) : Inv (s.setPhase n cmd p) := by
  refine ⟨?_, ?_, ?_, hI.requests_le, fun id hpos => ?_⟩
  · grind [lookup_setPhase, hI.unstored, State.setPhase]
  · grind [lookup_setPhase, hI.single]
  · grind [lookup_setPhase, hI.returned, State.setPhase]
  · rcases hI.requested id hpos with hstored | ⟨m, c, hm, hid, hc⟩
    · exact Or.inl hstored
    · refine Or.inr ⟨m, if m = n then ⟨cmd, p⟩ else c, ?_⟩
      grind [lookup_setPhase]

theorem Inv.only (hI : Inv s) {q : Phase} (hn : s.calls.lookup n = some ⟨cmd, q⟩)
    (hq : q.inFlight = true) : s.dedup.lookup cmd.controlId = none ∧
      ∀ m c, s.calls.lookup m = some c → m ≠ n → c.cmd.controlId = cmd.controlId →
        c.phase.inFlight = false := by
  refine ⟨hI.unstored n _ hn hq, ?_⟩
  intro m c hm hne hid
  by_contra hc
  rw [Bool.not_eq_false] at hc
  exact hne (hI.single m n c _ hm hn hc hq hid)

theorem Inv.goesOn (hI : Inv s) {q : Phase} (hn : s.calls.lookup n = some ⟨cmd, q⟩)
    (hq : q.inFlight = true) (hp : p.inFlight = true) (hsent : q.sent = true → p.sent = true) :
    Inv (s.setPhase n cmd p) := by
  refine hI.setPhase (fun _ => hI.only hn hq) ?_ (by grind)
  rintro r rfl
  cases hp

theorem Inv.outside (hI : Inv s) (hp : p.inFlight = false)
    (hq : ∀ c, s.calls.lookup n = some c → c.phase.sent = false)
    (hreturned : ∀ r, p = .returned r → s.dedup.lookup cmd.controlId = some r) :
    Inv (s.setPhase n cmd p) :=
  hI.setPhase (by grind) hreturned (by grind)

theorem Inv.requests_eq_zero (hI : Inv s) (hn : s.calls.lookup n = some ⟨cmd, .admitted⟩) :
    s.requests cmd.controlId = 0 := by
  by_contra hne
  obtain ⟨hnone, -⟩ := hI.only hn rfl
  rcases hI.requested cmd.controlId (Nat.pos_of_ne_zero hne) with hstored | ⟨m, c, hm, hid, hc⟩
  · exact hstored hnone
  · -- a call that has sent is in flight, so it is this one, which has not sent
    have hmn := hI.single m n c _ hm hn (Phase.inFlight_of_sent hc) rfl hid
    subst hmn
    rw [hn, Option.some.injEq] at hm
    subst hm
    cases hc

theorem Inv.publish (hI : Inv s) (hn : s.calls.lookup n = some ⟨cmd, .admitted⟩)
    {req : String × WriteRequest} (hreq : req.2.controlID = cmd.controlId) :
    Inv { s.setPhase n cmd .requested with published := s.published ++ [req] } := by
  have hI' := hI.goesOn (p := .requested) hn rfl rfl nofun
  have hzero := hI.requests_eq_zero hn
  have hcount : ∀ id, (s.published ++ [req]).countP (fun req => req.2.controlID = id) =
      s.requests id + if cmd.controlId = id then 1 else 0 := by
    intro id
    rw [List.countP_append, List.countP_singleton, hreq]
    simp [State.requests]
  refine ⟨hI'.unstored, hI'.single, hI'.returned, fun id => ?_, fun id hpos => ?_⟩
  · have hle := hI.requests_le id
    grind [State.requests]
  · by_cases hid : cmd.controlId = id
    · refine Or.inr ⟨n, ⟨cmd, .requested⟩, ?_, hid, rfl⟩
      show (s.setPhase n cmd .requested).calls.lookup n = _
      rw [lookup_setPhase, if_pos rfl]
    · have hpos' : 0 < (s.published ++ [req]).countP fun req => req.2.controlID = id := hpos
      rw [hcount, if_neg hid] at hpos'
      exact hI'.requested id hpos'

theorem Inv.store (hI : Inv s) {r : ControlResult}
    (hn : s.calls.lookup n = some ⟨cmd, .executed r⟩) :
    Inv { s.setPhase n cmd (.returned r) with dedup := s.dedup.insert cmd.controlId r } := by
  obtain ⟨hnone, honly⟩ := hI.only hn rfl
  have hlookup : ∀ m, ((s.setPhase n cmd (.returned r)).calls.lookup m =
      if m = n then some ⟨cmd, .returned r⟩ else s.calls.lookup m) := fun m => lookup_setPhase ..
  have hstored : ∀ id, (s.dedup.insert cmd.controlId r).lookup id =
      if id = cmd.controlId then some r else s.dedup.lookup id := fun id =>
    Dict.lookup_insert_ite ..
  -- an earlier return for this id would have left a stored result
  refine ⟨?_, ?_, ?_, hI.requests_le, fun id hpos => ?_⟩
  · grind [hI.unstored, Phase.inFlight]
  · grind [hI.single, Phase.inFlight]
  · grind [hI.returned]
  · grind [hI.requested id hpos]

theorem Inv.admit (hI : Inv s) (hn : s.calls.lookup n = some ⟨cmd, .missed⟩)
    (halone : s.alone (.enter n true) = true) : Inv (s.setPhase n cmd .admitted) := by
  simp only [State.alone, hn, Bool.and_eq_true, Bool.not_eq_true', Option.isNone_iff_eq_none]
    at halone
  refine hI.setPhase (fun _ => ⟨halone.1, ?_⟩) nofun ?_
  · intro m c hm _ hid
    exact State.not_inFlight halone.2 hm hid
  · intro c hc hcs
    rw [hn, Option.some.injEq] at hc
    subst hc
    cases hcs

theorem Inv.step (hI : Inv s) {a : Action}
    (hstep : Meeting State.Steps (fun s a => s.alone a = true) s a t) : Inv t := by
  obtain ⟨hstep, halone⟩ := hstep
  unfold State.Steps at hstep
  revert hstep
  fun_cases State.step with
  | case2 n cmd hn =>
    rintro ⟨⟩
    exact hI.outside rfl (by simp [hn]) (by simp)
  | case3 n cmd hn r hr =>
    rintro ⟨⟩
    exact hI.outside rfl (by simp [hn, Phase.sent]) (by simpa using hr)
  | case4 n cmd hn | case7 n ok cmd hn =>
    rintro ⟨⟩
    exact hI.outside rfl (by simp [hn, Phase.sent]) (by simp)
  | case6 n cmd hn =>
    rintro ⟨⟩
    exact hI.admit hn halone
  | case10 n published cmd hn | case12 n published cmd hn =>
    rintro ⟨⟩
    exact hI.goesOn hn rfl rfl (by rintro ⟨⟩)
  | case11 n cmd hn req hreq =>
    rintro ⟨⟩
    exact hI.publish hn (controlID_of_prepare hreq)
  | case14 n answer cmd hn =>
    rintro ⟨⟩
    exact hI.goesOn hn rfl rfl fun _ => rfl
  | case16 n cmd r hn =>
    rintro ⟨⟩
    exact hI.store hn
  | case18 entries =>
    rintro ⟨⟩
    exact { hI with }
  | case1 | case5 | case8 | case9 | case13 | case15 | case17 => rintro ⟨⟩

end Steps

/-! ## The guarantee -/

/-- In every interleaving of `Execute` calls in which a call passes the gate only
    while its control id has no stored result and no other call for it is in
    flight: at most one request is published per control id, and all calls for it
    that were not refused return the same result. -/
theorem one_write_per_control_id {gate : Bool} {resolver : SyncedResolver} {as : List Action}
    {s : State}
    (hrun : Run (Meeting State.Steps fun s a => s.alone a = true) (State.init gate resolver) as s) :
    (∀ id, s.requests id ≤ 1) ∧
    ∀ n m c c' r r', s.calls.lookup n = some c → s.calls.lookup m = some c' →
      c.cmd.controlId = c'.cmd.controlId → c.phase = .returned r → c'.phase = .returned r' →
      r = r' := by
  have hI : Inv s := hrun.invariant (inv_init gate resolver) fun _ _ _ hI hstep => hI.step hstep
  exact ⟨hI.requests_le, hI.same_result⟩

def onePoint : SyncedResolver :=
  SyncedResolver.new.update
    [{ connectorID := "sim-01", protocol := "sim", localID := "l1", pointID := "p1",
       writable := true }]

def sampleCommand : ControlCommand := ⟨"ctrl-1", "p1", one, 8⟩

def sampleReply (response : String) : Answer := .reply ⟨true, response⟩

/-- Two calls one after the other. -/
def repeatedCommand : List Action :=
  [.call 0 sampleCommand, .lookup 0, .enter 0 true, .request 0 true, .reply 0 (sampleReply "ok"),
    .store 0, .call 1 sampleCommand, .lookup 1]

/-- The second call returns the stored result. -/
theorem one_write_per_control_id_sequential :
    ∃ s c c' r r', Run (Meeting State.Steps fun s a => s.alone a = true) (State.init true onePoint)
        repeatedCommand s ∧
      s.requests "ctrl-1" = 1 ∧ s.calls.lookup 0 = some c ∧ s.calls.lookup 1 = some c' ∧
      c.phase = .returned r ∧ c'.phase = .returned r' ∧ r = r' := by
  obtain ⟨s, hrun, hreq, h₀, h₁⟩ :
      ∃ s, Run (Meeting State.Steps fun s a => s.alone a = true) (State.init true onePoint)
          repeatedCommand s ∧
        s.requests "ctrl-1" = 1 ∧
        s.calls.lookup 0 = some ⟨sampleCommand, .returned ⟨"ctrl-1", true, "ok"⟩⟩ ∧
        s.calls.lookup 1 = some ⟨sampleCommand, .returned ⟨"ctrl-1", true, "ok"⟩⟩ :=
    ⟨_, Run.meeting_of_foldlM rfl, rfl, rfl, rfl⟩
  have hsame := (one_write_per_control_id hrun).2 0 1 _ _ _ _ h₀ h₁ rfl rfl rfl
  exact ⟨s, _, _, _, _, hrun, hreq, h₀, h₁, rfl, rfl, hsame⟩

/-- Two calls that overlap: both miss the cache, both write to the device, and the
    connector answers them differently. -/
theorem two_writes_for_one_control_id :
    ∃ s c c', Run State.Steps (State.init true onePoint)
        [.call 0 sampleCommand, .call 1 sampleCommand, .lookup 0, .lookup 1, .enter 0 true,
          .enter 1 true, .request 0 true, .request 1 true, .reply 0 (sampleReply "ok"),
          .reply 1 (sampleReply "busy"), .store 0, .store 1] s ∧
      s.requests "ctrl-1" = 2 ∧
      s.calls.lookup 0 = some c ∧ c.phase = .returned ⟨"ctrl-1", true, "ok"⟩ ∧
      s.calls.lookup 1 = some c' ∧ c'.phase = .returned ⟨"ctrl-1", true, "busy"⟩ :=
  ⟨_, _, _, Run.of_foldlM rfl, rfl, rfl, rfl, rfl, rfl⟩

/-! ## One caller -/

def Phase.done : Phase → Bool
  | .returned _ | .refused _ => true
  | _ => false

/-- A call begins when the others are over: `Execute` is called by the receive loop of the
    egress agent and by nothing else. -/
def State.oneAtATime (s : State) : Action → Bool
  | .call _ _ => s.calls.entries.all fun e => e.2.phase.done
  | _ => true

structure Sequential (s : State) : Prop where
  single : ∀ n m c c', s.calls.lookup n = some c → s.calls.lookup m = some c' →
    c.phase.done = false → c'.phase.done = false → n = m
  missed : ∀ n c, s.calls.lookup n = some c → c.phase = .missed →
    s.dedup.lookup c.cmd.controlId = none

section OneCaller

variable {s t : State} {a : Action} {n : Nat} {cmd : ControlCommand} {p q : Phase}

theorem sequential_setPhase (hothers : ∀ m c, m ≠ n → s.calls.lookup m = some c →
      c.phase.done = true) (hcalls : t.calls = (s.setPhase n cmd p).calls)
    (hmissed : p = .missed → t.dedup.lookup cmd.controlId = none) : Sequential t := by
  have hdone : ∀ m c, t.calls.lookup m = some c → c.phase.done = false → m = n := by
    intro m c hm hc
    rw [hcalls, lookup_setPhase] at hm
    by_contra hne
    rw [if_neg hne] at hm
    rw [hothers m c hne hm] at hc
    cases hc
  refine ⟨fun m m' c c' hm hm' hc hc' => ?_, fun m c hm hc => ?_⟩
  · exact (hdone m c hm hc).trans (hdone m' c' hm' hc').symm
  · obtain rfl := hdone m c hm (by rw [hc]; rfl)
    rw [hcalls, lookup_setPhase, if_pos rfl] at hm
    cases hm
    exact hmissed hc

theorem Sequential.others (h : Sequential s) (hn : s.calls.lookup n = some ⟨cmd, p⟩)
    (hp : p.done = false) : ∀ m c, m ≠ n → s.calls.lookup m = some c → c.phase.done = true := by
  intro m c hne hm
  by_contra hc
  exact hne (h.single m n c _ hm hn (by simpa using hc) hp)

theorem Sequential.step (h : Sequential s)
    (hstep : Meeting State.Steps (fun s a => s.oneAtATime a = true) s a t) : Sequential t := by
  obtain ⟨hstep, hone⟩ := hstep
  unfold State.Steps at hstep
  revert hstep
  fun_cases State.step with
  | case2 n cmd hn =>
    rintro ⟨⟩
    refine sequential_setPhase (fun m c _ hm => ?_) rfl (by simp)
    exact List.all_eq_true.mp hone ⟨m, c⟩ (AList.mem_lookup_iff.mp hm)
  | case4 n cmd hn hnone =>
    -- a miss stays one until this call stores: no other is running
    rintro ⟨⟩
    exact sequential_setPhase (h.others hn rfl) rfl fun _ => hnone
  | case3 n cmd hn | case6 n cmd hn | case7 n ok cmd hn | case10 n published cmd hn
  | case11 n cmd hn | case12 n published cmd hn | case14 n answer cmd hn | case16 n cmd r hn =>
    rintro ⟨⟩
    exact sequential_setPhase (h.others hn rfl) rfl (by simp)
  | case18 entries =>
    rintro ⟨⟩
    exact { h with }
  | case1 | case5 | case8 | case9 | case13 | case15 | case17 => rintro ⟨⟩

theorem Sequential.alone (h : Sequential s) (hstep : s.Steps a t) : s.alone a = true := by
  cases a with
  | enter n ok =>
    simp only [State.Steps, State.step] at hstep
    split at hstep
    · next cmd hn =>
      cases ok with
      | true =>
        have hflight : s.inFlight cmd.controlId = false := by
          rw [State.inFlight, List.any_eq_false]
          rintro ⟨m, c⟩ hmem hc
          have hm := AList.mem_lookup_iff.mpr hmem
          obtain ⟨-, hc⟩ := Bool.and_eq_true_iff.mp hc
          have hdone : c.phase.done = false := by
            cases hp : c.phase <;> rw [hp] at hc <;> first | rfl | cases hc
          obtain rfl := h.single m n c _ hm hn hdone rfl
          rw [hn] at hm
          cases hm
          cases hc
        simp only [State.alone, hn, h.missed n _ hn rfl, hflight]
        rfl
      | false => rfl
    · cases hstep
  | _ => rfl

end OneCaller

/-- With the agent as the only caller at most one request is published per control id, and
    every call for it that was not refused returns the same result. -/
theorem one_caller_writes_once {gate : Bool} {resolver : SyncedResolver} {as : List Action}
    {s : State} (hrun : Run (Meeting State.Steps fun s a => s.oneAtATime a = true)
      (State.init gate resolver) as s) :
    (∀ id, s.requests id ≤ 1) ∧
    ∀ n m c c' r r', s.calls.lookup n = some c → s.calls.lookup m = some c' →
      c.cmd.controlId = c'.cmd.controlId → c.phase = .returned r → c'.phase = .returned r' →
      r = r' := by
  have hI : Inv s ∧ Sequential s := hrun.invariant (I := fun s => Inv s ∧ Sequential s)
    ⟨inv_init gate resolver, nofun, nofun⟩
    fun _ _ _ h hstep => ⟨h.1.step ⟨hstep.1, h.2.alone hstep.1⟩, h.2.step hstep⟩
  exact ⟨hI.1.requests_le, hI.1.same_result⟩

theorem one_caller_writes_once_repeated :
    ∃ s, Run (Meeting State.Steps fun s a => s.oneAtATime a = true) (State.init true onePoint)
        repeatedCommand s ∧ s.requests "ctrl-1" = 1 ∧ ∀ id, s.requests id ≤ 1 := by
  have hrun : Run (Meeting State.Steps fun s a => s.oneAtATime a = true) (State.init true onePoint)
      repeatedCommand _ := Run.meeting_of_foldlM rfl
  exact ⟨_, hrun, rfl, (one_caller_writes_once hrun).1⟩

end NexusGateway.Dispatch
