/-
Where a command may go.  A Point List can be malformed in many ways: point
ids given twice, release points whose target is missing, is a release point
itself or is not a BACnet point.  `execute` resolves the command and its
target in one snapshot and checks what it finds there, so a request goes to
the writable point of the command, or to the native point it releases, and
nowhere else.
-/

import NexusGateway.Dispatch.Dispatcher

namespace NexusGateway.Dispatch

open Lib
open PointList

/-! ## Permitted requests -/

def entryOf (entries : List Entry) (pointID : String) : Option Entry :=
  entries.reverse.find? fun e => e.pointID = pointID

def subjectOf (e : Entry) : String := "cmd." ++ e.protocol ++ "." ++ e.connectorID

def requestTo (cmd : ControlCommand) (e : Entry) (release : Bool) : WriteRequest :=
  { release := release
    controlID := cmd.controlId
    localID := e.localID
    deviceRef := e.deviceRef
    value := cmd.presentValue
    priority := cmd.priority }

structure Releasable (target : Entry) : Prop where
  writable : target.writable = true
  native : target.releaseOf = ""
  protocol : target.protocol = "bacnet"
  connectorID : target.connectorID ≠ ""
  localID : target.localID ≠ ""

inductive Permitted (entries : List Entry) (cmd : ControlCommand) : String × WriteRequest → Prop
  | own {e : Entry} : entryOf entries cmd.pointId = some e → e.writable = true →
      e.releaseOf = "" → Permitted entries cmd (subjectOf e, requestTo cmd e false)
  | release {e target : Entry} : entryOf entries cmd.pointId = some e → e.writable = true →
      e.releaseOf ≠ "" → cmd.presentValue = one → 0 ≤ cmd.priority → cmd.priority ≤ 16 →
      entryOf entries e.releaseOf = some target → Releasable target →
      Permitted entries cmd (subjectOf target, requestTo cmd target true)

/-! ## One command -/

section Prepare

variable {resolver : SyncedResolver} {entries : List Entry} {cmd : ControlCommand}
  {req : String × WriteRequest}

theorem lookup_update (p : String) :
    (resolver.update entries).index.reverse.lookup p = entryOf entries p := by
  show AList.lookup p (Dict.insertAll Entry.pointID id entries ∅) = _
  rw [Dict.lookup_insertAll, AList.lookup_empty, Option.or_none, Option.map_id, id]
  rfl

theorem entryOf_pointID {p : String} {e : Entry} (h : entryOf entries p = some e) :
    e.pointID = p := by
  have hfound := List.find?_some h
  exact of_decide_eq_true hfound

theorem resolveControl_update (p : String) :
    (resolver.update entries).resolveControl p =
      ((entryOf entries p).getD Entry.zero,
        if ((entryOf entries p).getD Entry.zero).releaseOf ≠ "" then
          (entryOf entries ((entryOf entries p).getD Entry.zero).releaseOf).getD Entry.zero
        else (entryOf entries p).getD Entry.zero,
        (entryOf entries p).isSome) := by
  rw [SyncedResolver.resolveControl, lookup_update]
  simp only [lookup_update]

/-- `execute` publishes the permitted requests whose value JSON can write, and no others. -/
theorem prepare_ok_iff :
    prepare (resolver.update entries) cmd = .ok req ↔
      Permitted entries cmd req ∧ unsupportedValue cmd.presentValue = none := by
  simp only [prepare, resolveControl_update]
  cases he : entryOf entries cmd.pointId with
  | none => grind [Permitted]
  | some e =>
    simp only [Option.getD_some, Option.isSome_some]
    by_cases hnative : e.releaseOf = ""
    · have hown := fun hwritable => Permitted.own he hwritable hnative
      grind [Permitted, subjectOf, requestTo]
    · cases htarget : entryOf entries e.releaseOf with
      | none =>
        have hzero : Entry.zero.pointID = "" := rfl
        grind [Permitted]
      | some target =>
        have hid := entryOf_pointID htarget
        have hother := fun hwritable hone hlow hhigh =>
          Permitted.release he hwritable hnative hone hlow hhigh htarget
        grind [Permitted, Releasable, subjectOf, requestTo]

end Prepare

/-! ## One step -/

def installed (entries : List Entry) (as : List Action) : List Entry :=
  as.foldl Action.installs entries

section Steps

variable {s t : State} {a : Action} {entries : List Entry}

theorem Effect.resolver (h : Effect s a t)
    (hs : s.resolver = SyncedResolver.new.update entries) :
    t.resolver = SyncedResolver.new.update (a.installs entries) := by
  cases h with
  | installed next => rfl
  | called n cmd => exact hs
  | moved ha _ =>
    rw [ha]
    exact hs
  | published _ _ => exact hs

theorem Effect.command (h : Effect s a t) {n : Nat} {c : Call} (hn : t.calls.lookup n = some c) :
    a = .call n c.cmd ∨ ∃ c', s.calls.lookup n = some c' ∧ c'.cmd = c.cmd := by
  cases h <;> grind [State.setPhase, Dict.lookup_insert_ite]

end Steps

/-! ## Whole runs -/

section Runs

variable {gate : Bool} {entries₀ : List Entry} {as : List Action} {s : State}

theorem resolver_of_run
    (hrun : Run State.Steps (State.init gate (SyncedResolver.new.update entries₀)) as s) :
    s.resolver = SyncedResolver.new.update (installed entries₀ as) := by
  induction hrun with
  | nil => rfl
  | snoc _ hstep ih =>
    rw [installed, List.foldl_append, List.foldl_cons, List.foldl_nil]
    exact (step_effect hstep).resolver ih

theorem command_of_run
    (hrun : Run State.Steps (State.init gate (SyncedResolver.new.update entries₀)) as s) {n : Nat}
    {c : Call} (hn : s.calls.lookup n = some c) : Action.call n c.cmd ∈ as := by
  induction hrun generalizing c with
  | nil => cases hn
  | snoc _ hstep ih =>
    rcases (step_effect hstep).command hn with rfl | ⟨c', hc', hcmd⟩
    · exact List.mem_append_right _ (List.mem_singleton.mpr rfl)
    · rw [← hcmd]
      exact List.mem_append_left _ (ih hc')

/-- Whatever lists are installed and however the calls interleave: a request that was
    published was made by some call, for its own command, and was permitted by the list that
    was in place at that moment. -/
theorem published_permitted
    (hrun : Run State.Steps (State.init gate (SyncedResolver.new.update entries₀)) as s) :
    ∀ req ∈ s.published, ∃ pre n post cmd, as = pre ++ .request n true :: post ∧
      Action.call n cmd ∈ pre ∧ Permitted (installed entries₀ pre) cmd req := by
  induction hrun with
  | nil =>
    intro req hreq
    cases hreq
  | @snoc t _ pre a hpre hstep ih =>
    intro req hreq
    have hold : req ∈ t.published → ∃ before n after cmd,
        pre ++ [a] = before ++ .request n true :: after ∧ Action.call n cmd ∈ before ∧
          Permitted (installed entries₀ before) cmd req := by
      intro hmem
      obtain ⟨before, n, after, cmd, rfl, hcall, hpermitted⟩ := ih req hmem
      exact ⟨before, n, after ++ [a], cmd, by simp, hcall, hpermitted⟩
    cases step_effect hstep with
    | installed next | called n cmd | moved _ _ => exact hold hreq
    | @published n cmd new hn hnew =>
      rcases List.mem_append.mp hreq with hmem | hmem
      · exact hold hmem
      · rw [List.mem_singleton.mp hmem]
        rw [resolver_of_run hpre, prepare_ok_iff] at hnew
        exact ⟨pre, n, [], cmd, rfl, command_of_run hpre hn, hnew.1⟩

end Runs

def releasedPoint : Entry :=
  { connectorID := "c", protocol := "bacnet", localID := "analogValue,1", pointID := "p",
    writable := true, deviceRef := "7" }

/-- A Point List that gives the point twice, with a release point `r` of it and a release point
    of `r`. -/
def releaseList : List Entry :=
  [{ connectorID := "old", protocol := "mqtt", localID := "a/b", pointID := "p" },
    releasedPoint,
    { connectorID := "", localID := "", pointID := "r", writable := true, releaseOf := "p" },
    { connectorID := "", localID := "", pointID := "rr", writable := true, releaseOf := "r" }]

def releaseCalls : List Action :=
  [.update releaseList, .call 0 ⟨"x", "r", one, 8⟩, .call 1 ⟨"y", "rr", one, 8⟩, .lookup 0,
    .lookup 1, .enter 0 true, .enter 1 true, .request 1 true, .request 0 true]

/-- Only the first one publishes: a release of `p` as it is given last. -/
theorem published_permitted_release :
    ∃ s req, Run State.Steps (State.init false (SyncedResolver.new.update [])) releaseCalls s ∧
      s.published = [req] ∧ req.1 = "cmd.bacnet.c" ∧ req.2.release = true ∧
      ∃ pre n post cmd, releaseCalls = pre ++ .request n true :: post ∧
        Action.call n cmd ∈ pre ∧ Permitted (installed [] pre) cmd req := by
  obtain ⟨s, hs, hpublished⟩ : ∃ s, releaseCalls.foldlM State.step
      (State.init false (SyncedResolver.new.update [])) = some s ∧
      s.published = [("cmd.bacnet.c", requestTo ⟨"x", "r", one, 8⟩ releasedPoint true)] :=
    ⟨_, rfl, rfl⟩
  have hrun : Run State.Steps (State.init false (SyncedResolver.new.update [])) releaseCalls s :=
    Run.of_foldlM hs
  refine ⟨s, _, hrun, hpublished, rfl, rfl, ?_⟩
  exact published_permitted hrun _ (by rw [hpublished]; exact List.mem_singleton.mpr rfl)

end NexusGateway.Dispatch
