/-
`internal/dispatch/dispatcher.go`: control commands routed to a connector as
NATS requests, with a cache of results by control id.

`Execute` takes its lock twice, once to look the id up and once to store the
result; between the two it passes the admission gate and waits for the
connector.  A call is therefore cut at the lookup, at `Enter`, at the point
where the request goes out, at the reply and at the store, and any number of
calls run interleaved.  Left out are the release of the gate and the timeout
clock: a request that timed out is a reply without an answer.
-/

import NexusGateway.Lib.Run
import NexusGateway.PointList.Synced

namespace NexusGateway.Dispatch

open Lib
open PointList

/-! ## Commands, requests, results -/

/-- `pb.ControlCommand`; the value is a double given by its bits. -/
structure ControlCommand where
  controlId : String
  pointId : String
  presentValue : UInt64
  priority : Int
deriving DecidableEq, Repr

structure ControlResult where
  controlId : String
  success : Bool := false
  response : String
deriving DecidableEq, Repr

structure WriteRequest where
  release : Bool
  controlID : String
  localID : String
  deviceRef : String
  value : UInt64
  priority : Int
deriving DecidableEq, Repr

/-- `sdk.WriteReply`. -/
structure ConnectorReply where
  success : Bool
  response : String
deriving DecidableEq, Repr

def one : UInt64 := 0x3FF0000000000000

/-- What `json.Marshal` says about a double that JSON cannot write: one whose
    exponent is all ones. -/
def unsupportedValue (bits : UInt64) : Option String :=
  if (bits >>> 52) &&& 0x7FF ≠ 0x7FF then none
  else if bits <<< 12 ≠ 0 then some "json: unsupported value: NaN"
  else if bits >>> 63 = 0 then some "json: unsupported value: +Inf"
  else some "json: unsupported value: -Inf"

/-- `execute` up to the request: the result of a command that goes nowhere, or
    the subject and the request. -/
def prepare (resolver : SyncedResolver) (cmd : ControlCommand) :
    Except ControlResult (String × WriteRequest) :=
  let fail (response : String) : Except ControlResult (String × WriteRequest) :=
    .error { controlId := cmd.controlId, response := response }
  let (entry, target, ok) := resolver.resolveControl cmd.pointId
  if !ok then fail "no_connector"
  else if !entry.writable then fail "not_writable"
  else
    let release := entry.releaseOf ≠ ""
    if release ∧ (cmd.presentValue ≠ one ∨ cmd.priority < 0 ∨ 16 < cmd.priority) then
      fail "bad_request"
    else if release ∧ (target.pointID = "" ∨ target.releaseOf ≠ "") then fail "bad_request"
    else if release ∧ !target.writable then fail "not_writable"
    else if release ∧ (target.protocol ≠ "bacnet" ∨ target.connectorID = "" ∨
        target.localID = "") then fail "bad_request"
    else
      let entry := if release then target else entry
      match unsupportedValue cmd.presentValue with
      | some err => fail ("marshal_error: " ++ err)
      | none =>
        .ok ("cmd." ++ entry.protocol ++ "." ++ entry.connectorID,
          { release := release, controlID := cmd.controlId, localID := entry.localID,
            deviceRef := entry.deviceRef, value := cmd.presentValue, priority := cmd.priority })

/-- What `RequestWithContext` came back with: no responder, another error, or a
    message, which parses or does not. -/
inductive Answer where
  | noResponders
  | failed
  | unreadable (err : String)
  | reply (r : ConnectorReply)
deriving DecidableEq, Repr

def conclude (cmd : ControlCommand) : Answer → ControlResult
  | .noResponders => { controlId := cmd.controlId, response := "no_responder" }
  | .failed => { controlId := cmd.controlId, response := "timeout" }
  | .unreadable err => { controlId := cmd.controlId, response := "parse_error: " ++ err }
  | .reply r => { controlId := cmd.controlId, success := r.success, response := r.response }

/-! ## Calls -/

/-- Where a call of `Execute` stands. -/
inductive Phase where
  | called
  | missed
  /-- past the gate, before the request -/
  | admitted
  | requested
  /-- about to store the result -/
  | executed (result : ControlResult)
  | returned (result : ControlResult)
  | refused (result : ControlResult)
deriving DecidableEq, Repr

structure Call where
  cmd : ControlCommand
  phase : Phase
deriving DecidableEq, Repr

/-- The dispatcher, the Point List it resolves in, the calls by number, and the
    requests published so far. -/
structure State where
  gate : Bool
  resolver : SyncedResolver
  dedup : Dict String ControlResult
  calls : Dict Nat Call
  published : List (String × WriteRequest)

inductive Action where
  | call (n : Nat) (cmd : ControlCommand)
  | lookup (n : Nat)
  | enter (n : Nat) (ok : Bool)
  /-- resolve, marshal and publish; the request is not published when the context
      is already done -/
  | request (n : Nat) (published : Bool)
  | reply (n : Nat) (answer : Answer)
  | store (n : Nat)
  /-- the Point List changes -/
  | update (entries : List Entry)

namespace State

/-- `New`, with or without `WithAdmission`. -/
def init (gate : Bool) (resolver : SyncedResolver) : State :=
  ⟨gate, resolver, ∅, ∅, []⟩

def setPhase (s : State) (n : Nat) (cmd : ControlCommand) (p : Phase) : State :=
  { s with calls := s.calls.insert n ⟨cmd, p⟩ }

def step (s : State) : Action → Option State
  | .call n cmd =>
    match s.calls.lookup n with
    | some _ => none
    | none => some (s.setPhase n cmd .called)
  | .lookup n =>
    match s.calls.lookup n with
    | some ⟨cmd, .called⟩ =>
      match s.dedup.lookup cmd.controlId with
      | some r => some (s.setPhase n cmd (.returned r))
      | none => some (s.setPhase n cmd .missed)
    | _ => none
  | .enter n ok =>
    match s.calls.lookup n with
    | some ⟨cmd, .missed⟩ =>
      if ok then some (s.setPhase n cmd .admitted)
      else if s.gate then
        some (s.setPhase n cmd (.refused
          { controlId := cmd.controlId, response := "configuration_paused" }))
      else none
    | _ => none
  | .request n published =>
    match s.calls.lookup n with
    | some ⟨cmd, .admitted⟩ =>
      match prepare s.resolver cmd with
      | .error r => some (s.setPhase n cmd (.executed r))
      | .ok req =>
        if published then some { s.setPhase n cmd .requested with
          published := s.published ++ [req] }
        else some (s.setPhase n cmd .requested)
    | _ => none
  | .reply n answer =>
    match s.calls.lookup n with
    | some ⟨cmd, .requested⟩ => some (s.setPhase n cmd (.executed (conclude cmd answer)))
    | _ => none
  | .store n =>
    match s.calls.lookup n with
    | some ⟨cmd, .executed r⟩ =>
      some { s.setPhase n cmd (.returned r) with dedup := s.dedup.insert cmd.controlId r }
    | _ => none
  | .update entries => some { s with resolver := s.resolver.update entries }

def Steps (s : State) (a : Action) (t : State) : Prop := s.step a = some t

end State

def Action.installs (entries : List Entry) : Action → List Entry
  | .update next => next
  | _ => entries

/-- What a step does to the resolver, the commands and the requests. -/
inductive Effect (s : State) : Action → State → Prop
  | installed (next : List Entry) :
      Effect s (.update next) { s with resolver := s.resolver.update next }
  | called (n : Nat) (cmd : ControlCommand) : Effect s (.call n cmd) (s.setPhase n cmd .called)
  /-- a call goes on, and may leave its result in the cache -/
  | moved {a : Action} {n : Nat} {cmd : ControlCommand} {p q : Phase}
      {dedup : Dict String ControlResult} : (∀ entries, a.installs entries = entries) →
      s.calls.lookup n = some ⟨cmd, p⟩ → Effect s a { s.setPhase n cmd q with dedup := dedup }
  | published {n : Nat} {cmd : ControlCommand} {req : String × WriteRequest} :
      s.calls.lookup n = some ⟨cmd, .admitted⟩ → prepare s.resolver cmd = .ok req →
      Effect s (.request n true)
        { s.setPhase n cmd .requested with published := s.published ++ [req] }

theorem step_effect {s t : State} {a : Action} (h : s.Steps a t) : Effect s a t := by
  have hmoved : ∀ {a : Action} {n : Nat} {cmd : ControlCommand} {p q : Phase},
      (∀ entries, a.installs entries = entries) → s.calls.lookup n = some ⟨cmd, p⟩ →
      Effect s a (s.setPhase n cmd q) := fun ha hn => .moved ha hn
  revert h
  unfold State.Steps
  fun_cases State.step with
  | case2 n cmd =>
    rintro ⟨⟩
    exact .called n cmd
  | case3 _ _ hn | case4 _ _ hn | case6 _ _ hn | case7 _ _ _ hn | case10 _ _ _ hn
  | case12 _ _ _ hn | case14 _ _ _ hn =>
    rintro ⟨⟩
    exact hmoved (fun _ => rfl) hn
  | case11 _ _ hn _ hreq =>
    rintro ⟨⟩
    exact .published hn hreq
  | case16 _ _ _ hn =>
    rintro ⟨⟩
    exact .moved (fun _ => rfl) hn
  | case18 next =>
    rintro ⟨⟩
    exact .installed next
  | case1 | case5 | case8 | case9 | case13 | case15 | case17 => rintro ⟨⟩

theorem controlID_of_prepare {resolver : SyncedResolver} {cmd : ControlCommand}
    {req : String × WriteRequest} (h : prepare resolver cmd = .ok req) :
    req.2.controlID = cmd.controlId := by
  grind [prepare]

end NexusGateway.Dispatch
