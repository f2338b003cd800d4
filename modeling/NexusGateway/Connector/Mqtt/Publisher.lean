/-
How a decoded message gets from the receive callback to JetStream, and what
happens to it on shutdown (`connector/mqtt/connector.go`: `runPublisher`,
`drainQueue`, `publishDirect`, `publishPending`, and the ends of the
callback and of `Run`).

Four kinds of goroutines work at once: receive callbacks, any number of
them; the publisher; `Run`, which waits for the connection manager, stops
the publisher and sweeps the queue; and whoever cancels the context.  A
step is what one of them does between two points where another may come in;
a `select` with two ready cases may take either.  A JetStream publish may
fail at any time, and a bounded context may expire at any time.
-/

import NexusGateway.Connector.Mqtt.Receive

namespace NexusGateway.Connector.Mqtt.Shutdown

open Lib

def publishQueueSize : Nat := 256

/-- `retryMin` and `retryMax`, in nanoseconds. -/
structure Retry where
  retryMin : Nat := 100 * 1000000
  retryMax : Nat := 5000 * 1000000

/-- What is done with a message; messages are numbered as they are decoded. -/
inductive Event where
  /-- `js.Publish` with these data, and whether it returned without error -/
  | publish (id : Nat) (data : List UInt8) (ok : Bool)
  | ack (id : Nat)
  /-- a flush gives up on the message, its context expired or not -/
  | drop (id : Nat) (expired : Bool)
deriving DecidableEq

/-- The messages and what `publishPending` writes. -/
structure Frames where
  received : List PendingPublish := []
  log : List Event := []
  published : Nat := 0
  publishErrors : Nat := 0
  failingSince : Int := 0
  lkv : Dict String (UInt64 × Int) := ∅

/-! ## publishPending -/

inductive Phase where
  | attempting
  | failed
  /-- the `select` on the timer and the context -/
  | backingOff
  | landed
deriving DecidableEq

structure Publishing where
  id : Nat
  phase : Phase := .attempting
  backoff : Nat

inductive PublishEvent where
  | publish (ok : Bool)
  /-- `ctx.Err()` after an error -/
  | check (now : Int)
  | timer
  | done
  | ack

inductive Progress where
  | going (p : Publishing)
  | returned (ok : Bool)

def Retry.start (cfg : Retry) (id : Nat) : Publishing := { id := id, backoff := cfg.retryMin }

/-- `backoff *= 2`, at most `retryMax`. -/
def Retry.double (cfg : Retry) (backoff : Nat) : Nat :=
  if backoff * 2 > cfg.retryMax then cfg.retryMax else backoff * 2

/-- `recordValue`, if the message has a value. -/
def recordValue (lkv : Dict String (UInt64 × Int)) (m : PendingPublish) :
    Dict String (UInt64 × Int) :=
  match m.value with
  | some value => lkv.insert m.topic (value, m.timestamp)
  | none => lkv

theorem recordValue_none {lkv : Dict String (UInt64 × Int)} {m : PendingPublish}
    (h : m.value = none) : recordValue lkv m = lkv := by
  rw [recordValue, h]

theorem recordValue_some {lkv : Dict String (UInt64 × Int)} {m : PendingPublish} {value : UInt64}
    (h : m.value = some value) :
    recordValue lkv m = lkv.insert m.topic (value, m.timestamp) := by
  rw [recordValue, h]

/-- One step of `publishPending`; `dead` says whether its context is. -/
def Publishing.step (cfg : Retry) (dead : Bool) (fr : Frames) (p : Publishing) :
    PublishEvent → Option (Frames × Progress)
  | .publish ok =>
    match fr.received[p.id]? with
    | none => none
    | some m =>
      if p.phase = .attempting then
        some ({ fr with log := fr.log ++ [.publish p.id m.data ok] },
          .going { p with phase := if ok then .landed else .failed })
      else none
  | .check now =>
    if p.phase ≠ .failed then none
    else if dead then some (fr, .returned false)
    else some
      ({ fr with
          publishErrors := fr.publishErrors + 1
          failingSince := if fr.failingSince = 0 then now else fr.failingSince },
        .going { p with phase := .backingOff })
  | .timer =>
    if p.phase = .backingOff then
      some (fr, .going { p with phase := .attempting, backoff := cfg.double p.backoff })
    else none
  | .done => if p.phase = .backingOff ∧ dead then some (fr, .returned false) else none
  | .ack =>
    match fr.received[p.id]? with
    | none => none
    | some m =>
      if p.phase = .landed then
        some
          ({ fr with
              failingSince := 0
              published := fr.published + 1
              lkv := recordValue fr.lkv m
              log := fr.log ++ [.ack p.id] },
            .returned true)
      else none

/-! ## drainQueue -/

/-- A `drainQueue`: the frame it was given, the one it publishes, and its context. -/
structure Flush where
  carried : Option Nat := none
  current : Option Publishing := none
  expired : Bool := false

inductive FlushEvent where
  /-- the next frame: the carried one, then those of the queue -/
  | next
  | expire
  | publish (e : PublishEvent)

/-- A flush goes on, or returned; `some id` if it gave up on `id`. -/
inductive FlushProgress where
  | going (f : Flush)
  | returned (failed : Option Nat)

/-- One step of `drainQueue`.  A flush with nothing to do returns at once. -/
def Flush.step (cfg : Retry) (fr : Frames) (queue : List Nat) (f : Flush) :
    FlushEvent → Option (Frames × List Nat × FlushProgress)
  | .next =>
    match f.current, f.carried, queue with
    | some _, _, _ => none
    | none, some id, queue =>
      some (fr, queue, .going { f with carried := none, current := some (cfg.start id) })
    | none, none, id :: rest =>
      some (fr, rest, .going { f with current := some (cfg.start id) })
    | none, none, [] => some (fr, [], .returned none)
  | .expire => some (fr, queue, .going { f with expired := true })
  | .publish e =>
    match f.current with
    | none => none
    | some p =>
      match p.step cfg f.expired fr e with
      | none => none
      | some (fr, .going p) => some (fr, queue, .going { f with current := some p })
      | some (fr, .returned true) => some (fr, queue, .going { f with current := none })
      | some (fr, .returned false) =>
        some ({ fr with log := fr.log ++ [.drop p.id f.expired] }, queue,
          .returned (some p.id))

/-! ## The goroutines -/

inductive Callback where
  /-- before it looks at the publisher's context -/
  | decoded
  /-- at the `select` -/
  | selecting
  /-- in `publishDirect` -/
  | direct (p : Publishing) (expired : Bool)

inductive CallbackEvent where
  | check
  | enqueue
  | done
  | expire
  | publish (e : PublishEvent)

inductive Publisher where
  | idle
  | taken (id : Nat)
  | publishing (p : Publishing)
  | draining (f : Flush)
  | stopped

inductive PublisherEvent where
  | done
  | take
  | check
  | publish (e : PublishEvent)
  | flush (e : FlushEvent)

/-- The goroutine of `Run`, with the frame its sweep gave up on. -/
inductive Main where
  | running
  | stopping
  | sweeping (f : Flush)
  | returned (failed : Option Nat)

inductive MainEvent where
  | stop
  | sweep
  | flush (e : FlushEvent)

/-- The connector as far as the hand-off is concerned.  A callback stands under the number
    of its message.  `enqueued` is the history of the queue. -/
structure Handoff where
  frames : Frames := {}
  cancelled : Bool := false
  managerDone : Bool := false
  queue : List Nat := []
  enqueued : List Nat := []
  callbacks : Dict Nat Callback := ∅
  publisher : Publisher := .idle
  main : Main := .running

inductive Action where
  /-- a callback has decoded this message -/
  | receive (m : PendingPublish)
  | callback (id : Nat) (e : CallbackEvent)
  | publisher (e : PublisherEvent)
  | main (e : MainEvent)
  /-- the caller's context, and with it the publisher's, is cancelled -/
  | cancel
  /-- the connection manager is done -/
  | managerDone

namespace Handoff

def stepCallback (cfg : Retry) (s : Handoff) (id : Nat) (cb : Callback) :
    CallbackEvent → Option Handoff
  | .check =>
    match cb with
    | .decoded =>
      if s.cancelled then
        some { s with callbacks := s.callbacks.insert id (.direct (cfg.start id) false) }
      else some { s with callbacks := s.callbacks.insert id .selecting }
    | _ => none
  | .enqueue =>
    match cb with
    | .selecting =>
      if s.queue.length < publishQueueSize then
        some { s with
          queue := s.queue ++ [id]
          enqueued := s.enqueued ++ [id]
          callbacks := s.callbacks.erase id }
      else none
    | _ => none
  | .done =>
    match cb with
    | .selecting =>
      if s.cancelled then
        some { s with callbacks := s.callbacks.insert id (.direct (cfg.start id) false) }
      else none
    | _ => none
  | .expire =>
    match cb with
    | .direct p _ => some { s with callbacks := s.callbacks.insert id (.direct p true) }
    | _ => none
  | .publish e =>
    match cb with
    | .direct p expired =>
      match p.step cfg expired s.frames e with
      | none => none
      | some (fr, .going p) => some { s with
          frames := fr
          callbacks := s.callbacks.insert id (.direct p expired) }
      | some (fr, .returned true) => some { s with
          frames := fr
          callbacks := s.callbacks.erase id }
      | some (fr, .returned false) => some { s with
          frames := { fr with log := fr.log ++ [.drop p.id expired] }
          callbacks := s.callbacks.erase id }
    | _ => none

def stepPublisher (cfg : Retry) (s : Handoff) : PublisherEvent → Option Handoff
  | .done =>
    match s.publisher with
    | .idle => if s.cancelled then some { s with publisher := .draining {} } else none
    | _ => none
  | .take =>
    match s.publisher, s.queue with
    | .idle, id :: rest => some { s with queue := rest, publisher := .taken id }
    | _, _ => none
  | .check =>
    match s.publisher with
    | .taken id =>
      if s.cancelled then some { s with publisher := .draining { carried := some id } }
      else some { s with publisher := .publishing (cfg.start id) }
    | _ => none
  | .publish e =>
    match s.publisher with
    | .publishing p =>
      match p.step cfg s.cancelled s.frames e with
      | none => none
      | some (fr, .going p) => some { s with frames := fr, publisher := .publishing p }
      | some (fr, .returned true) => some { s with frames := fr, publisher := .idle }
      | some (fr, .returned false) => some { s with
          frames := fr
          publisher := .draining { carried := some p.id } }
    | _ => none
  | .flush e =>
    match s.publisher with
    | .draining f =>
      match f.step cfg s.frames s.queue e with
      | none => none
      | some (fr, queue, .going f) => some { s with
          frames := fr
          queue := queue
          publisher := .draining f }
      | some (fr, queue, .returned _) => some { s with
          frames := fr
          queue := queue
          publisher := .stopped }
    | _ => none

def stepMain (cfg : Retry) (s : Handoff) : MainEvent → Option Handoff
  | .stop =>
    match s.main with
    | .running =>
      if s.managerDone then some { s with cancelled := true, main := .stopping } else none
    | _ => none
  | .sweep =>
    match s.main, s.publisher with
    | .stopping, .stopped => some { s with main := .sweeping {} }
    | _, _ => none
  | .flush e =>
    match s.main with
    | .sweeping f =>
      match f.step cfg s.frames s.queue e with
      | none => none
      | some (fr, queue, .going f) => some { s with
          frames := fr
          queue := queue
          main := .sweeping f }
      | some (fr, queue, .returned failed) => some { s with
          frames := fr
          queue := queue
          main := .returned failed }
    | _ => none

/-- One step; `none` when the action is not enabled.  No callback runs once the connection
    manager is done. -/
def step (cfg : Retry) (s : Handoff) : Action → Option Handoff
  | .receive m =>
    if s.managerDone then none
    else some { s with
      frames := { s.frames with received := s.frames.received ++ [m] }
      callbacks := s.callbacks.insert s.frames.received.length .decoded }
  | .callback id e =>
    match s.callbacks.lookup id with
    | none => none
    | some cb => s.stepCallback cfg id cb e
  | .publisher e => s.stepPublisher cfg e
  | .main e => s.stepMain cfg e
  | .cancel => some { s with cancelled := true }
  | .managerDone =>
    if s.callbacks.entries.isEmpty then some { s with managerDone := true } else none

def Steps (cfg : Retry) (s : Handoff) (a : Action) (s' : Handoff) : Prop := s.step cfg a = some s'

end Handoff

end NexusGateway.Connector.Mqtt.Shutdown
