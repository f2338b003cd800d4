/-
`internal/normalizer/normalizer.go`, the pure half: a Common Event payload is
mapped to a telemetry frame, or classified as unparseable or unknown to the
Point List.  JSON decoding is a parameter; the clock is only read for an event
without a timestamp, so the classification does not depend on it.
-/

import NexusGateway.PointList.Synced
import NexusGateway.StoreForward.Buffer

namespace NexusGateway.Normalizer

open Lib
open PointList
open StoreForward

/-- `common.Event`; `value` is `none` for the invalid zero `common.Value`. -/
structure Event where
  protocol : String
  connectorID : String
  localID : String
  deviceRef : String
  value : Option FrameValue
  unit : String
  quality : String
  timestamp : String
  attributes : Dict String String

inductive Outcome where
  | ok (frame : TelemetryFrame)
  | poison
  | miss

def Outcome.IsOk : Outcome → Prop
  | .ok _ => True
  | _ => False

/-- What the consume loop is set up with: the JSON decoding of payloads, the
    resolver and the gateway id. -/
structure Config (δ : Type) where
  unmarshal : δ → Option Event
  resolver : SyncedResolver
  gatewayID : String

/-- The attributes of the frame: those of the event, its unit, and its quality
    unless that is the implied default. -/
def frameAttributes (evt : Event) : Dict String String :=
  let attrs := evt.attributes
  let attrs := if evt.unit ≠ "" then attrs.insert "unit" evt.unit else attrs
  if evt.quality ≠ "" ∧ evt.quality ≠ "Good" then attrs.insert "quality" evt.quality else attrs

/-- `Normalize`; `now` is the formatted current time. -/
def normalize {δ : Type} (cfg : Config δ) (now : String) (data : δ) : Outcome :=
  match cfg.unmarshal data with
  | none => .poison
  | some evt =>
    match cfg.resolver.resolve evt.connectorID evt.localID with
    | none => .miss
    | some pointID =>
      match evt.value with
      | none => .poison
      | some value => .ok
          { gatewayId := cfg.gatewayID
            pointId := pointID
            value := some value
            timestamp := if evt.timestamp = "" then now else evt.timestamp
            attributes := frameAttributes evt }

end NexusGateway.Normalizer
