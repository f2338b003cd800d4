/-
`internal/pointsync/loop.go`: the loop that keeps the resolver at the Point
List the provisioning server names.

A fetch brings the complete list or a delta against the revision the loop
already has.  `applyDiff` merges a delta through a map keyed by point id; its
`Changed` pass also deletes the point that used to own the changed entry's
native address, looked up in the list before the delta.
-/

import NexusGateway.Lib.Run
import NexusGateway.PointList.Synced

namespace NexusGateway.PointSync

open Lib
open PointList

/-- `provisioning.FetchResult`. -/
structure FetchResult where
  etag : String
  full : Bool
  entries : List Entry := []
  added : List Entry := []
  removed : List String := []
  changed : List Entry := []

/-! ## Applying a delta -/

/-- `byLocal`: the owner of each native address in the current list. -/
def byLocal (current : List Entry) : Dict String String :=
  Dict.insertAll Entry.key Entry.pointID (addressed current) ∅

def applyChanged (byLocal : Dict String String) (byID : Dict String Entry) (e : Entry) :
    Dict String Entry :=
  let oldPID := (byLocal.lookup e.key).getD ""
  let byID := if e.releaseOf = "" ∧ oldPID ≠ "" ∧ oldPID ≠ e.pointID then byID.erase oldPID
    else byID
  byID.insert e.pointID e

/-- `byID` after the `Removed` and `Added` loops. -/
def afterAdded (current : List Entry) (r : FetchResult) : Dict String Entry :=
  let byID := Dict.insertAll Entry.pointID id current ∅
  let byID := r.removed.foldl (fun m pid => m.erase pid) byID
  Dict.insertAll Entry.pointID id r.added byID

/-- `byID` at the end of `applyDiff`. -/
def afterChanged (current : List Entry) (r : FetchResult) : Dict String Entry :=
  r.changed.foldl (applyChanged (byLocal current)) (afterAdded current r)

/-- `applyDiff`.  The source iterates over the map in an order of its own. -/
def applyDiff (current : List Entry) (r : FetchResult) : List Entry :=
  (afterChanged current r).values

/-- What a result makes of the list before it. -/
def FetchResult.onto (r : FetchResult) (current : List Entry) : List Entry :=
  if r.full then r.entries else applyDiff current r

/-! ## The loop -/

/-- `Loop`: the resolver it feeds and the revision it reports. -/
structure Loop where
  resolver : SyncedResolver
  appliedETag : String

structure SyncState where
  etag : String
  entries : List Entry

def Loop.appliedRevision (l : Loop) : String := l.appliedETag

/-- `Loop.sync`, given what the fetch returned. -/
def Loop.sync (l : Loop) (s : SyncState) : Except String (Option FetchResult) → Loop × SyncState
  | .error _ => (l, s)
  | .ok none => (l, s)
  | .ok (some result) =>
    let entries := result.onto s.entries
    ({ resolver := l.resolver.update entries, appliedETag := result.etag },
      { etag := result.etag, entries := entries })

end NexusGateway.PointSync
