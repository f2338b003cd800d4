/-
`internal/pointlist`: Point List entries and the live resolver built from
them.  `forward` maps a native address to a point, `reverse` a point to its
entry; an update replaces both together with the entry list.
-/

import NexusGateway.Lib.Dict

namespace NexusGateway.PointList

open Lib

/-- `pointlist.Entry`.  A release entry (`releaseOf` not empty) is a control-only
    virtual point and has no native address of its own. -/
structure Entry where
  releaseOf : String := ""
  connectorID : String
  protocol : String := ""
  localID : String
  pointID : String
  unit : String := ""
  writable : Bool := false
  deviceRef : String := ""
  controlSchema : String := ""
deriving DecidableEq, Repr

def Entry.zero : Entry := { connectorID := "", localID := "", pointID := "" }

/-- `key`: the connector id and the local id joined by a NUL. -/
def key (connectorID localID : String) : String := connectorID ++ "\x00" ++ localID

def Entry.key (e : Entry) : String := PointList.key e.connectorID e.localID

def addressed (entries : List Entry) : List Entry := entries.filter fun e => e.releaseOf = ""

structure Index where
  forward : Dict String String
  reverse : Dict String Entry
  entries : List Entry

/-- `SyncedResolver`: the index behind the atomic pointer. -/
structure SyncedResolver where
  index : Index

namespace SyncedResolver

def new : SyncedResolver := ⟨⟨∅, ∅, []⟩⟩

/-- `Update`: the last entry of a key or point id wins. -/
def update (_ : SyncedResolver) (entries : List Entry) : SyncedResolver :=
  { index :=
      { forward := Dict.insertAll Entry.key Entry.pointID (addressed entries) ∅
        reverse := Dict.insertAll Entry.pointID id entries ∅
        entries := entries } }

def resolve (r : SyncedResolver) (connectorID localID : String) : Option String :=
  r.index.forward.lookup (PointList.key connectorID localID)

/-- `ResolveControl`: the entry of a command and its release target, from one
    index; what the index does not have is a zero `Entry`. -/
def resolveControl (r : SyncedResolver) (pointID : String) : Entry × Entry × Bool :=
  let entry := (r.index.reverse.lookup pointID).getD Entry.zero
  let target :=
    if entry.releaseOf ≠ "" then (r.index.reverse.lookup entry.releaseOf).getD Entry.zero
    else entry
  (entry, target, (r.index.reverse.lookup pointID).isSome)

def snapshot (r : SyncedResolver) : List Entry := r.index.entries

@[simp] theorem snapshot_update (r : SyncedResolver) (entries : List Entry) :
    (r.update entries).snapshot = entries := rfl

end SyncedResolver

/-- A Point List as the provisioning server keeps it: no point id twice, no
    native address twice. -/
structure ServedList where
  entries : List Entry
  nodup_ids : (entries.map Entry.pointID).Nodup
  nodup_addrs : ((addressed entries).map fun e => (e.connectorID, e.localID)).Nodup

namespace ServedList

def ids (l : ServedList) : List String := l.entries.map Entry.pointID

def find (l : ServedList) (pointID : String) : Option Entry :=
  l.entries.find? fun e => e.pointID = pointID

theorem nodup_entries (l : ServedList) : l.entries.Nodup := l.nodup_ids.of_map

theorem eq_of_pointID_eq (l : ServedList) {e e' : Entry} (he : e ∈ l.entries)
    (he' : e' ∈ l.entries) (hid : e.pointID = e'.pointID) : e = e' :=
  List.inj_on_of_nodup_map l.nodup_ids he he' hid

theorem find_eq_some_iff (l : ServedList) {p : String} {e : Entry} :
    l.find p = some e ↔ e ∈ l.entries ∧ e.pointID = p := by
  have hfound : ∀ {p e}, l.find p = some e → e ∈ l.entries ∧ e.pointID = p := by
    intro p e h
    rw [find] at h
    have hid := List.find?_some h
    exact ⟨List.mem_of_find?_eq_some h, of_decide_eq_true hid⟩
  refine ⟨hfound, ?_⟩
  rintro ⟨hmem, rfl⟩
  have hsome : (l.find e.pointID).isSome := by
    rw [find, List.find?_isSome]
    exact ⟨e, hmem, decide_eq_true rfl⟩
  obtain ⟨e', he'⟩ := Option.isSome_iff_exists.mp hsome
  obtain ⟨hmem', hid⟩ := hfound he'
  rw [he', l.eq_of_pointID_eq hmem' hmem hid]

theorem find_eq_none_iff (l : ServedList) {p : String} : l.find p = none ↔ p ∉ l.ids := by
  simp [find, ids]

/-- `entries` is the list, in some order. -/
def HeldBy (l : ServedList) (entries : List Entry) : Prop :=
  entries.Nodup ∧ ∀ e, e ∈ entries ↔ e ∈ l.entries

theorem heldBy_self (l : ServedList) : l.HeldBy l.entries :=
  ⟨l.nodup_entries, fun _ => Iff.rfl⟩

theorem HeldBy.nodup_ids {l : ServedList} {entries : List Entry} (h : l.HeldBy entries) :
    (entries.map Entry.pointID).Nodup := by
  have hperm : entries.Perm l.entries := (List.perm_ext_iff_of_nodup h.1 l.nodup_entries).mpr h.2
  exact (hperm.map Entry.pointID).nodup_iff.mpr l.nodup_ids

theorem HeldBy.mem_ids {l : ServedList} {entries : List Entry} (h : l.HeldBy entries)
    {p : String} : p ∈ entries.map Entry.pointID ↔ p ∈ l.ids := by
  simp only [ids, List.mem_map, h.2]

end ServedList

end NexusGateway.PointList
