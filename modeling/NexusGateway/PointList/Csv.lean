/-
`LoadCSV` of `internal/pointlist/csv.go`: a Point List from a file.  Columns
are found by the names in the header, rows without a point id or an address
are skipped, and of several rows with one point id the first stays.
-/

import NexusGateway.Lib.Csv
import NexusGateway.Provisioning.Dto

namespace NexusGateway.PointList

open Lib
open Provisioning (normalizeProtocol)

/-- `CSVOptions`, and the case mapping of Go. -/
structure CSVOptions where
  connectorID : String := ""
  connectorMap : Dict String String := ∅
  /-- `unicode.ToLower`; by default that of ASCII -/
  lower : Char → Char := Char.toLower

inductive CSVError where
  | read (err : Csv.Error)
  | empty
  | missingColumn (name : String)
deriving DecidableEq, Repr

/-- `strings.TrimPrefix` with a byte order mark. -/
def trimBOM : List Char → List Char
  | [] => []
  | c :: cs => if c.toNat = 0xfeff then cs else c :: cs

def stripBOM : List Csv.Field → List Csv.Field
  | [] => []
  | name :: names => trimBOM name :: names

def columns (header : List Csv.Field) : Dict String Nat :=
  Dict.insertAll (fun p => String.ofList (trimSpace p.1)) Prod.snd header.zipIdx ∅

def cell (col : Dict String Nat) (row : List Csv.Field) (name : String) : String :=
  match col.lookup name with
  | none => ""
  | some i => (row[i]?).elim "" fun f => String.ofList (trimSpace f)

/-- `strings.EqualFold(s, "true")`: no character outside of ASCII is equal up to case to one of
    these letters. -/
def isTrue (s : String) : Bool := s.toList.map Char.toLower = "true".toList

/-- The local id and whether it is made of the BACnet columns; none for a row without an
    address. -/
def rowAddress (get : String → String) : Option (String × Bool) :=
  if get "object_type_bacnet" ≠ "" ∧ get "instance_no_bacnet" ≠ "" then
    some (get "object_type_bacnet" ++ "," ++ get "instance_no_bacnet", true)
  else if get "release_of" ≠ "" then some (get "local_id", false)
  else if get "local_id" ≠ "" then some (get "local_id", false)
  else none

def rowProtocol (opts : CSVOptions) (get : String → String) (localID : String) (bacnet : Bool) :
    String :=
  let explicit := normalizeProtocol opts.lower (get "protocol")
  if bacnet then "bacnet"
  else if get "release_of" ≠ "" then explicit
  else if explicit ≠ "" then explicit
  else if inferProtocol localID = "" then "unknown"
  else inferProtocol localID

def rowConnector (opts : CSVOptions) (get : String → String) (protocol : String) : String :=
  if get "connector_id" ≠ "" then get "connector_id"
  else
    let mapped := (opts.connectorMap.lookup protocol).getD ""
    if mapped ≠ "" then mapped else opts.connectorID

def rowEntry (opts : CSVOptions) (get : String → String) : Option Entry :=
  if get "point_id" = "" then none
  else (rowAddress get).map fun (localID, bacnet) =>
    let protocol := rowProtocol opts get localID bacnet
    { connectorID := rowConnector opts get protocol
      protocol := protocol
      localID := localID
      pointID := get "point_id"
      releaseOf := get "release_of"
      unit := get "unit"
      writable := isTrue (get "writable")
      deviceRef := get "device_id" }

def addRow (opts : CSVOptions) (col : Dict String Nat) (entries : List Entry)
    (row : List Csv.Field) : List Entry :=
  match rowEntry opts (cell col row) with
  | none => entries
  | some e => if e.pointID ∈ entries.map Entry.pointID then entries else entries ++ [e]

/-- `LoadCSV`; its warnings are left out. -/
def loadCSV (opts : CSVOptions) (text : List Char) : Except CSVError (List Entry) := do
  let rows ← (Csv.readAll text).mapError .read
  match rows with
  | [] => .error .empty
  | header :: rows =>
    let col := columns (stripBOM header)
    if (col.lookup "point_id").isNone then .error (.missingColumn "point_id")
    else .ok (rows.foldl (addRow opts col) [])

/-! ## Columns by name -/

section Columns

variable {names : List String} {name : String}

theorem map_key_zipIdx (h : ∀ name ∈ names, Trimmed name.toList) :
    ((names.map String.toList).zipIdx.map fun p => String.ofList (trimSpace p.1)) = names := by
  have hmap : ((names.map String.toList).zipIdx.map fun p => String.ofList (trimSpace p.1)) =
      ((names.map String.toList).zipIdx.map Prod.fst).map
        fun name => String.ofList (trimSpace name) := by
    rw [List.map_map]
    rfl
  have hkey : ∀ name ∈ names, String.ofList (trimSpace name.toList) = name := by
    intro name hname
    rw [(h name hname).trimSpace_eq, String.ofList_toList]
  rw [hmap, List.zipIdx_map_fst, List.map_map]
  exact (List.map_congr_left hkey).trans (List.map_id' names)

theorem lookup_columns (h : ∀ name ∈ names, Trimmed name.toList) (hnodup : names.Nodup) {i : Nat}
    (hi : names[i]? = some name) : (columns (names.map String.toList)).lookup name = some i := by
  have hmem : (name.toList, i) ∈ (names.map String.toList).zipIdx := by
    rw [List.mem_zipIdx_iff_getElem?, List.getElem?_map, hi, Option.map_some]
  have hfound : (columns (names.map String.toList)).lookup
      (String.ofList (trimSpace name.toList)) = some i :=
    Dict.lookup_insertAll_of_mem ((map_key_zipIdx h).symm ▸ hnodup) hmem
  rwa [(h name (List.mem_of_getElem? hi)).trimSpace_eq, String.ofList_toList] at hfound

theorem cell_of_mem (h : ∀ name ∈ names, Trimmed name.toList) (hnodup : names.Nodup)
    (hname : name ∈ names) {cells : String → String} (hcell : Trimmed (cells name).toList) :
    cell (columns (names.map String.toList)) (names.map fun n => (cells n).toList) name =
      cells name := by
  obtain ⟨i, hi⟩ := List.mem_iff_getElem?.mp hname
  rw [cell, lookup_columns h hnodup hi]
  simp only [List.getElem?_map, hi, Option.map_some, Option.elim_some]
  rw [hcell.trimSpace_eq, String.ofList_toList]

theorem cell_of_not_mem (h : ∀ name ∈ names, Trimmed name.toList) (hname : name ∉ names)
    (row : List Csv.Field) : cell (columns (names.map String.toList)) row name = "" := by
  have hlookup : (columns (names.map String.toList)).lookup name = none := by
    rw [columns, Dict.lookup_insertAll_of_not_mem, AList.lookup_empty]
    rwa [map_key_zipIdx h]
  rw [cell, hlookup]

end Columns

/-! ## Rows -/

theorem foldl_addRow {opts : CSVOptions} {col : Dict String Nat} {rows : List (List Csv.Field)}
    {entries : List Entry} (h : rows.map (fun row => rowEntry opts (cell col row)) =
      entries.map some) (hdistinct : (entries.map Entry.pointID).Nodup) :
    rows.foldl (addRow opts col) [] = entries := by
  have hfold : ∀ before, ((before ++ entries).map Entry.pointID).Nodup →
      rows.foldl (addRow opts col) before = before ++ entries := by
    intro before hbefore
    clear hdistinct
    induction rows generalizing entries before with
    | nil =>
      rw [List.map_nil] at h
      rw [List.map_eq_nil_iff.mp h.symm, List.append_nil]
      rfl
    | cons row rows ih =>
      obtain ⟨e, entries, rfl, he, hentries⟩ := List.map_eq_cons_iff.mp h.symm
      have hnew : e.pointID ∉ before.map Entry.pointID := by
        rw [List.map_append, List.nodup_append'] at hbefore
        intro hmem
        exact hbefore.2.2 hmem (List.mem_map_of_mem (List.mem_cons_self ..))
      have hrow : addRow opts col before row = before ++ [e] := by
        have hentry : rowEntry opts (cell col row) = some e := he.symm
        rw [addRow, hentry]
        exact if_neg hnew
      rw [List.foldl_cons, hrow, ih hentries.symm (before ++ [e])]
      · rw [List.append_assoc, List.singleton_append]
      · rwa [List.append_assoc, List.singleton_append]
  exact hfold [] hdistinct

theorem loadCSV_of_read (opts : CSVOptions) {text : List Char} {header : List Csv.Field}
    {rows : List (List Csv.Field)} (hread : Csv.readAll text = .ok (header :: rows))
    {i : Nat} (hcol : (columns (stripBOM header)).lookup "point_id" = some i) :
    loadCSV opts text = .ok (rows.foldl (addRow opts (columns (stripBOM header))) []) := by
  have hread' : (Csv.readAll text).mapError CSVError.read = .ok (header :: rows) :=
    mapError_eq_ok.mpr hread
  rw [loadCSV, hread', ok_bind]
  simp only [hcol, Option.isNone_some, Bool.false_eq_true, if_false]

end NexusGateway.PointList
