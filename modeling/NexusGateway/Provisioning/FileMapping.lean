/-
A gateway gets its Point List from a file, through `LoadCSV`, or from the
provisioning API, through `mapDTOs`.  The two resolve address, protocol and
connector in code of their own.  Here a list of points is given once, and both
a CSV text of it and the point objects of it become the same entries.
-/

import NexusGateway.PointList.Csv

namespace NexusGateway.Provisioning

open Lib PointList

/-! ## Points, apart from how they are written -/

/-- The address of a point on its device: a BACnet object, or a local id. -/
inductive Address where
  | bacnet (objectType instanceNo : String) (h : objectType ≠ "" ∧ instanceNo ≠ "")
  | named (localID : String) (h : localID ≠ "")

structure ListedPoint where
  pointID : String
  address : Address
  protocol : String := ""
  unit : String := ""
  writable : Bool := false
  deviceID : String := ""
  pointID_ne : pointID ≠ ""
  /-- The protocol of a BACnet object, if given, is `bacnet` in any case. -/
  protocol_bacnet : ∀ objectType instanceNo h, address = .bacnet objectType instanceNo h →
    protocol = "" ∨ protocol.toList.map Char.toLower = "bacnet".toList

namespace Address

def localID : Address → String
  | bacnet objectType instanceNo _ => objectType ++ "," ++ instanceNo
  | named localID _ => localID

/-- The protocol for an address and what is said about it, which is only asked of a local id. -/
def protocol (explicit : String) : Address → String
  | bacnet .. => "bacnet"
  | named localID _ =>
    if explicit ≠ "" then explicit
    else if inferProtocol localID = "" then "unknown"
    else inferProtocol localID

end Address

def ListedPoint.entry (c : HTTPClient) (p : ListedPoint) : Entry :=
  let protocol := p.address.protocol (normalizeProtocol c.lower p.protocol)
  { connectorID := c.connectorFor protocol
    protocol := protocol
    localID := p.address.localID
    pointID := p.pointID
    unit := p.unit
    writable := p.writable
    deviceRef := p.deviceID }

/-! ## Points in a file -/

/-- The columns that `LoadCSV` reads of a point that is not a release point. -/
def documented : List String :=
  ["point_id", "object_type_bacnet", "instance_no_bacnet", "local_id", "protocol", "unit",
    "writable", "device_id"]

/-- The names of the columns, in any order and with any others between. -/
structure Header where
  names : List String
  nodup : names.Nodup
  trimmed : ∀ name ∈ names, Trimmed name.toList
  oneLine : ∀ name ∈ names, '\r' ∉ name.toList
  noBOM : ∀ name ∈ names, trimBOM name.toList = name.toList
  complete : ∀ name ∈ documented, name ∈ names

def Address.InRow (cells : String → String) : Address → Prop
  | bacnet objectType instanceNo _ =>
    cells "object_type_bacnet" = objectType ∧ cells "instance_no_bacnet" = instanceNo
  | named localID _ =>
    cells "local_id" = localID ∧
      (cells "object_type_bacnet" = "" ∨ cells "instance_no_bacnet" = "")

/-- The cells of a row say what the point is.  A column that is not there counts as empty, as
    those of the connector and of a release are. -/
structure ListedPoint.InRow (p : ListedPoint) (cells : String → String) : Prop where
  pointID : cells "point_id" = p.pointID
  address : p.address.InRow cells
  protocol : cells "protocol" = p.protocol
  unit : cells "unit" = p.unit
  writable : isTrue (cells "writable") = p.writable
  deviceID : cells "device_id" = p.deviceID
  releaseOf : cells "release_of" = ""
  connectorID : cells "connector_id" = ""

/-- The cells under a header, trimmed; a line feed could stand in quotes, a carriage return
    would not be read back. -/
structure Header.Clean (header : Header) (cells : String → String) : Prop where
  trimmed : ∀ name ∈ header.names, Trimmed (cells name).toList
  oneLine : ∀ name ∈ header.names, '\r' ∉ (cells name).toList

def Header.row (header : Header) (cells : String → String) : List Csv.Field :=
  header.names.map fun name => (cells name).toList

def InFile (points : List ListedPoint) (text : List Char) : Prop :=
  ∃ (header : Header) (rows : List (String → String)),
    List.Forall₂ ListedPoint.InRow points rows ∧ (∀ cells ∈ rows, header.Clean cells) ∧
      Csv.Renders (header.names.map String.toList :: rows.map header.row) text

/-! ## Points in a document -/

def Address.InDTO (dto : GatewayPointDTOJSON) : Address → Prop
  | bacnet objectType instanceNo _ =>
    ∃ n, dto.native = some n ∧ n.protocol = "bacnet" ∧ n.objectType = objectType ∧
      n.instanceNo = instanceNo
  | named localID _ =>
    dto.localID = localID ∧
      ∀ n, dto.native = some n → n.protocol = "" ∧ n.objectType = "" ∧ n.instanceNo = ""

def DeviceIn (deviceID : String) (dto : GatewayPointDTOJSON) : Prop :=
  let inNative := (dto.native.map (·.deviceID)).getD ""
  let inDevice := (dto.device.map (·.id)).getD ""
  (inNative = deviceID ∧ deviceID ≠ "") ∨ (inNative = "" ∧ inDevice = deviceID)

structure ListedPoint.InDTO (p : ListedPoint) (dto : GatewayPointDTOJSON) : Prop where
  pointID : dto.pointID = p.pointID
  address : p.address.InDTO dto
  protocol : dto.protocol = p.protocol
  unit : dto.unit = p.unit
  writable : dto.writable.getD false = p.writable
  deviceID : DeviceIn p.deviceID dto
  releaseOf : dto.releaseOf = ""

/-! ## Protocol names -/

def LowerASCII (lower : Char → Char) : Prop := ∀ c : Char, c.toNat < 128 → lower c = c.toLower

section Protocols

variable {lower : Char → Char}

theorem normalizeProtocol_empty : normalizeProtocol lower "" = "" := rfl

theorem normalizeProtocol_bacnet (hlower : LowerASCII lower) {protocol : String}
    (h : protocol.toList.map Char.toLower = "bacnet".toList) :
    normalizeProtocol lower protocol = "bacnet" := by
  have hsmall : ∀ d ∈ "bacnet".toList, 97 ≤ d.toNat ∧ d.toNat ≤ 122 := by simp
  have hprintable : ∀ c ∈ protocol.toList, 33 ≤ c.toNat ∧ c.toNat < 127 := by
    intro c hc
    exact printable_of_toLower (hsmall c.toLower (h ▸ List.mem_map_of_mem hc))
  have htrimmed : Trimmed protocol.toList :=
    trimmed_of_forall fun c hc => isUnicodeSpace_of_printable (hprintable c hc)
  have hmap : protocol.toList.map lower = protocol.toList.map Char.toLower := by
    refine List.map_congr_left fun c hc => hlower c ?_
    have := (hprintable c hc).2
    omega
  rw [normalizeProtocol, htrimmed.trimSpace_eq, hmap, h, String.ofList_toList]

end Protocols

/-! ## What the file gives -/

/-- The options of `LoadCSV` with the connectors of the API client. -/
def HTTPClient.csvOptions (c : HTTPClient) : CSVOptions :=
  { connectorID := c.fallbackConnectorID, connectorMap := c.connectorMap, lower := c.lower }

section File

variable {c : HTTPClient} {p : ListedPoint} {cells : String → String}

theorem rowConnector_eq (h : cells "connector_id" = "") (protocol : String) :
    rowConnector c.csvOptions cells protocol = c.connectorFor protocol := by
  rw [rowConnector, if_neg (not_not_intro h)]
  rfl

theorem rowEntry_listed (h : p.InRow cells) : rowEntry c.csvOptions cells = some (p.entry c) := by
  have hpoint : cells "point_id" ≠ "" := h.pointID ▸ p.pointID_ne
  have haddress := h.address
  have hresolved : ∃ bacnet, rowAddress cells = some (p.address.localID, bacnet) ∧
      rowProtocol c.csvOptions cells p.address.localID bacnet =
        p.address.protocol (normalizeProtocol c.lower p.protocol) := by
    cases hp : p.address with
    | bacnet objectType instanceNo hne =>
      rw [hp] at haddress
      obtain ⟨htype, hinstance⟩ := haddress
      refine ⟨true, ?_, rfl⟩
      rw [rowAddress, htype, hinstance, if_pos hne]
      rfl
    | named localID hne =>
      rw [hp] at haddress
      obtain ⟨hlocal, hempty⟩ := haddress
      refine ⟨false, ?_, ?_⟩
      · have hnot : ¬(cells "object_type_bacnet" ≠ "" ∧ cells "instance_no_bacnet" ≠ "") := by
          rintro ⟨htype, hinstance⟩
          exact hempty.elim htype hinstance
        rw [rowAddress, if_neg hnot, h.releaseOf, hlocal, if_neg (not_not_intro rfl), if_pos hne]
        rfl
      · simp only [rowProtocol, h.releaseOf, h.protocol, Bool.false_eq_true, if_false, ne_eq,
          not_true_eq_false]
        rfl
  obtain ⟨bacnet, hrow, hprotocol⟩ := hresolved
  rw [rowEntry, if_neg hpoint, hrow, Option.map_some]
  simp only [hprotocol, rowConnector_eq h.connectorID, h.pointID, h.unit, h.writable, h.deviceID,
    h.releaseOf]
  rfl

theorem inRow_cell {header : Header} (hclean : header.Clean cells) (h : p.InRow cells) :
    p.InRow (cell (columns (header.names.map String.toList)) (header.row cells)) := by
  have hread : ∀ name ∈ documented,
      cell (columns (header.names.map String.toList)) (header.row cells) name = cells name := by
    intro name hname
    have hmem := header.complete name hname
    exact cell_of_mem header.trimmed header.nodup hmem (hclean.trimmed name hmem)
  have hblank : ∀ name, cells name = "" →
      cell (columns (header.names.map String.toList)) (header.row cells) name = "" := by
    intro name hname
    by_cases hmem : name ∈ header.names
    · rw [← hname]
      exact cell_of_mem header.trimmed header.nodup hmem (hclean.trimmed name hmem)
    · exact cell_of_not_mem header.trimmed hmem _
  simp only [documented, List.forall_mem_cons] at hread
  obtain ⟨hpoint, htype, hinstance, hlocal, hprotocol, hunit, hwritable, hdevice, -⟩ := hread
  have haddress : p.address.InRow
      (cell (columns (header.names.map String.toList)) (header.row cells)) := by
    have hcells := h.address
    cases hp : p.address with
    | bacnet objectType instanceNo hne =>
      rw [hp] at hcells
      rw [Address.InRow, htype, hinstance]
      exact hcells
    | named localID hne =>
      rw [hp] at hcells
      rw [Address.InRow, hlocal, htype, hinstance]
      exact hcells
  exact
    { pointID := hpoint.trans h.pointID
      address := haddress
      protocol := hprotocol.trans h.protocol
      unit := hunit.trans h.unit
      writable := (congrArg PointList.isTrue hwritable).trans h.writable
      deviceID := hdevice.trans h.deviceID
      releaseOf := hblank _ h.releaseOf
      connectorID := hblank _ h.connectorID }

end File

theorem stripBOM_names (header : Header) :
    stripBOM (header.names.map String.toList) = header.names.map String.toList := by
  have hbom := header.noBOM
  cases hnames : header.names with
  | nil => rfl
  | cons name names =>
    have hname : trimBOM name.toList = name.toList :=
      hbom name (hnames ▸ List.mem_cons_self ..)
    rw [List.map_cons, stripBOM, hname]

theorem loadCSV_listed {c : HTTPClient} {points : List ListedPoint} {text : List Char}
    (hdistinct : (points.map ListedPoint.pointID).Nodup) (h : InFile points text) :
    loadCSV c.csvOptions text = .ok (points.map (ListedPoint.entry c)) := by
  obtain ⟨header, rows, hrows, hclean, htext⟩ := h
  have hread : Csv.readAll text = .ok (header.names.map String.toList :: rows.map header.row) := by
    refine Csv.readAll_renders htext ?_
    intro row hrow f hf
    rcases List.mem_cons.mp hrow with rfl | hrow
    · obtain ⟨name, hname, rfl⟩ := List.mem_map.mp hf
      exact header.oneLine name hname
    · obtain ⟨cells, hcells, rfl⟩ := List.mem_map.mp hrow
      obtain ⟨name, hname, rfl⟩ := List.mem_map.mp hf
      exact (hclean cells hcells).oneLine name hname
  obtain ⟨i, hi⟩ := List.mem_iff_getElem?.mp
    (header.complete "point_id" (by simp [documented]))
  have hload := loadCSV_of_read c.csvOptions hread (by
    rw [stripBOM_names]
    exact lookup_columns header.trimmed header.nodup hi)
  rw [hload, stripBOM_names]
  have hentries : (rows.map header.row).map
      (fun row => rowEntry c.csvOptions (cell (columns (header.names.map String.toList)) row)) =
        (points.map (ListedPoint.entry c)).map some := by
    rw [List.map_map, List.map_map]
    clear hload hread htext hdistinct
    induction hrows with
    | nil => rfl
    | @cons p cells points rows hp _ ih =>
      have hrow := rowEntry_listed (c := c) (inRow_cell (hclean cells (List.mem_cons_self ..)) hp)
      have hrest := ih fun other hother => hclean other (List.mem_cons_of_mem _ hother)
      rw [List.map_cons, List.map_cons, hrest]
      exact congrArg (· :: _) hrow
  rw [foldl_addRow hentries]
  rwa [List.map_map]

/-! ## What the document gives -/

section Document

variable {c : HTTPClient} {p : ListedPoint} {dto : GatewayPointDTOJSON}

theorem mapDTO_localID_listed (h : p.address.InDTO dto) :
    (c.mapDTO dto).localID = p.address.localID := by
  cases hp : p.address with
  | bacnet objectType instanceNo hne =>
    rw [hp] at h
    obtain ⟨n, hnative, -, rfl, rfl⟩ := h
    exact mapDTO_localID hnative hne.1
  | named localID hne =>
    rw [hp] at h
    obtain ⟨rfl, hblock⟩ := h
    cases hnative : dto.native with
    | none =>
      simp only [HTTPClient.mapDTO, hnative]
      rfl
    | some n =>
      obtain ⟨-, htype, hinstance⟩ := hblock n hnative
      simp [HTTPClient.mapDTO, hnative, htype, hinstance, Address.localID]

theorem mapDTO_deviceRef {deviceID : String} (h : DeviceIn deviceID dto) :
    (c.mapDTO dto).deviceRef = deviceID := by
  rcases h with ⟨hnative, hne⟩ | ⟨hnative, hdevice⟩
  · simp only [HTTPClient.mapDTO, hnative, if_neg hne]
  · simp only [HTTPClient.mapDTO, hnative, if_true, hdevice]

theorem mapDTO_connectorID_eq (h : dto.releaseOf = "") :
    (c.mapDTO dto).connectorID = c.connectorFor (c.mapDTO dto).protocol := by
  simp only [HTTPClient.mapDTO, h, ne_eq, not_true_eq_false, if_false]

/-- The protocol that the object gives, in its own field or in the native block. -/
def givenProtocol (c : HTTPClient) (dto : GatewayPointDTOJSON) : String :=
  if normalizeProtocol c.lower dto.protocol = "" then
    (dto.native.map fun n => normalizeProtocol c.lower n.protocol).getD ""
  else normalizeProtocol c.lower dto.protocol

theorem mapDTO_protocol_eq (h : dto.releaseOf = "") :
    (c.mapDTO dto).protocol =
      if givenProtocol c dto ≠ "" then givenProtocol c dto
      else if inferProtocol (c.mapDTO dto).localID = "" then "unknown"
      else inferProtocol (c.mapDTO dto).localID := by
  have hresolved : (c.mapDTO dto).protocol =
      let inferred := if givenProtocol c dto = "" then inferProtocol (c.mapDTO dto).localID
        else givenProtocol c dto
      if inferred = "" then "unknown" else inferred := if_neg (not_not_intro h)
  rw [hresolved]
  by_cases hgiven : givenProtocol c dto = ""
  · simp only [hgiven, ne_eq, not_true_eq_false, if_true, if_false]
  · simp only [hgiven, ne_eq, not_false_eq_true, if_true, if_false]

theorem mapDTO_protocol (hlower : LowerASCII c.lower) (h : p.InDTO dto) :
    (c.mapDTO dto).protocol = p.address.protocol (normalizeProtocol c.lower p.protocol) := by
  have haddress := h.address
  have hlocal := mapDTO_localID_listed (c := c) haddress
  rw [mapDTO_protocol_eq h.releaseOf, hlocal]
  cases hp : p.address with
  | bacnet objectType instanceNo hne =>
    rw [hp] at haddress
    obtain ⟨n, hnative, hblock, -, -⟩ := haddress
    have hgiven : givenProtocol c dto = "bacnet" := by
      rw [givenProtocol, h.protocol]
      rcases p.protocol_bacnet _ _ _ hp with hempty | hany
      · rw [hempty, normalizeProtocol_empty, if_pos rfl, hnative, Option.map_some,
          Option.getD_some, hblock]
        exact normalizeProtocol_bacnet hlower rfl
      · rw [normalizeProtocol_bacnet hlower hany]
        exact if_neg (by decide)
    rw [hgiven]
    exact if_pos (by decide)
  | named localID hne =>
    rw [hp] at haddress
    have hgiven : givenProtocol c dto = normalizeProtocol c.lower p.protocol := by
      have hblock :
          (dto.native.map fun n => normalizeProtocol c.lower n.protocol).getD "" = "" := by
        cases hnative : dto.native with
        | none => rfl
        | some n =>
          rw [Option.map_some, Option.getD_some, (haddress.2 n hnative).1,
            normalizeProtocol_empty]
      rw [givenProtocol, h.protocol, hblock]
      split
      · next hempty => exact hempty.symm
      · rfl
    rw [hgiven]
    rfl

theorem mapDTO_listed (hlower : LowerASCII c.lower) (h : p.InDTO dto) :
    { c.mapDTO dto with controlSchema := "" } = p.entry c := by
  have hconnector := mapDTO_connectorID_eq (c := c) h.releaseOf
  rw [mapDTO_protocol hlower h] at hconnector
  simp only [ListedPoint.entry, Entry.mk.injEq, hconnector, mapDTO_protocol hlower h,
    mapDTO_localID_listed h.address, mapDTO_deviceRef h.deviceID]
  exact ⟨h.releaseOf, trivial, trivial, trivial, h.pointID, h.unit, h.writable, trivial, trivial⟩

end Document

/-! ## The two agree -/

/-- A file and a document with the same points give the same entries, in the same order, up to
    the control schema, which a file does not have.  Connectors come from any map and any
    fallback. -/
theorem loadCSV_eq_mapDTOs {c : HTTPClient} (hlower : LowerASCII c.lower)
    {points : List ListedPoint} (hdistinct : (points.map ListedPoint.pointID).Nodup)
    {text : List Char} (hfile : InFile points text) {dtos : List GatewayPointDTOJSON}
    (hdtos : List.Forall₂ ListedPoint.InDTO points dtos) :
    loadCSV c.csvOptions text =
      .ok ((c.mapDTOs dtos).map fun e => { e with controlSchema := "" }) := by
  have hentries : ((c.mapDTOs dtos).map fun e => { e with controlSchema := "" }) =
      points.map (ListedPoint.entry c) := by
    clear hdistinct hfile
    rw [HTTPClient.mapDTOs, List.map_map]
    induction hdtos with
    | nil => rfl
    | @cons p dto points dtos hp _ ih =>
      rw [List.map_cons, List.map_cons, ih]
      exact congrArg (· :: _) (mapDTO_listed hlower hp)
  rw [hentries]
  exact loadCSV_listed hdistinct hfile

namespace Site

def points : List ListedPoint :=
  [{ pointID := "PT001", address := .bacnet "analogInput" "1" (by decide), protocol := "BACnet"
     unit := "degC", deviceID := "1001", pointID_ne := by decide
     protocol_bacnet := fun _ _ _ _ => .inr (by decide) },
   { pointID := "PT002", address := .named "ns=2;s=PT002" (by decide), writable := true
     pointID_ne := by decide, protocol_bacnet := by simp }]

def spaceless (s : String) : Bool := s.toList.all fun c => !isUnicodeSpace c

theorem trimmed_of_spaceless {s : String} (h : spaceless s = true) : Trimmed s.toList :=
  trimmed_of_forall fun c hc => by simpa using List.all_eq_true.mp h c hc

theorem oneLine_of_spaceless {s : String} (h : spaceless s = true) : '\r' ∉ s.toList := by
  intro hmem
  have hspace := List.all_eq_true.mp h '\r' hmem
  revert hspace
  decide

def names : List String :=
  ["local_id", "point_id", "protocol", "unit", "gateway_id", "writable", "device_id",
    "object_type_bacnet", "instance_no_bacnet"]

theorem spaceless_names : ∀ name ∈ names, spaceless name = true :=
  List.all_eq_true.mp (by decide)

def header : Header where
  names := names
  nodup := by decide
  trimmed := fun name hname => trimmed_of_spaceless (spaceless_names name hname)
  oneLine := fun name hname => oneLine_of_spaceless (spaceless_names name hname)
  noBOM := by decide
  complete := by decide

def cellsOf (pairs : List (String × String)) (name : String) : String :=
  (pairs.lookup name).getD ""

def rows : List (String → String) :=
  [cellsOf [("point_id", "PT001"), ("protocol", "BACnet"), ("unit", "degC"),
     ("device_id", "1001"), ("object_type_bacnet", "analogInput"), ("instance_no_bacnet", "1")],
   cellsOf [("local_id", "ns=2;s=PT002"), ("point_id", "PT002"), ("writable", "True")]]

theorem clean_rows : ∀ cells ∈ rows, header.Clean cells := by
  have hspaceless :
      rows.all (fun cells => names.all fun name => spaceless (cells name)) = true := by decide
  intro cells hcells
  have hcell := List.all_eq_true.mp (List.all_eq_true.mp hspaceless cells hcells)
  exact ⟨fun name hname => trimmed_of_spaceless (hcell name hname),
    fun name hname => oneLine_of_spaceless (hcell name hname)⟩

def text : List Char := Csv.quoteAll (header.names.map String.toList :: rows.map header.row)

theorem points_inFile : InFile points text := by
  refine ⟨header, rows, ?_, clean_rows, Csv.renders_quoteAll (by decide)⟩
  have hbacnet : ListedPoint.InRow (points.get ⟨0, by decide⟩) (rows.get ⟨0, by decide⟩) :=
    ⟨rfl, ⟨rfl, rfl⟩, rfl, rfl, rfl, rfl, rfl, rfl⟩
  have hopcua : ListedPoint.InRow (points.get ⟨1, by decide⟩) (rows.get ⟨1, by decide⟩) :=
    ⟨rfl, ⟨rfl, .inl rfl⟩, rfl, rfl, rfl, rfl, rfl, rfl⟩
  exact .cons hbacnet (.cons hopcua .nil)

def dtos : List GatewayPointDTOJSON :=
  [{ pointID := "PT001", protocol := "BACnet", unit := "degC"
     native := some { protocol := "bacnet", objectType := "analogInput", instanceNo := "1" }
     device := some { id := "1001" } },
   { pointID := "PT002", localID := "ns=2;s=PT002", writable := some true }]

theorem points_inDTOs : List.Forall₂ ListedPoint.InDTO points dtos := by
  have hbacnet : ListedPoint.InDTO (points.get ⟨0, by decide⟩) (dtos.get ⟨0, by decide⟩) :=
    ⟨rfl, ⟨_, rfl, rfl, rfl, rfl⟩, rfl, rfl, rfl, .inr ⟨rfl, rfl⟩, rfl⟩
  have hopcua : ListedPoint.InDTO (points.get ⟨1, by decide⟩) (dtos.get ⟨1, by decide⟩) :=
    ⟨rfl, ⟨rfl, nofun⟩, rfl, rfl, rfl, .inr ⟨rfl, rfl⟩, rfl⟩
  exact .cons hbacnet (.cons hopcua .nil)

def client : HTTPClient :=
  { connectorMap := Dict.insertAll Prod.fst Prod.snd
      [("bacnet", "bacnet-01"), ("opcua", "opcua-01")] ∅ }

end Site

/-- Both ways the BACnet object belongs to one connector and the OPC-UA node to the other. -/
theorem loadCSV_eq_mapDTOs_site :
    loadCSV Site.client.csvOptions Site.text =
        .ok ((Site.client.mapDTOs Site.dtos).map fun e => { e with controlSchema := "" }) ∧
      (Site.client.mapDTOs Site.dtos).map (fun e => (e.connectorID, e.protocol, e.localID)) =
        [("bacnet-01", "bacnet", "analogInput,1"), ("opcua-01", "opcua", "ns=2;s=PT002")] :=
  ⟨loadCSV_eq_mapDTOs (fun _ _ => rfl) (by decide) Site.points_inFile Site.points_inDTOs,
    by decide⟩

end NexusGateway.Provisioning
