/-
`migrate` and `ReadBatch` of `internal/storeforward/buffer.go`: the database
on disk is brought from the schema version it is stamped with to the one the
program understands, one statement at a time, and may be left in any state
between two statements.

A database keeps the columns that its `frames` table has; a column that is
missing holds NULL in every row, which is what `ADD COLUMN` gives it.  The
tables of version `v` are there from the stamp `v` on (`Meets`), and that is
all a step relies on: a database whose tables are ahead of its stamp, in
whatever state an interrupted upgrade left it, is upgraded like any other.
-/

import Mathlib.Logic.Relation
import NexusGateway.Lib.JsonWriter
import NexusGateway.Lib.Prog
import NexusGateway.StoreForward.Buffer

namespace NexusGateway.StoreForward

open Lib

/-! ## The database -/

/-- `proto.Unmarshal` into a new `TelemetryFrame`. -/
structure Proto where
  unmarshal : List UInt8 → Option TelemetryFrame

def Proto.Wire (proto : Proto) : Type := { wire : List UInt8 // (proto.unmarshal wire).isSome }

/-- A row of `frames`; a double is given by its bits.  NULL is `none`. -/
structure Row (proto : Proto) where
  seq : Int
  gatewayId : String
  pointId : String
  value : UInt64
  timestamp : String
  attributes : Option String
  frame : Option proto.Wire

/-- The table `frames`, in the order of its primary key, with its two optional columns. -/
structure Frames (proto : Proto) where
  hasAttributes : Bool
  hasFrame : Bool
  rows : List (Row proto)
  sorted : rows.Pairwise fun r r' => r.seq < r'.seq
  attributes_null : hasAttributes = false → ∀ r ∈ rows, r.attributes = none
  frame_null : hasFrame = false → ∀ r ∈ rows, r.frame = none

/-- The database: `PRAGMA user_version`, the tables `frames` and `cursor`, and the row of the
    latter. -/
structure Database (proto : Proto) where
  userVersion : Nat
  frames : Option (Frames proto)
  cursor : Option (Option Int)

variable {proto : Proto}

namespace Frames

def empty : Frames proto where
  hasAttributes := false
  hasFrame := false
  rows := []
  sorted := .nil
  attributes_null := fun _ _ h => absurd h List.not_mem_nil
  frame_null := fun _ _ h => absurd h List.not_mem_nil

def addAttributes (t : Frames proto) : Frames proto :=
  { t with
    hasAttributes := true
    attributes_null := fun h => Bool.noConfusion h }

def addFrame (t : Frames proto) : Frames proto :=
  { t with
    hasFrame := true
    frame_null := fun h => Bool.noConfusion h }

end Frames

namespace Database

def rows (db : Database proto) : List (Row proto) := (db.frames.map Frames.rows).getD []

def cursorRow (db : Database proto) : Option Int := db.cursor.join

/-- `CREATE TABLE IF NOT EXISTS frames (…)`. -/
def createFrames (db : Database proto) : Except String Unit × Database proto :=
  (.ok (), { db with frames := some (db.frames.getD .empty) })

/-- `CREATE TABLE IF NOT EXISTS cursor (…)`. -/
def createCursor (db : Database proto) : Except String Unit × Database proto :=
  (.ok (), { db with cursor := some (db.cursor.getD none) })

/-- The count of `pragma_table_info('frames')` for a column is not 0. -/
def hasColumn (column : Frames proto → Bool) (db : Database proto) : Bool :=
  (db.frames.map column).getD false

/-- `ALTER TABLE frames ADD COLUMN …`. -/
def addColumn (name : String) (column : Frames proto → Bool) (add : Frames proto → Frames proto)
    (db : Database proto) : Except String Unit × Database proto :=
  match db.frames with
  | none => (.error "no such table: frames", db)
  | some t =>
    if column t then (.error ("duplicate column name: " ++ name), db)
    else (.ok (), { db with frames := some (add t) })

/-- `PRAGMA user_version = …`. -/
def stamp (version : Nat) (db : Database proto) : Except String Unit × Database proto :=
  (.ok (), { db with userVersion := version })

end Database

/-! ## The upgrade -/

def schemaVersion : Nat := 3

/-- A step that adds a column of `frames` that is not there. -/
def addMissingColumn (name : String) (column : Frames proto → Bool)
    (add : Frames proto → Frames proto) : Prog (Database proto) String Unit := do
  let db ← Prog.get
  if db.hasColumn column then pure ()
  else Prog.act (Database.addColumn name column add)

def migrations : List (Prog (Database proto) String Unit) :=
  [do
      Prog.act Database.createFrames
      Prog.act Database.createCursor,
    addMissingColumn "attributes" Frames.hasAttributes Frames.addAttributes,
    addMissingColumn "frame" Frames.hasFrame Frames.addFrame]

/-- The text of `fmt.Errorf("…: %w", …, err)`. -/
def wrap (context : String) (p : Prog (Database proto) String Unit) :
    Prog (Database proto) String Unit :=
  p.recover fun err => Prog.fail (context ++ ": " ++ err)

/-- The body of the loop of `migrate`. -/
def migrateStep (v : Nat) : Prog (Database proto) String Unit := do
  wrap s!"storeforward: migration {v}->{v + 1}" (migrations[v]?.getD (pure ()))
  wrap s!"storeforward: stamp schema version {v + 1}" (Prog.act (Database.stamp (v + 1)))

def newerError (version : Nat) : String :=
  s!"storeforward: database schema version {version} is newer than this binary understands "
    ++ s!"({schemaVersion}); refusing to open"

def missingError (steps : Nat) : String :=
  s!"storeforward: schemaVersion {schemaVersion} but only {steps} migration steps defined"

def migrate : Prog (Database proto) String Unit := do
  let db ← Prog.get
  Prog.check (db.userVersion ≤ schemaVersion)
    (newerError db.userVersion)
  Prog.check (schemaVersion ≤ (@migrations proto).length)
    (missingError (@migrations proto).length)
  Prog.runAll ((List.range' db.userVersion (schemaVersion - db.userVersion)).map migrateStep)

/-- A process that is upgrading the database may end after any statement. -/
def Interrupted (db db' : Database proto) : Prop := db' ∈ (migrate db).trace

/-! ## Reading -/

/-- What `json.Unmarshal` leaves in a `map[string]string` for a member: a value that is not a
    string is reported, and the member is there with the empty string. -/
def attributeOf : Json → String
  | .str s => s
  | _ => ""

/-- `json.Unmarshal` into a new `map[string]string`, errors ignored. -/
def unmarshalAttributes (text : String) : Dict String String :=
  match Json.readValue text.toList.length text.toList with
  | some (.obj members, rest) =>
    if rest.all Json.isSpace then
      Dict.insertAll Prod.fst (fun member => attributeOf member.2) members ∅
    else ∅
  | _ => ∅

/-- `json.Marshal` of a `map[string]string`, as `Write` stores it. -/
def marshalAttributes (attributes : Dict String String) : String :=
  String.ofList (Json.text true (.obj (Json.sortMembers
    (attributes.entries.map fun e => (e.1, .str e.2)))))

namespace Row

/-- The bytes scanned from the column `frame`. -/
def wire (r : Row proto) : List UInt8 := (r.frame.map Subtype.val).getD []

def legacyFrame (r : Row proto) : TelemetryFrame where
  gatewayId := r.gatewayId
  pointId := r.pointId
  value := some (.valueNum r.value)
  timestamp := r.timestamp
  attributes :=
    match r.attributes with
    | some text => if text ≠ "" then unmarshalAttributes text else ∅
    | none => ∅

/-- The body of the loop of `ReadBatch`. -/
def read (r : Row proto) : Except String (Int × TelemetryFrame) :=
  if r.wire ≠ [] then
    match proto.unmarshal r.wire with
    | some f => .ok (r.seq, f)
    | none => .error "storeforward: unmarshal frame"
  else .ok (r.seq, r.legacyFrame)

end Row

namespace Database

/-- `LIMIT ?`; a negative limit is none. -/
def limited (limit : Int) (found : List (Row proto)) : List (Row proto) :=
  if limit < 0 then found else found.take limit.toNat

/-- `SELECT … WHERE seq > ? ORDER BY seq ASC LIMIT ?`. -/
def select (db : Database proto) (afterSeq limit : Int) : List (Row proto) :=
  limited limit (db.rows.filter fun r => afterSeq < r.seq)

def readBatch (db : Database proto) (afterSeq limit : Int) :
    Except String (List (Int × TelemetryFrame)) :=
  match db.frames with
  | none => .error "no such table: frames"
  | some t =>
    if !t.hasAttributes then .error "no such column: attributes"
    else if !t.hasFrame then .error "no such column: frame"
    else (db.select afterSeq limit).mapM Row.read

end Database

/-! ## What a version promises -/

variable {v : Nat} {db : Database proto}

namespace Database

structure Meets (v : Nat) (db : Database proto) : Prop where
  tables : 1 ≤ v → db.frames.isSome ∧ db.cursor.isSome
  attributes : 2 ≤ v → db.hasColumn Frames.hasAttributes = true
  frame : 3 ≤ v → db.hasColumn Frames.hasFrame = true

/-- A database that an upgrade to this version starts from, or was interrupted in: what its
    stamp promises is there, and maybe more. -/
def Compatible (db : Database proto) : Prop :=
  db.userVersion ≤ schemaVersion ∧ db.Meets db.userVersion

structure Kept (db₀ db : Database proto) : Prop where
  rows : db.rows = db₀.rows
  cursor : db.cursorRow = db₀.cursorRow

theorem Kept.refl (db : Database proto) : Kept db db := ⟨rfl, rfl⟩

theorem Meets.mono {w : Nat} (h : db.Meets w) (hle : v ≤ w) :
    db.Meets v where
  tables hv := h.tables (Nat.le_trans hv hle)
  attributes hv := h.attributes (Nat.le_trans hv hle)
  frame hv := h.frame (Nat.le_trans hv hle)

theorem Kept.setFrames {db₀ : Database proto} (h : Kept db₀ db) {t : Frames proto}
    (hrows : t.rows = db.rows) : Kept db₀ { db with frames := some t } :=
  ⟨hrows.trans h.rows, h.cursor⟩

theorem Kept.setCursor {db₀ : Database proto} (h : Kept db₀ db) {row : Option Int}
    (hrow : row = db.cursorRow) : Kept db₀ { db with cursor := some row } :=
  ⟨h.rows, hrow.trans h.cursor⟩

theorem Meets.attributes_there (h : db.Meets 1)
    (hcolumn : db.hasColumn Frames.hasAttributes = true) : db.Meets 2 :=
  ⟨fun _ => h.tables (Nat.le_refl 1), fun _ => hcolumn, by omega⟩

theorem Meets.addAttributes (h : db.Meets 1) (t : Frames proto) :
    Meets 2 { db with frames := some t.addAttributes } :=
  ⟨fun _ => ⟨rfl, (h.tables (Nat.le_refl 1)).2⟩, fun _ => rfl, by omega⟩

theorem Meets.frame_there (h : db.Meets 2) (hcolumn : db.hasColumn Frames.hasFrame = true) :
    db.Meets 3 :=
  ⟨fun _ => h.tables (by omega), fun _ => h.attributes (Nat.le_refl 2), fun _ => hcolumn⟩

theorem Meets.addFrame (h : db.Meets 2) {t : Frames proto} (ht : db.frames = some t) :
    Meets 3 { db with frames := some t.addFrame } := by
  have hattributes := h.attributes (Nat.le_refl 2)
  rw [hasColumn, ht] at hattributes
  exact ⟨fun _ => ⟨rfl, (h.tables (by omega)).2⟩, fun _ => hattributes, fun _ => rfl⟩

/-- At a version of the upgrade: stamped `v`, with what `w` promises, and nothing lost. -/
structure At (db₀ : Database proto) (v w : Nat) (db : Database proto) : Prop where
  version : db.userVersion = v
  meets : db.Meets w
  kept : Kept db₀ db

theorem At.compatible {db₀ : Database proto} {w : Nat} (h : At db₀ v w db)
    (hv : v ≤ schemaVersion) (hw : v ≤ w) : db.Compatible ∧ Kept db₀ db := by
  refine ⟨⟨?_, ?_⟩, h.kept⟩
  · rw [h.version]
    exact hv
  · rw [h.version]
    exact h.meets.mono hw

end Database

/-! ## The steps -/

open Database

section Steps

variable {db₀ : Database proto}

abbrev Resumable (db₀ db : Database proto) : Prop := db.Compatible ∧ Kept db₀ db

abbrev NoError (_ : String) (_ : Database proto) : Prop := False

theorem wrap_triple {context : String} {p : Prog (Database proto) String Unit}
    {P Q : Database proto → Prop}
    (h : Prog.Triple (Resumable db₀) P p (fun _ => Q) NoError) :
    Prog.Triple (Resumable db₀) P (wrap context p) (fun _ => Q) NoError :=
  h.recover fun _ _ hfalse => hfalse.elim

theorem createFrames_triple :
    Prog.Triple (Resumable db₀) (At db₀ 0 0) (Prog.act Database.createFrames)
      (fun _ db => At db₀ 0 0 db ∧ db.frames.isSome) NoError := by
  apply Prog.Triple.act
  intro db h
  have hat : At db₀ 0 0 (Database.createFrames db).2 := by
    refine ⟨h.version, ⟨by omega, by omega, by omega⟩, h.kept.setFrames ?_⟩
    cases hframes : db.frames with
    | none | some t =>
      rw [Database.rows, hframes]
      rfl
  exact ⟨hat.compatible (Nat.zero_le _) (Nat.le_refl _), hat, rfl⟩

theorem createCursor_triple :
    Prog.Triple (Resumable db₀) (fun db => At db₀ 0 0 db ∧ db.frames.isSome)
      (Prog.act Database.createCursor) (fun _ => At db₀ 0 1) NoError := by
  apply Prog.Triple.act
  intro db ⟨h, hframes⟩
  have hat : At db₀ 0 1 (Database.createCursor db).2 := by
    refine ⟨h.version, ⟨fun _ => ⟨hframes, rfl⟩, by omega, by omega⟩, h.kept.setCursor ?_⟩
    cases hcursor : db.cursor with
    | none | some row =>
      rw [cursorRow, hcursor]
      rfl
  exact ⟨hat.compatible (Nat.zero_le _) (Nat.zero_le _), hat⟩

theorem addMissingColumn_triple (hv : 1 ≤ v) (hlt : v < schemaVersion) {name : String}
    {column : Frames proto → Bool} {add : Frames proto → Frames proto}
    (hrows : ∀ t, (add t).rows = t.rows)
    (hthere : ∀ db : Database proto, db.Meets v → db.hasColumn column = true → db.Meets (v + 1))
    (hadded : ∀ (db : Database proto) (t : Frames proto), db.Meets v → db.frames = some t →
      Meets (v + 1) { db with frames := some (add t) }) :
    Prog.Triple (Resumable db₀) (At db₀ v v) (addMissingColumn name column add)
      (fun _ => At db₀ v (v + 1)) NoError := by
  apply Prog.Triple.get_bind
  rintro _ db ⟨rfl, h⟩
  split
  · next hcolumn => exact ⟨fun _ ht => absurd ht List.not_mem_nil,
      h.version, hthere _ h.meets hcolumn, h.kept⟩
  · next hcolumn =>
    obtain ⟨t, ht⟩ := Option.isSome_iff_exists.mp (h.meets.tables hv).1
    have hmissing : column t ≠ true := by
      intro hc
      apply hcolumn
      rw [hasColumn, ht]
      exact hc
    have hadd : Database.addColumn name column add db
        = (.ok (), { db with frames := some (add t) }) := by
      simp only [Database.addColumn, ht, if_neg hmissing]
    have hat : At db₀ v (v + 1) { db with frames := some (add t) } := by
      refine ⟨h.version, hadded db t h.meets ht, h.kept.setFrames ?_⟩
      rw [hrows, Database.rows, ht]
      rfl
    have hact : Prog.Triple (Resumable db₀) (· = db)
        (Prog.act (Database.addColumn name column add)) (fun _ => At db₀ v (v + 1)) NoError := by
      apply Prog.Triple.act
      rintro _ rfl
      rw [hadd]
      exact ⟨hat.compatible (Nat.le_of_lt hlt) (Nat.le_succ v), hat⟩
    exact hact db rfl

theorem migrations_triple (hv : v < schemaVersion) :
    Prog.Triple (Resumable db₀) (At db₀ v v) (migrations[v]?.getD (pure ()))
      (fun _ => At db₀ v (v + 1)) NoError := by
  have hcases : v = 0 ∨ v = 1 ∨ v = 2 := by
    unfold schemaVersion at hv
    omega
  rcases hcases with rfl | rfl | rfl
  · exact createFrames_triple.bind fun _ => createCursor_triple
  · exact addMissingColumn_triple (by decide) hv (fun _ => rfl) (fun _ h => h.attributes_there)
      fun _ t h _ => h.addAttributes t
  · exact addMissingColumn_triple (by decide) hv (fun _ => rfl) (fun _ h => h.frame_there)
      fun _ _ h ht => h.addFrame ht

theorem migrateStep_triple (hv : v < schemaVersion) :
    Prog.Triple (Resumable db₀) (At db₀ v v) (migrateStep v)
      (fun _ => At db₀ (v + 1) (v + 1)) NoError := by
  have hstamp : Prog.Triple (Resumable db₀) (At db₀ v (v + 1))
      (Prog.act (Database.stamp (v + 1))) (fun _ => At db₀ (v + 1) (v + 1)) NoError := by
    apply Prog.Triple.act
    intro db h
    have hat : At db₀ (v + 1) (v + 1) { db with userVersion := v + 1 } :=
      ⟨rfl, { h.meets with }, h.kept.rows, h.kept.cursor⟩
    exact ⟨hat.compatible hv (Nat.le_refl _), hat⟩
  exact (wrap_triple (migrations_triple hv)).bind fun _ => wrap_triple hstamp

theorem runAll_triple (k : Nat) (hk : v + k = schemaVersion) :
    Prog.Triple (Resumable db₀) (At db₀ v v)
      (Prog.runAll ((List.range' v k).map migrateStep))
      (fun _ => At db₀ schemaVersion schemaVersion) NoError := by
  induction k generalizing v with
  | zero =>
    rw [Nat.add_zero] at hk
    rw [hk]
    exact Prog.Triple.runAll_nil fun _ h => h
  | succ k ih =>
    rw [List.range'_succ, List.map_cons]
    exact Prog.Triple.runAll_cons (migrateStep_triple (by omega)) (ih (by omega))

/-- `migrate`: every state it writes can be upgraded again, and it ends at the version of the
    program with all the tables and all the data. -/
theorem migrate_triple :
    Prog.Triple (Resumable db₀) (Resumable db₀) migrate
      (fun _ => At db₀ schemaVersion schemaVersion) NoError := by
  apply Prog.Triple.get_bind
  rintro _ db ⟨rfl, ⟨hversion, hmeets⟩, hkept⟩
  have hcheck : (Prog.check (db.userVersion ≤ schemaVersion) (newerError db.userVersion) :
      Prog (Database proto) String Unit) = pure () := by
    rw [decide_eq_true hversion]
    rfl
  rw [hcheck]
  exact runAll_triple (schemaVersion - db.userVersion) (by omega) db ⟨rfl, hmeets, hkept⟩

end Steps

/-! ## Whole upgrades -/

theorem migrate_of_current (h : db.userVersion = schemaVersion) :
    migrate db = ⟨.ok (), db, []⟩ := by
  show ((Prog.check (decide (db.userVersion ≤ schemaVersion)) _ >>= _) : Prog _ _ _) db = _
  rw [h]
  rfl

theorem migrate_of_newer (h : schemaVersion < db.userVersion) :
    migrate db = ⟨.error (newerError db.userVersion), db, []⟩ := by
  show ((Prog.check (decide (db.userVersion ≤ schemaVersion)) _ >>= _) : Prog _ _ _) db = _
  rw [decide_eq_false (by omega)]
  rfl

/-- However often the upgrade is interrupted, it can be taken up again, with the same data. -/
theorem resumable_of_interrupted {db' : Database proto} (hdb : db.Compatible)
    (h : Relation.ReflTransGen Interrupted db db') : Resumable db db' := by
  induction h with
  | refl => exact ⟨hdb, Kept.refl db⟩
  | tail _ hlast ih => exact migrate_triple.trace ih hlast

/-! ## What is delivered -/

theorem lookup_unmarshal_marshal (attributes : Dict String String) (k : String) :
    (unmarshalAttributes (marshalAttributes attributes)).lookup k = attributes.lookup k := by
  have hperm := Json.sortMembers_perm (attributes.entries.map fun e => (e.1, Json.str e.2))
  have hwell : Json.WellFormed (.obj (Json.sortMembers
      (attributes.entries.map fun e => (e.1, .str e.2)))) := by
    rw [Json.wellFormed_obj]
    intro m hm
    obtain ⟨e, -, rfl⟩ := List.mem_map.mp (hperm.mem_iff.mp hm)
    exact Json.wellFormed_str e.2
  have hnodup : ((Json.sortMembers
      (attributes.entries.map fun e => (e.1, Json.str e.2))).map Prod.fst).Nodup := by
    rw [(hperm.map Prod.fst).nodup_iff, List.map_map]
    exact attributes.keys_nodup
  have hread : unmarshalAttributes (marshalAttributes attributes)
      = Dict.insertAll Prod.fst (fun member => attributeOf member.2)
          (Json.sortMembers (attributes.entries.map fun e => (e.1, .str e.2))) ∅ := by
    rw [unmarshalAttributes, marshalAttributes, String.toList_ofList, Json.readValue_text hwell]
    rfl
  rw [hread]
  cases hlookup : attributes.lookup k with
  | some v =>
    have hentry : (⟨k, v⟩ : Sigma fun _ => String) ∈ attributes.entries :=
      AList.mem_lookup_iff.mp hlookup
    exact Dict.lookup_insertAll_of_mem hnodup
      (hperm.mem_iff.mpr (List.mem_map.mpr ⟨_, hentry, rfl⟩))
  | none =>
    rw [Dict.lookup_insertAll_of_not_mem, AList.lookup_empty]
    rw [(hperm.map Prod.fst).mem_iff, List.map_map]
    exact AList.lookup_eq_none.mp hlookup

/-- The frame that a row stands for: its protobuf frame if it has one that is not empty, else
    its numeric value with its attributes. -/
structure Delivers (r : Row proto) (f : TelemetryFrame) : Prop where
  stored : r.wire ≠ [] → proto.unmarshal r.wire = some f
  fields : r.wire = [] → f.gatewayId = r.gatewayId ∧ f.pointId = r.pointId ∧
    f.timestamp = r.timestamp
  value : r.wire = [] → f.value = some (.valueNum r.value)
  noAttributes : r.wire = [] → r.attributes = none → f.attributes = ∅
  attributes : r.wire = [] → ∀ attributes, r.attributes = some (marshalAttributes attributes) →
    ∀ k, f.attributes.lookup k = attributes.lookup k

theorem marshalAttributes_ne_empty (attributes : Dict String String) :
    marshalAttributes attributes ≠ "" := by
  intro h
  have hnil := congrArg String.toList h
  rw [marshalAttributes, String.toList_ofList, Json.text] at hnil
  cases hnil

theorem Row.delivers_legacyFrame {r : Row proto} (h : r.wire = []) : Delivers r r.legacyFrame where
  stored hwire := absurd h hwire
  fields _ := ⟨rfl, rfl, rfl⟩
  value _ := rfl
  noAttributes _ hnone := by
    show (match r.attributes with
      | some text => if text ≠ "" then unmarshalAttributes text else ∅
      | none => ∅) = ∅
    rw [hnone]
  attributes _ attributes htext k := by
    show AList.lookup k (match r.attributes with
      | some text => if text ≠ "" then unmarshalAttributes text else ∅
      | none => ∅) = _
    rw [htext]
    show AList.lookup k (if marshalAttributes attributes ≠ "" then _ else _) = _
    rw [if_pos (marshalAttributes_ne_empty attributes), lookup_unmarshal_marshal]

theorem Row.read_delivers (r : Row proto) : ∃ f, r.read = .ok (r.seq, f) ∧ Delivers r f := by
  by_cases hwire : r.wire = []
  · exact ⟨r.legacyFrame, if_neg (not_not.mpr hwire), r.delivers_legacyFrame hwire⟩
  · have hsome : (proto.unmarshal r.wire).isSome := by
      cases hframe : r.frame with
      | none =>
        exfalso
        apply hwire
        rw [Row.wire, hframe]
        rfl
      | some w =>
        have hw : r.wire = w.val := by
          rw [Row.wire, hframe]
          rfl
        rw [hw]
        exact w.property
    obtain ⟨f, hf⟩ := Option.isSome_iff_exists.mp hsome
    refine ⟨f, ?_, ?_⟩
    · rw [Row.read, if_pos hwire, hf]
    · exact ⟨fun _ => hf, fun h => absurd h hwire, fun h => absurd h hwire,
        fun h => absurd h hwire, fun h => absurd h hwire⟩

def Returned (rows : List (Row proto)) (batch : List (Int × TelemetryFrame)) : Prop :=
  List.Forall₂ (fun r e => e.1 = r.seq ∧ Delivers r e.2) rows batch

theorem mapM_read_returned (rows : List (Row proto)) :
    ∃ batch, rows.mapM Row.read = .ok batch ∧ Returned rows batch := by
  induction rows with
  | nil => exact ⟨[], rfl, .nil⟩
  | cons r rows ih =>
    obtain ⟨f, hread, hdelivers⟩ := r.read_delivers
    obtain ⟨batch, hbatch, hreturned⟩ := ih
    refine ⟨(r.seq, f) :: batch, ?_, .cons ⟨rfl, hdelivers⟩ hreturned⟩
    rw [List.mapM_cons, hread, hbatch]
    rfl

theorem Database.Meets.readBatch_returned (h : db.Meets schemaVersion) (afterSeq limit : Int) :
    ∃ batch, db.readBatch afterSeq limit = .ok batch ∧
      Returned (db.select afterSeq limit) batch := by
  obtain ⟨t, ht⟩ := Option.isSome_iff_exists.mp (h.tables (by decide)).1
  have hattributes := h.attributes (by decide)
  have hframe := h.frame (by decide)
  rw [hasColumn, ht] at hattributes hframe
  obtain ⟨batch, hbatch, hreturned⟩ := mapM_read_returned (db.select afterSeq limit)
  refine ⟨batch, ?_, hreturned⟩
  change t.hasAttributes = true at hattributes
  change t.hasFrame = true at hframe
  simp only [readBatch, ht, hattributes, hframe, Bool.not_true, Bool.false_eq_true, if_false,
    hbatch]

theorem Database.select_all {afterSeq : Int} (h : ∀ r ∈ db.rows, afterSeq < r.seq) :
    db.select afterSeq (-1) = db.rows := by
  rw [select, limited, if_pos (by decide), List.filter_eq_self]
  intro r hr
  exact decide_eq_true (h r hr)

theorem Database.Kept.select_eq {db₀ : Database proto} (h : Kept db₀ db) (afterSeq limit : Int) :
    db.select afterSeq limit = db₀.select afterSeq limit := by
  rw [select, select, h.rows]

/-- However often an upgrade is interrupted, the one that completes ends at the version of the
    program with the full schema, all rows and the cursor; a second one changes nothing; and
    every row is read as the frame it stands for.  A newer database is refused and left alone. -/
theorem migrate_converges (proto : Proto) :
    (∀ db db' : Database proto, db.Compatible → Relation.ReflTransGen Interrupted db db' →
      (migrate db').result = .ok () ∧
      (migrate db').state.userVersion = schemaVersion ∧
      (migrate db').state.Meets schemaVersion ∧
      Kept db (migrate db').state ∧
      migrate (migrate db').state = ⟨.ok (), (migrate db').state, []⟩ ∧
      (∀ afterSeq limit, ∃ batch, (migrate db').state.readBatch afterSeq limit = .ok batch ∧
        Returned (db.select afterSeq limit) batch) ∧
      ∀ afterSeq, (∀ r ∈ db.rows, afterSeq < r.seq) → db.select afterSeq (-1) = db.rows) ∧
    ∀ db : Database proto, schemaVersion < db.userVersion →
      migrate db = ⟨.error (newerError db.userVersion), db, []⟩ := by
  constructor
  · intro db db' hdb hinterrupted
    have hresumable := resumable_of_interrupted hdb hinterrupted
    obtain ⟨u, hok⟩ : ∃ u, (migrate db').result = .ok u := by
      cases hr : (migrate db').result with
      | ok u => exact ⟨u, rfl⟩
      | error e => exact (migrate_triple.of_error hresumable hr).elim
    have hat := migrate_triple.of_ok hresumable hok
    refine ⟨hok, hat.version, hat.meets, hat.kept, migrate_of_current hat.version, ?_, ?_⟩
    · intro afterSeq limit
      rw [← hat.kept.select_eq]
      exact hat.meets.readBatch_returned afterSeq limit
    · intro afterSeq h
      exact select_all h
  · intro db h
    exact migrate_of_newer h

def emptyProto : Proto where
  unmarshal wire := if wire.isEmpty then some ⟨"", "", none, "", ∅⟩ else none

def plainRow : Row emptyProto :=
  ⟨7, "gw", "point", 0x4045000000000000, "2026-01-01T00:00:00Z", none, none⟩

def oneRow : Database emptyProto where
  userVersion := 1
  frames := some {
    hasAttributes := false
    hasFrame := false
    rows := [plainRow]
    sorted := List.pairwise_singleton _ _
    attributes_null := fun _ _ hr => congrArg Row.attributes (List.mem_singleton.mp hr)
    frame_null := fun _ _ hr => congrArg Row.frame (List.mem_singleton.mp hr) }
  cursor := some (some 3)

/-- The upgrade of that database ends after the first statement and is then taken up again. -/
theorem migrate_converges_oneRow :
    ∃ halfway, Interrupted oneRow halfway ∧ halfway.userVersion = 1 ∧
      (migrate halfway).state.userVersion = 3 ∧ (migrate halfway).state.rows = oneRow.rows := by
  have hcompatible : oneRow.Compatible :=
    ⟨by decide, fun _ => ⟨rfl, rfl⟩, fun h => absurd h (by decide), fun h => absurd h (by decide)⟩
  have hinterrupted :
      Interrupted oneRow { oneRow with frames := oneRow.frames.map Frames.addAttributes } :=
    List.mem_cons_self
  have hconverges := (migrate_converges _).1 _ _ hcompatible (.single hinterrupted)
  exact ⟨_, hinterrupted, rfl, hconverges.2.1, hconverges.2.2.2.1.rows⟩

end NexusGateway.StoreForward
