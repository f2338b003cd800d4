/-
The session journal: what the files satisfy at every moment (`DiskInv`), what
ties the memory of a running process to them (`ProcessInv`), and how each
write of a file keeps both.

`exact` are the sessions whose record in memory has the run clock that its
journal file has.  `activateRunSession` changes the record first, so a session
leaves `exact` when the write of its journal file then fails.
-/

import NexusGateway.ClockSync.Gateway

namespace NexusGateway.ClockSync

open Lib Lib.Prog Lib.Json PointList Provisioning StoreForward
open RunContext (Time Ledger Fault Envelope)

variable (c : Codec) (scope : Scope) (exact : String → Prop)

/-! ## Invariants -/

structure DiskInv (disk : Disk) (history : History) : Prop where
  sessions : ∀ id, (disk.sessions.lookup id).isSome →
    ∃ runClockID native entries, Journaled c.sha256 scope disk id runClockID native entries
  receipts : ∀ id, (disk.verified.lookup id).isSome → (disk.sessions.lookup id).isSome
  active : ∀ id, disk.active = some id → (disk.verified.lookup id).isSome
  issued : ∀ id, (disk.native.lookup id).isSome ∨ (disk.sessions.lookup id).isSome →
    id ∈ history.issued
  /-- a session whose `create` returned is journaled with its snapshot -/
  created : ∀ s ∈ history.created, ∃ runClockID,
    Journaled c.sha256 scope disk s.1 runClockID s.2.native s.2.entries
  written : ∀ id, id ∈ history.receipts ↔ (disk.verified.lookup id).isSome
  commits : disk.active = history.commits.getLast?
  origins : ∀ id ∈ history.commits, ∃ snapshot, (id, snapshot) ∈ history.created

/-- A record in memory: it is journaled with its snapshot, under its run clock if it is
    exact, and it has a receipt if it is verified. -/
structure RecordInv (disk : Disk) (id : String) (r : SessionRecord) : Prop where
  session : r.session = id
  staged : stageClock c.sha256 r.raw scope = .ok r.snapshot
  hash : r.nativeHash = c.sha256 r.snapshot.native.marshal
  journaled : ∃ runClockID,
    Journaled c.sha256 scope disk id runClockID r.snapshot.native r.snapshot.entries ∧
      (exact id → runClockID = r.runClockID)
  receipt : r.verified = true → (disk.verified.lookup id).isSome

/-- The producer's session: it has a record, the run clock is in its snapshot, and it has
    a receipt once it is verified. -/
structure ProducerInv (disk : Disk) (p : Process) (id : String) : Prop where
  known : (p.records.lookup id).isSome
  clock : ∀ b r, p.run = some b → p.records.lookup id = some r →
    ∃ k ∈ r.snapshot.native.clocks, k.clockID = b.clockID
  receipt : p.stage ≠ .created → (disk.verified.lookup id).isSome

structure ProcessInv (disk : Disk) (p : Process) : Prop where
  records : ∀ id r, p.records.lookup id = some r → RecordInv c scope exact disk id r
  producer : ∀ id, p.record = some id → ProducerInv disk p id

structure GatewayInv (g : Gateway) : Prop where
  disk : DiskInv c scope g.disk g.history
  process : ProcessInv c scope exact g.disk g.process
  origin : ∀ id, g.process.record = some id → ∃ snapshot, (id, snapshot) ∈ g.history.created

/-! ## Writes -/

/-- The write keeps every receipt and every journaled session; only a session that is
    rebound, and has no run clock, gets one. -/
structure Keeps (rebound : String → Prop) (disk disk' : Disk) : Prop where
  journaled : ∀ {id runClockID native entries},
    Journaled c.sha256 scope disk id runClockID native entries →
    ∃ runClockID', Journaled c.sha256 scope disk' id runClockID' native entries ∧
      (runClockID' = runClockID ∨ runClockID = "" ∧ rebound id)
  receipts : ∀ {id}, (disk.verified.lookup id).isSome → (disk'.verified.lookup id).isSome

variable {c scope exact} {rebound : String → Prop}

theorem Keeps.refl (disk : Disk) : Keeps c scope rebound disk disk where
  journaled hj := ⟨_, hj, .inl rfl⟩
  receipts h := h

theorem Keeps.trans {disk₁ disk₂ disk₃ : Disk} (h : Keeps c scope rebound disk₁ disk₂)
    (h' : Keeps c scope rebound disk₂ disk₃) : Keeps c scope rebound disk₁ disk₃ where
  journaled {id runClockID native entries} hj := by
    obtain ⟨runClockID₂, hj₂, hrebound₂⟩ := h.journaled hj
    obtain ⟨runClockID₃, hj₃, hrebound₃⟩ := h'.journaled hj₂
    refine ⟨runClockID₃, hj₃, ?_⟩
    rcases hrebound₂ with rfl | hnew
    · exact hrebound₃
    · exact .inr hnew
  receipts hsome := h'.receipts (h.receipts hsome)

theorem Keeps.mono {rebound' : String → Prop} {disk disk' : Disk}
    (h : Keeps c scope rebound disk disk') (hle : ∀ id, rebound id → rebound' id) :
    Keeps c scope rebound' disk disk' where
  journaled hj := by
    obtain ⟨runClockID', hj', hrebound⟩ := h.journaled hj
    exact ⟨runClockID', hj', hrebound.imp_right fun hnew => ⟨hnew.1, hle _ hnew.2⟩⟩
  receipts := h.receipts

theorem Journaled.isSome {sha256 : List Char → String} {disk : Disk} {id runClockID : String}
    {native : NativeClockConfig} {entries : List Entry}
    (h : Journaled sha256 scope disk id runClockID native entries) :
    (disk.sessions.lookup id).isSome := by
  obtain ⟨document, -, hfile, -⟩ := h.journal
  rw [hfile]
  rfl

theorem Journaled.ne_of_none {sha256 : List Char → String} {disk : Disk}
    {id id' runClockID : String} {native : NativeClockConfig} {entries : List Entry}
    (h : Journaled sha256 scope disk id' runClockID native entries)
    (hnone : disk.sessions.lookup id = none) : id' ≠ id := by
  rintro rfl
  have hsome := h.isSome
  rw [hnone] at hsome
  cases hsome

theorem ProcessInv.keeps {disk disk' : Disk} {p : Process} (h : ProcessInv c scope exact disk p)
    (hk : Keeps c scope (fun id => ¬ exact id) disk disk') : ProcessInv c scope exact disk' p where
  records id r hr := by
    obtain ⟨hsession, hstaged, hhash, ⟨runClockID, hj, hexact⟩, hreceipt⟩ := h.records id r hr
    obtain ⟨runClockID', hj', hrebound⟩ := hk.journaled hj
    refine ⟨hsession, hstaged, hhash, ⟨runClockID', hj', fun hid => ?_⟩, fun hverified => ?_⟩
    · rcases hrebound with heq | hnew
      · rw [heq, hexact hid]
      · exact absurd hid hnew.2
    · exact hk.receipts (hreceipt hverified)
  producer id hid := by
    obtain ⟨hknown, hclock, hreceipt⟩ := h.producer id hid
    exact ⟨hknown, hclock, fun hstage => hk.receipts (hreceipt hstage)⟩

section Writes

variable {disk : Disk} {history : History} {id : String}

theorem keeps_native (hnone : disk.sessions.lookup id = none) (file : List Char) :
    Keeps c scope rebound disk { disk with native := disk.native.insert id file } where
  journaled {id' runClockID native entries} hj := by
    have hne : id' ≠ id := hj.ne_of_none hnone
    exact ⟨runClockID, hj.congr rfl (AList.lookup_insert_ne hne) rfl (fun h => h), .inl rfl⟩
  receipts h := h

theorem keeps_session (hnone : disk.sessions.lookup id = none) (file : List Char) :
    Keeps c scope rebound disk { disk with sessions := disk.sessions.insert id file } where
  journaled {id' runClockID native entries} hj := by
    have hne : id' ≠ id := hj.ne_of_none hnone
    exact ⟨runClockID, hj.congr (AList.lookup_insert_ne hne) rfl rfl (fun h => h), .inl rfl⟩
  receipts h := h

theorem keeps_receipt {native : NativeClockConfig}
    (hbundle : disk.native.lookup id = some native.marshal) :
    Keeps c scope rebound disk
      { disk with verified := disk.verified.insert id (c.sha256 native.marshal) } where
  journaled {id' runClockID native' entries} hj := by
    refine ⟨runClockID, ⟨hj.pattern, hj.journal, hj.bundle, hj.clock, hj.archive, ?_⟩, .inl rfl⟩
    intro proof hproof
    rw [Dict.lookup_insert_ite] at hproof
    split_ifs at hproof with heq
    · have hsame := hj.bundle
      rw [heq, hbundle] at hsame
      rw [← Option.some.inj hproof, Option.some.inj hsame]
    · exact hj.receipt proof hproof
  receipts {id'} h := by
    rw [Dict.lookup_insert_ite]
    split_ifs with heq
    · rfl
    · exact h

theorem keeps_archive (value : Option RunContext.State) :
    Keeps c scope rebound disk { disk with runContext := disk.runContext.insert id value } where
  journaled {id' runClockID native entries} hj := by
    refine ⟨runClockID, hj.congr rfl rfl rfl fun h => ?_, .inl rfl⟩
    rw [Dict.lookup_insert_ite]
    split_ifs with heq
    · rfl
    · exact h
  receipts h := h

theorem Journaled.unique {runClockID runClockID' : String} {native native' : NativeClockConfig}
    {entries entries' : List Entry}
    (h : Journaled c.sha256 scope disk id runClockID native entries)
    (h' : Journaled c.sha256 scope disk id runClockID' native' entries') :
    runClockID = runClockID' ∧ native = native' ∧ entries = entries' := by
  obtain ⟨file, raw, hfile, -, hopen⟩ := h.openSession_eq
  obtain ⟨file', raw', hfile', -, hopen'⟩ := h'.openSession_eq
  rw [hfile] at hfile'
  rw [← Option.some.inj hfile', hopen, Except.ok.injEq] at hopen'
  simp only [SessionRecord.mk.injEq, ClockSnapshot.mk.injEq] at hopen'
  exact ⟨hopen'.1, hopen'.2.2.2.1.2.1, hopen'.2.2.2.1.2.2⟩

theorem journaled_rebind {runClockID clockID : String} {native : NativeClockConfig}
    {entries : List Entry} {document : Json}
    (hj : Journaled c.sha256 scope disk id runClockID native entries) (hwf : WellFormed document)
    (hstage : stageClockSnapshot c.sha256 (utf8 (text true document)) scope = .ok (native, entries))
    (hclock : ∃ k ∈ native.clocks, k.clockID = clockID)
    (harchive : (disk.runContext.lookup id).isSome) :
    Journaled c.sha256 scope { disk with
      sessions := disk.sessions.insert id (text true (recordJson clockID id document)) }
      id clockID native entries where
  pattern := hj.pattern
  journal := ⟨document, hwf, AList.lookup_insert _, hstage⟩
  bundle := hj.bundle
  clock := fun _ => hclock
  archive := fun _ => harchive
  receipt := hj.receipt

theorem keeps_rebind {clockID : String} {native : NativeClockConfig} {entries : List Entry}
    {document : Json} (hj : Journaled c.sha256 scope disk id "" native entries)
    (hwf : WellFormed document)
    (hstage : stageClockSnapshot c.sha256 (utf8 (text true document)) scope = .ok (native, entries))
    (hclock : ∃ k ∈ native.clocks, k.clockID = clockID)
    (harchive : (disk.runContext.lookup id).isSome) :
    Keeps c scope (· = id) disk { disk with
      sessions := disk.sessions.insert id (text true (recordJson clockID id document)) } where
  journaled {id' runClockID native' entries'} hj' := by
    by_cases heq : id' = id
    · rw [heq] at hj' ⊢
      obtain ⟨hempty, hnative, hentries⟩ := hj.unique hj'
      rw [← hnative, ← hentries]
      exact ⟨clockID, journaled_rebind hj hwf hstage hclock harchive, .inr ⟨hempty.symm, rfl⟩⟩
    · exact ⟨runClockID, hj'.congr (AList.lookup_insert_ne heq) rfl rfl (fun h => h), .inl rfl⟩
  receipts h := h

theorem DiskInv.keeps {disk' : Disk} (h : DiskInv c scope disk history)
    (hk : Keeps c scope rebound disk disk')
    (hnew : ∀ i, (disk'.sessions.lookup i).isSome → (disk.sessions.lookup i).isSome ∨
      ∃ runClockID native entries, Journaled c.sha256 scope disk' i runClockID native entries)
    (hissued : ∀ i, (disk'.native.lookup i).isSome ∨ (disk'.sessions.lookup i).isSome →
      i ∈ history.issued)
    (hverified : disk'.verified = disk.verified) (hactive : disk'.active = disk.active) :
    DiskInv c scope disk' history where
  sessions i hi := by
    rcases hnew i hi with hold | hj
    · obtain ⟨runClockID, native, entries, hj⟩ := h.sessions i hold
      obtain ⟨runClockID', hj', -⟩ := hk.journaled hj
      exact ⟨runClockID', native, entries, hj'⟩
    · exact hj
  receipts i hi := by
    rw [hverified] at hi
    obtain ⟨runClockID, native, entries, hj⟩ := h.sessions i (h.receipts i hi)
    obtain ⟨runClockID', hj', -⟩ := hk.journaled hj
    exact hj'.isSome
  active i hi := by
    rw [hverified]
    rw [hactive] at hi
    exact h.active i hi
  issued := hissued
  created s hs := by
    obtain ⟨runClockID, hj⟩ := h.created s hs
    obtain ⟨runClockID', hj', -⟩ := hk.journaled hj
    exact ⟨runClockID', hj'⟩
  written i := by
    rw [hverified]
    exact h.written i
  commits := by
    rw [hactive]
    exact h.commits
  origins := h.origins

theorem DiskInv.issue (h : DiskInv c scope disk history) (id : String) :
    DiskInv c scope disk { history with issued := id :: history.issued } where
  sessions := h.sessions
  receipts := h.receipts
  active := h.active
  issued i hi := List.mem_cons_of_mem _ (h.issued i hi)
  created := h.created
  written := h.written
  commits := h.commits
  origins := h.origins

theorem DiskInv.native (h : DiskInv c scope disk history) (hid : id ∈ history.issued)
    (hnone : disk.sessions.lookup id = none) (file : List Char) :
    DiskInv c scope { disk with native := disk.native.insert id file } history := by
  have hk : Keeps c scope (fun _ => False) disk _ := keeps_native hnone file
  refine h.keeps hk (fun i hi => .inl hi) (fun i hi => ?_) rfl rfl
  rw [Dict.lookup_insert_ite] at hi
  split_ifs at hi with heq
  · rw [heq]
    exact hid
  · exact h.issued i hi

theorem DiskInv.session (h : DiskInv c scope disk history) (hid : id ∈ history.issued)
    (hnone : disk.sessions.lookup id = none) {file : List Char} {runClockID : String}
    {native : NativeClockConfig} {entries : List Entry}
    (hj : Journaled c.sha256 scope { disk with sessions := disk.sessions.insert id file } id
      runClockID native entries) :
    DiskInv c scope { disk with sessions := disk.sessions.insert id file } history := by
  have hk : Keeps c scope (fun _ => False) disk _ := keeps_session hnone file
  refine h.keeps hk (fun i hi => ?_) (fun i hi => ?_) rfl rfl
  · rw [Dict.lookup_insert_ite] at hi
    split_ifs at hi with heq
    · rw [heq]
      exact .inr ⟨runClockID, native, entries, hj⟩
    · exact .inl hi
  · rw [Dict.lookup_insert_ite] at hi
    split_ifs at hi with heq
    · rw [heq]
      exact hid
    · exact h.issued i hi

theorem DiskInv.rebind {disk' : Disk} (h : DiskInv c scope disk history)
    (hk : Keeps c scope rebound disk disk') (hnative : disk'.native = disk.native)
    (hsessions : ∀ i, (disk'.sessions.lookup i).isSome → (disk.sessions.lookup i).isSome)
    (hverified : disk'.verified = disk.verified) (hactive : disk'.active = disk.active) :
    DiskInv c scope disk' history := by
  refine h.keeps hk (fun i hi => .inl (hsessions i hi)) (fun i hi => ?_) hverified hactive
  rw [hnative] at hi
  exact h.issued i (hi.imp_right (hsessions i))

theorem DiskInv.create (h : DiskInv c scope disk history) {snapshot : ClockSnapshot}
    {runClockID : String}
    (hj : Journaled c.sha256 scope disk id runClockID snapshot.native snapshot.entries) :
    DiskInv c scope disk { history with created := (id, snapshot) :: history.created } where
  sessions := h.sessions
  receipts := h.receipts
  active := h.active
  issued := h.issued
  created s hs := by
    rcases List.mem_cons.mp hs with rfl | hs
    · exact ⟨runClockID, hj⟩
    · exact h.created s hs
  written := h.written
  commits := h.commits
  origins i hi := by
    obtain ⟨snapshot, hs⟩ := h.origins i hi
    exact ⟨snapshot, List.mem_cons_of_mem _ hs⟩

theorem DiskInv.receipt (h : DiskInv c scope disk history) {runClockID : String}
    {native : NativeClockConfig} {entries : List Entry}
    (hj : Journaled c.sha256 scope disk id runClockID native entries) :
    DiskInv c scope
      { disk with verified := disk.verified.insert id (c.sha256 native.marshal) }
      { history with receipts := id :: history.receipts } := by
  have hk : Keeps c scope (fun _ => False) disk
      { disk with verified := disk.verified.insert id (c.sha256 native.marshal) } :=
    keeps_receipt hj.bundle
  refine ⟨fun i hi => ?_, fun i hi => ?_, fun i hi => hk.receipts (h.active i hi), h.issued,
    fun s hs => ?_, fun i => ?_, h.commits, h.origins⟩
  · obtain ⟨runClockID, native', entries', hj'⟩ := h.sessions i hi
    obtain ⟨runClockID', hj', -⟩ := hk.journaled hj'
    exact ⟨runClockID', native', entries', hj'⟩
  · rw [Dict.lookup_insert_ite] at hi
    split_ifs at hi with heq
    · rw [heq]
      exact hj.isSome
    · exact h.receipts i hi
  · obtain ⟨runClockID, hj'⟩ := h.created s hs
    obtain ⟨runClockID', hj', -⟩ := hk.journaled hj'
    exact ⟨runClockID', hj'⟩
  · rw [Dict.lookup_insert_ite, List.mem_cons]
    split_ifs with heq
    · exact ⟨fun _ => rfl, fun _ => .inl heq⟩
    · rw [← h.written i]
      exact ⟨fun hi => hi.resolve_left heq, .inr⟩

theorem DiskInv.commit (h : DiskInv c scope disk history)
    (hreceipt : (disk.verified.lookup id).isSome)
    (horigin : ∃ snapshot, (id, snapshot) ∈ history.created) :
    DiskInv c scope { disk with active := some id }
      { history with commits := history.commits ++ [id] } where
  sessions i hi := by
    obtain ⟨runClockID, native, entries, hj⟩ := h.sessions i hi
    exact ⟨runClockID, native, entries, hj.congr rfl rfl rfl (fun h => h)⟩
  receipts := h.receipts
  active i hi := by
    rw [← Option.some.inj hi]
    exact hreceipt
  issued := h.issued
  created s hs := by
    obtain ⟨runClockID, hj⟩ := h.created s hs
    exact ⟨runClockID, hj.congr rfl rfl rfl (fun h => h)⟩
  written := h.written
  commits := by
    rw [List.getLast?_concat]
  origins i hi := by
    rcases List.mem_append.mp hi with hold | hnew
    · exact h.origins i hold
    · rw [List.mem_singleton.mp hnew]
      exact horigin

end Writes

end NexusGateway.ClockSync
