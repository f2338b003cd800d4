/-
The spec a managed BACnet producer is configured with
(`managedConnector.Configure` in `internal/clocksync/connector.go`,
`ConnectorNATSAuthFile` in `internal/clocksync/nats.go`), and the environment
its container then gets.

`Configure` drops the entries it sets itself by their whole key, and
`createWithLabels` looks at how an entry begins.  An entry such as
`CONNECTOR_ID_SUFFIX=1` passes the first and stops the second from binding
`CONNECTOR_ID`.
-/

import NexusGateway.ClockSync.Sessions
import NexusGateway.Lifecycle.Bindings

namespace NexusGateway.ClockSync

open Lib Lifecycle Provisioning

/-! ## The producer's own NATS settings -/

/-- The `NATS_` entries by their key; each may be set once, to something, and no other
    such key is known. -/
def natsValues : List String → Dict String String → Except String (Dict String String)
  | [], values => .ok values
  | e :: env, values =>
    match Url.cut '=' e.toList with
    | (key, value) =>
      if !"NATS_".toList.isPrefixOf key then natsValues env values
      else
        let name := String.ofList key
        if value = none ∨ (name ≠ "NATS_URL" ∧ name ≠ "NATS_AUTH_FILE") ∨
            (values.lookup name).getD "" ≠ "" ∨ value = some [] then
          .error ("managed NATS requires unique NATS_URL and NATS_AUTH_FILE, " ++
            "without inline authentication")
        else natsValues env (values.insert name (String.ofList (value.getD [])))

def plainServer (address : List Char) : Bool :=
  match Url.parse (trimSpace address) with
  | none => false
  | some u =>
    u.hostname != [] && u.user.isNone && u.rawQuery == [] && u.fragment == [] &&
      ["nats", "tls", "ws", "wss"].contains (String.ofList u.scheme)

/-- `ConnectorNATSAuthFile`; `isRegular` is what `os.Stat` says about a path. -/
def connectorNATSAuthFile (isRegular : String → Bool) (spec : ConnectorSpec) :
    Except String String := do
  let values ← natsValues spec.env ∅
  let url := (values.lookup "NATS_URL").getD ""
  let path := (values.lookup "NATS_AUTH_FILE").getD ""
  if url = "" then
    throw "managed connector requires its own NATS_URL"
  if !(url.toList.splitOn ',').all plainServer then
    throw "managed NATS_URL requires explicit server URLs without authentication, query or fragment"
  if path.toList.head? ≠ some '/' ∨ path.toList.any ":\r\n".toList.contains then
    throw "managed connector requires an absolute NATS_AUTH_FILE path"
  if !isRegular path then
    throw "managed NATS_AUTH_FILE must be an existing regular file"
  return path

/-! ## Configure -/

/-- `managedConnector`: the base spec, the directory of the session store, and the
    prepared record. -/
structure ManagedConnector where
  base : ConnectorSpec
  dir : String
  record : Option SessionRecord := none

def reservedKeys : List String :=
  ["BACNET_POINTS", "BACNET_CLOCK_CONFIG_FILE", "BACNET_MANAGED_SESSION", "BACNET_COV_ENABLED",
    "BACNET_DEVICE_ID", "CONNECTOR_ID"]

/-- `filepath.Join` of clean elements. -/
def joinPath (elems : List String) : String := "/".intercalate elems

def sessionEntries (dir session : String) (deviceID : Int) : List String :=
  [entry "BACNET_CLOCK_CONFIG_FILE" (joinPath [dir, "native", session ++ ".json"]),
    entry "BACNET_MANAGED_SESSION" session, entry "BACNET_COV_ENABLED" "false",
    entry "BACNET_DEVICE_ID" (toString deviceID)]

/-- `Configure`: the spec that is handed to the owner of the container. -/
def ManagedConnector.configure (isRegular : String → Bool) (d : ManagedConnector)
    (cfg : NativeClockConfig) : Except String ConnectorSpec :=
  match d.record with
  | none => .error "missing prepared snapshot"
  | some record =>
    if cfg.revision ≠ record.snapshot.revision then .error "missing prepared snapshot"
    else do
      let authFile ← connectorNATSAuthFile isRegular d.base
      return { d.base with
        env := d.base.env.filter (fun e => !reservedKeys.contains (entryKey e)) ++
          sessionEntries d.dir record.session cfg.deviceID
        permissions := { d.base.permissions with
          mounts := d.base.permissions.mounts ++ [joinPath [d.dir, "native"], authFile] } }

/-! ## What a configured spec has -/

theorem hasKey_of_natsValues {env : List String} {values values' : Dict String String}
    (h : natsValues env values = .ok values') {key : String}
    (hkey : (values'.lookup key).getD "" ≠ "") :
    HasKey env key ∨ (values.lookup key).getD "" ≠ "" := by
  induction env generalizing values with
  | nil =>
    cases h
    exact Or.inr hkey
  | cons e env ih =>
    have hmore : ∀ {k : String}, HasKey env k → HasKey (e :: env) k :=
      fun ⟨e', he', hk⟩ => ⟨e', List.mem_cons_of_mem _ he', hk⟩
    simp only [natsValues] at h
    split at h
    · exact (ih h).imp_left hmore
    · split at h
      · cases h
      · rcases ih h with hlater | hbefore
        · exact Or.inl (hmore hlater)
        · -- the entry itself set the key, or it was set before
          by_cases hsame : entryKey e = key
          · exact Or.inl ⟨e, List.mem_cons_self .., hsame⟩
          · refine Or.inr ?_
            rw [Dict.lookup_insert_ite] at hbefore
            have hne : ¬ key = String.ofList (Url.cut '=' e.toList).1 :=
              fun heq => hsame heq.symm
            rwa [if_neg hne] at hbefore

variable {isRegular : String → Bool} {spec : ConnectorSpec}

theorem hasKey_of_connectorNATSAuthFile {path : String}
    (h : connectorNATSAuthFile isRegular spec = .ok path) : HasKey spec.env "NATS_URL" := by
  unfold connectorNATSAuthFile at h
  cases hvalues : natsValues spec.env ∅ with
  | error err =>
    rw [hvalues] at h
    cases h
  | ok values =>
    rw [hvalues] at h
    have hurl : (values.lookup "NATS_URL").getD "" ≠ "" := by
      intro hempty
      simp [hempty, bind, Except.bind, throw, throwThe, MonadExceptOf.throw] at h
    rcases hasKey_of_natsValues hvalues hurl with hkey | hbefore
    · exact hkey
    · simp at hbefore

theorem begun_sessionEntries (dir session : String) (deviceID : Int) :
    begun (sessionEntries dir session deviceID) "CONNECTOR_ID" = false := by
  have hno : ∀ {key value : String}, key.toList.head? = some 'B' →
      "CONNECTOR_ID".toList.isPrefixOf (entry key value).toList = false := by
    intro key value hhead
    obtain ⟨rest, hkey⟩ := List.head?_eq_some_iff.mp hhead
    have hlist : (entry key value).toList = 'B' :: (rest ++ '=' :: value.toList) := by
      simp [entry, hkey]
    rw [hlist]
    rfl
  simp only [begun, sessionEntries, List.any_cons, List.any_nil, Bool.or_false,
    Bool.or_eq_false_iff]
  exact ⟨hno (by decide), hno (by decide), hno (by decide), hno (by decide)⟩

theorem configure_eq_ok {d : ManagedConnector} {cfg : NativeClockConfig}
    (h : d.configure isRegular cfg = .ok spec) :
    spec.id = d.base.id ∧ HasKey d.base.env "NATS_URL" ∧
      ∃ session, spec.env = d.base.env.filter (fun e => !reservedKeys.contains (entryKey e)) ++
        sessionEntries d.dir session cfg.deviceID := by
  unfold ManagedConnector.configure at h
  split at h
  · cases h
  · next record hrecord =>
    split at h
    · cases h
    · cases hauth : connectorNATSAuthFile isRegular d.base with
      | error err =>
        rw [hauth] at h
        cases h
      | ok path =>
        rw [hauth] at h
        cases h
        exact ⟨rfl, hasKey_of_connectorNATSAuthFile hauth, record.session, rfl⟩

/-- An entry of the base spec that begins with `CONNECTOR_ID` and has another key. -/
def Disguised (env : List String) : Prop :=
  ∃ e ∈ env, "CONNECTOR_ID".toList.isPrefixOf e.toList = true ∧ entryKey e ≠ "CONNECTOR_ID"

theorem head?_of_isPrefixOf {a l : List Char} {c : Char} (h : a.isPrefixOf l = true)
    (hc : a.head? = some c) : l.head? = some c := by
  obtain ⟨rest, rfl⟩ := List.isPrefixOf_iff_prefix.mp h
  rw [List.head?_append, hc, Option.some_or]

theorem begun_kept_iff (env : List String) :
    begun (env.filter (fun e => !reservedKeys.contains (entryKey e))) "CONNECTOR_ID" = true ↔
      Disguised env := by
  rw [begun, List.any_eq_true]
  constructor
  · rintro ⟨e, he, hbegin⟩
    obtain ⟨hmem, hfree⟩ := List.mem_filter.mp he
    refine ⟨e, hmem, hbegin, ?_⟩
    intro hkey
    rw [hkey] at hfree
    revert hfree
    decide
  · rintro ⟨e, hmem, hbegin, hkey⟩
    refine ⟨e, List.mem_filter.mpr ⟨hmem, ?_⟩, hbegin⟩
    -- every other reserved key begins with another letter
    rw [Bool.not_eq_true', Bool.eq_false_iff, ne_eq, List.contains_iff_mem]
    intro hreserved
    have hother : reservedKeys.all (fun key =>
        key = "CONNECTOR_ID" ∨ key.toList.head? = some 'B') = true := by decide
    have hhead := List.all_eq_true.mp hother _ hreserved
    rw [decide_eq_true_eq, or_iff_right hkey] at hhead
    have hfirst := head?_of_isPrefixOf (isPrefixOf_of_entryKey rfl) hhead
    rw [head?_of_isPrefixOf hbegin (by decide : _ = some 'C')] at hfirst
    revert hfirst
    decide

def entriesOf (env : List String) (key : String) : List String :=
  env.filter fun e => entryKey e = key

/-- A configured spec keeps the producer's own server and no `CONNECTOR_ID`. -/
theorem configured_keys {d : ManagedConnector} {cfg : NativeClockConfig}
    (h : d.configure isRegular cfg = .ok spec) :
    HasKey spec.env "NATS_URL" ∧ entriesOf spec.env "CONNECTOR_ID" = [] ∧
      (begun spec.env "CONNECTOR_ID" = true ↔ Disguised d.base.env) := by
  obtain ⟨-, ⟨e, he, hkey⟩, session, henv⟩ := configure_eq_ok h
  refine ⟨⟨e, ?_, hkey⟩, ?_, ?_⟩
  · rw [henv]
    refine List.mem_append_left _ (List.mem_filter.mpr ⟨he, ?_⟩)
    rw [hkey]
    decide
  · rw [entriesOf, henv, List.filter_append, List.append_eq_nil_iff]
    constructor
    · rw [List.filter_filter, List.filter_eq_nil_iff]
      intro e' _ hboth
      rw [Bool.and_eq_true, decide_eq_true_eq] at hboth
      obtain ⟨hid, hfree⟩ := hboth
      rw [hid] at hfree
      revert hfree
      decide
    · rw [List.filter_eq_nil_iff]
      intro e' he' hid
      have hbegin := begun_of_hasKey ⟨e', he', of_decide_eq_true hid⟩
      rw [begun_sessionEntries] at hbegin
      cases hbegin
  · rw [henv, begun_append, begun_sessionEntries, Bool.or_false, begun_kept_iff]

/-- **Runtime bindings.**  A container gets its bindings — every entry of the spec,
    an entry of key `NATS_URL` and one of key `CONNECTOR_ID`, added with the
    manager's URL and the connector's id where the spec has none — if and only if
    no entry begins with one of the two names without having its key while no other
    entry has it.  For a spec that `Configure` made, the manager's URL is never
    added, and there is exactly one entry of key `CONNECTOR_ID`, with the
    connector's id, if and only if the base spec has no entry that begins with
    `CONNECTOR_ID` under another key. -/
theorem runtime_bindings_iff (cfg : ManagerConfig) (hurl : cfg.natsURL ≠ "") :
    (∀ spec : ConnectorSpec, Bound cfg spec ↔
        ¬ Shadowed spec.env "NATS_URL" ∧ ¬ Shadowed spec.env "CONNECTOR_ID") ∧
      ∀ (isRegular : String → Bool) (d : ManagedConnector) (native : NativeClockConfig)
        (spec : ConnectorSpec), d.configure isRegular native = .ok spec →
        (∃ added, Host.containerEnv cfg spec = spec.env ++ added ∧
            ¬ HasKey added "NATS_URL") ∧
          (entriesOf (Host.containerEnv cfg spec) "CONNECTOR_ID"
              = [entry "CONNECTOR_ID" d.base.id] ↔ ¬ Disguised d.base.env) := by
  refine ⟨bound_iff_not_shadowed hurl, ?_⟩
  intro isRegular d native spec hconfigured
  obtain ⟨hid, -⟩ := configure_eq_ok hconfigured
  obtain ⟨hnats, hnone, hbegun⟩ := configured_keys hconfigured
  have hadded : binding spec.env "NATS_URL" cfg.natsURL = [] := if_pos (begun_of_hasKey hnats)
  have henv := containerEnv_eq cfg hurl spec
  rw [hadded, List.nil_append] at henv
  have hentries : entriesOf (Host.containerEnv cfg spec) "CONNECTOR_ID"
      = entriesOf (binding spec.env "CONNECTOR_ID" spec.id) "CONNECTOR_ID" := by
    rw [henv, entriesOf, List.filter_append]
    show entriesOf spec.env _ ++ _ = _
    rw [hnone, List.nil_append]
    rfl
  refine ⟨⟨_, henv, ?_⟩, ?_⟩
  · rw [hasKey_binding (by decide)]
    rintro ⟨-, hkey⟩
    revert hkey
    decide
  · rw [hentries, ← hbegun, hid]
    unfold binding
    by_cases hb : begun spec.env "CONNECTOR_ID" = true
    · rw [if_pos hb]
      exact iff_of_false (List.cons_ne_nil _ _).symm (fun h => h hb)
    · rw [if_neg hb]
      refine iff_of_true ?_ hb
      rw [entriesOf, List.filter_cons, entryKey_entry (by decide), if_pos (by decide),
        List.filter_nil]

def disguisedProducer (extra : List String) : ManagedConnector where
  base := { id := "bacnet", image := "bacnet:1"
            env := ["NATS_URL=nats://own:4222", "NATS_AUTH_FILE=/run/auth"] ++ extra }
  dir := "/data"
  record := some
    { session := "s", raw := [], nativeHash := ""
      snapshot := { raw := [], native := ⟨"r1", "bacnet", 7, [], []⟩, entries := [] } }

/-- A plain environment, and a plain producer. -/
theorem runtime_bindings_plain :
    Bound { natsURL := "nats://n:4222" } { id := "c", image := "i", env := ["NATS_URL=nats://o"] } ∧
      ∃ spec, (disguisedProducer ["MODE=x"]).configure (fun _ => true) ⟨"r1", "bacnet", 7, [], []⟩
          = .ok spec ∧
        entriesOf (Host.containerEnv { natsURL := "nats://n:4222" } spec) "CONNECTOR_ID"
          = ["CONNECTOR_ID=bacnet"] := by
  obtain ⟨hbound, hconfigured⟩ := runtime_bindings_iff { natsURL := "nats://n:4222" } (by decide)
  have hok : ((disguisedProducer ["MODE=x"]).configure (fun _ => true)
      ⟨"r1", "bacnet", 7, [], []⟩).toOption.isSome = true := by decide +kernel
  have hnone : ¬ Disguised (disguisedProducer ["MODE=x"]).base.env := by
    rintro ⟨e, he, hbegin, -⟩
    have hall : (disguisedProducer ["MODE=x"]).base.env.all (fun e =>
        !"CONNECTOR_ID".toList.isPrefixOf e.toList) = true := by decide
    have hnot := List.all_eq_true.mp hall e he
    rw [hbegin] at hnot
    cases hnot
  refine ⟨(hbound _).mpr (by decide), ?_⟩
  cases hspec : (disguisedProducer ["MODE=x"]).configure (fun _ => true)
      ⟨"r1", "bacnet", 7, [], []⟩ with
  | error err =>
    rw [hspec] at hok
    cases hok
  | ok spec => exact ⟨spec, rfl, (hconfigured _ _ _ spec hspec).2.mpr hnone⟩

/-- Entries whose keys only start with the names: the container gets neither binding,
    and a configured producer gets no `CONNECTOR_ID`. -/
theorem runtime_bindings_shadowed :
    Host.containerEnv { natsURL := "nats://n:4222" }
        { id := "c", image := "i", env := ["NATS_URL_BACKUP=nats://b", "CONNECTOR_ID_SUFFIX=1"] }
      = ["NATS_URL_BACKUP=nats://b", "CONNECTOR_ID_SUFFIX=1"] ∧
      ¬ Bound { natsURL := "nats://n:4222" }
        { id := "c", image := "i", env := ["NATS_URL_BACKUP=nats://b", "CONNECTOR_ID_SUFFIX=1"] } ∧
      ((disguisedProducer ["CONNECTOR_ID_SUFFIX=1"]).configure (fun _ => true)
          ⟨"r1", "bacnet", 7, [], []⟩).toOption.map (fun spec =>
        entriesOf (Host.containerEnv { natsURL := "nats://n:4222" } spec) "CONNECTOR_ID")
          = some [] := by
  refine ⟨by decide, ?_, by decide +kernel⟩
  intro h
  have hkey := h.nats
  revert hkey
  decide

end NexusGateway.ClockSync
