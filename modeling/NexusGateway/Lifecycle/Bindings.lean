/-
The environment a connector container is created with
(`createWithLabels` in `internal/lifecycle/manager.go`): the entries of the
spec, and `NATS_URL` and `CONNECTOR_ID` unless they are already there.

Whether a binding is there is decided by how an entry begins, not by its key:
an entry whose key merely starts with the name counts.  `Shadowed` is the
environment in which that makes a difference, and the container gets its
bindings exactly when neither name is shadowed.
-/

import NexusGateway.Lib.Url
import NexusGateway.Lifecycle.Manager

namespace NexusGateway.Lifecycle

open Lib

/-! ## Entries and their keys -/

/-- The key of a `KEY=VALUE` entry: what stands before the first `=`. -/
def entryKey (e : String) : String := String.ofList (Url.cut '=' e.toList).1

def HasKey (env : List String) (key : String) : Prop := ∃ e ∈ env, entryKey e = key

instance (env : List String) (key : String) : Decidable (HasKey env key) :=
  inferInstanceAs (Decidable (∃ e ∈ env, entryKey e = key))

def begun (env : List String) (key : String) : Bool :=
  env.any fun e => key.toList.isPrefixOf e.toList

def Shadowed (env : List String) (key : String) : Prop := begun env key = true ∧ ¬ HasKey env key

instance (env : List String) (key : String) : Decidable (Shadowed env key) :=
  inferInstanceAs (Decidable (_ ∧ _))

def entry (key value : String) : String := key ++ "=" ++ value

variable {key : String}

theorem entryKey_entry (hkey : '=' ∉ key.toList) (value : String) :
    entryKey (entry key value) = key := by
  have hlist : (entry key value).toList = key.toList ++ '=' :: value.toList := by simp [entry]
  rw [entryKey, hlist, Url.cut_append hkey, String.ofList_toList]

theorem isPrefixOf_of_entryKey {e : String} (h : entryKey e = key) :
    key.toList.isPrefixOf e.toList = true := by
  rw [List.isPrefixOf_iff_prefix, ← h, entryKey, String.toList_ofList]
  unfold Url.cut
  split
  · exact List.prefix_refl _
  · exact List.takeWhile_prefix _

variable {env : List String}

theorem begun_of_hasKey (h : HasKey env key) : begun env key = true := by
  obtain ⟨e, he, hkey⟩ := h
  exact List.any_eq_true.mpr ⟨e, he, isPrefixOf_of_entryKey hkey⟩

theorem begun_append (env more : List String) (key : String) :
    begun (env ++ more) key = (begun env key || begun more key) := List.any_append

/-! ## The environment of the container -/

def binding (env : List String) (key value : String) : List String :=
  if begun env key = true then [] else [entry key value]

theorem containerEnv_eq (cfg : ManagerConfig) (hurl : cfg.natsURL ≠ "") (spec : ConnectorSpec) :
    Host.containerEnv cfg spec
      = spec.env ++ (binding spec.env "NATS_URL" cfg.natsURL
        ++ binding spec.env "CONNECTOR_ID" spec.id) := by
  have hnats : "NATS_URL=" ++ cfg.natsURL = entry "NATS_URL" cfg.natsURL :=
    congrArg (· ++ cfg.natsURL) (by decide : "NATS_URL=" = "NATS_URL" ++ "=")
  have hid : "CONNECTOR_ID=" ++ spec.id = entry "CONNECTOR_ID" spec.id :=
    congrArg (· ++ spec.id) (by decide : "CONNECTOR_ID=" = "CONNECTOR_ID" ++ "=")
  have hset : (cfg.natsURL != "") = true := bne_iff_ne.mpr hurl
  have hflip : ∀ (b : Bool) (added : List String),
      (if (!b) = true then added else []) = if b = true then [] else added := by
    intro b added
    cases b with
    | false | true => rfl
  unfold Host.containerEnv
  rw [List.append_assoc, hnats, hid, hset, Bool.and_true, hflip, hflip]
  rfl

theorem hasKey_append {more : List String} :
    HasKey (env ++ more) key ↔ HasKey env key ∨ HasKey more key := by
  simp only [HasKey, List.mem_append, or_and_right, exists_or]

theorem mem_binding {value e : String} :
    e ∈ binding env key value ↔ begun env key = false ∧ e = entry key value := by
  unfold binding
  by_cases h : begun env key = true
  · simp [h]
  · simp [Bool.eq_false_iff.mpr h]

theorem hasKey_binding {other value : String} (hkey : '=' ∉ key.toList) :
    HasKey (binding env key value) other ↔ begun env key = false ∧ key = other := by
  constructor
  · rintro ⟨e, he, hother⟩
    obtain ⟨hfree, rfl⟩ := mem_binding.mp he
    rw [entryKey_entry hkey] at hother
    exact ⟨hfree, hother⟩
  · rintro ⟨hfree, rfl⟩
    exact ⟨_, mem_binding.mpr ⟨hfree, rfl⟩, entryKey_entry hkey value⟩

theorem not_shadowed_iff : ¬ Shadowed env key ↔ HasKey env key ∨ begun env key = false := by
  rw [Shadowed, not_and_not_right, ← Bool.not_eq_true]
  constructor
  · intro h
    by_cases hb : begun env key = true
    · exact Or.inl (h hb)
    · exact Or.inr hb
  · rintro (h | h) hb
    · exact h
    · exact absurd hb h

/-- The container has its runtime bindings: every entry of the spec, both keys,
    and what was added is the manager's URL or the connector's id, added only
    where the spec has no entry of that key. -/
structure Bound (cfg : ManagerConfig) (spec : ConnectorSpec) : Prop where
  kept : ∀ e ∈ spec.env, e ∈ Host.containerEnv cfg spec
  nats : HasKey (Host.containerEnv cfg spec) "NATS_URL"
  id : HasKey (Host.containerEnv cfg spec) "CONNECTOR_ID"
  injected : ∃ added, Host.containerEnv cfg spec = spec.env ++ added ∧
    ∀ e ∈ added, (e = entry "NATS_URL" cfg.natsURL ∧ ¬ HasKey spec.env "NATS_URL") ∨
      (e = entry "CONNECTOR_ID" spec.id ∧ ¬ HasKey spec.env "CONNECTOR_ID")

theorem bound_iff_not_shadowed {cfg : ManagerConfig} (hurl : cfg.natsURL ≠ "")
    (spec : ConnectorSpec) :
    Bound cfg spec ↔ ¬ Shadowed spec.env "NATS_URL" ∧ ¬ Shadowed spec.env "CONNECTOR_ID" := by
  have henv := containerEnv_eq cfg hurl spec
  have hnats : HasKey (Host.containerEnv cfg spec) "NATS_URL" ↔
      ¬ Shadowed spec.env "NATS_URL" := by
    rw [henv, hasKey_append, hasKey_append, hasKey_binding (by decide),
      hasKey_binding (by decide), not_shadowed_iff]
    simp
  have hid : HasKey (Host.containerEnv cfg spec) "CONNECTOR_ID" ↔
      ¬ Shadowed spec.env "CONNECTOR_ID" := by
    rw [henv, hasKey_append, hasKey_append, hasKey_binding (by decide),
      hasKey_binding (by decide), not_shadowed_iff]
    simp
  constructor
  · intro h
    exact ⟨hnats.mp h.nats, hid.mp h.id⟩
  · rintro ⟨hclearNats, hclearId⟩
    refine ⟨?_, hnats.mpr hclearNats, hid.mpr hclearId, _, henv, ?_⟩
    · intro e he
      rw [henv]
      exact List.mem_append_left _ he
    · -- what was added begins like no entry of the spec, so it has the key of none
      have hnone : ∀ {key : String}, begun spec.env key = false → ¬ HasKey spec.env key := by
        intro key hfree hhas
        rw [begun_of_hasKey hhas] at hfree
        cases hfree
      intro e he
      rcases List.mem_append.mp he with he | he
      · obtain ⟨hfree, heq⟩ := mem_binding.mp he
        exact Or.inl ⟨heq, hnone hfree⟩
      · obtain ⟨hfree, heq⟩ := mem_binding.mp he
        exact Or.inr ⟨heq, hnone hfree⟩

end NexusGateway.Lifecycle
