/-
`internal/provisioning/fallback.go` under `Loop.sync`: the Point List comes
from a local source until the provisioning server has answered once, and
from the server alone ever after.

The revision and the cached entries live in the loop, the promotion in the
client.  The first answer of the server is forced to a complete list, so
what the loop has cached of the local source never meets a delta of the
server.
-/

import NexusGateway.PointSync.Loop

namespace NexusGateway.PointSync

open Lib
open PointList

/-! ## FallbackClient -/

inductive Source where
  | primary
  | secondary
deriving DecidableEq, Repr

/-- What a client's `Fetch` returns. -/
abbrev Answer : Type := Except String (Option FetchResult)

/-- What the two clients would answer during one `sync`.  The primary does not claim an
    unchanged list when it was given no revision. -/
structure Answers where
  primary : String → Answer
  secondary : String → Answer
  fresh : primary "" ≠ .ok none

/-- `FallbackClient`; the promotion hook only observes. -/
structure FallbackClient where
  promoted : Bool := false

def FetchResult.promote (r : FetchResult) : FetchResult :=
  { r with full := true, added := [], removed := [], changed := [] }

/-- A call of a client, or a list that the loop handed to the resolver. -/
inductive Event where
  | fetched (source : Source) (etag : String) (answer : Answer)
  | installed (source : Source) (result : FetchResult) (entries : List Entry)

/-- `FallbackClient.Fetch`: the answer, the source it came from, the client afterwards and
    the calls made. -/
def FallbackClient.fetch (f : FallbackClient) (ans : Answers) (knownETag : String) :
    Answer × Source × FallbackClient × List Event :=
  if f.promoted then
    let answer := ans.primary knownETag
    (answer, .primary, f, [.fetched .primary knownETag answer])
  else
    match ans.primary "" with
    | .ok result =>
      (.ok (result.map FetchResult.promote), .primary, { promoted := true },
        [.fetched .primary "" (.ok result)])
    | .error err =>
      let answer := ans.secondary knownETag
      (answer, .secondary, f,
        [.fetched .primary "" (.error err), .fetched .secondary knownETag answer])

/-! ## The loop over it -/

/-- The loop with its state and client, and the log, oldest first. -/
structure System where
  client : FallbackClient := {}
  loop : Loop
  state : SyncState := { etag := "", entries := [] }
  log : List Event := []

/-- A list is installed where the fetch brought one; it is what the resolver then holds. -/
def installs (source : Source) (l : Loop) : Answer → List Event
  | .ok (some result) => [.installed source result l.resolver.snapshot]
  | _ => []

namespace System

def init (resolver : SyncedResolver) : System :=
  { loop := { resolver := resolver, appliedETag := "" } }

def sync (s : System) (ans : Answers) : System :=
  let fetch := s.client.fetch ans s.state.etag
  let next := s.loop.sync s.state fetch.1
  { client := fetch.2.2.1
    loop := next.1
    state := next.2
    log := s.log ++ fetch.2.2.2 ++ installs fetch.2.1 next.1 fetch.1 }

end System

/-! ## What the log says -/

def lastInstalled (log : List Event) : Option (Source × FetchResult × List Entry) :=
  log.foldl (fun last e => match e with
    | .installed source result entries => some (source, result, entries)
    | .fetched .. => last) none

/-- The last list that a client returned, and which client. -/
def lastFetched (log : List Event) : Option (Source × FetchResult) :=
  log.foldl (fun last e => match e with
    | .fetched source _ (.ok (some result)) => some (source, result)
    | _ => last) none

def primaryResults (log : List Event) : List FetchResult :=
  log.filterMap fun e => match e with
    | .installed .primary result _ => some result
    | _ => none

def replay (results : List FetchResult) : List Entry :=
  results.foldl (fun entries r => r.onto entries) []

def Succeeded (log : List Event) : Prop := ∃ etag result, .fetched .primary etag (.ok result) ∈ log

section Log

variable {log : List Event}

@[simp] theorem lastInstalled_fetched (source : Source) (etag : String) (answer : Answer) :
    lastInstalled (log ++ [.fetched source etag answer]) = lastInstalled log := by
  simp [lastInstalled]

@[simp] theorem lastInstalled_installed (source : Source) (r : FetchResult) (es : List Entry) :
    lastInstalled (log ++ [.installed source r es]) = some (source, r, es) := by
  simp [lastInstalled]

@[simp] theorem primaryResults_fetched (source : Source) (etag : String) (answer : Answer) :
    primaryResults (log ++ [.fetched source etag answer]) = primaryResults log := by
  simp [primaryResults]

@[simp] theorem primaryResults_primary (r : FetchResult) (es : List Entry) :
    primaryResults (log ++ [.installed .primary r es]) = primaryResults log ++ [r] := by
  simp [primaryResults]

@[simp] theorem primaryResults_secondary (r : FetchResult) (es : List Entry) :
    primaryResults (log ++ [.installed .secondary r es]) = primaryResults log := by
  simp [primaryResults]

theorem replay_snoc (results : List FetchResult) (r : FetchResult) :
    replay (results ++ [r]) = r.onto (replay results) := by
  simp [replay]

theorem succeeded_snoc {e : Event} :
    Succeeded (log ++ [e]) ↔
      Succeeded log ∨ ∃ etag result, e = .fetched .primary etag (.ok result) := by
  simp only [Succeeded, List.mem_append, List.mem_singleton]
  constructor
  · rintro ⟨etag, result, hmem | heq⟩
    · exact Or.inl ⟨etag, result, hmem⟩
    · exact Or.inr ⟨etag, result, heq.symm⟩
  · rintro (⟨etag, result, hmem⟩ | ⟨etag, result, heq⟩)
    · exact ⟨etag, result, Or.inl hmem⟩
    · exact ⟨etag, result, Or.inr heq.symm⟩

end Log

/-! ## The discipline -/

def currentEntries (log : List Event) : List Entry :=
  (lastInstalled log).elim [] fun last => last.2.2

/-- What may follow a log.  A primary is asked with no revision or with the one of its own
    result that is installed; a secondary is asked before the primary succeeded, with no
    revision or with one of its own.  What is installed is the result just fetched, made
    complete if it is the primary's first; once the primary has succeeded it is the
    primary's, and the list is what the primary's results make, from a complete one on. -/
def Admissible (pre : List Event) : Event → Prop
  | .fetched .primary etag _ =>
    etag = "" ∨ ∃ r es, lastInstalled pre = some (.primary, r, es) ∧ r.etag = etag
  | .fetched .secondary etag _ =>
    ¬ Succeeded pre ∧
      (etag = "" ∨ ∃ etag' r, .fetched .secondary etag' (.ok (some r)) ∈ pre ∧ r.etag = etag)
  | .installed source r es =>
    (∃ before etag r₀, pre = before ++ [.fetched source etag (.ok (some r₀))] ∧
      r = if source = .primary ∧ primaryResults before = [] then r₀.promote else r₀) ∧
    es = r.onto (currentEntries pre) ∧
    (Succeeded pre → source = .primary ∧ es = replay (primaryResults pre ++ [r]) ∧
      ∃ first rest, primaryResults pre ++ [r] = first :: rest ∧ first.full = true)

structure Reflects (resolver : SyncedResolver) (s : System) : Prop where
  start : lastInstalled s.log = none →
    s.loop = { resolver := resolver, appliedETag := "" } ∧ s.state = { etag := "", entries := [] } ∧
      s.client.promoted = false
  current : ∀ source r es, lastInstalled s.log = some (source, r, es) →
    s.loop = { resolver := SyncedResolver.new.update es, appliedETag := r.etag } ∧
      s.state = { etag := r.etag, entries := es } ∧
      (source = .primary ↔ s.client.promoted = true)

structure Inv (resolver : SyncedResolver) (s : System) : Prop extends Reflects resolver s where
  admissible : EachAfter Admissible s.log
  promoted : s.client.promoted = true ↔ Succeeded s.log
  local_results : s.client.promoted = false → primaryResults s.log = []
  secondary : ∀ r es, lastInstalled s.log = some (.secondary, r, es) →
    ∃ etag, .fetched .secondary etag (.ok (some r)) ∈ s.log
  replayed : s.client.promoted = true → s.state.entries = replay (primaryResults s.log) ∧
    ∃ first rest, primaryResults s.log = first :: rest ∧ first.full = true

theorem inv_init (resolver : SyncedResolver) : Inv resolver (System.init resolver) where
  start _ := ⟨rfl, rfl, rfl⟩
  current _ _ _ h := by cases h
  admissible := eachAfter_nil
  promoted := by simp [System.init, Succeeded]
  local_results _ := rfl
  secondary _ _ h := by cases h
  replayed h := by cases h

section Steps

variable {resolver : SyncedResolver} {s : System} {ans : Answers}

theorem Inv.entries_eq (h : Inv resolver s) : s.state.entries = currentEntries s.log := by
  rw [currentEntries]
  cases hlast : lastInstalled s.log with
  | none => rw [(h.start hlast).2.1]; rfl
  | some last =>
    obtain ⟨source, r, es⟩ := last
    rw [(h.current source r es hlast).2.1]
    rfl

theorem Inv.primary_etag (h : Inv resolver s) (hp : s.client.promoted = true) :
    ∃ r es, lastInstalled s.log = some (.primary, r, es) ∧ r.etag = s.state.etag := by
  cases hlast : lastInstalled s.log with
  | none =>
    have hnot := (h.start hlast).2.2
    rw [hp] at hnot
    cases hnot
  | some last =>
    obtain ⟨source, r, es⟩ := last
    obtain ⟨-, hstate, hsource⟩ := h.current source r es hlast
    obtain rfl := hsource.mpr hp
    exact ⟨r, es, rfl, by rw [hstate]⟩

theorem Inv.secondary_etag (h : Inv resolver s) (hp : s.client.promoted = false) :
    s.state.etag = "" ∨
      ∃ etag r, .fetched .secondary etag (.ok (some r)) ∈ s.log ∧ r.etag = s.state.etag := by
  cases hlast : lastInstalled s.log with
  | none => exact Or.inl (by rw [(h.start hlast).2.1])
  | some last =>
    obtain ⟨source, r, es⟩ := last
    obtain ⟨-, hstate, hsource⟩ := h.current source r es hlast
    cases source with
    | primary =>
      rw [hsource.mp rfl] at hp
      cases hp
    | secondary =>
      obtain ⟨etag, hmem⟩ := h.secondary r es hlast
      exact Or.inr ⟨etag, r, hmem, by rw [hstate]⟩

theorem Inv.fetched (h : Inv resolver s) (source : Source) (etag : String) (answer : Answer)
    (hok : Admissible s.log (.fetched source etag answer))
    (hsame : ∀ result, source = .primary → answer = .ok result → s.client.promoted = true) :
    Inv resolver { s with log := s.log ++ [.fetched source etag answer] } where
  start := by
    rw [lastInstalled_fetched]
    exact h.start
  current := by
    rw [lastInstalled_fetched]
    exact h.current
  admissible := h.admissible.snoc hok
  promoted := by
    rw [succeeded_snoc, h.promoted]
    constructor
    · exact Or.inl
    · rintro (hsucceeded | ⟨etag', result, heq⟩)
      · exact hsucceeded
      · cases heq
        exact h.promoted.mp (hsame result rfl rfl)
  local_results := by
    rw [primaryResults_fetched]
    exact h.local_results
  secondary r es hlast := by
    rw [lastInstalled_fetched] at hlast
    obtain ⟨etag', hmem⟩ := h.secondary r es hlast
    exact ⟨etag', List.mem_append_left _ hmem⟩
  replayed := by
    rw [primaryResults_fetched]
    exact h.replayed

def System.install (s : System) (source : Source) (r : FetchResult) : System :=
  let next := s.loop.sync s.state (.ok (some r))
  { client := s.client
    loop := next.1
    state := next.2
    log := s.log ++ [.installed source r next.1.resolver.snapshot] }

theorem install_log (source : Source) (r : FetchResult) :
    (s.install source r).log = s.log ++ [.installed source r (r.onto s.state.entries)] := rfl

theorem install_reflects {source : Source} {r : FetchResult}
    (hsource : source = .primary ↔ s.client.promoted = true) :
    Reflects resolver (s.install source r) where
  start hlast := by
    rw [install_log, lastInstalled_installed] at hlast
    cases hlast
  current source' r' es' hlast := by
    rw [install_log, lastInstalled_installed] at hlast
    cases hlast
    exact ⟨rfl, rfl, hsource⟩

theorem Inv.install (h : Inv resolver s) {source : Source} {etag : String} {r : FetchResult}
    {before : List Event} (hlog : s.log = before ++ [.fetched source etag (.ok (some r))])
    (hsource : source = .primary ↔ s.client.promoted = true) :
    Inv resolver (s.install source r) where
  toReflects := install_reflects hsource
  admissible := by
    apply h.admissible.snoc
    have hresults : primaryResults s.log = primaryResults before := by
      rw [hlog, primaryResults_fetched]
    refine ⟨⟨before, etag, r, hlog, ?_⟩, ?_, ?_⟩
    · rw [if_neg]
      rintro ⟨hprimary, hnone⟩
      obtain ⟨-, first, rest, hfirst, -⟩ := h.replayed (hsource.mp hprimary)
      rw [hresults, hnone] at hfirst
      cases hfirst
    · rw [← h.entries_eq]
      rfl
    · intro hsucceeded
      have hp := h.promoted.mpr hsucceeded
      obtain ⟨hentries, first, rest, hfirst, hfull⟩ := h.replayed hp
      refine ⟨hsource.mpr hp, ?_, first, rest ++ [r], ?_, hfull⟩
      · rw [replay_snoc, ← hentries]
        rfl
      · rw [hfirst, List.cons_append]
  promoted := by
    rw [install_log, succeeded_snoc]
    simp only [reduceCtorEq, exists_const, or_false]
    exact h.promoted
  local_results hp := by
    cases source with
    | primary =>
      have hpromoted : (s.install .primary r).client.promoted = true := hsource.mp rfl
      rw [hp] at hpromoted
      cases hpromoted
    | secondary =>
      rw [install_log, primaryResults_secondary]
      exact h.local_results hp
  secondary r' es' hlast := by
    rw [install_log, lastInstalled_installed] at hlast
    cases hlast
    refine ⟨etag, ?_⟩
    rw [install_log, hlog]
    simp
  replayed hp := by
    obtain ⟨hentries, first, rest, hfirst, hfull⟩ := h.replayed hp
    obtain rfl := hsource.mpr hp
    rw [install_log, primaryResults_primary]
    refine ⟨?_, first, rest ++ [r], ?_, hfull⟩
    · rw [replay_snoc, ← hentries]
      rfl
    · rw [hfirst, List.cons_append]

theorem Inv.promote (h : Inv resolver s) (hp : s.client.promoted = false) {r : FetchResult} :
    Inv resolver (System.install
      { s with client := { promoted := true }
               log := s.log ++ [.fetched .primary "" (.ok (some r))] } .primary r.promote) where
  toReflects := install_reflects ⟨fun _ => rfl, fun _ => rfl⟩
  admissible := by
    have hresults := h.local_results hp
    have hfetched : EachAfter Admissible (s.log ++ [.fetched .primary "" (.ok (some r))]) :=
      h.admissible.snoc (Or.inl rfl)
    apply hfetched.snoc
    refine ⟨⟨s.log, "", r, rfl, ?_⟩, ?_, fun _ => ⟨rfl, ?_, ?_⟩⟩
    · rw [if_pos ⟨rfl, hresults⟩]
    · rfl
    · rw [primaryResults_fetched, hresults]
      rfl
    · rw [primaryResults_fetched, hresults]
      exact ⟨_, _, rfl, rfl⟩
  promoted := by
    have hsucceeded : Succeeded (s.log ++ [.fetched .primary "" (.ok (some r))]) :=
      succeeded_snoc.mpr (Or.inr ⟨"", some r, rfl⟩)
    rw [install_log, succeeded_snoc]
    exact ⟨fun _ => Or.inl hsucceeded, fun _ => rfl⟩
  local_results hnot := by cases hnot
  secondary r' es' hlast := by
    rw [install_log, lastInstalled_installed] at hlast
    cases hlast
  replayed _ := by
    have hresults := h.local_results hp
    rw [install_log, primaryResults_primary, primaryResults_fetched, hresults]
    exact ⟨rfl, _, _, rfl, rfl⟩

theorem Inv.answered {ans : Answers} {source : Source} {answer : Answer} (calls : List Event)
    (hfetch : s.client.fetch ans s.state.etag =
      (answer, source, s.client, calls ++ [.fetched source s.state.etag answer]))
    (h : Inv resolver
      { s with log := s.log ++ calls ++ [.fetched source s.state.etag answer] })
    (hsource : source = .primary ↔ s.client.promoted = true) : Inv resolver (s.sync ans) := by
  rw [System.sync, hfetch]
  simp only [← List.append_assoc]
  cases answer with
  | error err => simpa [installs, Loop.sync] using h
  | ok result =>
    cases result with
    | none => simpa [installs, Loop.sync] using h
    | some r => exact h.install rfl hsource

theorem Inv.sync (h : Inv resolver s) (ans : Answers) : Inv resolver (s.sync ans) := by
  cases hp : s.client.promoted with
  | true =>
    have hfetch : s.client.fetch ans s.state.etag = (ans.primary s.state.etag, .primary, s.client,
        [.fetched .primary s.state.etag (ans.primary s.state.etag)]) := by
      rw [FallbackClient.fetch, if_pos hp]
    have hfetched := h.fetched .primary s.state.etag (ans.primary s.state.etag)
      (Or.inr (h.primary_etag hp)) fun _ _ _ => hp
    rw [← List.append_nil s.log] at hfetched
    exact Inv.answered [] hfetch hfetched ⟨fun _ => hp, fun _ => rfl⟩
  | false =>
    have hnot : ¬ s.client.promoted = true := by simp [hp]
    cases hprimary : ans.primary "" with
    | ok result =>
      have hfetch : s.client.fetch ans s.state.etag = (.ok (result.map FetchResult.promote),
          .primary, { promoted := true }, [.fetched .primary "" (.ok result)]) := by
        rw [FallbackClient.fetch, if_neg hnot, hprimary]
      cases result with
      | none => exact absurd hprimary ans.fresh
      | some r =>
        rw [System.sync, hfetch]
        exact h.promote hp
    | error err =>
      have hfetch : s.client.fetch ans s.state.etag = (ans.secondary s.state.etag, .secondary,
          s.client, [.fetched .primary "" (.error err),
            .fetched .secondary s.state.etag (ans.secondary s.state.etag)]) := by
        rw [FallbackClient.fetch, if_neg hnot, hprimary]
      have hprobed := h.fetched .primary "" (.error err) (Or.inl rfl)
        fun _ _ heq => (by cases heq)
      have hunsucceeded := hprobed.promoted.not.mp hnot
      have hfetched := hprobed.fetched .secondary s.state.etag
        (ans.secondary s.state.etag) ⟨hunsucceeded, hprobed.secondary_etag hp⟩
        fun _ heq _ => (by cases heq)
      have hlocal : Source.secondary = .primary ↔ s.client.promoted = true :=
        ⟨fun heq => (by cases heq), fun heq => absurd heq hnot⟩
      exact Inv.answered [.fetched .primary "" (.error err)] hfetch hfetched hlocal

end Steps

/-! ## What is installed is what was fetched last -/

/-- Nothing was fetched and nothing is installed, or what is installed is the list fetched
    last, as it came or made complete. -/
def UpToDate (log : List Event) : Prop :=
  (lastFetched log = none ∧ lastInstalled log = none) ∨
    ∃ source r₀ r es, lastFetched log = some (source, r₀) ∧
      lastInstalled log = some (source, r, es) ∧ (r = r₀ ∨ r = r₀.promote)

section UpToDate

variable {log : List Event}

theorem UpToDate.error (h : UpToDate log) (source : Source) (etag err : String) :
    UpToDate (log ++ [.fetched source etag (.error err)]) := by
  simpa [UpToDate, lastFetched, lastInstalled] using h

theorem UpToDate.unchanged (h : UpToDate log) (source : Source) (etag : String) :
    UpToDate (log ++ [.fetched source etag (.ok none)]) := by
  simpa [UpToDate, lastFetched, lastInstalled] using h

theorem upToDate_installed {r₀ r : FetchResult} (hr : r = r₀ ∨ r = r₀.promote) (source : Source)
    (etag : String) (es : List Entry) :
    UpToDate (log ++ [.fetched source etag (.ok (some r₀)), .installed source r es]) :=
  Or.inr ⟨source, r₀, r, es, by simp [lastFetched], by simp [lastInstalled], hr⟩

/-- A client that is asked for its answer, and what `sync` makes of it. -/
theorem UpToDate.answered (h : UpToDate log) (source : Source) (etag : String) (l : Loop)
    (answer : Answer) :
    UpToDate (log ++ [.fetched source etag answer] ++ installs source l answer) := by
  cases answer with
  | error err => simpa [installs] using h.error source etag err
  | ok result =>
    cases result with
    | none => simpa [installs] using h.unchanged source etag
    | some r => simpa [installs] using upToDate_installed (Or.inl rfl) source etag _

theorem UpToDate.sync {s : System} (h : UpToDate s.log) (ans : Answers) :
    UpToDate (s.sync ans).log := by
  rw [System.sync]
  cases hp : s.client.promoted with
  | true =>
    simp only [FallbackClient.fetch, hp, if_true]
    exact h.answered .primary s.state.etag _ _
  | false =>
    cases hprimary : ans.primary "" with
    | ok result =>
      cases result with
      | none => exact absurd hprimary ans.fresh
      | some r =>
        simp only [FallbackClient.fetch, hp, hprimary, Bool.false_eq_true, if_false, installs,
          Option.map_some, List.append_assoc, List.singleton_append]
        exact upToDate_installed (Or.inr rfl) .primary "" _
    | error err =>
      simp only [FallbackClient.fetch, hp, hprimary, Bool.false_eq_true, if_false]
      rw [← List.singleton_append, ← List.append_assoc]
      exact (h.error .primary "" err).answered .secondary s.state.etag _ _

end UpToDate

/-- For every sequence of `sync` calls, whatever the two clients answer: every call and every
    installed list follows the discipline above, and the loop reports the revision of the
    result whose application made the contents of the resolver, which is the one fetched
    last; it reports none as long as no fetch has brought a list. -/
theorem fallback_disciplined (resolver : SyncedResolver) (answers : List Answers) :
    let s := answers.foldl System.sync (System.init resolver)
    EachAfter Admissible s.log ∧
      ((lastFetched s.log = none ∧ lastInstalled s.log = none ∧ s.loop.resolver = resolver ∧
          s.loop.appliedRevision = "") ∨
        ∃ source r₀ r es, lastFetched s.log = some (source, r₀) ∧
          lastInstalled s.log = some (source, r, es) ∧ (r = r₀ ∨ r = r₀.promote) ∧
          s.loop.resolver = SyncedResolver.new.update es ∧ s.loop.appliedRevision = r.etag) := by
  intro s
  have hinv : Inv resolver s :=
    List.foldlRecOn answers System.sync (inv_init resolver) fun _ h ans _ => h.sync ans
  have hlatest : UpToDate s.log :=
    List.foldlRecOn (motive := fun s => UpToDate s.log) answers System.sync
      (Or.inl ⟨rfl, rfl⟩) fun _ h ans _ => h.sync ans
  refine ⟨hinv.admissible, ?_⟩
  rcases hlatest with ⟨hfetched, hlast⟩ | ⟨source, r₀, r, es, hfetched, hlast, hr⟩
  · obtain ⟨hloop, -, -⟩ := hinv.start hlast
    exact Or.inl ⟨hfetched, hlast, by rw [hloop], by rw [hloop]; rfl⟩
  · obtain ⟨hloop, -, -⟩ := hinv.current source r es hlast
    exact Or.inr ⟨source, r₀, r, es, hfetched, hlast, hr, by rw [hloop], by rw [hloop]; rfl⟩

def listed (localID : String) : Entry :=
  { connectorID := "c", localID := localID, pointID := localID }

/-- The server is away, comes back with a list, then sends a delta. -/
def returning : List Answers :=
  let answer (primary secondary : Answer) (h : primary ≠ .ok none) : Answers :=
    ⟨fun _ => primary, fun _ => secondary, h⟩
  let file : Answer := .ok (some { etag := "file", full := true, entries := [listed "x"] })
  [answer (.error "refused") file nofun,
    answer (.ok (some { etag := "r1", full := true, entries := [listed "a"] })) file nofun,
    answer (.ok (some { etag := "r2", full := false, added := [listed "b"] })) file nofun]

/-- Each of the three answers is installed, the delta over the list of the server. -/
theorem fallback_disciplined_returning :
    let s := returning.foldl System.sync (System.init .new)
    EachAfter Admissible s.log ∧ s.loop.appliedRevision = "r2" ∧
      s.loop.resolver.snapshot = [listed "b", listed "a"] ∧
      (lastFetched s.log).map (fun last => (last.1, last.2.etag)) = some (.primary, "r2") ∧
      (primaryResults s.log).map FetchResult.full = [true, false] := by
  intro s
  exact ⟨(fallback_disciplined .new returning).1, by decide, by decide, by decide, by decide⟩

end NexusGateway.PointSync
