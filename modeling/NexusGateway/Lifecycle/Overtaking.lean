/-
When `Watch` respects the actions of the operators.

What `Watch` has seen of a container stays true while the container is the
one recorded: a container that has stopped is never started again, and one
that is still to be started is not recorded yet.  So if the container
recorded is the one inspected when `Watch` gets the lock, nothing it then
does concerns a running container or a stopped connector
(`respects_of_upToDate`).  `Watch` does not check this, and an operation that
overtakes it between the inspect and the lock is undone.
-/

import NexusGateway.Lifecycle.Watch

namespace NexusGateway.Lifecycle

open Lib Catalog

/-! ## Containers that run -/

namespace Daemon

variable {d : Daemon} {j k : Nat}

theorem runs_iff : d.runs k = true ↔ ∃ c ∈ d.containers, c.id = k ∧ c.running = true := by
  simp [runs]

theorem runs_of_mark {b : Bool} (h : (d.mark j b).runs k = true) :
    d.runs k = true ∨ k = j ∧ b = true := by
  rw [runs_iff] at h ⊢
  obtain ⟨c, hc, hid, hrunning⟩ := h
  obtain ⟨c', hc', rfl⟩ := List.mem_map.mp hc
  grind

theorem runs_of_add {name : String} {config : ContainerConfig} {hname : ¬ d.Uses name}
    (h : (d.add name config hname).runs k = true) : d.runs k = true := by
  rw [runs_iff] at h ⊢
  obtain ⟨c, hc, hid, hrunning⟩ := h
  rcases (mem_add hname).mp hc with hmem | rfl
  · exact ⟨c, hmem, hid, hrunning⟩
  · cases hrunning

theorem runs_of_drop (h : (d.drop j).runs k = true) : d.runs k = true := by
  rw [runs_iff] at h ⊢
  obtain ⟨c, hc, hid, hrunning⟩ := h
  exact ⟨c, (List.mem_filter.mp hc).1, hid, hrunning⟩

/-- No container has been started, and no id has been taken back. -/
structure Quieter (d d' : Daemon) : Prop where
  nextID : d.nextID ≤ d'.nextID
  runs : ∀ k, d'.runs k = true → d.runs k = true

theorem Quieter.refl (d : Daemon) : Quieter d d := ⟨Nat.le_refl _, fun _ hr => hr⟩

theorem quieter_mark : Quieter d (d.mark j false) :=
  ⟨Nat.le_refl _, fun _ hr => (runs_of_mark hr).resolve_right nofun⟩

theorem quieter_add {name : String} {config : ContainerConfig} (hname : ¬ d.Uses name) :
    Quieter d (d.add name config hname) := ⟨Nat.le_succ _, fun _ => runs_of_add⟩

theorem quieter_drop : Quieter d (d.drop j) := ⟨Nat.le_refl _, fun _ => runs_of_drop⟩

theorem Quieter.not_runs {d' : Daemon} (h : Quieter d d') (hk : d.runs k = false) :
    d'.runs k = false := by
  have := h.runs k
  grind

end Daemon

namespace Watch

/-! ## What Watch knows -/

def Tick.watched : Tick → Option Nat
  | .listed k | .stopped k => some k
  | _ => none

/-- Outside the lock, a container seen stopped is stopped; inside, the container recorded does
    not run, and none is recorded once it has been cleared. -/
def TickOk (recorded : Option Nat) (d : Daemon) : Tick → Prop
  | .listed k => k < d.nextID
  | .stopped k => k < d.nextID ∧ d.runs k = false
  | .locked => ∃ k, recorded = some k ∧ d.runs k = false
  | .cleared => recorded = none
  | .created k | .started k => recorded = none ∧ k < d.nextID
  | .idle | .leaving => True

section Ticks

variable {recorded : Option Nat} {d d' : Daemon} {t : Tick} {j k : Nat}

theorem TickOk.quieter (h : TickOk recorded d t) (hq : d.Quieter d') : TickOk recorded d' t := by
  have hle := hq.nextID
  cases t <;> grind [TickOk, Daemon.Quieter.not_runs]

theorem TickOk.outside (h : TickOk recorded d t) (hout : t.inside = false)
    (recorded' : Option Nat) : TickOk recorded' d t := by
  cases t <;> first | exact h | cases hout

theorem TickOk.lt_nextID (h : TickOk recorded d t) (hk : t.watched = some k) : k < d.nextID := by
  cases t <;> grind [TickOk, Tick.watched]

theorem TickOk.mark_true (h : TickOk recorded d t) (hout : t.inside = false)
    (hne : t.watched ≠ some j) : TickOk recorded (d.mark j true) t := by
  have hnext : (d.mark j true).nextID = d.nextID := rfl
  cases t <;> grind [TickOk, Tick.watched, Tick.inside, Daemon.runs_of_mark]

end Ticks

/-! ## What an operation may still do -/

section Operations

variable {i : Instr} {rest : List Instr} {c : Call} {ok : Bool}

def RecordsLast : List Instr → Prop
  | [] => True
  | .record :: rest => .start ∉ rest
  | _ :: rest => RecordsLast rest

theorem recordsLast_of_not_mem {instrs : List Instr} (h : .start ∉ instrs) :
    RecordsLast instrs := by
  induction instrs with
  | nil => trivial
  | cons i rest ih =>
    rw [List.mem_cons, not_or] at h
    cases i with
    | record => exact h.2
    | _ => exact ih h.2

theorem RecordsLast.tail (h : RecordsLast (i :: rest)) : RecordsLast rest := by
  cases i with
  | record => exact recordsLast_of_not_mem h
  | _ => exact h

theorem recordsLast_doStart (polls : Nat) :
    RecordsLast (doStart ++ List.replicate polls .soak) := by
  intro hmem
  cases List.eq_of_mem_replicate hmem

theorem recordsLast_instrs (s : ConnectorStatus) (op : Operation) :
    RecordsLast (op.instrs s) := by
  cases op with
  | start => exact recordsLast_doStart 0
  | stop =>
    apply recordsLast_of_not_mem
    rw [Operation.instrs, ifRecorded]
    cases s.containerID with
    | none => exact List.not_mem_nil
    | some k => simp
  | restart =>
    rw [Operation.instrs, ifRecorded]
    cases s.containerID with
    | none | some k => exact recordsLast_doStart 0
  | update manifest polls =>
    rw [Operation.instrs]
    split
    · trivial
    · rw [ifRecorded]
      cases s.containerID with
      | none | some k => exact recordsLast_doStart _

/-- A stop ends with nothing recorded; a container that is still to be started is neither
    recorded nor watched. -/
structure CallOk (recorded : Option Nat) (d : Daemon) (watched : Option Nat) (c : Call) :
    Prop where
  stops : c.op = .stop → c.rest = [] ∧ recorded = none ∨ ∃ l, c.rest = l ++ [.clear]
  order : RecordsLast c.rest
  fresh : ∀ k, c.created = some k → k < d.nextID
  pending : .start ∈ c.rest → ∀ k, c.created = some k → recorded ≠ some k ∧ watched ≠ some k

theorem callOk_begin (s : ConnectorStatus) (d : Daemon) (watched : Option Nat) (op : Operation) :
    CallOk s.containerID d watched { op := op, rest := op.instrs s } where
  stops := by
    rintro rfl
    show ifRecorded s _ = [] ∧ _ ∨ ∃ l, ifRecorded s _ = l ++ [.clear]
    rw [ifRecorded]
    cases s.containerID with
    | none => exact Or.inl ⟨rfl, rfl⟩
    | some k => exact Or.inr ⟨[.stop k], rfl⟩
  order := recordsLast_instrs s op
  fresh := nofun
  pending := nofun

theorem CallOk.stops_tail {recorded recorded' : Option Nat} {d : Daemon} {watched : Option Nat}
    (h : CallOk recorded d watched c) (hrest : c.rest = i :: rest)
    (hclear : i = .clear → recorded' = none) (hop : c.op = .stop) :
    rest = [] ∧ recorded' = none ∨ ∃ l, rest = l ++ [.clear] := by
  rcases h.stops hop with ⟨hnil, -⟩ | ⟨l, hl⟩
  · rw [hrest] at hnil
    cases hnil
  · rw [hrest] at hl
    cases l with
    | nil =>
      cases hl
      exact Or.inl ⟨rfl, hclear rfl⟩
    | cons i' l =>
      cases hl
      exact Or.inr ⟨l, rfl⟩

end Operations

/-! ## The invariant -/

/-- The lock is held once, what the two sides know holds, and after a stop nothing is recorded
    and nobody is about to change that. -/
structure Inv (w : World) : Prop where
  recorded : ∀ k, w.status.containerID = some k → k < w.daemon.nextID
  excluded : ∀ c, w.call = some c → w.tick.inside = false
  calling : ∀ c, w.call = some c → CallOk w.status.containerID w.daemon w.tick.watched c
  ticking : TickOk w.status.containerID w.daemon w.tick
  stopped : stopped w.log = true → w.status.containerID = none ∧ w.tick.inside = false ∧
    ∀ c, w.call = some c → c.op = .stop ∧ c.rest = []
  respects : Respects w.log

def World.init (spec : ConnectorSpec) : World := { status := { spec := spec } }

theorem inv_init (spec : ConnectorSpec) : Inv (World.init spec) where
  recorded := nofun
  excluded := nofun
  calling := nofun
  ticking := trivial
  stopped := nofun
  respects := eachAfter_nil

theorem stopped_snoc (log : List Event) (e : Event) :
    stopped (log ++ [e]) =
      match e with
      | .returned .stop => true
      | .began .stop => stopped log
      | .began _ => false
      | _ => stopped log := by
  rw [stopped, List.foldl_append]
  rfl

namespace Inv

variable {cfg : ManagerConfig} {w w' : World} {i : Instr} {rest : List Instr} {c : Call} {ok : Bool}

theorem begin (h : Inv w) (op : Operation) (hout : w.tick.inside = false) :
    Inv { w with
      call := some { op := op, rest := op.instrs w.status }
      log := w.log ++ [.began op] } := by
  refine ⟨h.recorded, fun _ _ => hout, ?_, h.ticking, fun hs => ?_, h.respects.snoc trivial⟩
  · rintro c ⟨⟩
    exact callOk_begin w.status w.daemon w.tick.watched op
  · rw [stopped_snoc] at hs
    cases op with
    | stop =>
      have hnone := (h.stopped hs).1
      refine ⟨hnone, hout, ?_⟩
      rintro c ⟨⟩
      refine ⟨rfl, ?_⟩
      show ifRecorded w.status _ = []
      rw [ifRecorded, hnone]
      rfl
    | start | restart | update manifest polls => cases hs

theorem execd (h : Inv w) (hc : w.call = some c) (hrest : c.rest = i :: rest)
    {status : ConnectorStatus} {d : Daemon} {created : Option Nat}
    (hrecorded : ∀ k, status.containerID = some k → k < d.nextID)
    (hticking : TickOk status.containerID d w.tick)
    (hclear : i = .clear → status.containerID = none)
    (hfresh : ∀ k, created = some k → k < d.nextID)
    (hpending : .start ∈ rest → ∀ k, created = some k →
      status.containerID ≠ some k ∧ w.tick.watched ≠ some k) :
    Inv { w with
      status := status
      daemon := d
      call := some { c with rest := rest, created := created } } := by
  have hcall := h.calling c hc
  refine ⟨hrecorded, fun _ _ => h.excluded c hc, ?_, hticking, fun hs => ?_, h.respects⟩
  · rintro _ ⟨⟩
    have horder := hcall.order
    rw [hrest] at horder
    exact ⟨hcall.stops_tail hrest hclear, horder.tail, hfresh, hpending⟩
  · have hnil := ((h.stopped hs).2.2 c hc).2
    rw [hrest] at hnil
    cases hnil

theorem execd_quieter (h : Inv w) (hc : w.call = some c) (hrest : c.rest = i :: rest)
    (hi : i ≠ .clear) {spec : ConnectorSpec} {d : Daemon} (hq : w.daemon.Quieter d) :
    Inv { w with
      status := { w.status with spec }
      daemon := d
      call := some { c with rest := rest } } := by
  have hcall := h.calling c hc
  apply h.execd hc hrest
  · exact fun k hk => Nat.lt_of_lt_of_le (h.recorded k hk) hq.nextID
  · exact h.ticking.quieter hq
  · exact fun heq => absurd heq hi
  · exact fun k hk => Nat.lt_of_lt_of_le (hcall.fresh k hk) hq.nextID
  · exact fun hstart => hcall.pending (hrest ▸ List.mem_cons_of_mem i hstart)

theorem execd_create (h : Inv w) (hc : w.call = some c) (hrest : c.rest = .create :: rest)
    {d : Daemon} (hd : w.create cfg = some d) :
    Inv { w with
      daemon := d
      call := some { c with rest := rest, created := some w.daemon.nextID } } := by
  rw [World.create] at hd
  split_ifs at hd with hname
  cases hd
  have hq : w.daemon.Quieter
      (w.daemon.add w.name (Host.containerConfig cfg w.status.spec []) hname) :=
    Daemon.quieter_add hname
  apply h.execd hc hrest
  · exact fun k hk => Nat.lt_of_lt_of_le (h.recorded k hk) hq.nextID
  · exact h.ticking.quieter hq
  · simp
  · rintro k ⟨⟩
    exact Nat.lt_succ_self _
  · rintro - k ⟨⟩
    exact ⟨fun hk => absurd (h.recorded _ hk) (Nat.lt_irrefl _),
      fun hk => absurd (h.ticking.lt_nextID hk) (Nat.lt_irrefl _)⟩

theorem exec (h : Inv w) (hc : w.call = some c) (hrest : c.rest = i :: rest)
    {p : World × Option Nat} (hp : w.exec cfg c ok i = some p) :
    Inv { p.1 with call := some { c with rest := rest, created := p.2 } } := by
  have hcall := h.calling c hc
  have hout := h.excluded c hc
  revert hp
  fun_cases World.exec with
  | case1 k =>
    -- the container is stopped
    rintro ⟨⟩
    exact h.execd_quieter hc hrest nofun Daemon.quieter_mark
  | case2 =>
    -- the registry forgets it
    rintro ⟨⟩
    apply h.execd hc hrest
    · nofun
    · exact h.ticking.outside hout none
    · exact fun _ => rfl
    · exact hcall.fresh
    · intro hstart k hk
      have hmem : .start ∈ c.rest := hrest ▸ List.mem_cons_of_mem _ hstart
      exact ⟨nofun, (hcall.pending hmem k hk).2⟩
  | case4 k hr | case7 k hok hr =>
    -- the container is removed
    rintro ⟨⟩
    exact h.execd_quieter hc hrest nofun Daemon.quieter_drop
  | case5 k hok =>
    -- the removal fails
    rintro ⟨⟩
    exact h.execd_quieter hc hrest nofun (.refl _)
  | case8 spec =>
    -- the new spec is registered
    rintro ⟨⟩
    exact h.execd_quieter hc hrest nofun (.refl _)
  | case9 =>
    intro hp
    obtain ⟨d, hd, rfl⟩ := Option.map_eq_some_iff.mp hp
    exact h.execd_create hc hrest hd
  | case10 =>
    -- it is started
    intro hp
    obtain ⟨k, hk, rfl⟩ := Option.map_eq_some_iff.mp hp
    have hpending := hcall.pending (hrest ▸ List.mem_cons_self) k hk
    apply h.execd hc hrest
    · exact h.recorded
    · exact h.ticking.mark_true hout hpending.2
    · nofun
    · exact hk ▸ hcall.fresh
    · rintro - k' ⟨⟩
      exact hpending
  | case11 =>
    -- it is recorded
    intro hp
    obtain ⟨k, hk, rfl⟩ := Option.map_eq_some_iff.mp hp
    have horder := hcall.order
    rw [hrest] at horder
    have hfresh : ∀ k', some k = some k' → k' < w.daemon.nextID := hk ▸ hcall.fresh
    apply h.execd hc hrest
    · exact hfresh
    · exact h.ticking.outside hout (some k)
    · nofun
    · exact hfresh
    · exact fun hstart => absurd hstart horder
  | case12 =>
    intro hp
    obtain ⟨k, hk, hp⟩ := Option.bind_eq_some_iff.mp hp
    split_ifs at hp
    cases hp
    rw [← hk]
    exact h.execd_quieter hc hrest nofun (.refl _)
  | case3 | case6 => rintro ⟨⟩

theorem finish (h : Inv w) (hc : w.call = some c) (hempty : c.rest = []) :
    Inv { w with call := none, log := w.log ++ [.returned c.op] } := by
  refine ⟨h.recorded, nofun, nofun, h.ticking, fun hs => ⟨?_, h.excluded c hc, nofun⟩,
    h.respects.snoc trivial⟩
  rw [stopped_snoc] at hs
  cases hop : c.op with
  | stop =>
    rcases (h.calling c hc).stops hop with ⟨-, hnone⟩ | ⟨l, hl⟩
    · exact hnone
    · rw [hempty] at hl
      simp at hl
  | start | restart | update manifest polls =>
    rw [hop] at hs
    exact (h.stopped hs).1

theorem quieter (h : Inv w) {d : Daemon} (hq : w.daemon.Quieter d) :
    Inv { w with daemon := d } where
  recorded k hk := Nat.lt_of_lt_of_le (h.recorded k hk) hq.nextID
  excluded := h.excluded
  calling c hc := { h.calling c hc with
    fresh := fun k hk => Nat.lt_of_lt_of_le ((h.calling c hc).fresh k hk) hq.nextID }
  ticking := h.ticking.quieter hq
  stopped := h.stopped
  respects := h.respects

/-- `Watch` goes on without the lock, and does not come to watch a container that is still to
    be started. -/
theorem retick (h : Inv w) {t : Tick} (hout : t.inside = false)
    (hwatched : ∀ k, t.watched = some k →
      w.tick.watched = some k ∨ w.status.containerID = some k)
    (hticking : TickOk w.status.containerID w.daemon t) : Inv { w with tick := t } where
  recorded := h.recorded
  excluded _ _ := hout
  calling c hc := by
    have hcall := h.calling c hc
    refine { hcall with pending := fun hstart j hj => ?_ }
    have hpending := hcall.pending hstart j hj
    exact ⟨hpending.1, fun hj' => (hwatched j hj').elim hpending.2 hpending.1⟩
  ticking := hticking
  stopped hs := ⟨(h.stopped hs).1, hout, (h.stopped hs).2.2⟩
  respects := h.respects

/-- `Watch` goes on with the lock. -/
theorem of_inside {t : Tick} {status : ConnectorStatus} {d : Daemon} {log : List Event}
    (hcall : w.call = none) (hrecorded : ∀ k, status.containerID = some k → k < d.nextID)
    (hticking : TickOk status.containerID d t) (hstopped : Watch.stopped log = false)
    (hrespects : Respects log) :
    Inv { w with tick := t, status := status, daemon := d, log := log } where
  recorded := hrecorded
  excluded c hc := by cases hcall.symm.trans hc
  calling c hc := by cases hcall.symm.trans hc
  ticking := hticking
  stopped hs := by cases hstopped.symm.trans hs
  respects := hrespects

theorem inside (h : Inv w) (hin : w.tick.inside = true) :
    Watch.stopped w.log = false ∧ w.call = none := by
  have hstopped := h.stopped
  cases hc : w.call with
  | none => grind
  | some c => cases (h.excluded c hc).symm.trans hin

theorem tryLock (h : Inv w) {k : Nat} (htick : w.tick = .stopped k)
    (hdate : UpToDate w .tryLock) :
    Inv { w with tick := if w.call.isSome then .idle else .locked } := by
  have hticking := h.ticking
  rw [htick] at hticking
  by_cases hbusy : w.call.isSome = true
  · rw [if_pos hbusy]
    exact h.retick rfl nofun trivial
  · have hcall : w.call = none := by simpa using hbusy
    have hk : w.status.containerID = some k := by
      rw [UpToDate, htick] at hdate
      exact hdate (by rw [hcall]; rfl)
    have hstopped : Watch.stopped w.log = false := by
      by_contra hs
      cases (h.stopped (by simpa using hs)).1.symm.trans hk
    have hlocked : TickOk w.status.containerID w.daemon .locked := ⟨k, hk, hticking.2⟩
    rw [if_neg hbusy]
    exact of_inside hcall h.recorded hlocked hstopped h.respects

theorem step (h : Inv w) {a : Action} (hstep : w.step cfg a = some w') (hdate : UpToDate w a) :
    Inv w' := by
  have hticking := h.ticking
  have hinside := h.inside
  revert hstep
  fun_cases World.step with
  | case2 op hfree =>
    rintro ⟨⟩
    rw [Bool.not_eq_true, Bool.or_eq_false_iff] at hfree
    exact h.begin op hfree.2
  | case3 ok =>
    intro hstep
    obtain ⟨c, hc, hstep⟩ := Option.bind_eq_some_iff.mp hstep
    split at hstep
    · cases hstep
    · next i rest hrest =>
      obtain ⟨p, hp, rfl⟩ := Option.map_eq_some_iff.mp hstep
      exact h.exec hc hrest hp
  | case4 =>
    intro hstep
    obtain ⟨c, hc, hstep⟩ := Option.bind_eq_some_iff.mp hstep
    split_ifs at hstep with hempty
    cases hstep
    exact h.finish hc (List.isEmpty_iff.mp hempty)
  | case5 k =>
    -- a container exits
    rintro ⟨⟩
    exact h.quieter Daemon.quieter_mark
  | case7 k hr =>
    -- a container is removed
    rintro ⟨⟩
    exact h.quieter Daemon.quieter_drop
  | case8 htick k hk =>
    -- `Watch` lists the containers
    rintro ⟨⟩
    split
    · refine h.retick rfl ?_ (h.recorded k hk)
      rintro _ ⟨⟩
      exact Or.inr hk
    · exact h
  | case9 =>
    rintro ⟨⟩
    exact h
  | case11 ok k htick hseen =>
    -- the container has stopped
    rintro ⟨⟩
    rw [htick] at hticking
    simp only [Bool.and_eq_true, Bool.not_eq_true'] at hseen
    exact h.retick rfl (fun _ hk => Or.inl (htick ▸ hk)) ⟨hticking, hseen.2⟩
  | case12 | case26 =>
    -- it runs, or the tick is over
    rintro ⟨⟩
    exact h.retick rfl (by rintro _ ⟨⟩) trivial
  | case14 k htick =>
    rintro ⟨⟩
    exact h.tryLock htick hdate
  | case16 htick =>
    -- the recorded container is dropped
    rintro ⟨⟩
    rw [htick] at hticking hinside
    obtain ⟨k, hk, hruns⟩ := hticking
    have hreplacing : w.replacing = .replaced (some k) false := by
      rw [World.replacing, hk, Option.any_some, hruns]
    rw [hreplacing]
    refine of_inside (hinside rfl).2 (by rintro _ ⟨⟩) rfl ?_ (h.respects.snoc rfl)
    rw [stopped_snoc]
    exact (hinside rfl).1
  | case18 ok htick d hd =>
    -- a new one is created
    rintro ⟨⟩
    rw [htick] at hticking hinside
    have hnone : w.status.containerID = none := hticking
    have hnext : w.daemon.nextID < d.nextID := by
      split_ifs at hd
      rw [World.create] at hd
      split_ifs at hd
      cases hd
      exact Nat.lt_succ_self _
    refine of_inside (hinside rfl).2 (by simp [hnone]) ⟨hnone, hnext⟩ ?_
      (h.respects.snoc (hinside rfl).1)
    rw [stopped_snoc]
    exact (hinside rfl).1
  | case19 ok htick | case22 ok k htick =>
    -- the daemon refuses
    rintro ⟨⟩
    rw [htick] at hinside
    exact of_inside (hinside rfl).2 h.recorded trivial (hinside rfl).1 h.respects
  | case21 k htick =>
    -- the new one is started
    rintro ⟨⟩
    rw [htick] at hticking hinside
    have hstarted : TickOk w.status.containerID (w.daemon.mark k true) (.started k) := hticking
    exact of_inside (hinside rfl).2 h.recorded hstarted (hinside rfl).1 h.respects
  | case24 k htick =>
    -- the new one is recorded
    rintro ⟨⟩
    rw [htick] at hticking hinside
    have hreplacing : w.replacing = .replaced none false := by
      rw [World.replacing, hticking.1, Option.any_none]
    have hafter : Watch.stopped (w.log ++ [.replaced none false]) = false := by
      rw [stopped_snoc]
      exact (hinside rfl).1
    have hreplaced : Respects (w.log ++ [.replaced none false]) := h.respects.snoc trivial
    rw [hreplacing, List.append_cons]
    refine of_inside (hinside rfl).2 ?_ trivial ?_ (hreplaced.snoc hafter)
    · rintro _ ⟨⟩
      exact hticking.2
    · rw [stopped_snoc]
      exact hafter
  | case1 | case6 | case10 | case13 | case15 | case17 | case20 | case23 | case25 | case27 =>
    rintro ⟨⟩

end Inv

/-! ## Any interleaving -/

/-- In every interleaving in which the container recorded, whenever `Watch` gets the lock, is the
    one it has inspected, the actions of the operators are respected. -/
theorem respects_of_upToDate (cfg : ManagerConfig) (spec : ConnectorSpec) (as : List Action)
    (w : World)
    (hrun : Run (Meeting (fun w a w' => w.step cfg a = some w') UpToDate) (World.init spec) as w) :
    Respects w.log := by
  have hinv : Inv w :=
    hrun.invariant (inv_init spec) fun _ _ _ h hstep => h.step hstep.1 hstep.2
  exact hinv.respects

def installed : ConnectorSpec := { id := "c", image := "registry/connector@sha256:1" }

def restarted : List Action :=
  [.begin .start, .exec true, .exec true, .exec true, .finish, .list, .exit 0, .inspect true,
    .prune 0, .tryLock, .clear, .create true, .start true, .mark, .leave]

theorem respects_restarted :
    ∃ w, Run (Meeting (fun w a w' => w.step ⟨"nats://bus:4222", ""⟩ a = some w') UpToDate)
        (World.init installed) restarted w ∧
      w.status.running = true ∧ Respects w.log := by
  have hrun : Run (Meeting (fun w a w' => w.step ⟨"nats://bus:4222", ""⟩ a = some w') UpToDate)
      (World.init installed) restarted _ := Run.meeting_of_foldlM rfl
  exact ⟨_, hrun, rfl, respects_of_upToDate _ _ _ _ hrun⟩

def overtakenByRestart : List Action :=
  [.begin .start, .exec true, .exec true, .exec true, .finish, .list, .exit 0, .inspect true,
    .begin .restart, .exec true, .exec true, .exec true, .exec true, .exec true, .exec true,
    .finish, .tryLock, .clear]

def overtakenByStop : List Action :=
  [.begin .start, .exec true, .exec true, .exec true, .finish, .list, .exit 0, .inspect true,
    .begin .stop, .exec true, .exec true, .finish, .prune 0, .tryLock, .clear, .create true]

/-- After the restart `Watch` drops the new container, which runs, from the registry; after the
    stop it creates a new one. -/
theorem not_respects_overtaken :
    (∃ w, Run (fun w a w' => w.step ⟨"nats://bus:4222", ""⟩ a = some w') (World.init installed)
        overtakenByRestart w ∧ ¬ Respects w.log) ∧
      ∃ w, Run (fun w a w' => w.step ⟨"nats://bus:4222", ""⟩ a = some w') (World.init installed)
        overtakenByStop w ∧ ¬ Respects w.log := by
  constructor
  · refine ⟨_, Run.of_foldlM rfl, ?_⟩
    intro h
    have hreplaced := h [.began .start, .returned .start, .began .restart, .returned .restart]
      (.replaced (some 1) true) [] rfl
    cases hreplaced
  · refine ⟨_, Run.of_foldlM rfl, ?_⟩
    intro h
    have hcreated := h [.began .start, .returned .start, .began .stop, .returned .stop,
      .replaced none false] (.created 1) [] rfl
    cases hcreated

end Watch

end NexusGateway.Lifecycle
