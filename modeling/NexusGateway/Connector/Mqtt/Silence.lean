/-
When the freshness floor speaks.  The table holds for every topic the time
its last event carries: of a message the time its payload gives, of the
floor the time of the tick, whether its event was taken or not.  The floor
compares that with the clock, so it speaks for the silent topics if the
payloads tell the time of their publication and no event of its own is lost.
-/

import NexusGateway.Connector.Mqtt.Repeat

namespace NexusGateway.Connector.Mqtt.Freshness

open Lib StoreForward

/-! ## One tick -/

/-- A step of the floor, with its event taken. -/
def Action.ofFloor : Action → Bool
  | .resolve | .lock => true
  | .emit ok => ok
  | _ => false

/-- The events of the floor can be encoded. -/
def Encodes (cfg : ReceiveConfig) : Prop :=
  ∀ topic point value now, (cfg.marshal (floorEvent cfg topic point value now)).isSome = true

theorem landed_floorEmitted {cfg : ReceiveConfig} (hencodes : Encodes cfg) (topic : String)
    (point : PointConfig) (value : UInt64) (now : Int) :
    (floorEmitted cfg topic point value now true).landed = true := by
  simp [Emitted.landed, floorEmitted, hencodes topic point value now]

structure Visited (s : State) (done : List String) (mid : State) : Prop where
  topics : mid.topics = s.topics
  log : ∃ new, mid.log = s.log ++ new ∧
    ∀ x, (∃ e ∈ new, e.topic = x ∧ e.landed = true) ↔
      x ∈ done ∧ (s.topics.resolve x).isSome = true

/-- Where the floor is in its list; what it has not looked at is in the table as before. -/
inductive Passing (s : State) (now : Int) (due : List String) (mid : State) : Prop
  | next {done rest : List String} : due = done ++ rest → mid.floor = .next now rest →
      Visited s done mid → (∀ x ∈ rest, mid.lkv.lookup x = s.lkv.lookup x) →
      Passing s now due mid
  | resolved {done rest : List String} {x : String} : due = done ++ x :: rest →
      mid.floor = .resolved now x ((s.topics.resolve x).map Prod.fst) rest →
      Visited s done mid → (∀ y ∈ x :: rest, mid.lkv.lookup y = s.lkv.lookup y) →
      Passing s now due mid
  | taken {done rest : List String} {x : String} {point : PointConfig} {v : UInt64} :
      due = done ++ x :: rest → mid.floor = .taken now x point v rest →
      (s.topics.resolve x).isSome = true → Visited s done mid →
      (∀ y ∈ rest, mid.lkv.lookup y = s.lkv.lookup y) → Passing s now due mid

section Passes

variable {cfg : ReceiveConfig} {interval now : Int} {s mid mid' t : State} {due : List String}
  {a : Action}

theorem Visited.prune {done : List String} {x : String} (h : Visited s done mid)
    (hx : s.topics.resolve x = none) (lkv : Dict String (UInt64 × Int)) (floor : Floor) :
    Visited s (done ++ [x]) { mid with lkv := lkv, floor := floor } := by
  obtain ⟨new, hnew, hspoken⟩ := h.log
  refine ⟨h.topics, new, hnew, fun y => ?_⟩
  rw [hspoken y, List.mem_append, List.mem_singleton]
  constructor
  · exact fun hy => ⟨Or.inl hy.1, hy.2⟩
  · rintro ⟨hy | rfl, hrouted⟩
    · exact ⟨hy, hrouted⟩
    · rw [hx] at hrouted
      cases hrouted

theorem Visited.emit {done : List String} {x : String} (h : Visited s done mid)
    (hx : (s.topics.resolve x).isSome = true) {e : Emitted} (he : e.topic = x)
    (hlanded : e.landed = true) (floor : Floor) :
    Visited s (done ++ [x]) { mid with floor := floor, log := mid.log ++ [e] } := by
  obtain ⟨new, hnew, hspoken⟩ := h.log
  refine ⟨h.topics, new ++ [e], by rw [hnew, List.append_assoc], fun y => ?_⟩
  rw [List.mem_append, List.mem_singleton, or_and_right, ← hspoken y]
  constructor
  · rintro ⟨e', he', rfl, hlanded'⟩
    rcases List.mem_append.mp he' with hold | hlast
    · exact Or.inl ⟨e', hold, rfl, hlanded'⟩
    · rw [List.mem_singleton.mp hlast, he]
      exact Or.inr ⟨rfl, hx⟩
  · rintro (⟨e', he', htopic⟩ | ⟨rfl, -⟩)
    · exact ⟨e', List.mem_append_left _ he', htopic⟩
    · exact ⟨e, List.mem_append_right _ (List.mem_singleton_self e), he, hlanded⟩

theorem Passing.step (hencodes : Encodes cfg) (h : Passing s now due mid) (hnodup : due.Nodup)
    (hdue : ∀ x ∈ due, ∃ v last, s.lkv.lookup x = some (v, last) ∧ interval ≤ now - last)
    (hstep : mid.Steps cfg interval a mid') (ha : a.ofFloor = true) :
    Passing s now due mid' := by
  cases h with
  | next hsplit hfloor hvisited htable =>
    cases step_effect hstep with
    | published | recorded | applied | ticked => cases ha
    | resolved hfloor' =>
      cases hfloor.symm.trans hfloor'
      rw [hvisited.topics]
      exact .resolved hsplit rfl ⟨rfl, hvisited.log⟩ htable
    | pruned hfloor' => cases hfloor.symm.trans hfloor'
    | skipped hfloor' _ => cases hfloor.symm.trans hfloor'
    | took hfloor' _ _ => cases hfloor.symm.trans hfloor'
    | emitted _ hfloor' => cases hfloor.symm.trans hfloor'
  | @resolved done rest x hsplit hfloor hvisited htable =>
    have hrest : x ∉ rest := by
      rw [hsplit] at hnodup
      exact (List.nodup_cons.mp hnodup.of_append_right).1
    have hne : ∀ y ∈ rest, y ≠ x := fun y hy heq => hrest (heq ▸ hy)
    have hsplit' : due = (done ++ [x]) ++ rest := by
      rw [hsplit, List.append_assoc, List.singleton_append]
    cases step_effect hstep with
    | published | recorded | applied | ticked => cases ha
    | resolved hfloor' | emitted _ hfloor' => cases hfloor.symm.trans hfloor'
    | pruned hfloor' =>
      rw [hfloor] at hfloor'
      injection hfloor' with hnow hx hpoint hlist
      subst hnow hx hlist
      refine .next hsplit' rfl (hvisited.prune (Option.map_eq_none_iff.mp hpoint) _ _) ?_
      intro y hy
      rw [Dict.lookup_erase_ite, if_neg (hne y hy)]
      exact htable y (List.mem_cons_of_mem _ hy)
    | skipped hfloor' hrecent =>
      rw [hfloor] at hfloor'
      injection hfloor' with hnow hx hpoint hlist
      subst hnow hx hlist
      -- what was due at the tick still is
      have hmem : x ∈ due := by
        rw [hsplit]
        exact List.mem_append_right _ (List.mem_cons_self ..)
      obtain ⟨v, last, hlookup, hold⟩ := hdue x hmem
      have hlt := hrecent v last ((htable x (List.mem_cons_self ..)).trans hlookup)
      omega
    | took hfloor' _ _ =>
      rw [hfloor] at hfloor'
      injection hfloor' with hnow hx hpoint hlist
      subst hnow hx hlist
      have hrouted : (s.topics.resolve x).isSome = true := by
        rw [← Option.isSome_map (f := Prod.fst), hpoint]
        rfl
      refine .taken hsplit rfl hrouted ⟨hvisited.topics, hvisited.log⟩ ?_
      intro y hy
      rw [Dict.lookup_insert_ite, if_neg (hne y hy)]
      exact htable y (List.mem_cons_of_mem _ hy)
  | @taken done rest x point v hsplit hfloor hrouted hvisited htable =>
    have hsplit' : due = (done ++ [x]) ++ rest := by
      rw [hsplit, List.append_assoc, List.singleton_append]
    cases step_effect hstep with
    | published | recorded | applied | ticked => cases ha
    | resolved hfloor' => cases hfloor.symm.trans hfloor'
    | pruned hfloor' => cases hfloor.symm.trans hfloor'
    | skipped hfloor' _ => cases hfloor.symm.trans hfloor'
    | took hfloor' _ _ => cases hfloor.symm.trans hfloor'
    | emitted ok hfloor' =>
      cases hfloor.symm.trans hfloor'
      have htaken : ok = true := ha
      subst htaken
      exact .next hsplit' rfl
        (hvisited.emit hrouted rfl (landed_floorEmitted hencodes x point v now) _) htable

end Passes

/-! ## What the table says -/

def lastEntry (log : List Emitted) (topic : String) : Option Emitted :=
  lastOf (fun _ => true) log topic

/-- A message is a number, its payload gives the time of its publication, which is not before
    that of any event so far; an event of the floor is taken. -/
def Timely (s : State) : Action → Prop
  | .publish m time => (numberOf m.value).isSome = true ∧ m.timestamp = time ∧
      ∀ e ∈ s.log, e.time ≤ time
  | .emit ok => ok = true
  | _ => True

def QuietTimely (s : State) (a : Action) : Prop := Quiet s a ∧ Timely s a

structure Stamped (s : State) : Prop where
  numbers : ∀ m ∈ s.landed, (numberOf m.value).isSome = true
  landed : ∀ m ∈ s.landed, ∃ e, lastEntry s.log m.topic = some e ∧ e.stamp = m.timestamp
  recorded : ∀ {topic v t}, s.lkv.lookup topic = some (v, t) →
    (∀ m ∈ s.landed, m.topic ≠ topic) → s.floor.holding ≠ some topic →
    ∃ e, lastEntry s.log topic = some e ∧ e.stamp = t
  taken : ∀ {now topic point v due}, s.floor = .taken now topic point v due →
    s.lkv.lookup topic = some (v, now) ∧ ∀ m ∈ s.landed, m.topic ≠ topic

section Stamps

variable {cfg : ReceiveConfig} {interval : Int} {s t : State} {a : Action}

theorem lastEntry_concat_of_ne {e : Emitted} {topic : String} (h : e.topic ≠ topic)
    (log : List Emitted) : lastEntry (log ++ [e]) topic = lastEntry log topic := by
  rw [lastEntry, lastOf_concat, if_neg fun hsame => h hsame.1]
  rfl

theorem lastEntry_concat_self (log : List Emitted) (e : Emitted) :
    lastEntry (log ++ [e]) e.topic = some e := by
  rw [lastEntry, lastOf_concat, if_pos ⟨rfl, rfl⟩]

theorem Stamped.publish (h : Stamped s) {m : Telemetry} {time : Int}
    (hquiet : QuietTimely s (.publish m time)) :
    Stamped { s with landed := s.landed ++ [m], log := s.log ++ [m.emitted cfg time] } := by
  obtain ⟨⟨hfree, hfloor⟩, hnumber, -⟩ := hquiet
  have hother : ∀ topic, m.topic ≠ topic →
      lastEntry (s.log ++ [m.emitted cfg time]) topic = lastEntry s.log topic :=
    fun topic hne => lastEntry_concat_of_ne (e := m.emitted cfg time) hne s.log
  constructor
  case numbers =>
    intro m' hm'
    rcases List.mem_append.mp hm' with hm' | hm'
    · exact h.numbers m' hm'
    · rw [List.mem_singleton.mp hm']
      exact hnumber
  case landed =>
    intro m' hm'
    rcases List.mem_append.mp hm' with hm' | hm'
    · rw [hother _ (hfree m' hm').symm]
      exact h.landed m' hm'
    · rw [List.mem_singleton.mp hm']
      exact ⟨m.emitted cfg time, lastEntry_concat_self s.log (m.emitted cfg time), rfl⟩
  case recorded =>
    intro topic v t hlookup hnone hholding
    rw [hother _ (hnone m (List.mem_append_right _ (List.mem_singleton_self m)))]
    exact h.recorded hlookup (fun m' hm' => hnone m' (List.mem_append_left _ hm')) hholding
  case taken =>
    intro now topic point v due htaken
    obtain ⟨hlookup, hnone⟩ := h.taken htaken
    refine ⟨hlookup, fun m' hm' => ?_⟩
    rcases List.mem_append.mp hm' with hm' | hm'
    · exact hnone m' hm'
    · rw [List.mem_singleton.mp hm']
      rintro rfl
      exact hfloor (by rw [htaken]; rfl)

theorem Stamped.record (h : Stamped s) {n : Nat} {m : Telemetry} (hm : s.landed[n]? = some m) :
    Stamped { s with
      lkv := Shutdown.recordValue s.lkv m.pending
      landed := s.landed.eraseIdx n } := by
  have hmem : m ∈ s.landed := List.mem_iff_getElem?.mpr ⟨n, hm⟩
  have hnumber := h.numbers m hmem
  constructor
  case numbers => exact fun m' hm' => h.numbers m' (List.mem_of_mem_eraseIdx hm')
  case landed => exact fun m' hm' => h.landed m' (List.mem_of_mem_eraseIdx hm')
  case recorded =>
    intro topic v t hlookup hnone hholding
    rw [lookup_recordValue] at hlookup
    split_ifs at hlookup with hthis
    · obtain ⟨v', -, heq⟩ := Option.map_eq_some_iff.mp hlookup
      cases heq
      rw [hthis.1]
      exact h.landed m hmem
    · refine h.recorded hlookup (fun m' hm' htopic => ?_) hholding
      rcases mem_or_mem_eraseIdx hm hm' with rfl | hrest
      · exact hthis ⟨htopic.symm, hnumber⟩
      · exact hnone m' hrest htopic
  case taken =>
    intro now topic point v due htaken
    obtain ⟨hlookup, hnone⟩ := h.taken htaken
    refine ⟨?_, fun m' hm' => hnone m' (List.mem_of_mem_eraseIdx hm')⟩
    rw [lookup_recordValue, if_neg fun hthis => hnone m hmem hthis.1.symm]
    exact hlookup

theorem Stamped.goesOn (h : Stamped s) (hbefore : s.floor.holding = none) {floor : Floor}
    (hafter : floor.holding = none) : Stamped { s with floor := floor } := by
  refine ⟨h.numbers, h.landed, fun hlookup hnone _ => h.recorded hlookup hnone ?_, ?_⟩
  · rw [hbefore]
    nofun
  · intro now topic point v due htaken
    have hheld : floor.holding = some topic := congrArg Floor.holding htaken
    rw [hafter] at hheld
    cases hheld

theorem Stamped.step (h : Stamped s) (hstep : s.Steps cfg interval a t)
    (hquiet : QuietTimely s a) : Stamped t := by
  cases step_effect hstep with
  | published m time => exact h.publish hquiet
  | recorded hm => exact h.record hm
  | applied idx => exact { h with }
  | ticked hfloor _ | resolved hfloor | skipped hfloor _ => exact h.goesOn (by rw [hfloor]; rfl) rfl
  | pruned hfloor =>
    refine ⟨h.numbers, h.landed, fun hlookup hnone _ => ?_, nofun⟩
    rw [Dict.lookup_erase_ite] at hlookup
    split_ifs at hlookup
    exact h.recorded hlookup hnone (by rw [hfloor]; nofun)
  | @took now lastEmit topic point value due hfloor hlookup _ =>
    refine ⟨h.numbers, h.landed, fun {x v t} hx hnone hholding => ?_, fun htaken => ?_⟩
    · have hne : x ≠ topic := by
        rintro rfl
        exact hholding rfl
      rw [Dict.lookup_insert_ite, if_neg hne] at hx
      exact h.recorded hx hnone (by rw [hfloor]; nofun)
    · cases htaken
      refine ⟨by rw [Dict.lookup_insert_ite, if_pos rfl], fun m hm htopic => ?_⟩
      have hlooking : s.floor.looking = some topic := by rw [hfloor]; rfl
      exact hquiet.1 m hm (hlooking.trans (congrArg some htopic.symm))
  | @emitted now topic point value due ok hfloor =>
    obtain ⟨hheld, hfree⟩ := h.taken hfloor
    have hother : ∀ x, x ≠ topic →
        lastEntry (s.log ++ [floorEmitted cfg topic point value now ok]) x =
          lastEntry s.log x := fun x hne =>
      lastEntry_concat_of_ne (e := floorEmitted cfg topic point value now ok) hne.symm s.log
    refine ⟨h.numbers, fun m hm => ?_, fun {x v t} hx hnone _ => ?_, nofun⟩
    · rw [hother _ (hfree m hm)]
      exact h.landed m hm
    · by_cases hne : x = topic
      · subst hne
        rw [hheld] at hx
        cases hx
        exact ⟨floorEmitted cfg x point value now ok,
          lastEntry_concat_self s.log (floorEmitted cfg x point value now ok), rfl⟩
      · rw [hother x hne]
        refine h.recorded hx hnone ?_
        rw [hfloor]
        exact fun heq => hne (Option.some.inj heq).symm

/-- Every event has landed and carries the time of its publication, and the last of a topic
    is the latest, also counting one that the floor is about to publish. -/
structure InTime (s : State) : Prop where
  stamped : Stamped s
  told : ∀ e ∈ s.log, e.stamp = e.time ∧ e.landed = true
  ordered : ∀ {topic e}, lastEntry s.log topic = some e →
    ∀ e' ∈ s.log, e'.topic = topic → e'.time ≤ e.time
  held : ∀ {now topic point v due}, s.floor = .taken now topic point v due →
    ∀ e ∈ s.log, e.topic = topic → e.time ≤ now

theorem mem_of_lastEntry {log : List Emitted} {topic : String} {e : Emitted}
    (h : lastEntry log topic = some e) : e ∈ log :=
  List.mem_reverse.mp (List.mem_of_find?_eq_some h)

theorem ordered_concat {log : List Emitted} {e : Emitted}
    (h : ∀ {topic e}, lastEntry log topic = some e →
      ∀ e' ∈ log, e'.topic = topic → e'.time ≤ e.time)
    (he : ∀ e' ∈ log, e'.topic = e.topic → e'.time ≤ e.time) {topic : String} {last : Emitted}
    (hlast : lastEntry (log ++ [e]) topic = some last) :
    ∀ e' ∈ log ++ [e], e'.topic = topic → e'.time ≤ last.time := by
  intro e' he' htopic
  by_cases hsame : e.topic = topic
  · subst hsame
    rw [lastEntry_concat_self] at hlast
    cases hlast
    rcases List.mem_append.mp he' with hold | hnew
    · exact he e' hold htopic
    · rw [List.mem_singleton.mp hnew]
  · rw [lastEntry_concat_of_ne hsame] at hlast
    rcases List.mem_append.mp he' with hold | hnew
    · exact h hlast e' hold htopic
    · rw [List.mem_singleton.mp hnew] at htopic
      exact absurd htopic hsame

theorem InTime.publish (h : InTime s) {m : Telemetry} {time : Int}
    (hstamped : Stamped { s with landed := s.landed ++ [m], log := s.log ++ [m.emitted cfg time] })
    (hquiet : QuietTimely s (.publish m time)) :
    InTime { s with landed := s.landed ++ [m], log := s.log ++ [m.emitted cfg time] } := by
  obtain ⟨⟨-, hfloor⟩, -, htime, hlater⟩ := hquiet
  refine ⟨hstamped, fun e he => ?_, ?_, ?_⟩
  · rcases List.mem_append.mp he with hold | hnew
    · exact h.told e hold
    · rw [List.mem_singleton.mp hnew]
      exact ⟨htime, rfl⟩
  · exact ordered_concat h.ordered fun e' he' _ => hlater e' he'
  · intro now topic point v due htaken e he htopic
    rcases List.mem_append.mp he with hold | hnew
    · exact h.held htaken e hold htopic
    · rw [List.mem_singleton.mp hnew] at htopic
      have hheld : s.floor.holding = some m.topic := by
        rw [show s.floor = _ from htaken]
        exact congrArg some htopic.symm
      exact absurd hheld hfloor

theorem InTime.step (hinterval : 0 < interval) (hencodes : Encodes cfg) (h : InTime s)
    (hstep : s.Steps cfg interval a t) (hquiet : QuietTimely s a) : InTime t := by
  have hstamped := h.stamped.step hstep hquiet
  cases step_effect hstep with
  | published m time => exact h.publish hstamped hquiet
  | recorded _ | applied _ => exact ⟨hstamped, h.told, h.ordered, h.held⟩
  | ticked _ _ | resolved _ | pruned _ | skipped _ _ => exact ⟨hstamped, h.told, h.ordered, nofun⟩
  | @took now lastEmit topic point value due hfloor hlookup hold =>
    refine ⟨hstamped, h.told, h.ordered, fun htaken e he htopic => ?_⟩
    cases htaken
    -- what the floor compared with the tick is the time of the last event
    have hlooking : s.floor.looking = some topic := by rw [hfloor]; rfl
    obtain ⟨last, hlast, hstamp⟩ := h.stamped.recorded hlookup
      (fun m hm heq => hquiet.1 m hm (hlooking.trans (congrArg some heq.symm)))
      (by rw [hfloor]; nofun)
    have htime := (h.told last (mem_of_lastEntry hlast)).1
    have hle := h.ordered hlast e he htopic
    omega
  | @emitted now topic point value due ok hfloor =>
    have htaken : ok = true := hquiet.2
    subst htaken
    refine ⟨hstamped, fun e he => ?_, ?_, nofun⟩
    · rcases List.mem_append.mp he with hold | hnew
      · exact h.told e hold
      · rw [List.mem_singleton.mp hnew]
        exact ⟨rfl, landed_floorEmitted hencodes topic point value now⟩
    · exact ordered_concat h.ordered (h.held hfloor)

end Stamps

/-! ## Silence -/

instance (s : State) : (a : Action) → Decidable (Timely s a)
  | .publish _ _ => inferInstanceAs (Decidable (_ ∧ _ ∧ _))
  | .emit _ => inferInstanceAs (Decidable (_ = _))
  | .record _ | .apply _ | .tick _ _ | .resolve | .lock => .isTrue trivial

instance (s : State) (a : Action) : Decidable (QuietTimely s a) :=
  inferInstanceAs (Decidable (_ ∧ _))

end NexusGateway.Connector.Mqtt.Freshness
