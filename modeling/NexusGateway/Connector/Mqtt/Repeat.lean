/-
What the freshness floor repeats: the last number of the topic, which is its
last value only while the topic sends numbers.  A string or a boolean is
published but not recorded, and the floor goes on with the number before it.
-/

import NexusGateway.Connector.Mqtt.Freshness

namespace NexusGateway.Connector.Mqtt.Freshness

open Lib StoreForward

/-! ## Logs -/

def Emitted.number (e : Emitted) : Option UInt64 :=
  if e.origin = .message then e.event.value.bind numberOf else none

def lastNumber (log : List Emitted) (topic : String) : Option UInt64 :=
  (lastOf (fun e => e.number.isSome) log topic).bind Emitted.number

def Repeats (log : List Emitted) : Prop :=
  EachAfter (fun pre e => e.origin = .floor true → latest pre e.topic = e.event.value) log

def AfterNumbers (log : List Emitted) : Prop :=
  EachAfter (fun pre e => e.origin = .floor true →
    ∃ bits, lastMessage pre e.topic = some (.valueNum bits)) log

section Logs

variable {log : List Emitted} {e : Emitted} {topic : String}

theorem latest_concat : latest (log ++ [e]) topic =
    if e.topic = topic ∧ e.landed = true then e.event.value else latest log topic :=
  bind_lastOf_concat ..

theorem lastMessage_concat : lastMessage (log ++ [e]) topic =
    if e.topic = topic ∧ e.origin = .message then e.event.value else lastMessage log topic := by
  rw [lastMessage, bind_lastOf_concat]
  simp only [decide_eq_true_eq]
  rfl

theorem lastNumber_concat : lastNumber (log ++ [e]) topic =
    if e.topic = topic ∧ e.number.isSome = true then e.number else lastNumber log topic :=
  bind_lastOf_concat ..

theorem latest_eq_lastMessage
    (h : EachAfter (fun pre e => e.origin = .floor true →
      latest pre e.topic = e.event.value ∨ lastMessage pre e.topic = e.event.value) log)
    (topic : String) : latest log topic = lastMessage log topic := by
  induction log using List.reverseRecOn with
  | nil => rfl
  | append_singleton log e ih =>
    have hbefore := ih h.of_append
    rw [latest_concat, lastMessage_concat]
    by_cases htopic : e.topic = topic
    · subst htopic
      cases horigin : e.origin with
      | message => simp [Emitted.landed, horigin]
      | floor ok =>
        cases ok with
        | false => simp [Emitted.landed, horigin, hbefore]
        | true =>
          have hrepeat := h.last horigin
          rw [hbefore, or_self] at hrepeat
          simp [Emitted.landed, horigin, hrepeat]
    · simp [htopic, hbefore]

theorem repeats_iff : Repeats log ↔
    EachAfter (fun pre e => e.origin = .floor true →
      lastMessage pre e.topic = e.event.value) log := by
  constructor
  · intro h pre e post hsplit horigin
    have hpre : Repeats pre := by
      rw [hsplit] at h
      exact h.of_append
    rw [← latest_eq_lastMessage fun p x q hq hx => Or.inl (hpre p x q hq hx)]
    exact h pre e post hsplit horigin
  · intro h pre e post hsplit horigin
    have hpre : EachAfter (fun pre e => e.origin = .floor true →
        lastMessage pre e.topic = e.event.value) pre := by
      rw [hsplit] at h
      exact h.of_append
    rw [latest_eq_lastMessage fun p x q hq hx => Or.inr (hpre p x q hq hx)]
    exact h pre e post hsplit horigin

theorem lastNumber_of_lastMessage {bits : UInt64}
    (h : lastMessage log topic = some (.valueNum bits)) : lastNumber log topic = some bits := by
  induction log using List.reverseRecOn with
  | nil => cases h
  | append_singleton log e ih =>
    rw [lastMessage_concat] at h
    rw [lastNumber_concat]
    split_ifs at h with hmessage
    · have hnumber : e.number = some bits := by
        rw [Emitted.number, if_pos hmessage.2, h]
        rfl
      rw [if_pos ⟨hmessage.1, by rw [hnumber]; rfl⟩, hnumber]
    · rw [if_neg, ih h]
      rintro ⟨htopic, hsome⟩
      rw [Emitted.number] at hsome
      split_ifs at hsome with horigin
      · exact hmessage ⟨htopic, horigin⟩
      · cases hsome

end Logs

/-! ## Quiet runs -/

def Floor.holding : Floor → Option String
  | .taken _ topic _ _ _ => some topic
  | _ => none

def Floor.looking : Floor → Option String
  | .resolved _ topic _ _ => some topic
  | _ => none

/-- The publisher and the floor do not meet on a topic: a message is recorded before the
    next one lands and before the floor looks at its topic, and none lands while the floor
    holds a value of its topic. -/
def Quiet (s : State) : Action → Prop
  | .publish m _ => (∀ m' ∈ s.landed, m'.topic ≠ m.topic) ∧ s.floor.holding ≠ some m.topic
  | .lock => ∀ m ∈ s.landed, s.floor.looking ≠ some m.topic
  | _ => True

instance (s : State) : (a : Action) → Decidable (Quiet s a)
  | .publish _ _ => inferInstanceAs (Decidable (_ ∧ _))
  | .lock => inferInstanceAs (Decidable (∀ m ∈ s.landed, _))
  | .record _ => .isTrue trivial
  | .apply _ => .isTrue trivial
  | .tick _ _ => .isTrue trivial
  | .resolve => .isTrue trivial
  | .emit _ => .isTrue trivial

structure Inv (s : State) : Prop where
  landed : ∀ m ∈ s.landed, ∀ v, numberOf m.value = some v → lastNumber s.log m.topic = some v
  recorded : ∀ {topic v t}, s.lkv.lookup topic = some (v, t) →
    (∀ m ∈ s.landed, m.topic = topic → numberOf m.value = none) →
    lastNumber s.log topic = some v
  taken : ∀ {now topic point v due}, s.floor = .taken now topic point v due →
    lastNumber s.log topic = some v
  repeated : EachAfter (fun pre e => ∀ ok, e.origin = .floor ok →
    ∃ v, e.event.value = some (.valueNum v) ∧ lastNumber pre e.topic = some v) s.log

section Steps

variable {cfg : ReceiveConfig} {interval : Int} {s t : State} {a : Action}

theorem number_emitted (m : Telemetry) (time : Int) :
    (m.emitted cfg time).number = numberOf m.value := rfl

theorem number_floorEmitted (topic : String) (point : PointConfig) (value : UInt64) (now : Int)
    (ok : Bool) : (floorEmitted cfg topic point value now ok).number = none := rfl

theorem lastNumber_publish_of_ne {m : Telemetry} {topic : String} (h : m.topic ≠ topic)
    (log : List Emitted) (time : Int) :
    lastNumber (log ++ [m.emitted cfg time]) topic = lastNumber log topic := by
  rw [lastNumber_concat, if_neg]
  exact fun hsame => h hsame.1

theorem lastNumber_floor (log : List Emitted) (topic : String) (point : PointConfig)
    (value : UInt64) (now : Int) (ok : Bool) (x : String) :
    lastNumber (log ++ [floorEmitted cfg topic point value now ok]) x = lastNumber log x := by
  rw [lastNumber_concat, number_floorEmitted, if_neg]
  rintro ⟨-, hsome⟩
  cases hsome

theorem mem_or_mem_eraseIdx {n : Nat} {m m' : Telemetry} {l : List Telemetry}
    (hn : l[n]? = some m) (hm' : m' ∈ l) : m' = m ∨ m' ∈ l.eraseIdx n := by
  obtain ⟨i, hi⟩ := List.mem_iff_getElem?.mp hm'
  by_cases hin : i = n
  · rw [hin, hn] at hi
    exact Or.inl (Option.some.inj hi).symm
  · exact Or.inr (List.mem_eraseIdx_iff_getElem?.mpr ⟨i, hin, hi⟩)

theorem lookup_recordValue (lkv : Dict String (UInt64 × Int)) (m : Telemetry) (topic : String) :
    (Shutdown.recordValue lkv m.pending).lookup topic =
      if topic = m.topic ∧ (numberOf m.value).isSome = true then
        (numberOf m.value).map fun v => (v, m.timestamp)
      else lkv.lookup topic := by
  cases hnumber : numberOf m.value with
  | none =>
    rw [Shutdown.recordValue_none hnumber]
    simp
  | some v =>
    rw [Shutdown.recordValue_some hnumber, Dict.lookup_insert_ite]
    simp only [Option.isSome_some, and_true, Option.map_some]
    rfl

theorem Inv.publish (h : Inv s) {m : Telemetry} {time : Int} (hquiet : Quiet s (.publish m time)) :
    Inv { s with landed := s.landed ++ [m], log := s.log ++ [m.emitted cfg time] } := by
  obtain ⟨hfree, hfloor⟩ := hquiet
  constructor
  case landed =>
    intro m' hm' v hv
    rcases List.mem_append.mp hm' with hm' | hm'
    · rw [lastNumber_publish_of_ne (hfree m' hm').symm]
      exact h.landed m' hm' v hv
    · rw [List.mem_singleton.mp hm'] at hv ⊢
      rw [lastNumber_concat, number_emitted, hv, if_pos ⟨rfl, rfl⟩]
  case recorded =>
    intro topic v t hlookup hnumbers
    have hold : lastNumber s.log topic = some v :=
      h.recorded hlookup fun m' hm' => hnumbers m' (List.mem_append_left _ hm')
    by_cases htopic : m.topic = topic
    · have hnone := hnumbers m (List.mem_append_right _ (List.mem_singleton_self m)) htopic
      rw [lastNumber_concat, number_emitted, hnone, if_neg nofun]
      exact hold
    · rw [lastNumber_publish_of_ne htopic]
      exact hold
  case taken =>
    intro now topic point v due htaken
    have hne : m.topic ≠ topic := by
      rintro rfl
      exact hfloor (by rw [htaken]; rfl)
    rw [lastNumber_publish_of_ne hne]
    exact h.taken htaken
  case repeated => exact h.repeated.snoc nofun

theorem Inv.record (h : Inv s) {n : Nat} {m : Telemetry} (hm : s.landed[n]? = some m) :
    Inv { s with
      lkv := Shutdown.recordValue s.lkv m.pending
      landed := s.landed.eraseIdx n } := by
  have hmem : m ∈ s.landed := List.mem_iff_getElem?.mpr ⟨n, hm⟩
  refine ⟨fun m' hm' => h.landed m' (List.mem_of_mem_eraseIdx hm'), ?_, h.taken, h.repeated⟩
  intro topic v t hlookup hnumbers
  rw [lookup_recordValue] at hlookup
  split_ifs at hlookup with hthis
  · obtain ⟨v', hv', heq⟩ := Option.map_eq_some_iff.mp hlookup
    cases heq
    rw [hthis.1]
    exact h.landed m hmem v hv'
  · apply h.recorded hlookup
    intro m' hm' htopic
    rcases mem_or_mem_eraseIdx hm hm' with rfl | hrest
    · rw [not_and, Option.not_isSome_iff_eq_none] at hthis
      exact hthis htopic.symm
    · exact hnumbers m' hrest htopic

theorem Inv.step (h : Inv s) (hstep : s.Steps cfg interval a t) (hquiet : Quiet s a) : Inv t := by
  cases step_effect hstep with
  | published m time => exact h.publish hquiet
  | recorded hm => exact h.record hm
  | applied idx => exact { h with }
  | ticked _ _ | resolved _ => exact { h with taken := nofun }
  | pruned _ =>
    refine ⟨h.landed, fun hlookup => ?_, nofun, h.repeated⟩
    rw [Dict.lookup_erase_ite] at hlookup
    split_ifs at hlookup
    exact h.recorded hlookup
  | skipped _ _ => exact { h with taken := nofun }
  | @took now lastEmit topic point value due hfloor hlookup _ =>
    have hnumber : lastNumber s.log topic = some value := by
      apply h.recorded hlookup
      intro m hm htopic
      have hlooking : s.floor.looking = some topic := by rw [hfloor]; rfl
      exact absurd (hlooking.trans (congrArg some htopic.symm)) (hquiet m hm)
    refine ⟨h.landed, fun {x v t} hx hnumbers => ?_, fun htaken => ?_, h.repeated⟩
    · rw [Dict.lookup_insert_ite] at hx
      split_ifs at hx with hsame
      · cases hx
        rw [hsame]
        exact hnumber
      · exact h.recorded hx hnumbers
    · cases htaken
      exact hnumber
  | @emitted now topic point value due ok hfloor =>
    refine ⟨fun m hm v hv => ?_, fun hlookup hnumbers => ?_, nofun, ?_⟩
    · rw [lastNumber_floor]
      exact h.landed m hm v hv
    · rw [lastNumber_floor]
      exact h.recorded hlookup hnumbers
    · exact h.repeated.snoc fun _ _ => ⟨value, rfl, h.taken hfloor⟩

end Steps

/-- Telemetry of any kind on any topics, with ticks and applies between: where the publisher
    and the floor do not meet on a topic, the floor repeats the latest value of every topic
    exactly if it only speaks for topics whose last message is a number. -/
theorem repeats_iff_afterNumbers {cfg : ReceiveConfig} {interval : Int} {idx : TopicIndex}
    {as : List Action} {s : State}
    (hrun : Run (Meeting (State.Steps cfg interval) Quiet) { topics := idx } as s) :
    Repeats s.log ↔ AfterNumbers s.log := by
  have hinit : Inv { topics := idx } := ⟨nofun, nofun, nofun, eachAfter_nil⟩
  have hinv : Inv s := hrun.invariant hinit fun _ _ _ h hstep => h.step hstep.1 hstep.2
  rw [repeats_iff]
  constructor
  · intro h pre e post hsplit horigin
    obtain ⟨v, hv, -⟩ := hinv.repeated pre e post hsplit true horigin
    exact ⟨v, (h pre e post hsplit horigin).trans hv⟩
  · intro h pre e post hsplit horigin
    obtain ⟨v, hv, hnumber⟩ := hinv.repeated pre e post hsplit true horigin
    obtain ⟨bits, hlast⟩ := h pre e post hsplit horigin
    rw [lastNumber_of_lastMessage hlast, Option.some.injEq] at hnumber
    rw [hlast, hv, hnumber]

def oneIndex : TopicIndex := newTopicIndex [{ topic := "a" }] [] ""

def message (value : FrameValue) (timestamp : Int) : Telemetry :=
  { packet := { topic := "a" }, point := { topic := "a" }, value := value, timestamp := timestamp }

def oneNumber : List Action :=
  [.publish (message (.valueNum 0x4035000000000000) 0) 0, .record 0, .tick 70 ["a"], .resolve,
    .lock, .emit true]

/-- The floor publishes 21. -/
theorem repeats_after_number :
    ∃ s, Run (Meeting (State.Steps plainConfig 60) Quiet) { topics := oneIndex } oneNumber s ∧
      s.log.length = 2 ∧ AfterNumbers s.log ∧ (Repeats s.log ↔ AfterNumbers s.log) := by
  obtain ⟨s, hs, hlog⟩ : ∃ s, oneNumber.foldlM (fun s a => if Quiet s a then
      State.step plainConfig 60 s a else none) { topics := oneIndex } = some s ∧
      s.log = [(message (.valueNum 0x4035000000000000) 0).emitted plainConfig 0,
        floorEmitted plainConfig "a" { topic := "a" } 0x4035000000000000 70 true] :=
    ⟨_, rfl, rfl⟩
  have hrun : Run (Meeting (State.Steps plainConfig 60) Quiet) { topics := oneIndex } oneNumber s :=
    Run.meeting_of_foldlM hs
  have hafter : AfterNumbers s.log := by
    rw [hlog]
    exact (eachAfter_nil.snoc nofun).snoc fun _ => ⟨0x4035000000000000, rfl⟩
  exact ⟨s, hrun, by rw [hlog]; rfl, hafter, repeats_iff_afterNumbers hrun⟩

def numberThenString : List Action :=
  [.publish (message (.valueNum 0x4035000000000000) 0) 0, .record 0,
    .publish (message (.valueStr "off") 5) 5, .record 0, .tick 70 ["a"], .resolve, .lock,
    .emit true]

/-- The floor publishes 21 once more. -/
theorem floor_repeats_number_after_string :
    ∃ (s : State) (pre : List Emitted) (e : Emitted),
      Run (Meeting (State.Steps plainConfig 60) Quiet) { topics := oneIndex } numberThenString s ∧
      s.log = pre ++ [e] ∧ e.origin = .floor true ∧ e.topic = "a" ∧
      e.event.value = some (.valueNum 0x4035000000000000) ∧
      latest pre "a" = some (.valueStr "off") ∧ ¬ Repeats s.log := by
  obtain ⟨s, hs, hlog⟩ : ∃ s, numberThenString.foldlM (fun s a => if Quiet s a then
      State.step plainConfig 60 s a else none) { topics := oneIndex } = some s ∧
      s.log = [(message (.valueNum 0x4035000000000000) 0).emitted plainConfig 0,
        (message (.valueStr "off") 5).emitted plainConfig 5] ++
        [floorEmitted plainConfig "a" { topic := "a" } 0x4035000000000000 70 true] :=
    ⟨_, rfl, rfl⟩
  refine ⟨s, _, _, Run.meeting_of_foldlM hs, hlog, rfl, rfl, rfl, rfl, fun hrepeats => ?_⟩
  have hvalue := hrepeats _ _ [] hlog rfl
  cases hvalue

end NexusGateway.Connector.Mqtt.Freshness
