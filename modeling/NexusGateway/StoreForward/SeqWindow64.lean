/-
The sequence window of `internal/storeforward/pump.go` in the arithmetic of
the machine: `uint64` fields, and every subtraction, increment, shift and
slice access checked (`NexusGateway.Lib.Checked`), so that a step that wrapped
around or left the bitmap would be `none`.

`Reads w v` relates it to the window over natural numbers; every operation of
the machine returns and keeps the relation, so the machine computes what
`SeqWindow` does.  The set model of the window then follows from what
`SeqWindow.Tracks` says about the history of additions.
-/

import NexusGateway.Lib.Checked
import NexusGateway.StoreForward.SeqWindow

namespace NexusGateway.StoreForward

open Lib

/-- `seqWindow`, with its machine fields. -/
structure SeqWindow64 where
  bits : Bitmap
  n : U64
  base : U64
deriving DecidableEq

/-- The loop `for n < uint64(size) { n <<= 1 }`. -/
def doubleUntil64 (size n : U64) : Option U64 :=
  if 0 < n.toNat ∧ n < size then
    if 2 * n.toNat < 2 ^ 64 then doubleUntil64 size (n <<< 1) else none
  else some n
termination_by size.toNat - n.toNat
decreasing_by
  rw [BitVec.toNat_shiftLeft, Nat.shiftLeft_eq]
  bv_omega

namespace SeqWindow64

/-- `newSeqWindow`. -/
def new? (size : U64) : Option SeqWindow64 :=
  (doubleUntil64 size 64).map fun n =>
    { bits := Bitmap.zeros (n.toNat / 64), n := n, base := 0 }

/-- `seq & (w.n - 1)`. -/
def slot? (w : SeqWindow64) (seq : U64) : Option U64 :=
  (U64.sub? w.n 1).map (seq &&& ·)

def contains? (w : SeqWindow64) (seq : U64) : Option Bool :=
  if seq < w.base then some false
  else do
    let ahead ← U64.sub? seq w.base
    if w.n ≤ ahead then return false
    let i ← w.slot? seq
    (w.bits.word? i).map fun word => (word &&& Bitmap.mask64 i) != 0

def clearSlot? (w : SeqWindow64) (bits : Bitmap) (s : U64) : Option Bitmap := do
  let i ← w.slot? s
  bits.modifyWord? i (· &&& ~~~ Bitmap.mask64 i)

def slide? (w : SeqWindow64) (newBase : U64) : Option SeqWindow64 := do
  let distance ← U64.sub? newBase w.base
  let bits ←
    if w.n ≤ distance then some (Bitmap.zeros w.bits.size)
    else U64.forUp? w.clearSlot? newBase w.base w.bits
  return { w with bits := bits, base := newBase }

def mark? (w : SeqWindow64) (seq : U64) : Option SeqWindow64 := do
  let i ← w.slot? seq
  let bits ← w.bits.modifyWord? i (· ||| Bitmap.mask64 i)
  return { w with bits := bits }

def add? (w : SeqWindow64) (seq : U64) : Option SeqWindow64 :=
  if seq < w.base then some w
  else do
    let ahead ← U64.sub? seq w.base
    if w.n ≤ ahead then
      let oldest ← U64.sub? seq w.n
      let newBase ← U64.succ? oldest
      let slid ← w.slide? newBase
      slid.mark? seq
    else w.mark? seq

/-! ## The machine computes the window over natural numbers -/

/-- The machine window holds the numbers of `v`. -/
structure Reads (w : SeqWindow64) (v : SeqWindow) : Prop where
  bits : w.bits = v.bits
  n : w.n.toNat = v.n
  base : w.base.toNat = v.base

variable {w : SeqWindow64} {v : SeqWindow}

theorem Reads.slot? (h : Reads w v) (seq : U64) :
    ∃ i, w.slot? seq = some i ∧ i.toNat = v.slot seq.toNat := by
  have hpos : 1 ≤ w.n.toNat := h.n ▸ v.n_pos
  obtain ⟨m, hm, hval⟩ := U64.sub?_eq (a := w.n) (b := 1) hpos
  refine ⟨seq &&& m, by rw [SeqWindow64.slot?, hm, Option.map_some], ?_⟩
  rw [BitVec.toNat_and, hval, h.n]
  rfl

theorem Reads.contains? (h : Reads w v) (seq : U64) :
    w.contains? seq = some (v.contains seq.toNat) := by
  unfold SeqWindow64.contains? SeqWindow.contains
  by_cases hlt : seq < w.base
  · have hold : seq.toNat < v.base := h.base ▸ BitVec.lt_def.mp hlt
    rw [if_pos hlt, if_pos (Or.inl hold)]
  · have hle : w.base.toNat ≤ seq.toNat := Nat.le_of_not_lt hlt
    obtain ⟨ahead, hsub, hval⟩ := U64.sub?_eq hle
    rw [h.base] at hval hle
    rw [if_neg hlt, hsub]
    show (if w.n ≤ ahead then _ else _) = _
    by_cases hfar : w.n ≤ ahead
    · have hout : v.n ≤ seq.toNat - v.base := by
        rw [← hval, ← h.n]
        exact hfar
      rw [if_pos hfar, if_pos (Or.inr hout)]
      rfl
    · have hin : ¬ (seq.toNat < v.base ∨ v.n ≤ seq.toNat - v.base) := by
        rw [← hval, ← h.n]
        rintro (hbad | hbad)
        · omega
        · exact hfar hbad
      obtain ⟨i, hi, hslot⟩ := h.slot? seq
      have hrange : i.toNat < 64 * w.bits.size := by
        rw [hslot, h.bits]
        exact v.slot_lt _
      rw [if_neg hfar, if_neg hin, hi]
      show (w.bits.word? i).map _ = _
      rw [Bitmap.test_of_word? hrange, hslot, h.bits]

theorem Reads.mark? (h : Reads w v) (seq : U64) :
    ∃ w', w.mark? seq = some w' ∧ Reads w' (v.mark seq.toNat) := by
  obtain ⟨i, hi, hslot⟩ := h.slot? seq
  have hrange : i.toNat < 64 * w.bits.size := by
    rw [hslot, h.bits]
    exact v.slot_lt _
  refine ⟨{ w with bits := w.bits.set i.toNat }, ?_, ?_, h.n, h.base⟩
  · rw [SeqWindow64.mark?, hi]
    show (w.bits.modifyWord? i _).bind _ = _
    rw [Bitmap.set_of_modifyWord? hrange]
    rfl
  · show w.bits.set i.toNat = v.bits.set (v.slot seq.toNat)
    rw [hslot, h.bits]

theorem Reads.clearSlot? (h : Reads w v) (bits : Bitmap) (s : U64)
    (hsize : bits.size = v.bits.size) :
    w.clearSlot? bits s = some (bits.clear (v.slot s.toNat)) := by
  obtain ⟨i, hi, hslot⟩ := h.slot? s
  have hrange : i.toNat < 64 * bits.size := by
    rw [hslot, hsize]
    exact v.slot_lt _
  rw [SeqWindow64.clearSlot?, hi, Option.bind_eq_bind, Option.bind_some,
    Bitmap.clear_of_modifyWord? hrange, hslot]

theorem Reads.slide? (h : Reads w v) (newBase : U64) (hle : w.base.toNat ≤ newBase.toNat) :
    ∃ w', w.slide? newBase = some w' ∧ Reads w' (v.slide newBase.toNat) := by
  obtain ⟨distance, hsub, hval⟩ := U64.sub?_eq hle
  rw [h.base] at hval
  by_cases hfar : w.n ≤ distance
  · have hout : v.n ≤ newBase.toNat - v.base := by
      rw [← hval, ← h.n]
      exact hfar
    refine ⟨{ w with bits := Bitmap.zeros w.bits.size, base := newBase }, ?_, ?_, h.n, rfl⟩
    · rw [SeqWindow64.slide?, hsub, Option.bind_eq_bind, Option.bind_some, if_pos hfar]
      rfl
    · show Bitmap.zeros w.bits.size = if _ then _ else _
      rw [if_pos hout, h.bits]
  · have hin : ¬ v.n ≤ newBase.toNat - v.base := by
      rw [← hval, ← h.n]
      exact hfar
    -- the loop clears the slots of the old sequences, one after the other
    have hloop := U64.forUp?_eq_foldl h.clearSlot?
      (fun bits k hsize => (Bitmap.size_clear bits (v.slot k)).trans hsize)
      newBase w.base (congrArg Array.size h.bits)
    refine ⟨{ w with
      bits := v.bits.clearAll ((List.range' v.base (newBase.toNat - v.base)).map v.slot)
      base := newBase }, ?_, ?_, h.n, rfl⟩
    · rw [SeqWindow64.slide?, hsub, Option.bind_eq_bind, Option.bind_some, if_neg hfar, hloop,
        Bitmap.clearAll, List.foldl_map, h.base, h.bits]
      rfl
    · show _ = if _ then _ else _
      rw [if_neg hin]

theorem Reads.add? (h : Reads w v) (seq : U64) :
    ∃ w', w.add? seq = some w' ∧ Reads w' (v.add seq.toNat) := by
  unfold SeqWindow64.add? SeqWindow.add
  by_cases hlt : seq < w.base
  · have hold : seq.toNat < v.base := h.base ▸ BitVec.lt_def.mp hlt
    rw [if_pos hlt, if_pos hold]
    exact ⟨w, rfl, h⟩
  · have hle : w.base.toNat ≤ seq.toNat := Nat.le_of_not_lt hlt
    obtain ⟨ahead, hsub, hval⟩ := U64.sub?_eq hle
    have hnew : ¬ seq.toNat < v.base := by
      rw [← h.base]
      exact hlt
    have hn := v.n_pos
    rw [if_neg hlt, if_neg hnew, hsub, Option.bind_eq_bind, Option.bind_some]
    rw [h.base] at hval
    by_cases hfar : w.n ≤ ahead
    · have hout : v.n ≤ seq.toNat - v.base := by
        rw [← hval, ← h.n]
        exact hfar
      have hbase := h.base
      have hwn := h.n
      have hseq : seq.toNat < 2 ^ 64 := seq.isLt
      obtain ⟨oldest, hold, holdval⟩ := U64.sub?_eq (a := seq) (b := w.n) (by omega)
      obtain ⟨newBase, hsucc, hsuccval⟩ := U64.succ?_eq (a := oldest) (by omega)
      obtain ⟨slid, hslide, hslid⟩ := h.slide? newBase (by omega)
      obtain ⟨w', hmark, hw'⟩ := hslid.mark? seq
      refine ⟨w', ?_, ?_⟩
      · simp only [if_pos hfar, hold, hsucc, hslide, hmark, Option.bind_eq_bind,
          Option.bind_some]
      · have hval' : newBase.toNat = seq.toNat - v.n + 1 := by omega
        rw [if_pos hout, ← hval']
        exact hw'
    · have hin : ¬ v.n ≤ seq.toNat - v.base := by
        rw [← hval, ← h.n]
        exact hfar
      rw [if_neg hfar, if_neg hin]
      exact h.mark? seq

theorem doubleUntil64_eq {size : U64} (hsize : size.toNat < 2 ^ 63) (n : U64) :
    ∃ m, doubleUntil64 size n = some m ∧ m.toNat = doubleUntil size.toNat n.toNat := by
  fun_induction doubleUntil64 size n with
  | case1 n hlt hroom ih =>
    obtain ⟨m, hm, hval⟩ := ih
    have hdouble : (n <<< 1).toNat = 2 * n.toNat := by
      rw [BitVec.toNat_shiftLeft, Nat.shiftLeft_eq, Nat.pow_one, Nat.mul_comm,
        Nat.mod_eq_of_lt hroom]
    refine ⟨m, hm, ?_⟩
    rw [doubleUntil, if_pos ⟨hlt.1, BitVec.lt_def.mp hlt.2⟩, ← hdouble, hval]
  | case2 n hlt hwrap =>
    have hbelow := BitVec.lt_def.mp hlt.2
    omega
  | case3 n hstop =>
    have hstop' : ¬ (0 < n.toNat ∧ n.toNat < size.toNat) := hstop
    refine ⟨n, rfl, ?_⟩
    rw [doubleUntil, if_neg hstop']

theorem reads_new {size : U64} (hsize : size.toNat < 2 ^ 63) :
    ∃ w, new? size = some w ∧ Reads w (SeqWindow.new size.toNat) := by
  obtain ⟨n, hn, hval⟩ := doubleUntil64_eq hsize 64
  refine ⟨{ bits := Bitmap.zeros (n.toNat / 64), n := n, base := 0 }, ?_, ?_, hval, rfl⟩
  · rw [new?, hn, Option.map_some]
  · show Bitmap.zeros (n.toNat / 64) = Bitmap.zeros (doubleUntil size.toNat 64 / 64)
    rw [hval]
    rfl

end SeqWindow64

/-! ## The set model -/

def largest (adds : List Nat) : Nat := adds.foldr max 0

/-- The lowest sequence a window of span `n` covers once `m` is the newest:
    `max(0, m - n + 1)`. -/
def windowFloor (n m : Nat) : Nat := m + 1 - n

/-- `s` was added while it was not older than the window of that moment. -/
def Recorded (n : Nat) (adds : List Nat) (s : Nat) : Prop :=
  ∃ before after, adds = before ++ s :: after ∧ windowFloor n (largest before) ≤ s

theorem le_largest {adds : List Nat} {s : Nat} (hs : s ∈ adds) : s ≤ largest adds := by
  induction adds with
  | nil => cases hs
  | cons a adds ih =>
    rcases List.mem_cons.mp hs with rfl | hs
    · exact Nat.le_max_left _ _
    · exact Nat.le_trans (ih hs) (Nat.le_max_right _ _)

theorem largest_mem {adds : List Nat} (hne : largest adds ≠ 0) : largest adds ∈ adds := by
  induction adds with
  | nil => exact absurd rfl hne
  | cons a adds ih =>
    have hcons : largest (a :: adds) = max a (largest adds) := rfl
    rw [hcons] at hne ⊢
    rcases Nat.le_total a (largest adds) with hle | hle
    · rw [Nat.max_eq_right hle] at hne ⊢
      exact List.mem_cons_of_mem _ (ih hne)
    · rw [Nat.max_eq_left hle]
      exact List.mem_cons_self ..

theorem largest_le_append (before after : List Nat) :
    largest before ≤ largest (before ++ after) := by
  by_cases hzero : largest before = 0
  · omega
  · exact le_largest (List.mem_append_left _ (largest_mem hzero))

theorem SeqWindow.Tracks.base_eq {v : SeqWindow} {adds : List Nat} (h : v.Tracks adds.reverse) :
    v.base = windowFloor v.n (largest adds) := by
  have hn := v.n_pos
  have hlargest : largest adds < v.base + v.n := by
    by_cases hzero : largest adds = 0
    · omega
    · exact h.lt _ (List.mem_reverse.mpr (largest_mem hzero))
  unfold windowFloor
  rcases h.base with hbase | ⟨m, hm, hnewest⟩
  · omega
  · have hle := le_largest (List.mem_reverse.mp hm)
    omega

theorem recorded_and_floor_iff {n : Nat} {adds : List Nat} {s : Nat} :
    (Recorded n adds s ∧ windowFloor n (largest adds) ≤ s) ↔
      s ∈ adds ∧ windowFloor n (largest adds) ≤ s := by
  constructor
  · rintro ⟨⟨before, after, rfl, -⟩, hfloor⟩
    exact ⟨List.mem_append_right _ (List.mem_cons_self ..), hfloor⟩
  · rintro ⟨hs, hfloor⟩
    obtain ⟨before, after, rfl⟩ := List.append_of_mem hs
    have hgrow := largest_le_append before (s :: after)
    refine ⟨⟨before, after, rfl, ?_⟩, hfloor⟩
    unfold windowFloor at hfloor ⊢
    omega

namespace SeqWindow64

theorem Reads.foldlM_add? {w : SeqWindow64} {v : SeqWindow} (h : Reads w v) (hist : List Nat)
    (htracks : v.Tracks hist.reverse) (adds : List U64) :
    ∃ w' v', adds.foldlM SeqWindow64.add? w = some w' ∧ Reads w' v' ∧ v'.n = v.n ∧
      v'.Tracks (hist ++ adds.map BitVec.toNat).reverse := by
  induction adds generalizing w v hist with
  | nil => exact ⟨w, v, rfl, h, rfl, by simpa using htracks⟩
  | cons seq adds ih =>
    obtain ⟨w₁, hadd, hw₁⟩ := h.add? seq
    have htracks₁ : (v.add seq.toNat).Tracks (hist ++ [seq.toNat]).reverse := by
      rw [List.reverse_append]
      exact htracks.add seq.toNat
    obtain ⟨w', v', hrun, hreads, hn, hall⟩ := ih hw₁ _ htracks₁
    refine ⟨w', v', ?_, hreads, hn.trans (SeqWindow.n_add v seq.toNat), ?_⟩
    · rw [List.foldlM_cons, hadd]
      exact hrun
    · rw [List.map_cons]
      simpa using hall

/-- **The set model of the sequence window.**  For every size of a Go `int` and
    every sequence of additions of `uint64` values, no step wraps around or
    leaves the bitmap; and `contains(s)` is then true exactly when `s` was
    added at a moment when the window still covered it and the window still
    covers it now. -/
theorem contains_iff_recorded (size : U64) (hsize : size.toNat < 2 ^ 63) (adds : List U64) :
    ∃ w, ((new? size).bind fun w => adds.foldlM add? w) = some w ∧
      (∃ k, w.n.toNat = 2 ^ k) ∧ size.toNat ≤ w.n.toNat ∧
      ∀ s : U64, ∃ known, w.contains? s = some known ∧
        (known = true ↔
          Recorded w.n.toNat (adds.map BitVec.toNat) s.toNat ∧
            windowFloor w.n.toNat (largest (adds.map BitVec.toNat)) ≤ s.toNat) := by
  obtain ⟨w₀, hnew, hreads₀⟩ := reads_new hsize
  obtain ⟨w, v, hrun, hreads, hn, htracks⟩ :=
    hreads₀.foldlM_add? [] (SeqWindow.tracks_new size.toNat) adds
  rw [List.nil_append] at htracks
  refine ⟨w, by rw [hnew, Option.bind_some, hrun], ?_, ?_, ?_⟩
  · rw [hreads.n]
    exact v.n_pow
  · rw [hreads.n, hn]
    exact le_doubleUntil (by decide)
  · intro s
    refine ⟨_, hreads.contains? s, ?_⟩
    rw [htracks.contains_iff, List.mem_reverse, htracks.base_eq, hreads.n, recorded_and_floor_iff]

/-- Around the top of `uint64`, with the smallest window: a jump of nearly the
    whole range forgets what came before it. -/
theorem contains_iff_recorded_top :
    (BitVec.toNat (1 : U64)) < 2 ^ 63 ∧
      ∃ w, ((new? 1).bind fun w => [3#64, 0#64 - 1#64, 3#64].foldlM add? w) = some w ∧
        w.contains? (0#64 - 1#64) = some true := by
  refine ⟨by decide, ?_⟩
  obtain ⟨w, hrun, hpow, hspan, hcontains⟩ :=
    contains_iff_recorded 1 (by decide) [3#64, 0#64 - 1#64, 3#64]
  obtain ⟨known, hknown, hiff⟩ := hcontains (0#64 - 1#64)
  have htop : windowFloor w.n.toNat (largest [3, 2 ^ 64 - 1, 3]) ≤ 2 ^ 64 - 1 := by
    have hone : 1 ≤ w.n.toNat := hspan
    have hlargest : largest [3, 2 ^ 64 - 1, 3] = 2 ^ 64 - 1 := by decide
    rw [hlargest, windowFloor]
    omega
  have htrue : known = true := by
    refine hiff.mpr ⟨⟨[3], [3], rfl, ?_⟩, htop⟩
    have hfirst : largest [3] = 3 := by decide
    rw [hfirst, windowFloor]
    have hval : (0#64 - 1#64).toNat = 2 ^ 64 - 1 := by decide
    omega
  exact ⟨w, hrun, by rw [hknown, htrue]⟩

end SeqWindow64

end NexusGateway.StoreForward
