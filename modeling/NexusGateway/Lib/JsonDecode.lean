/-
Decoding a JSON tree into typed variables, as Go's `encoding/json` does with
unknown fields disallowed: a member fills the field whose name it has, else
the field whose name it has up to case; a later member of one field is
decoded over what an earlier one left; `null` leaves scalars and structs as
they are and clears pointers and slices.

`Decoder.Stable` is the question the module answers: does a decoder see only
the canonical form of a tree?  It does on trees in which no object has two
members whose names are equal up to case, and each combinator keeps that.
-/

import NexusGateway.Lib.Except
import NexusGateway.Lib.JsonReader

namespace NexusGateway.Lib.Json

/-! ## Names and integers -/

/-- The smallest character that is equal up to case, for the characters that are
    equal up to case to an ASCII one: U+017F folds to S and U+212A to K. -/
def foldChar (c : Char) : Char :=
  if 'a' ≤ c ∧ c ≤ 'z' then Char.ofNat (c.toNat - 32)
  else if c.toNat = 0x17f then 'S'
  else if c.toNat = 0x212a then 'K'
  else c

def foldName (s : String) : List Char := s.toList.map foldChar

/-- The field a member fills: the one with its very name, else the first that has
    its name up to case. -/
def resolve (names : List String) (key : String) : Option String :=
  if key ∈ names then some key else names.find? fun name => foldName name = foldName key

/-- `strconv.ParseInt` to base 10 and 64 bits. -/
def parseInt64 (cs : List Char) : Option Int :=
  let digits := dropSign ['+', '-'] cs
  if digits ≠ [] ∧ digits.all Char.isDigit then
    let magnitude : Int := digits.foldl (fun n c => n * 10 + (c.toNat - 48 : Nat)) 0
    let n := if cs.head? = some '-' then -magnitude else magnitude
    if -2 ^ 63 ≤ n ∧ n < 2 ^ 63 then some n else none
  else none

theorem foldName_of_resolve {names : List String} {key name : String}
    (h : resolve names key = some name) : foldName key = foldName name := by
  unfold resolve at h
  split_ifs at h with hkey
  · rw [Option.some.inj h]
  · have hfold := List.find?_some h
    exact (of_decide_eq_true hfold).symm

/-! ## Decoders -/

abbrev Decoder (α : Type) : Type := α → Json → Except String α

def kind : Json → String
  | .null => "null"
  | .bool _ => "bool"
  | .num _ => "number"
  | .str _ => "string"
  | .arr _ => "array"
  | .obj _ => "object"

def mismatch (j : Json) (type : String) : String :=
  "json: cannot unmarshal " ++ j.kind ++ " into Go value of type " ++ type

/-- What the members of one field leave in it, in document order. -/
def field {β : Type} (names : List String) (name : String) (d : Decoder β) (old : β)
    (ms : List (String × Json)) : Except String β :=
  (ms.filter fun m => resolve names m.1 = some name).foldlM (fun b m => d b m.2) old

namespace Decoder

variable {α β : Type}

def string : Decoder String
  | old, .null => .ok old
  | _, .str s => .ok s
  | _, j => .error (mismatch j "string")

def bool : Decoder Bool
  | old, .null => .ok old
  | _, .bool b => .ok b
  | _, j => .error (mismatch j "bool")

def int : Decoder Int
  | old, .null => .ok old
  | _, .num l =>
    match parseInt64 l.toList with
    | some n => .ok n
    | none => .error ("json: cannot unmarshal number " ++ l ++ " into Go value of type int")
  | _, j => .error (mismatch j "int")

def pointer (zero : α) (d : Decoder α) : Decoder (Option α)
  | _, .null => .ok none
  | old, j => (d (old.getD zero) j).map some

/-- A slice: its length is reset to zero and each item is decoded over a zero value. -/
def slice (zero : α) (d : Decoder α) : Decoder (List α)
  | _, .null => .ok []
  | _, .arr xs => xs.mapM (d zero)
  | _, j => .error (mismatch j "slice")

/-- A struct with the given field names; `body` says what each field is read by. -/
def struct (type : String) (names : List String)
    (body : α → List (String × Json) → Except String α) : Decoder α
  | old, .null => .ok old
  | old, .obj ms =>
    match ms.find? fun m => resolve names m.1 = none with
    | some m => .error ("json: unknown field \"" ++ m.1 ++ "\"")
    | none => body old ms
  | _, j => .error (mismatch j type)

def openStruct (type : String) (body : α → List (String × Json) → Except String α) : Decoder α
  | old, .null => .ok old
  | old, .obj ms => body old ms
  | _, j => .error (mismatch j type)

end Decoder

/-! ## Members under their own names -/

theorem resolve_of_mem {names : List String} {key : String} (h : key ∈ names) :
    resolve names key = some key :=
  if_pos h

section Field

variable {β : Type} {names : List String} {name key : String} {d : Decoder β} {old : β}

theorem field_cons (h : key ∈ names) (v : Json) (ms : List (String × Json)) :
    field names name d old ((key, v) :: ms) =
      (if key = name then d old v else .ok old) >>= fun b => field names name d b ms := by
  have hresolve := resolve_of_mem h
  by_cases hkey : key = name
  · subst hkey
    simp [field, hresolve]
  · have hskip : ¬ resolve names key = some name := by
      rw [hresolve, Option.some.injEq]
      exact hkey
    simp [field, hskip, hkey, ok_bind]

def optionalMember (present : Bool) (name : String) (v : Json) : List (String × Json) :=
  if present then [(name, v)] else []

theorem field_optionalMember_append (h : key ∈ names) (present : Bool) (v : Json)
    (ms : List (String × Json)) :
    field names name d old (optionalMember present key v ++ ms) =
      (if present = true ∧ key = name then d old v else .ok old) >>=
        fun b => field names name d b ms := by
  cases present with
  | true => simpa [optionalMember] using field_cons h v ms
  | false => simp [optionalMember, ok_bind]

theorem field_optionalMember (h : key ∈ names) (present : Bool) (v : Json) :
    field names name d old (optionalMember present key v) =
      if present = true ∧ key = name then d old v else .ok old := by
  rw [← List.append_nil (optionalMember present key v), field_optionalMember_append h]
  exact bind_pure _

end Field

/-! ## Unambiguous trees -/

def DistinctNames : Json → Prop
  | .obj ms => (ms.map fun m => foldName m.1).Nodup
  | _ => True

def Unambiguous (j : Json) : Prop := Everywhere DistinctNames j

@[simp] theorem unambiguous_str (s : String) : Unambiguous (.str s) := trivial

@[simp] theorem unambiguous_arr {xs : List Json} :
    Unambiguous (.arr xs) ↔ ∀ x ∈ xs, Unambiguous x := by
  rw [Unambiguous, everywhere_arr]
  exact ⟨fun h => h.2, fun h => ⟨trivial, h⟩⟩

@[simp] theorem unambiguous_obj {ms : List (String × Json)} :
    Unambiguous (.obj ms) ↔
      (ms.map fun m => foldName m.1).Nodup ∧ ∀ m ∈ ms, Unambiguous m.2 := by
  rw [Unambiguous, everywhere_obj]
  exact Iff.rfl

theorem Unambiguous.filter {ms : List (String × Json)} (h : Unambiguous (.obj ms))
    (p : String × Json → Bool) : Unambiguous (.obj (ms.filter p)) := by
  rw [unambiguous_obj] at h ⊢
  refine ⟨h.1.sublist (List.filter_sublist.map _), fun m hm => ?_⟩
  exact h.2 m (List.mem_of_mem_filter hm)

theorem length_filter_resolve {ms : List (String × Json)} (h : Unambiguous (.obj ms))
    (names : List String) (name : String) :
    (ms.filter fun m => resolve names m.1 = some name).length ≤ 1 := by
  rw [unambiguous_obj] at h
  have hnodup : ((ms.filter fun m => resolve names m.1 = some name).map
      fun m => foldName m.1).Nodup := h.1.sublist (List.filter_sublist.map _)
  have hsame : (ms.filter fun m => resolve names m.1 = some name).map (fun m => foldName m.1) =
      List.replicate (ms.filter fun m => resolve names m.1 = some name).length (foldName name) := by
    rw [List.eq_replicate_iff, List.length_map]
    refine ⟨rfl, fun f hf => ?_⟩
    obtain ⟨m, hm, rfl⟩ := List.mem_map.mp hf
    exact foldName_of_resolve (of_decide_eq_true (List.mem_filter.mp hm).2)
  rw [hsame, List.nodup_replicate] at hnodup
  exact hnodup

/-! ## Stability -/

/-- The first object is unambiguous and the second has its canonical members, in some
    order. -/
def SameObject (ms ms' : List (String × Json)) : Prop :=
  Unambiguous (.obj ms) ∧ (ms.map canonMember).Perm (ms'.map canonMember)

/-- On unambiguous trees the decoder sees only the canonical form. -/
def Decoder.Stable {α : Type} (d : Decoder α) : Prop :=
  ∀ old v w a, canon v = canon w → Unambiguous v → d old v = .ok a → d old w = .ok a

theorem eq_of_canon_eq_str {s : String} {w : Json} (h : canon (.str s) = canon w) : w = .str s := by
  cases w <;> simp_all [canon]

theorem eq_of_canon_eq_bool {b : Bool} {w : Json} (h : canon (.bool b) = canon w) :
    w = .bool b := by
  cases w <;> simp_all [canon]

theorem eq_of_canon_eq_num {l : String} {w : Json} (h : canon (.num l) = canon w) :
    w = .num l := by
  cases w <;> simp_all [canon]

theorem eq_of_canon_eq_null {w : Json} (h : canon .null = canon w) : w = .null := by
  cases w <;> simp_all [canon]

theorem eq_of_canon_eq_arr {xs : List Json} {w : Json} (h : canon (.arr xs) = canon w) :
    ∃ ys, w = .arr ys ∧ xs.map canon = ys.map canon := by
  cases w with
  | arr ys =>
    rw [canon_arr, canon_arr, Json.arr.injEq] at h
    exact ⟨ys, rfl, h⟩
  | null | bool b | num l | str s | obj ms => simp [canon] at h

theorem eq_of_canon_eq_obj {ms : List (String × Json)} {w : Json}
    (h : canon (.obj ms) = canon w) : ∃ ms', w = .obj ms' := by
  cases w with
  | obj ms' => exact ⟨ms', rfl⟩
  | null | bool b | num l | str s | arr xs => simp [canon] at h

theorem field_stable {β : Type} {d : Decoder β} (hd : d.Stable) {ms ms' : List (String × Json)}
    (h : SameObject ms ms') {names : List String} {name : String} {old a : β}
    (hread : field names name d old ms = .ok a) : field names name d old ms' = .ok a := by
  obtain ⟨ns, hperm, hsame⟩ := exists_same_of_perm h.2
  have hlen := length_filter_resolve h.1 names name
  have hfilter := hperm.filter fun m => resolve names m.1 = some name
  have hsame' : List.Forall₂ SameMember (ns.filter fun m => resolve names m.1 = some name)
      (ms'.filter fun m => resolve names m.1 = some name) := by
    refine List.rel_filter (fun m m' hm => ?_) hsame
    show decide (resolve names m.1 = _) = true ↔ decide (resolve names m'.1 = _) = true
    rw [hm.1]
  rw [field] at hread ⊢
  -- the members of the field: none, or one on both sides
  cases hms : ms.filter fun m => resolve names m.1 = some name with
  | nil =>
    rw [hms] at hread hfilter
    rw [hfilter.nil_eq.symm] at hsame'
    rw [List.forall₂_nil_left_iff.mp hsame']
    exact hread
  | cons m rest =>
    rw [hms, List.length_cons] at hlen
    obtain rfl : rest = [] := List.eq_nil_of_length_eq_zero (by omega)
    rw [hms] at hread hfilter
    rw [hfilter.singleton_eq.symm] at hsame'
    obtain ⟨m', l, hm, hl, heq⟩ := List.forall₂_cons_left_iff.mp hsame'
    rw [List.forall₂_nil_left_iff.mp hl] at heq
    have hmem : m ∈ ms := by
      have : m ∈ ms.filter fun m => resolve names m.1 = some name := by
        rw [hms]
        exact List.mem_singleton_self m
      exact List.mem_of_mem_filter this
    rw [heq]
    simp only [List.foldlM_cons, List.foldlM_nil, bind_pure] at hread ⊢
    exact hd old m.2 m'.2 a hm.2 ((unambiguous_obj.mp h.1).2 m hmem) hread

namespace Decoder

variable {α β : Type}

theorem string_stable : string.Stable := by
  intro old v w a hcanon _ hread
  cases v with
  | null => rwa [eq_of_canon_eq_null hcanon]
  | str s => rwa [eq_of_canon_eq_str hcanon]
  | bool b | num l | arr xs | obj ms => cases hread

theorem bool_stable : bool.Stable := by
  intro old v w a hcanon _ hread
  cases v with
  | null => rwa [eq_of_canon_eq_null hcanon]
  | bool b => rwa [eq_of_canon_eq_bool hcanon]
  | num l | str s | arr xs | obj ms => cases hread

theorem int_stable : int.Stable := by
  intro old v w a hcanon _ hread
  cases v with
  | null => rwa [eq_of_canon_eq_null hcanon]
  | num l => rwa [eq_of_canon_eq_num hcanon]
  | bool b | str s | arr xs | obj ms => cases hread

theorem ne_null_of_canon_eq {v w : Json} (hcanon : canon v = canon w) (hv : v ≠ .null) :
    w ≠ .null := by
  rintro rfl
  exact hv (eq_of_canon_eq_null hcanon.symm)

theorem pointer_of_ne_null {zero : α} {d : Decoder α} {old : Option α} {v : Json}
    (hv : v ≠ .null) : pointer zero d old v = (d (old.getD zero) v).map some := by
  cases v with
  | null => exact absurd rfl hv
  | bool b | num l | str s | arr xs | obj ms => rfl

theorem pointer_stable {zero : α} {d : Decoder α} (hd : d.Stable) : (pointer zero d).Stable := by
  intro old v w a hcanon hun hread
  by_cases hv : v = .null
  · rw [hv] at hcanon hread
    rwa [eq_of_canon_eq_null hcanon]
  · rw [pointer_of_ne_null hv] at hread
    rw [pointer_of_ne_null (ne_null_of_canon_eq hcanon hv)]
    cases htarget : d (old.getD zero) v with
    | error e =>
      rw [htarget] at hread
      cases hread
    | ok b =>
      rw [htarget] at hread
      rw [hd _ v w b hcanon hun htarget]
      exact hread

theorem mapM_stable {zero : α} {d : Decoder α} (hd : d.Stable) {xs ys : List Json} {as : List α}
    (hcanon : xs.map canon = ys.map canon) (hun : ∀ x ∈ xs, Unambiguous x)
    (hread : xs.mapM (d zero) = .ok as) : ys.mapM (d zero) = .ok as := by
  induction xs generalizing ys as with
  | nil =>
    rw [List.map_nil] at hcanon
    rwa [List.map_eq_nil_iff.mp hcanon.symm]
  | cons x xs ih =>
    obtain ⟨y, ys, rfl, hxy, hxs⟩ := List.map_eq_cons_iff.mp hcanon.symm
    rw [List.mapM_cons, bind_eq_ok] at hread
    obtain ⟨a, hx, hread⟩ := hread
    obtain ⟨as', hrest, hread⟩ := bind_eq_ok.mp hread
    have hy := hd _ x y a hxy.symm (hun x (List.mem_cons_self ..)) hx
    have hys := ih hxs.symm (fun z hz => hun z (List.mem_cons_of_mem _ hz)) hrest
    rw [List.mapM_cons, hy, bind_eq_ok]
    exact ⟨a, rfl, bind_eq_ok.mpr ⟨as', hys, hread⟩⟩

theorem slice_stable {zero : α} {d : Decoder α} (hd : d.Stable) : (slice zero d).Stable := by
  intro old v w a hcanon hun hread
  cases v with
  | null => rwa [eq_of_canon_eq_null hcanon]
  | bool b | num l | str s | obj ms => cases hread
  | arr xs =>
    obtain ⟨ys, rfl, hmap⟩ := eq_of_canon_eq_arr hcanon
    exact mapM_stable hd hmap (unambiguous_arr.mp hun) hread

def StableBody (body : List (String × Json) → Except String α) : Prop :=
  ∀ ms ms' a, SameObject ms ms' → body ms = .ok a → body ms' = .ok a

theorem StableBody.pure (a : α) : StableBody fun _ => .ok a :=
  fun _ _ _ _ h => h

theorem StableBody.field {names : List String} {name : String} {d : Decoder β} {old : β}
    {next : β → List (String × Json) → Except String α} (hd : d.Stable)
    (hnext : ∀ b, StableBody (next b)) :
    StableBody fun ms => Json.field names name d old ms >>= fun b => next b ms := by
  intro ms ms' a hsame hread
  obtain ⟨b, hfield, hread⟩ := bind_eq_ok.mp hread
  exact bind_eq_ok.mpr ⟨b, field_stable hd hsame hfield, hnext b ms ms' a hsame hread⟩

theorem exists_mem_of_forall₂ {R : α → β → Prop} {l : List α} {l' : List β}
    (h : List.Forall₂ R l l') {b : β} (hb : b ∈ l') : ∃ a ∈ l, R a b := by
  induction h with
  | nil => cases hb
  | cons hab _ ih =>
    rcases List.mem_cons.mp hb with rfl | hb
    · exact ⟨_, List.mem_cons_self .., hab⟩
    · obtain ⟨a, ha, hR⟩ := ih hb
      exact ⟨a, List.mem_cons_of_mem _ ha, hR⟩

theorem struct_stable {type : String} {names : List String}
    {body : α → List (String × Json) → Except String α} (hbody : ∀ old, StableBody (body old)) :
    (struct type names body).Stable := by
  intro old v w a hcanon hun hread
  cases v with
  | null => rwa [eq_of_canon_eq_null hcanon]
  | bool b | num l | str s | arr xs => cases hread
  | obj ms =>
    obtain ⟨ms', rfl⟩ := eq_of_canon_eq_obj hcanon
    unfold struct at hread ⊢
    cases hunknown : ms.find? fun m => resolve names m.1 = none with
    | some m =>
      simp only [hunknown] at hread
      cases hread
    | none =>
      -- the other object has the same names
      have hknown : ms'.find? (fun m => resolve names m.1 = none) = none := by
        rw [List.find?_eq_none] at hunknown ⊢
        intro m' hm'
        obtain ⟨ns, hperm, hsame⟩ := exists_same_of_perm (perm_of_canon_eq hcanon)
        obtain ⟨m, hm, hname⟩ := exists_mem_of_forall₂ hsame hm'
        rw [← hname.1]
        exact hunknown m (hperm.mem_iff.mpr hm)
      simp only [hunknown] at hread
      simp only [hknown]
      exact hbody old ms ms' a ⟨hun, perm_of_canon_eq hcanon⟩ hread

end Decoder

end NexusGateway.Lib.Json
