/-
JSON trees, the text written for a tree and the canonical form of a tree.

An object keeps its members in document order, so that a tree says
everything two different decoders can disagree about.  Number literals are
kept as text.  The canonical form sorts the members of every object by
name; objects with one canonical form have the same members in some order.
-/

import Mathlib.Algebra.Ring.Int.Defs
import Mathlib.Data.List.Sort
import Mathlib.Data.List.Perm.Basic
import Mathlib.Data.String.Basic

namespace NexusGateway.Lib

/-- A JSON value; the members of an object are in document order. -/
inductive Json where
  | null
  | bool (b : Bool)
  | num (literal : String)
  | str (s : String)
  | arr (items : List Json)
  | obj (members : List (String × Json))

variable {p : Json → Prop} {ms : List (String × Json)}

namespace Json

/-- Induction over a tree, with the hypothesis for every item and every member. -/
theorem induct {P : Json → Prop} (null : P .null) (bool : ∀ b, P (.bool b))
    (num : ∀ l, P (.num l)) (str : ∀ s, P (.str s))
    (arr : ∀ xs, (∀ x ∈ xs, P x) → P (.arr xs))
    (obj : ∀ ms, (∀ m ∈ ms, P m.2) → P (.obj ms)) : ∀ j, P j
  | .null => null
  | .bool b => bool b
  | .num l => num l
  | .str s => str s
  | .arr xs => arr xs fun x hx =>
    have : sizeOf x < sizeOf xs := List.sizeOf_lt_of_mem hx
    induct null bool num str arr obj x
  | .obj ms => obj ms fun (k, v) hm =>
    have : sizeOf (k, v) < sizeOf ms := List.sizeOf_lt_of_mem hm
    induct null bool num str arr obj v
termination_by j => sizeOf j
decreasing_by
  · rw [Json.arr.sizeOf_spec]
    omega
  · rw [Json.obj.sizeOf_spec]
    rw [Prod.mk.sizeOf_spec] at this
    omega

/-! ## Properties of every node -/

mutual

def Everywhere (p : Json → Prop) : Json → Prop
  | .arr xs => p (.arr xs) ∧ EveryItem p xs
  | .obj ms => p (.obj ms) ∧ EveryMember p ms
  | j => p j

def EveryItem (p : Json → Prop) : List Json → Prop
  | [] => True
  | x :: xs => Everywhere p x ∧ EveryItem p xs

def EveryMember (p : Json → Prop) : List (String × Json) → Prop
  | [] => True
  | m :: ms => Everywhere p m.2 ∧ EveryMember p ms

end

@[simp] theorem everyItem_iff {xs : List Json} : EveryItem p xs ↔ ∀ x ∈ xs, Everywhere p x := by
  induction xs with
  | nil => simp [EveryItem]
  | cons x xs ih => simp [EveryItem, ih]

@[simp] theorem everyMember_iff : EveryMember p ms ↔ ∀ m ∈ ms, Everywhere p m.2 := by
  induction ms with
  | nil => simp [EveryMember]
  | cons m ms ih => simp [EveryMember, ih]

theorem everywhere_arr {xs : List Json} :
    Everywhere p (.arr xs) ↔ p (.arr xs) ∧ ∀ x ∈ xs, Everywhere p x := by
  rw [Everywhere, everyItem_iff]

theorem everywhere_obj : Everywhere p (.obj ms) ↔ p (.obj ms) ∧ ∀ m ∈ ms, Everywhere p m.2 := by
  rw [Everywhere, everyMember_iff]

/-! ## Text -/

def hexDigit (n : Nat) : Char := Char.ofNat (if n < 10 then 48 + n else 87 + n)

def unicodeEscape (n : Nat) : List Char :=
  ['\\', 'u', hexDigit (n / 4096 % 16), hexDigit (n / 256 % 16), hexDigit (n / 16 % 16),
    hexDigit (n % 16)]

def shortEscape (c : Char) : Option Char :=
  if c = '"' then some '"'
  else if c = '\\' then some '\\'
  else if c = Char.ofNat 8 then some 'b'
  else if c = Char.ofNat 12 then some 'f'
  else if c = '\n' then some 'n'
  else if c = '\r' then some 'r'
  else if c = '\t' then some 't'
  else none

/-- The character is written as a `\u` escape; `<`, `>` and `&` are when the
    text is to be safe inside HTML. -/
def needsUnicode (html : Bool) (c : Char) : Bool :=
  c.toNat < 0x20 || c.toNat = 0x2028 || c.toNat = 0x2029 ||
    (html && (c = '<' || c = '>' || c = '&'))

def escapeChar (html : Bool) (c : Char) : List Char :=
  match shortEscape c with
  | some e => ['\\', e]
  | none => if needsUnicode html c then unicodeEscape c.toNat else [c]

def stringBody (html : Bool) (cs : List Char) : List Char := cs.flatMap (escapeChar html) ++ ['"']

def quote (html : Bool) (s : String) : List Char := '"' :: stringBody html s.toList

mutual

def text (html : Bool) : Json → List Char
  | .null => ['n', 'u', 'l', 'l']
  | .bool true => ['t', 'r', 'u', 'e']
  | .bool false => ['f', 'a', 'l', 's', 'e']
  | .num l => l.toList
  | .str s => quote html s
  | .arr xs => '[' :: itemsText html xs
  | .obj ms => '{' :: membersText html ms

def itemsText (html : Bool) : List Json → List Char
  | [] => [']']
  | [x] => text html x ++ [']']
  | x :: y :: xs => text html x ++ ',' :: itemsText html (y :: xs)

def membersText (html : Bool) : List (String × Json) → List Char
  | [] => ['}']
  | [m] => quote html m.1 ++ ':' :: (text html m.2 ++ ['}'])
  | m :: m' :: ms => quote html m.1 ++ ':' :: (text html m.2 ++ ',' :: membersText html (m' :: ms))

end

/-! ## Canonical form -/

def sortMembers (ms : List (String × Json)) : List (String × Json) :=
  ms.insertionSort fun a b => a.1 ≤ b.1

mutual

def canon : Json → Json
  | .null => .null
  | .bool b => .bool b
  | .num l => .num l
  | .str s => .str s
  | .arr xs => .arr (canonItems xs)
  | .obj ms => .obj (sortMembers (canonMembers ms))

def canonItems : List Json → List Json
  | [] => []
  | x :: xs => canon x :: canonItems xs

def canonMembers : List (String × Json) → List (String × Json)
  | [] => []
  | m :: ms => (m.1, canon m.2) :: canonMembers ms

end

def canonMember (m : String × Json) : String × Json := (m.1, canon m.2)

theorem canonItems_eq_map (xs : List Json) : canonItems xs = xs.map canon := by
  induction xs with
  | nil => simp [canonItems]
  | cons x xs ih => simp [canonItems, ih]

theorem canonMembers_eq_map (ms : List (String × Json)) : canonMembers ms = ms.map canonMember := by
  induction ms with
  | nil => simp [canonMembers]
  | cons m ms ih => simp [canonMembers, canonMember, ih]

theorem canon_arr (xs : List Json) : canon (.arr xs) = .arr (xs.map canon) := by
  rw [canon, canonItems_eq_map]

theorem canon_obj (ms : List (String × Json)) :
    canon (.obj ms) = .obj (sortMembers (ms.map canonMember)) := by
  rw [canon, canonMembers_eq_map]

theorem sortMembers_perm (ms : List (String × Json)) : (sortMembers ms).Perm ms :=
  List.perm_insertionSort _ ms

theorem perm_of_canon_eq {ms' : List (String × Json)} (h : canon (.obj ms) = canon (.obj ms')) :
    (ms.map canonMember).Perm (ms'.map canonMember) := by
  rw [canon_obj, canon_obj, Json.obj.injEq] at h
  have hsort := sortMembers_perm (ms.map canonMember)
  rw [h] at hsort
  exact hsort.symm.trans (sortMembers_perm (ms'.map canonMember))

def SameMember (m m' : String × Json) : Prop := m.1 = m'.1 ∧ canon m.2 = canon m'.2

theorem exists_same_of_perm {ms' : List (String × Json)}
    (h : (ms.map canonMember).Perm (ms'.map canonMember)) :
    ∃ ns, ms.Perm ns ∧ List.Forall₂ SameMember ns ms' := by
  -- the canonical members of one side, each with the member it comes from
  have hpair : List.Forall₂ (fun c m => c = canonMember m) (ms.map canonMember) ms := by
    rw [List.forall₂_map_left_iff]
    exact List.forall₂_same.mpr fun _ _ => rfl
  obtain ⟨ns, hns, hperm⟩ := List.perm_comp_forall₂ h.symm hpair
  refine ⟨ns, hperm.symm, ?_⟩
  rw [List.forall₂_map_left_iff] at hns
  refine hns.flip.imp fun m m' heq => ?_
  rw [canonMember, canonMember, Prod.mk.injEq] at heq
  exact ⟨heq.1.symm, heq.2.symm⟩

theorem everywhere_canon (hp : ∀ j, p j → p (canon j)) (j : Json) :
    Everywhere p j → Everywhere p (canon j) := by
  induction j using Json.induct with
  | null | bool b | num l | str s =>
    intro h
    simpa only [canon] using h
  | arr xs ih =>
    intro h
    rw [everywhere_arr] at h
    have harr := hp _ h.1
    rw [canon_arr] at harr ⊢
    rw [everywhere_arr]
    refine ⟨harr, fun y hy => ?_⟩
    obtain ⟨x, hx, rfl⟩ := List.mem_map.mp hy
    exact ih x hx (h.2 x hx)
  | obj ms ih =>
    intro h
    rw [everywhere_obj] at h
    have hobj := hp _ h.1
    rw [canon_obj] at hobj ⊢
    rw [everywhere_obj]
    refine ⟨hobj, fun c hc => ?_⟩
    rw [sortMembers, List.mem_insertionSort] at hc
    obtain ⟨m, hm, rfl⟩ := List.mem_map.mp hc
    exact ih m hm (h.2 m hm)

end Json
end NexusGateway.Lib
