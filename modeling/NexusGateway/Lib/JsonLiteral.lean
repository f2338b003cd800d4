/-
The members of a JSON object with the literals they are written in.

A tree has lost what decoders can disagree about inside a string: a decoder
that takes the text between the quotes does not see the string where an
escape is written, and one that keeps half of a surrogate pair does not read
what one does that replaces it.  A `StringLiteral` has both readings.
-/

import NexusGateway.Lib.JsonDecode

namespace NexusGateway.Lib.Json

/-! ## Code points -/

/-- The character of a code point; half of a surrogate pair is replaced. -/
def scalar (p : Nat) : Char :=
  if 0xd800 ≤ p && p < 0xe000 then replacement else Char.ofNat p

theorem scalar_of_not_surrogate {p : Nat} (h : ¬ (0xd800 ≤ p ∧ p < 0xe000)) :
    scalar p = Char.ofNat p := by
  rw [scalar, if_neg]
  rw [Bool.and_eq_true, decide_eq_true_eq, decide_eq_true_eq]
  exact h

@[simp] theorem scalar_toNat (c : Char) : scalar c.toNat = c := by
  have hrange := toNat_cases c
  rw [scalar_of_not_surrogate (by omega)]
  exact Char.ofNat_toNat c

theorem toNat_scalar_eq_iff {p : Nat} : (scalar p).toNat = p ↔ p.isValidChar := by
  constructor
  · intro h
    rw [← h]
    exact (scalar p).valid
  · intro h
    obtain ⟨c, rfl⟩ : ∃ c : Char, c.toNat = p := ⟨Char.ofNatAux p h, rfl⟩
    rw [scalar_toNat]

/-- What follows `\u`: a code point, a surrogate pair, or half of one. -/
def readUnicodePoint (cs : List Char) : Option (Nat × List Char) := do
  let (n, rest) ← readHex4 cs
  if 0xd800 ≤ n && n < 0xdc00 then
    match readLow rest with
    | some (m, rest) => some ((n - 0xd800) * 1024 + (m - 0xdc00) + 0x10000, rest)
    | none => some (n, rest)
  else some (n, rest)

def readEscape : List Char → Option (Nat × List Char)
  | [] => none
  | e :: rest =>
    if e = 'u' then readUnicodePoint rest else (unescape e).map fun c => (c.toNat, rest)

/-! ## String literals -/

/-- A string literal: the text between its quotes, and the code points that stands for.
    Without a backslash they are those of the text. -/
structure StringLiteral where
  raw : List Char
  points : List Nat
  plain : '\\' ∉ raw → points = raw.map Char.toNat

namespace StringLiteral

theorem plain_nil (_ : '\\' ∉ ([] : List Char)) : [] = ([] : List Char).map Char.toNat := rfl

theorem plain_char (l : StringLiteral) (c : Char) (h : '\\' ∉ c :: l.raw) :
    c.toNat :: l.points = (c :: l.raw).map Char.toNat := by
  rw [List.map_cons, ← l.plain fun hmem => h (List.mem_cons_of_mem _ hmem)]

theorem plain_escape (l : StringLiteral) (text : List Char) (p : Nat)
    (h : '\\' ∉ '\\' :: (text ++ l.raw)) :
    p :: l.points = ('\\' :: (text ++ l.raw)).map Char.toNat :=
  absurd (List.mem_cons_self ..) h

def empty : StringLiteral := ⟨[], [], plain_nil⟩

def char (l : StringLiteral) (c : Char) : StringLiteral :=
  ⟨c :: l.raw, c.toNat :: l.points, l.plain_char c⟩

/-- An escape in front of a literal: what follows its backslash, and its code point. -/
def escape (l : StringLiteral) (text : List Char) (p : Nat) : StringLiteral :=
  ⟨'\\' :: (text ++ l.raw), p :: l.points, l.plain_escape text p⟩

def text (l : StringLiteral) : String := String.ofList (l.points.map scalar)

def Legible (l : StringLiteral) : Prop := ∀ p ∈ l.points, p.isValidChar

instance (l : StringLiteral) : Decidable l.Legible :=
  inferInstanceAs (Decidable (∀ p ∈ l.points, p.isValidChar))

theorem points_eq_iff (l : StringLiteral) :
    l.points = l.text.toList.map Char.toNat ↔ l.Legible := by
  rw [text, String.toList_ofList, List.map_map]
  constructor
  · intro h p hp
    have hmap : l.points.map id = l.points.map (Char.toNat ∘ scalar) := by
      rw [List.map_id]
      exact h
    exact toNat_scalar_eq_iff.mp (List.map_inj_left.mp hmap p hp).symm
  · intro h
    calc l.points = l.points.map id := (List.map_id _).symm
      _ = l.points.map (Char.toNat ∘ scalar) :=
          List.map_congr_left fun p hp => (toNat_scalar_eq_iff.mpr (h p hp)).symm

end StringLiteral

def readStringLiteral : Nat → List Char → Option (StringLiteral × List Char)
  | 0, _ => none
  | _ + 1, [] => none
  | n + 1, c :: cs =>
    if c = '"' then some (.empty, cs)
    else if c = '\\' then do
      let (p, rest) ← readEscape cs
      let (l, rest') ← readStringLiteral n rest
      some (l.escape (cs.take (cs.length - rest.length)) p, rest')
    else if c.toNat < 0x20 then none
    else do
      let (l, rest) ← readStringLiteral n cs
      some (l.char c, rest)

/-! ## Members -/

/-- The value of a member as it is written.  A value that is no string, no number and
    not `null` is kept as its tree. -/
inductive Literal where
  | null
  | number (literal : String)
  | string (l : StringLiteral)
  | other (j : Json)

namespace Literal

def ofTree : Json → Literal
  | .null => .null
  | .num l => .number l
  | j => .other j

def tree : Literal → Json
  | .null => .null
  | .number l => .num l
  | .string l => .str l.text
  | .other j => j

end Literal

def readLiteral : Nat → List Char → Option (Literal × List Char)
  | 0, _ => none
  | n + 1, cs =>
    match cs.dropWhile isSpace with
    | [] => none
    | c :: rest =>
      if c = '"' then
        (readStringLiteral (rest.length + 1) rest).map fun p => (.string p.1, p.2)
      else (readValue (n + 1) cs).map fun p => (.ofTree p.1, p.2)

def readLiterals : Nat → List Char → Option (List (String × Literal) × List Char)
  | 0, _ => none
  | n + 1, cs => do
      let rest ← expect '"' cs
      let (k, rest) ← readString (rest.length + 1) rest
      let rest ← expect ':' rest
      let (v, rest) ← readLiteral n rest
      match expect '}' rest with
      | some rest => some ([(String.ofList k, v)], rest)
      | none => do
          let rest ← expect ',' rest
          let (ms, rest) ← readLiterals n rest
          some ((String.ofList k, v) :: ms, rest)

inductive Document where
  | object (members : List (String × Literal))
  | other (j : Json)

def readDocumentText : Nat → List Char → Option (Document × List Char)
  | 0, _ => none
  | n + 1, cs =>
    match cs.dropWhile isSpace with
    | [] => none
    | c :: rest =>
      if c = '{' then
        match expect '}' rest with
        | some rest => some (.object [], rest)
        | none => (readLiterals n rest).map fun p => (.object p.1, p.2)
      else (readValue (n + 1) cs).map fun p => (.other p.1, p.2)

def readDocument (data : List UInt8) : Option (Document × List Char) :=
  readDocumentText (runes data).length (runes data)

/-! ## The members of one field -/

def lastOf {α : Type} (ms : List (String × α)) (name : String) : Option α :=
  ((ms.filter fun m => m.1 = name).getLast?).map Prod.snd

theorem lastOf_map {α β : Type} (f : α → β) (ms : List (String × α)) (name : String) :
    lastOf (ms.map fun m => (m.1, f m.2)) name = (lastOf ms name).map f := by
  rw [lastOf, lastOf, List.filter_map, List.getLast?_map, Option.map_map, Option.map_map]
  rfl

theorem lastOf_isSome_iff {α : Type} {ms : List (String × α)} {name : String} :
    (lastOf ms name).isSome ↔ name ∈ ms.map Prod.fst := by
  rw [lastOf, Option.isSome_map, List.getLast?_isSome, ne_eq, List.filter_eq_nil_iff]
  simp

/-- What the members of one field leave in it, in document order. -/
def literalField {β : Type} (names : List String) (name : String)
    (d : β → Literal → Except String β) (old : β) (ms : List (String × Literal)) :
    Except String β :=
  (ms.filter fun m => resolve names m.1 = some name).foldlM (fun b m => d b m.2) old

theorem literalField_last {β : Type} {names : List String} {name : String}
    {d : β → Literal → Except String β} {old b : β} {ms : List (String × Literal)}
    (hnames : ∀ m ∈ ms, m.1 ∈ names) (h : literalField names name d old ms = .ok b) :
    lastOf ms name = none ∧ b = old ∨ ∃ v b', lastOf ms name = some v ∧ d b' v = .ok b := by
  have hfilter : ms.filter (fun m => resolve names m.1 = some name)
      = ms.filter fun m => m.1 = name := by
    apply List.filter_congr
    intro m hm
    exact decide_eq_decide.mpr (by rw [resolve_of_mem (hnames m hm), Option.some.injEq])
  rw [literalField, hfilter] at h
  rw [lastOf]
  rcases List.eq_nil_or_concat (ms.filter fun m => m.1 = name) with hnil | ⟨init, m, hlast⟩
  · rw [hnil] at h ⊢
    cases h
    exact Or.inl ⟨rfl, rfl⟩
  · rw [List.concat_eq_append] at hlast
    rw [hlast, List.foldlM_append] at h
    obtain ⟨b', -, h⟩ := bind_eq_ok.mp h
    simp only [List.foldlM_cons, List.foldlM_nil, bind_pure] at h
    rw [hlast, List.getLast?_concat]
    exact Or.inr ⟨m.2, b', rfl, h⟩

end NexusGateway.Lib.Json
