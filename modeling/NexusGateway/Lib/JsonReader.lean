/-
Reading JSON text: the grammar of RFC 8259 over the characters of a
document, where a byte that starts no valid UTF-8 sequence is U+FFFD.

What is read is well formed (`read_wellFormed`); the pieces a writer puts
together, characters, strings and numbers, are read back.
-/

import NexusGateway.Lib.Json

namespace NexusGateway.Lib.Json

/-! ## Characters of a document -/

def replacement : Char := Char.ofNat 0xfffd

def between (lo hi : Nat) (b : UInt8) : Bool := lo ≤ b.toNat && b.toNat ≤ hi

/-- The characters of a UTF-8 document.  A byte that starts no valid sequence is the
    replacement character; overlong forms and surrogates are not valid. -/
def runes : List UInt8 → List Char
  | [] => []
  | b :: rest =>
    if b.toNat < 0x80 then Char.ofNat b.toNat :: runes rest
    else match rest with
      | [] => [replacement]
      | b₁ :: rest₁ =>
        if between 0xc2 0xdf b && between 0x80 0xbf b₁ then
          Char.ofNat (b.toNat % 32 * 64 + b₁.toNat % 64) :: runes rest₁
        else match rest₁ with
          | [] => replacement :: runes (b₁ :: [])
          | b₂ :: rest₂ =>
            if between 0xe0 0xef b && between 0x80 0xbf b₂ &&
                between (if b = 0xe0 then 0xa0 else 0x80) (if b = 0xed then 0x9f else 0xbf)
                  b₁ then
              Char.ofNat ((b.toNat % 16 * 64 + b₁.toNat % 64) * 64 + b₂.toNat % 64) ::
                runes rest₂
            else match rest₂ with
              | [] => replacement :: runes (b₁ :: b₂ :: [])
              | b₃ :: rest₃ =>
                if between 0xf0 0xf4 b && between 0x80 0xbf b₂ && between 0x80 0xbf b₃ &&
                    between (if b = 0xf0 then 0x90 else 0x80)
                      (if b = 0xf4 then 0x8f else 0xbf) b₁ then
                  Char.ofNat (((b.toNat % 8 * 64 + b₁.toNat % 64) * 64 + b₂.toNat % 64) *
                    64 + b₃.toNat % 64) :: runes rest₃
                else replacement :: runes (b₁ :: b₂ :: b₃ :: rest₃)

def utf8Char (c : Char) : List UInt8 :=
  let n := c.toNat
  if n < 0x80 then [UInt8.ofNat n]
  else if n < 0x800 then [UInt8.ofNat (0xc0 + n / 64), UInt8.ofNat (0x80 + n % 64)]
  else if n < 0x10000 then
    [UInt8.ofNat (0xe0 + n / 4096), UInt8.ofNat (0x80 + n / 64 % 64), UInt8.ofNat (0x80 + n % 64)]
  else
    [UInt8.ofNat (0xf0 + n / 262144), UInt8.ofNat (0x80 + n / 4096 % 64),
      UInt8.ofNat (0x80 + n / 64 % 64), UInt8.ofNat (0x80 + n % 64)]

def utf8 (cs : List Char) : List UInt8 := cs.flatMap utf8Char

theorem toNat_ofNat_byte {n : Nat} (h : n < 256) : (UInt8.ofNat n).toNat = n := by
  rw [UInt8.toNat_ofNat']
  omega

theorem toNat_cases (c : Char) : c.toNat < 0xd800 ∨ 0xdfff < c.toNat ∧ c.toNat < 0x110000 :=
  c.valid

theorem between_ofNat {lo hi n : Nat} (hn : n < 256) (hlo : lo ≤ n) (hhi : n ≤ hi) :
    between lo hi (UInt8.ofNat n) = true := by
  rw [between, toNat_ofNat_byte hn, Bool.and_eq_true, decide_eq_true_eq, decide_eq_true_eq]
  exact ⟨hlo, hhi⟩

theorem runes_two {b b₁ : UInt8} (hb : between 0xc2 0xdf b = true)
    (hb₁ : between 0x80 0xbf b₁ = true) (bs : List UInt8) :
    runes (b :: b₁ :: bs) = Char.ofNat (b.toNat % 32 * 64 + b₁.toNat % 64) :: runes bs := by
  have hhigh : ¬ b.toNat < 0x80 := by
    simp only [between, Bool.and_eq_true, decide_eq_true_eq] at hb
    omega
  rw [runes.eq_def]
  simp only [hhigh, if_false, hb, hb₁, Bool.and_self, if_true]

theorem runes_three {b b₁ b₂ : UInt8} (hb : between 0xe0 0xef b = true)
    (hb₁ : between (if b = 0xe0 then 0xa0 else 0x80) (if b = 0xed then 0x9f else 0xbf) b₁ = true)
    (hb₂ : between 0x80 0xbf b₂ = true) (bs : List UInt8) :
    runes (b :: b₁ :: b₂ :: bs) =
      Char.ofNat ((b.toNat % 16 * 64 + b₁.toNat % 64) * 64 + b₂.toNat % 64) :: runes bs := by
  have hhigh : ¬ b.toNat < 0x80 ∧ between 0xc2 0xdf b = false := by
    simp only [between, Bool.and_eq_true, Bool.and_eq_false_iff, decide_eq_true_eq,
      decide_eq_false_iff_not] at hb ⊢
    omega
  rw [runes.eq_def]
  simp only [hhigh, if_false, hb, hb₁, hb₂, Bool.and_self, Bool.false_and, Bool.false_eq_true,
    if_true]

theorem runes_four {b b₁ b₂ b₃ : UInt8} (hb : between 0xf0 0xf4 b = true)
    (hb₁ : between (if b = 0xf0 then 0x90 else 0x80) (if b = 0xf4 then 0x8f else 0xbf) b₁ = true)
    (hb₂ : between 0x80 0xbf b₂ = true) (hb₃ : between 0x80 0xbf b₃ = true) (bs : List UInt8) :
    runes (b :: b₁ :: b₂ :: b₃ :: bs) =
      Char.ofNat (((b.toNat % 8 * 64 + b₁.toNat % 64) * 64 + b₂.toNat % 64) * 64 +
        b₃.toNat % 64) :: runes bs := by
  have hhigh : ¬ b.toNat < 0x80 ∧ between 0xc2 0xdf b = false ∧ between 0xe0 0xef b = false := by
    simp only [between, Bool.and_eq_true, Bool.and_eq_false_iff, decide_eq_true_eq,
      decide_eq_false_iff_not] at hb ⊢
    omega
  rw [runes.eq_def]
  simp only [hhigh, if_false, hb, hb₁, hb₂, hb₃, Bool.and_self, Bool.false_and,
    Bool.false_eq_true, if_true]

theorem ofNat_byte_eq_iff {m n : Nat} (hm : m < 256) (hn : n < 256) :
    UInt8.ofNat m = UInt8.ofNat n ↔ m = n := by
  rw [← UInt8.toNat_inj, toNat_ofNat_byte hm, toNat_ofNat_byte hn]

theorem runes_utf8Char (c : Char) (bs : List UInt8) : runes (utf8Char c ++ bs) = c :: runes bs := by
  have hrange := toNat_cases c
  have hchar {n : Nat} (h : n = c.toNat) : Char.ofNat n = c := by rw [h, Char.ofNat_toNat]
  unfold utf8Char
  simp only
  split_ifs with h₁ h₂ h₃
  · have hb := toNat_ofNat_byte (show c.toNat < 256 by omega)
    rw [List.singleton_append, runes.eq_def]
    simp only [hb, h₁, if_true, hchar]
  · have hb := toNat_ofNat_byte (show 0xc0 + c.toNat / 64 < 256 by omega)
    have hb₁ := toNat_ofNat_byte (show 0x80 + c.toNat % 64 < 256 by omega)
    rw [List.cons_append, List.singleton_append,
      runes_two (between_ofNat (by omega) (by omega) (by omega))
        (between_ofNat (by omega) (by omega) (by omega)), hb, hb₁]
    rw [hchar (by omega)]
  · have hb := toNat_ofNat_byte (show 0xe0 + c.toNat / 4096 < 256 by omega)
    have hb₁ := toNat_ofNat_byte (show 0x80 + c.toNat / 64 % 64 < 256 by omega)
    have hb₂ := toNat_ofNat_byte (show 0x80 + c.toNat % 64 < 256 by omega)
    have hsecond : between (if UInt8.ofNat (0xe0 + c.toNat / 4096) = 0xe0 then 0xa0 else 0x80)
        (if UInt8.ofNat (0xe0 + c.toNat / 4096) = 0xed then 0x9f else 0xbf)
        (UInt8.ofNat (0x80 + c.toNat / 64 % 64)) = true := by
      have he0 := ofNat_byte_eq_iff (show 0xe0 + c.toNat / 4096 < 256 by omega)
        (show 0xe0 < 256 by omega)
      have hed := ofNat_byte_eq_iff (show 0xe0 + c.toNat / 4096 < 256 by omega)
        (show 0xed < 256 by omega)
      refine between_ofNat (by omega) ?_ ?_
      · split_ifs with h
        · have := he0.mp h
          omega
        · omega
      · split_ifs with h
        · have := hed.mp h
          omega
        · omega
    simp only [List.cons_append, List.nil_append]
    rw [runes_three (between_ofNat (by omega) (by omega) (by omega)) hsecond
      (between_ofNat (by omega) (by omega) (by omega)), hb, hb₁, hb₂, hchar (by omega)]
  · have hb := toNat_ofNat_byte (show 0xf0 + c.toNat / 262144 < 256 by omega)
    have hb₁ := toNat_ofNat_byte (show 0x80 + c.toNat / 4096 % 64 < 256 by omega)
    have hb₂ := toNat_ofNat_byte (show 0x80 + c.toNat / 64 % 64 < 256 by omega)
    have hb₃ := toNat_ofNat_byte (show 0x80 + c.toNat % 64 < 256 by omega)
    have hsecond : between (if UInt8.ofNat (0xf0 + c.toNat / 262144) = 0xf0 then 0x90 else 0x80)
        (if UInt8.ofNat (0xf0 + c.toNat / 262144) = 0xf4 then 0x8f else 0xbf)
        (UInt8.ofNat (0x80 + c.toNat / 4096 % 64)) = true := by
      have hf0 := ofNat_byte_eq_iff (show 0xf0 + c.toNat / 262144 < 256 by omega)
        (show 0xf0 < 256 by omega)
      have hf4 := ofNat_byte_eq_iff (show 0xf0 + c.toNat / 262144 < 256 by omega)
        (show 0xf4 < 256 by omega)
      refine between_ofNat (by omega) ?_ ?_
      · split_ifs with h
        · have := hf0.mp h
          omega
        · omega
      · split_ifs with h
        · have := hf4.mp h
          omega
        · omega
    simp only [List.cons_append, List.nil_append]
    rw [runes_four (between_ofNat (by omega) (by omega) (by omega)) hsecond
      (between_ofNat (by omega) (by omega) (by omega))
      (between_ofNat (by omega) (by omega) (by omega)), hb, hb₁, hb₂, hb₃, hchar (by omega)]

theorem runes_utf8 (cs : List Char) : runes (utf8 cs) = cs := by
  induction cs with
  | nil => rfl
  | cons c cs ih =>
    show runes (utf8Char c ++ utf8 cs) = _
    rw [runes_utf8Char, ih]

/-! ## Strings -/

def hexValue (c : Char) : Option Nat :=
  if '0' ≤ c ∧ c ≤ '9' then some (c.toNat - 48)
  else if 'a' ≤ c ∧ c ≤ 'f' then some (c.toNat - 87)
  else if 'A' ≤ c ∧ c ≤ 'F' then some (c.toNat - 55)
  else none

def readHex4 : List Char → Option (Nat × List Char)
  | a :: b :: c :: d :: rest => do
      let a ← hexValue a
      let b ← hexValue b
      let c ← hexValue c
      let d ← hexValue d
      some (((a * 16 + b) * 16 + c) * 16 + d, rest)
  | _ => none

def readLow : List Char → Option (Nat × List Char)
  | '\\' :: 'u' :: rest => (readHex4 rest).filter fun p => 0xdc00 ≤ p.1 && p.1 < 0xe000
  | _ => none

/-- What follows `\u`: a character, a surrogate pair, or half of one, which is read
    as the replacement character. -/
def readUnicode (cs : List Char) : Option (Char × List Char) := do
  let (n, rest) ← readHex4 cs
  if 0xd800 ≤ n && n < 0xdc00 then
    match readLow rest with
    | some (m, rest) => some (Char.ofNat ((n - 0xd800) * 1024 + (m - 0xdc00) + 0x10000), rest)
    | none => some (replacement, rest)
  else if 0xdc00 ≤ n && n < 0xe000 then some (replacement, rest)
  else some (Char.ofNat n, rest)

def unescape (c : Char) : Option Char :=
  if c = '"' then some '"'
  else if c = '\\' then some '\\'
  else if c = '/' then some '/'
  else if c = 'b' then some (Char.ofNat 8)
  else if c = 'f' then some (Char.ofNat 12)
  else if c = 'n' then some '\n'
  else if c = 'r' then some '\r'
  else if c = 't' then some '\t'
  else none

def readChar : List Char → Option (Char × List Char)
  | [] => none
  | c :: cs =>
    if c = '\\' then
      match cs with
      | [] => none
      | e :: rest => if e = 'u' then readUnicode rest else (unescape e).map (·, rest)
    else if c.toNat < 0x20 then none else some (c, cs)

/-- The characters of a string literal up to its closing quote; every character takes
    one unit of fuel. -/
def readString : Nat → List Char → Option (List Char × List Char)
  | 0, _ => none
  | _ + 1, [] => none
  | n + 1, c :: cs =>
    if c = '"' then some ([], cs)
    else do
      let (x, rest) ← readChar (c :: cs)
      let (xs, rest) ← readString n rest
      some (x :: xs, rest)

theorem hexValue_hexDigit : ∀ n < 16, hexValue (hexDigit n) = some n := by decide

theorem readChar_unicode (cs : List Char) : readChar ('\\' :: 'u' :: cs) = readUnicode cs := rfl

theorem readChar_letter {e : Char} (h : e ≠ 'u') (cs : List Char) :
    readChar ('\\' :: e :: cs) = (unescape e).map (·, cs) := by
  rw [readChar, if_pos rfl]
  exact if_neg h

theorem readUnicode_escape {c : Char} (h : c.toNat < 0xd800) (r : List Char) :
    readChar (unicodeEscape c.toNat ++ r) = some (c, r) := by
  have hdigit (k : Nat) : hexValue (hexDigit (k % 16)) = some (k % 16) :=
    hexValue_hexDigit _ (Nat.mod_lt _ (by omega))
  have hvalue : ((c.toNat / 4096 % 16 * 16 + c.toNat / 256 % 16) * 16 + c.toNat / 16 % 16) * 16 +
      c.toNat % 16 = c.toNat := by omega
  have hhigh : ¬ (0xd800 ≤ c.toNat) := by omega
  have hlow : ¬ (0xdc00 ≤ c.toNat) := by omega
  show readChar ('\\' :: 'u' :: hexDigit (c.toNat / 4096 % 16) ::
    hexDigit (c.toNat / 256 % 16) :: hexDigit (c.toNat / 16 % 16) ::
    hexDigit (c.toNat % 16) :: r) = _
  rw [readChar_unicode]
  simp [readUnicode, readHex4, hdigit, hvalue, hhigh, hlow, Char.ofNat_toNat]

theorem readChar_shortEscape {c e : Char} (h : shortEscape c = some e) (r : List Char) :
    readChar ('\\' :: e :: r) = some (c, r) := by
  have hread : e ≠ 'u' ∧ unescape e = some c := by
    unfold shortEscape at h
    split_ifs at h with h₁ h₂ h₃ h₄ h₅ h₆ h₇ <;> cases h <;> simp_all [unescape]
  rw [readChar_letter hread.1, hread.2]
  rfl

theorem readChar_escapeChar (html : Bool) (c : Char) (r : List Char) :
    readChar (escapeChar html c ++ r) = some (c, r) := by
  unfold escapeChar
  cases hshort : shortEscape c with
  | some e => exact readChar_shortEscape hshort r
  | none =>
    have hslash : c ≠ '\\' := by
      rintro rfl
      simp [shortEscape] at hshort
    cases hneeds : needsUnicode html c with
    | true =>
      rw [needsUnicode] at hneeds
      have hsmall : c.toNat < 0xd800 := by
        simp only [Bool.or_eq_true, Bool.and_eq_true, decide_eq_true_eq] at hneeds
        rcases hneeds with ((h | h) | h) | ⟨-, (h | h) | h⟩
        · omega
        · omega
        · omega
        all_goals
          rw [h]
          decide
      exact readUnicode_escape hsmall r
    | false =>
      have hprint : ¬ c.toNat < 0x20 := by
        intro hlt
        simp [needsUnicode, hlt] at hneeds
      show (if c = '\\' then _ else if c.toNat < 0x20 then none else some (c, r)) = _
      rw [if_neg hslash, if_neg hprint]

theorem escapeChar_head (html : Bool) (c : Char) :
    ∃ d ds, escapeChar html c = d :: ds ∧ d ≠ '"' := by
  unfold escapeChar
  cases hshort : shortEscape c with
  | some e => exact ⟨_, _, rfl, by decide⟩
  | none =>
    cases needsUnicode html c with
    | true => exact ⟨_, _, rfl, by decide⟩
    | false =>
      refine ⟨c, [], rfl, ?_⟩
      rintro rfl
      simp [shortEscape] at hshort

theorem length_lt_stringBody (html : Bool) (cs : List Char) :
    cs.length < (stringBody html cs).length := by
  induction cs with
  | nil => simp [stringBody]
  | cons c cs ih =>
    obtain ⟨d, ds, heq, -⟩ := escapeChar_head html c
    simp only [stringBody, List.flatMap_cons, List.length_append, List.length_cons, heq] at ih ⊢
    omega

theorem readString_stringBody (html : Bool) (cs r : List Char) (n : Nat) (hn : cs.length < n) :
    readString n (stringBody html cs ++ r) = some (cs, r) := by
  induction cs generalizing n with
  | nil =>
    obtain ⟨n, rfl⟩ : ∃ m, n = m + 1 := ⟨n - 1, by omega⟩
    rfl
  | cons c cs ih =>
    obtain ⟨n, rfl⟩ : ∃ m, n = m + 1 := ⟨n - 1, by omega⟩
    have hih := ih n (by simpa using hn)
    have hread := readChar_escapeChar html c (stringBody html cs ++ r)
    obtain ⟨d, ds, heq, hd⟩ := escapeChar_head html c
    have hbody : stringBody html (c :: cs) ++ r =
        escapeChar html c ++ (stringBody html cs ++ r) := by
      simp [stringBody]
    rw [hbody, heq, List.cons_append]
    rw [heq, List.cons_append] at hread
    simp [readString, hd, hread, hih]

/-! ## Numbers -/

def isNumberChar (c : Char) : Bool :=
  c.isDigit || c = '+' || c = '-' || c = '.' || c = 'e' || c = 'E'

def dropDigits : List Char → Option (List Char)
  | [] => none
  | c :: cs => if c.isDigit then some (cs.dropWhile Char.isDigit) else none

/-- What follows the integer part: a single zero, or digits that start with another. -/
def dropInteger : List Char → Option (List Char)
  | [] => none
  | c :: cs => if c = '0' then some cs else dropDigits (c :: cs)

def dropFraction : List Char → Option (List Char)
  | [] => some []
  | c :: cs => if c = '.' then dropDigits cs else some (c :: cs)

def dropSign (signs : List Char) : List Char → List Char
  | [] => []
  | c :: cs => if c ∈ signs then cs else c :: cs

def dropExponent : List Char → Option (List Char)
  | [] => some []
  | c :: cs =>
    if c = 'e' || c = 'E' then dropDigits (dropSign ['+', '-'] cs) else some (c :: cs)

def validNumber (cs : List Char) : Bool :=
  cs.all isNumberChar &&
    ((dropInteger (dropSign ['-'] cs)).bind dropFraction).bind dropExponent = some []

/-- A number literal: the longest stretch of its characters has to be one. -/
def readNumber (cs : List Char) : Option (Json × List Char) :=
  if validNumber (cs.takeWhile isNumberChar) then
    some (.num (String.ofList (cs.takeWhile isNumberChar)), cs.dropWhile isNumberChar)
  else none

def Delimited (r : List Char) : Prop := ∀ c ∈ r.head?, isNumberChar c = false

theorem validNumber_ne_nil {cs : List Char} (h : validNumber cs = true) : cs ≠ [] := by
  rintro rfl
  exact absurd h (by decide)

theorem validNumber_chars {cs : List Char} (h : validNumber cs = true) :
    ∀ c ∈ cs, isNumberChar c = true := by
  rw [validNumber, Bool.and_eq_true] at h
  exact List.all_eq_true.mp h.1

theorem readNumber_append {cs r : List Char} (h : validNumber cs = true) (hr : Delimited r) :
    readNumber (cs ++ r) = some (.num (String.ofList cs), r) := by
  have hchars := validNumber_chars h
  have htake : r.takeWhile isNumberChar = [] := by
    cases r with
    | nil => rfl
    | cons c r => rw [List.takeWhile_cons, hr c rfl, if_neg Bool.false_ne_true]
  have hdrop : r.dropWhile isNumberChar = r := by
    cases r with
    | nil => rfl
    | cons c r => rw [List.dropWhile_cons, hr c rfl, if_neg Bool.false_ne_true]
  have hlit : (cs ++ r).takeWhile isNumberChar = cs := by
    rw [List.takeWhile_append_of_pos hchars, htake, List.append_nil]
  have hrest : (cs ++ r).dropWhile isNumberChar = r := by
    rw [List.dropWhile_append_of_pos hchars, hdrop]
  rw [readNumber, hlit, hrest, if_pos h]

/-! ## Values -/

def isSpace (c : Char) : Bool := c = ' ' || c = '\t' || c = '\n' || c = '\r'

def expect (c : Char) (cs : List Char) : Option (List Char) :=
  match cs.dropWhile isSpace with
  | [] => none
  | d :: rest => if d = c then some rest else none

def readScalar : List Char → Option (Json × List Char)
  | 'n' :: 'u' :: 'l' :: 'l' :: rest => some (.null, rest)
  | 't' :: 'r' :: 'u' :: 'e' :: rest => some (.bool true, rest)
  | 'f' :: 'a' :: 'l' :: 's' :: 'e' :: rest => some (.bool false, rest)
  | cs => readNumber cs

mutual

/-- A value and what follows it.  Each value, item and member takes one unit of fuel and
    at least one character, so as many units as there are characters are enough. -/
def readValue : Nat → List Char → Option (Json × List Char)
  | 0, _ => none
  | n + 1, cs =>
    match cs.dropWhile isSpace with
    | [] => none
    | c :: rest =>
      if c = '"' then do
        let (s, rest) ← readString (rest.length + 1) rest
        some (.str (String.ofList s), rest)
      else if c = '[' then
        match expect ']' rest with
        | some rest => some (.arr [], rest)
        | none => do
            let (xs, rest) ← readItems n rest
            some (.arr xs, rest)
      else if c = '{' then
        match expect '}' rest with
        | some rest => some (.obj [], rest)
        | none => do
            let (ms, rest) ← readMembers n rest
            some (.obj ms, rest)
      else readScalar (c :: rest)

def readItems : Nat → List Char → Option (List Json × List Char)
  | 0, _ => none
  | n + 1, cs => do
      let (x, rest) ← readValue n cs
      match expect ']' rest with
      | some rest => some ([x], rest)
      | none => do
          let rest ← expect ',' rest
          let (xs, rest) ← readItems n rest
          some (x :: xs, rest)

def readMembers : Nat → List Char → Option (List (String × Json) × List Char)
  | 0, _ => none
  | n + 1, cs => do
      let rest ← expect '"' cs
      let (k, rest) ← readString (rest.length + 1) rest
      let rest ← expect ':' rest
      let (v, rest) ← readValue n rest
      match expect '}' rest with
      | some rest => some ([(String.ofList k, v)], rest)
      | none => do
          let rest ← expect ',' rest
          let (ms, rest) ← readMembers n rest
          some ((String.ofList k, v) :: ms, rest)

end

theorem readValue_quote (n : Nat) (cs : List Char) :
    readValue (n + 1) ('"' :: cs) =
      (readString (cs.length + 1) cs).map fun p => (.str (String.ofList p.1), p.2) := by
  show (readString (cs.length + 1) cs >>= _) = _
  cases readString (cs.length + 1) cs <;> rfl

theorem readValue_bracket (n : Nat) (cs : List Char) :
    readValue (n + 1) ('[' :: cs) =
      (expect ']' cs).elim ((readItems n cs).map fun p => (.arr p.1, p.2))
        fun rest => some (.arr [], rest) := by
  rw [readValue]
  have hopen : ('[' :: cs).dropWhile isSpace = '[' :: cs := rfl
  simp only [hopen, Char.reduceEq, if_false, if_true]
  cases expect ']' cs with
  | some rest => rfl
  | none => cases readItems n cs <;> rfl

theorem readValue_brace (n : Nat) (cs : List Char) :
    readValue (n + 1) ('{' :: cs) =
      (expect '}' cs).elim ((readMembers n cs).map fun p => (.obj p.1, p.2))
        fun rest => some (.obj [], rest) := by
  rw [readValue]
  have hopen : ('{' :: cs).dropWhile isSpace = '{' :: cs := rfl
  simp only [hopen, Char.reduceEq, if_false, if_true]
  cases expect '}' cs with
  | some rest => rfl
  | none => cases readMembers n cs <;> rfl

def read (data : List UInt8) : Option (Json × List Char) :=
  readValue (runes data).length (runes data)

/-! ## What is read is well formed -/

def ValidNode : Json → Prop
  | .num l => validNumber l.toList = true
  | _ => True

def WellFormed (j : Json) : Prop := Everywhere ValidNode j

@[simp] theorem wellFormed_str (s : String) : WellFormed (.str s) := trivial

@[simp] theorem wellFormed_bool (b : Bool) : WellFormed (.bool b) := trivial

@[simp] theorem wellFormed_num {l : String} :
    WellFormed (.num l) ↔ validNumber l.toList = true := Iff.rfl

@[simp] theorem wellFormed_arr {xs : List Json} :
    WellFormed (.arr xs) ↔ ∀ x ∈ xs, WellFormed x := by
  rw [WellFormed, everywhere_arr]
  exact ⟨fun h => h.2, fun h => ⟨trivial, h⟩⟩

@[simp] theorem wellFormed_obj {ms : List (String × Json)} :
    WellFormed (.obj ms) ↔ ∀ m ∈ ms, WellFormed m.2 := by
  rw [WellFormed, everywhere_obj]
  exact ⟨fun h => h.2, fun h => ⟨trivial, h⟩⟩

theorem WellFormed.canon {j : Json} (h : WellFormed j) : WellFormed (canon j) := by
  refine everywhere_canon (fun j hj => ?_) j h
  cases j with
  | num l => simpa only [Json.canon] using hj
  | null | bool b | str s | arr xs | obj ms => simp [Json.canon, ValidNode]

theorem readScalar_wellFormed {cs r : List Char} {j : Json} (h : readScalar cs = some (j, r)) :
    WellFormed j := by
  unfold readScalar at h
  split at h
  · cases h
    trivial
  · cases h
    trivial
  · cases h
    trivial
  · rw [readNumber] at h
    split_ifs at h with hvalid
    cases h
    show validNumber (String.ofList _).toList = true
    rw [String.toList_ofList]
    exact hvalid

theorem reads_wellFormed (n : Nat) :
    (∀ cs j r, readValue n cs = some (j, r) → WellFormed j) ∧
    (∀ cs xs r, readItems n cs = some (xs, r) → ∀ x ∈ xs, WellFormed x) ∧
    (∀ cs ms r, readMembers n cs = some (ms, r) → ∀ m ∈ ms, WellFormed m.2) := by
  induction n with
  | zero =>
    refine ⟨?_, ?_, ?_⟩ <;> intro cs j r h
    · rw [readValue] at h
      cases h
    · rw [readItems] at h
      cases h
    · rw [readMembers] at h
      cases h
  | succ n ih =>
    obtain ⟨ihValue, ihItems, ihMembers⟩ := ih
    refine ⟨?_, ?_, ?_⟩
    · intro cs j r h
      rw [readValue] at h
      split at h
      · cases h
      · split_ifs at h
        · simp only [Option.bind_eq_bind, Option.bind_eq_some_iff] at h
          obtain ⟨_, _, h⟩ := h
          cases h
          trivial
        · split at h
          · cases h
            exact wellFormed_arr.mpr (by simp)
          · simp only [Option.bind_eq_bind, Option.bind_eq_some_iff] at h
            obtain ⟨⟨xs, r'⟩, hxs, h⟩ := h
            cases h
            exact wellFormed_arr.mpr (ihItems _ _ _ hxs)
        · split at h
          · cases h
            exact wellFormed_obj.mpr (by simp)
          · simp only [Option.bind_eq_bind, Option.bind_eq_some_iff] at h
            obtain ⟨⟨ms, r'⟩, hms, h⟩ := h
            cases h
            exact wellFormed_obj.mpr (ihMembers _ _ _ hms)
        · exact readScalar_wellFormed h
    · intro cs xs r h
      simp only [readItems, Option.bind_eq_bind, Option.bind_eq_some_iff] at h
      obtain ⟨⟨x, rest⟩, hx, h⟩ := h
      have hwf := ihValue _ _ _ hx
      split at h
      · cases h
        simpa using hwf
      · simp only [Option.bind_eq_some_iff] at h
        obtain ⟨_, _, ⟨ys, _⟩, hys, h⟩ := h
        cases h
        simpa using ⟨hwf, ihItems _ _ _ hys⟩
    · intro cs ms r h
      simp only [readMembers, Option.bind_eq_bind, Option.bind_eq_some_iff] at h
      obtain ⟨_, _, ⟨k, _⟩, _, _, _, ⟨v, _⟩, hv, h⟩ := h
      have hwf := ihValue _ _ _ hv
      split at h
      · cases h
        simpa using hwf
      · simp only [Option.bind_eq_some_iff] at h
        obtain ⟨_, _, ⟨ns, _⟩, hns, h⟩ := h
        cases h
        simp only [List.mem_cons, forall_eq_or_imp]
        exact ⟨hwf, ihMembers _ _ _ hns⟩

theorem read_wellFormed {data : List UInt8} {j : Json} {r : List Char}
    (h : read data = some (j, r)) : WellFormed j :=
  (reads_wellFormed _).1 _ _ _ h

end NexusGateway.Lib.Json
