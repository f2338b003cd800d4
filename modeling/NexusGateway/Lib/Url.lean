/-
`net/url`: parsing a URL into scheme, userinfo, host, query and fragment, and
writing the host back.

A text is parsed as its bytes, each written as the character of its code.  An
error is `none`: its text is never used.
-/

import Mathlib
import NexusGateway.Lib.Decimal
import NexusGateway.Lib.Text

namespace NexusGateway.Lib

structure Url where
  scheme : List Char
  /-- `User`: the name and, after a colon, the password. -/
  user : Option (List Char × Option (List Char))
  host : List Char
  rawQuery : List Char
  fragment : List Char
deriving DecidableEq, Repr

variable {s u scheme : List Char}

namespace Url

/-! ## Cutting a text -/

/-- `strings.Cut`: what stands before the first `c`, and after it if there is one. -/
def cut (c : Char) (s : List Char) : List Char × Option (List Char) :=
  match s.dropWhile (· != c) with
  | [] => (s, none)
  | _ :: after => (s.takeWhile (· != c), some after)

/-- The same at the last `c`, found by `strings.LastIndex`. -/
def cutLast (c : Char) : List Char → Option (List Char × List Char)
  | [] => none
  | x :: s =>
    match cutLast c s with
    | some (before, after) => some (x :: before, after)
    | none => if x = c then some ([], s) else none

theorem dropWhile_eq_nil_of_not_mem {c : Char} (h : c ∉ s) : s.dropWhile (· != c) = [] := by
  rw [List.dropWhile_eq_nil_iff]
  intro x hx
  rw [bne_iff_ne]
  rintro rfl
  exact h hx

theorem cut_of_not_mem {c : Char} (h : c ∉ s) : cut c s = (s, none) := by
  rw [cut, dropWhile_eq_nil_of_not_mem h]

theorem cut_append {c : Char} {before : List Char} (h : c ∉ before) (after : List Char) :
    cut c (before ++ c :: after) = (before, some after) := by
  have hstop : ∀ x ∈ before, (x != c) = true := by
    intro x hx
    rw [bne_iff_ne]
    rintro rfl
    exact h hx
  rw [cut, List.dropWhile_append_of_pos hstop, List.takeWhile_append_of_pos hstop]
  simp

theorem cutLast_of_not_mem {c : Char} (h : c ∉ s) : cutLast c s = none := by
  induction s with
  | nil => rfl
  | cons x s ih =>
    rw [List.mem_cons, not_or] at h
    rw [cutLast, ih h.2]
    exact if_neg (Ne.symm h.1)

theorem cutLast_append {c : Char} {after : List Char} (h : c ∉ after) (before : List Char) :
    cutLast c (before ++ c :: after) = some (before, after) := by
  induction before with
  | nil =>
    rw [List.nil_append, cutLast, cutLast_of_not_mem h]
    exact if_pos rfl
  | cons x before ih => rw [List.cons_append, cutLast, ih]

/-! ## Percent-encoding -/

/-- `unhex`, for a hexadecimal digit. -/
def unhex (c : Char) : Option Nat :=
  if '0' ≤ c ∧ c ≤ '9' then some (c.toNat - 48)
  else if 'a' ≤ c ∧ c ≤ 'f' then some (c.toNat - 87)
  else if 'A' ≤ c ∧ c ≤ 'F' then some (c.toNat - 55)
  else none

/-- `unescape`: the mode says which encoded bytes and which plain characters it takes. -/
def unescape (byteOk : Nat → Bool) (charOk : Char → Bool) : List Char → Option (List Char)
  | [] => some []
  | '%' :: a :: b :: s =>
    match unhex a, unhex b with
    | some x, some y =>
      if byteOk (16 * x + y) then
        (unescape byteOk charOk s).map (Char.ofNat (16 * x + y) :: ·)
      else none
    | _, _ => none
  | '%' :: _ => none
  | c :: s => if charOk c then (unescape byteOk charOk s).map (c :: ·) else none

/-- `encodePath`, `encodeUserPassword` and `encodeFragment`: anything goes. -/
def unescapeAny : List Char → Option (List Char) := unescape (fun _ => true) (fun _ => true)

def isAlphanum (c : Char) : Bool :=
  ('a' ≤ c && c ≤ 'z') || ('A' ≤ c && c ≤ 'Z') || ('0' ≤ c && c ≤ '9')

def inClass (marks : String) (c : Char) : Bool := isAlphanum c || marks.toList.contains c

/-- `shouldEscape` in the modes `encodeHost` and `encodeZone`. -/
def shouldEscapeHost (c : Char) : Bool := !inClass "!$&'()*+,;=:[]<>\"-_.~" c

def hostCharOk (c : Char) : Bool := !(c.toNat < 128 && shouldEscapeHost c)

/-- `encodeHost`: of the encoded bytes, those outside ASCII and the percent sign. -/
def unescapeHost : List Char → Option (List Char) :=
  unescape (fun v => 128 ≤ v || v == 37) hostCharOk

/-- `encodeZone`. -/
def unescapeZone : List Char → Option (List Char) :=
  unescape (fun v => v == 37 || v == 32 || !shouldEscapeHost (Char.ofNat v)) hostCharOk

def upperHexDigit (n : Nat) : Char := Char.ofNat (if n < 10 then 48 + n else 55 + n)

/-- `escape` in the mode `encodeHost`. -/
def escapeHost (host : List Char) : List Char :=
  host.flatMap fun c =>
    if shouldEscapeHost c then
      ['%', upperHexDigit (c.toNat / 16 % 16), upperHexDigit (c.toNat % 16)]
    else [c]

/-! ## Parsing -/

def validOptionalPort : List Char → Bool
  | [] => true
  | c :: digits => c == ':' && digits.all Char.isDigit

def cutBefore (needle : List Char) : List Char → Option (List Char × List Char)
  | [] => none
  | c :: s =>
    if needle.isPrefixOf (c :: s) then some ([], c :: s)
    else (cutBefore needle s).map fun p => (c :: p.1, p.2)

/-- `parseIPv4Fields`, of the end of an IPv6 address. -/
def isIPv4 (s : List Char) : Bool :=
  (s.splitOn '.').length == 4 && (s.splitOn '.').all fun octet =>
    octet != [] && octet.all Char.isDigit && (octet.length == 1 || octet.head? != some '0') &&
      decimal octet ≤ 255

/-- The groups of an IPv6 address, with so many of them left; `ellipsis` tells that some have
    been left out already. -/
def isGroups : Nat → Bool → List Char → Bool
  | 0, ellipsis, s => s == [] && !ellipsis
  | n + 1, ellipsis, s =>
    let group := s.takeWhile fun c => (unhex c).isSome
    if group = [] ∨ group.length > 4 then false
    else
      match s.drop group.length with
      | [] => (n == 0) != ellipsis
      | '.' :: _ => n != 0 && (n == 1) != ellipsis && isIPv4 s
      | [':'] => false
      | [':', ':'] => n != 0 && !ellipsis
      | ':' :: ':' :: rest => !ellipsis && isGroups n true rest
      | ':' :: rest => isGroups n ellipsis rest
      | _ => false

/-- `netip.ParseAddr`, for the addresses that are not of IPv4. -/
def isIPv6 (s : List Char) : Bool :=
  (cut '%' s).2 != some [] &&
    match (cut '%' s).1 with
    | [':', ':'] => true
    | ':' :: ':' :: rest => isGroups 8 true rest
    | address => isGroups 8 false address

def parseHost (host : List Char) : Option (List Char) :=
  match cutLast '[' host with
  | some (before, _) =>
    if before ≠ [] then none
    else
      match cutLast ']' host with
      | none => none
      | some (literal, colonPort) =>
        if !validOptionalPort colonPort then none
        else do
          let colonPort ← unescapeHost colonPort
          let name ←
            match cutBefore "%25".toList literal.tail with
            | some (address, zone) => do return (← unescapeHost address) ++ (← unescapeZone zone)
            | none => unescapeHost literal.tail
          if isIPv6 name then some ('[' :: name ++ ']' :: colonPort) else none
  | none =>
    match cutLast ':' host with
    | none => unescapeHost host
    | some (_, port) => if !validOptionalPort (':' :: port) then none else unescapeHost host

/-- `validUserinfo`, of one character. -/
def validUserinfoChar : Char → Bool := inClass "-._:~!$&'()*+,;=%@"

def parseUserinfo (userinfo : List Char) : Option (List Char × Option (List Char)) :=
  if !userinfo.all validUserinfoChar then none
  else
    match cut ':' userinfo with
    | (_, none) => (unescapeAny userinfo).map fun name => (name, none)
    | (name, some password) => do
        let name ← unescapeAny name
        let password ← unescapeAny password
        return (name, some password)

def parseAuthority (authority : List Char) :
    Option (Option (List Char × Option (List Char)) × List Char) :=
  match cutLast '@' authority with
  | none => (parseHost authority).map fun host => (none, host)
  | some (userinfo, host) =>
    (parseHost host).bind fun host => (parseUserinfo userinfo).map fun user => (some user, host)

def schemeChar : Char → Bool := inClass "+-."

/-- `getScheme`; an error for a missing scheme. -/
def getScheme (s : List Char) : Option (List Char × List Char) :=
  match s.takeWhile schemeChar, s.dropWhile schemeChar with
  | [], ':' :: _ => none
  | first :: more, ':' :: rest =>
    if first.isAlpha then some (first :: more, rest) else some ([], s)
  | _, _ => some ([], s)

def parseRest (scheme rest rawQuery : List Char) : Option Url :=
  if rest.head? ≠ some '/' ∧ scheme ≠ [] then
    -- an opaque URL
    some ⟨scheme, none, [], rawQuery, []⟩
  else if rest.head? ≠ some '/' ∧ (cut '/' rest).1.contains ':' then none
  else if (scheme ≠ [] ∨ ¬ "///".toList.isPrefixOf rest) ∧ "//".toList.isPrefixOf rest then
    (parseAuthority (cut '/' (rest.drop 2)).1).bind fun authority =>
      (unescapeAny ((cut '/' (rest.drop 2)).2.getD [])).map fun _ =>
        ⟨scheme, authority.1, authority.2, rawQuery, []⟩
  else (unescapeAny rest).map fun _ => ⟨scheme, none, [], rawQuery, []⟩

/-- `parse`, of a URL without its fragment.  A question mark at the end, with no
    query behind it, is dropped like one with a query. -/
def parseNoFragment (s : List Char) : Option Url :=
  if s.any fun c => c.toNat < 32 || c.toNat == 127 then none
  else if s = ['*'] then some ⟨[], none, [], [], []⟩
  else
    (getScheme s).bind fun p =>
      parseRest (p.1.map Char.toLower) (cut '?' p.2).1 ((cut '?' p.2).2.getD [])

/-- The bytes of a text. -/
def bytes (s : List Char) : List Char :=
  s.flatMap fun c => (String.utf8EncodeChar c).map fun b => Char.ofNat b.toNat

theorem bytes_eq_self (h : ∀ c ∈ s, c.toNat < 127) : bytes s = s := by
  induction s with
  | nil => rfl
  | cons c s ih =>
    have hc : c.val.toNat < 127 := h c (List.mem_cons_self ..)
    have hencode : String.utf8EncodeChar c = [UInt8.ofNat c.val.toNat] := if_pos (by omega)
    have hbyte : (UInt8.ofNat c.val.toNat).toNat = c.toNat := Nat.mod_eq_of_lt (by omega)
    have hrest := ih fun d hd => h d (List.mem_cons_of_mem _ hd)
    rw [bytes] at hrest ⊢
    rw [List.flatMap_cons, hrest, hencode, List.map_singleton, hbyte, Char.ofNat_toNat]
    rfl

def parse (s : List Char) : Option Url :=
  (parseNoFragment (cut '#' (bytes s)).1).bind fun url =>
    (unescapeAny ((cut '#' (bytes s)).2.getD [])).map fun fragment =>
      { url with fragment := fragment }

/-- `Hostname`: the host without port and brackets. -/
def hostname (u : Url) : List Char :=
  let host :=
    match cutLast ':' u.host with
    | some (host, port) => if validOptionalPort (':' :: port) then host else u.host
    | none => u.host
  if host.head? = some '[' ∧ host.getLast? = some ']' then host.tail.dropLast else host

/-! ## Userinfo and host -/

/-- A character that stands for itself in an RFC 3986 `userinfo`: `unreserved`,
    `sub-delims` or a colon. -/
def userinfoChar : Char → Bool := inClass "-._~!$&'()*+,;=:"

def hostChar : Char → Bool := inClass "-._~!$&'()*+,;=%:[]"

/-- RFC 3986 `userinfo`. -/
inductive IsUserinfo : List Char → Prop
  | nil : IsUserinfo []
  | plain {c : Char} {s : List Char} :
      userinfoChar c = true → IsUserinfo s → IsUserinfo (c :: s)
  | encoded {a b : Char} {s : List Char} :
      (unhex a).isSome → (unhex b).isSome → IsUserinfo s → IsUserinfo ('%' :: a :: b :: s)

theorem toNat_le_toNat {a b : Char} (h : a ≤ b) : a.toNat ≤ b.toNat :=
  UInt32.le_iff_toNat_le.mp h

theorem printable_of_isAlphanum {c : Char} (h : isAlphanum c = true) :
    33 ≤ c.toNat ∧ c.toNat < 127 := by
  simp only [isAlphanum, Bool.or_eq_true, Bool.and_eq_true, decide_eq_true_eq] at h
  rcases h with (⟨hlo, hhi⟩ | ⟨hlo, hhi⟩) | ⟨hlo, hhi⟩
  · have h1 : 97 ≤ c.toNat := toNat_le_toNat hlo
    have h2 : c.toNat ≤ 122 := toNat_le_toNat hhi
    omega
  · have h1 : 65 ≤ c.toNat := toNat_le_toNat hlo
    have h2 : c.toNat ≤ 90 := toNat_le_toNat hhi
    omega
  · have h1 : 48 ≤ c.toNat := toNat_le_toNat hlo
    have h2 : c.toNat ≤ 57 := toNat_le_toNat hhi
    omega

theorem isAlphanum_of_unhex {c : Char} (h : (unhex c).isSome) : isAlphanum c = true := by
  unfold unhex at h
  simp only [isAlphanum, Bool.or_eq_true, Bool.and_eq_true, decide_eq_true_eq]
  split at h
  · next hdigit => exact Or.inr hdigit
  · split at h
    · next hlower => exact Or.inl (Or.inl ⟨hlower.1, Char.le_trans hlower.2 (by decide)⟩)
    · split at h
      · next hupper => exact Or.inl (Or.inr ⟨hupper.1, Char.le_trans hupper.2 (by decide)⟩)
      · cases h

section Classes

variable {marks : String} {c : Char}

theorem printable_of_inClass
    (hmarks : marks.toList.all (fun c => 33 ≤ c.toNat && c.toNat < 127) = true)
    (h : inClass marks c = true) : 33 ≤ c.toNat ∧ c.toNat < 127 := by
  rcases (Bool.or_eq_true _ _).mp h with halnum | hmark
  · exact printable_of_isAlphanum halnum
  · have hc := List.all_eq_true.mp hmarks c (List.contains_iff_mem.mp hmark)
    simpa using hc

theorem inClass_of_subset {more : String} (hsub : marks.toList.all more.toList.contains = true)
    (h : inClass marks c = true) : inClass more c = true := by
  rcases (Bool.or_eq_true _ _).mp h with halnum | hmark
  · exact (Bool.or_eq_true _ _).mpr (Or.inl halnum)
  · have hc := List.all_eq_true.mp hsub c (List.contains_iff_mem.mp hmark)
    exact (Bool.or_eq_true _ _).mpr (Or.inr hc)

theorem not_mem_of_inClass {d : Char} (hd : inClass marks d = false)
    (h : ∀ c ∈ s, inClass marks c = true) : d ∉ s := by
  intro hmem
  rw [h d hmem] at hd
  cases hd

end Classes

theorem IsUserinfo.inClass (h : IsUserinfo u) : ∀ c ∈ u, inClass "-._~!$&'()*+,;=:%" c = true := by
  induction h with
  | nil =>
    intro c hc
    cases hc
  | plain hc _ ih =>
    intro d hd
    rcases List.mem_cons.mp hd with rfl | hd
    · exact inClass_of_subset (by decide) hc
    · exact ih d hd
  | encoded ha hb _ ih =>
    intro d hd
    rcases List.mem_cons.mp hd with rfl | hd
    · decide
    · rcases List.mem_cons.mp hd with rfl | hd
      · exact (Bool.or_eq_true _ _).mpr (Or.inl (isAlphanum_of_unhex ha))
      · rcases List.mem_cons.mp hd with rfl | hd
        · exact (Bool.or_eq_true _ _).mpr (Or.inl (isAlphanum_of_unhex hb))
        · exact ih d hd

theorem IsUserinfo.of_forall (h : ∀ c ∈ u, userinfoChar c = true) : IsUserinfo u := by
  induction u with
  | nil => exact .nil
  | cons c u ih =>
    exact .plain (h c (List.mem_cons_self ..)) (ih fun d hd => h d (List.mem_cons_of_mem _ hd))

theorem IsUserinfo.split {a b : List Char} {c : Char} (h : IsUserinfo u)
    (hc : isAlphanum c = false ∧ c ≠ '%') (heq : u = a ++ c :: b) :
    IsUserinfo a ∧ IsUserinfo b := by
  induction h generalizing a with
  | nil =>
    simp at heq
  | plain hd hs ih =>
    cases a with
    | nil =>
      cases heq
      exact ⟨.nil, hs⟩
    | cons x a =>
      rw [List.cons_append, List.cons.injEq] at heq
      obtain ⟨rfl, heq⟩ := heq
      obtain ⟨ha, hb⟩ := ih heq
      exact ⟨.plain hd ha, hb⟩
  | encoded hx hy hs ih =>
    -- the mark is none of the three characters of an encoded byte
    have hne : ∀ {d : Char}, (unhex d).isSome → d ≠ c := by
      rintro d hd rfl
      rw [isAlphanum_of_unhex hd] at hc
      cases hc.1
    rcases a with _ | ⟨x, _ | ⟨y, _ | ⟨z, a⟩⟩⟩
    · cases heq
      exact absurd rfl hc.2
    · cases heq
      exact absurd rfl (hne hx)
    · cases heq
      exact absurd rfl (hne hy)
    · simp only [List.cons_append, List.cons.injEq] at heq
      obtain ⟨rfl, rfl, rfl, heq⟩ := heq
      obtain ⟨ha, hb⟩ := ih heq
      exact ⟨.encoded hx hy ha, hb⟩

theorem unescape_cons {byteOk : Nat → Bool} {charOk : Char → Bool} {c : Char} (hc : c ≠ '%')
    (s : List Char) :
    unescape byteOk charOk (c :: s)
      = if charOk c then (unescape byteOk charOk s).map (c :: ·) else none := by
  rw [unescape]
  · exact fun _ _ _ h => absurd h hc
  · exact hc

theorem IsUserinfo.unescapeAny (h : IsUserinfo u) : ∃ s, Url.unescapeAny u = some s := by
  induction h with
  | nil => exact ⟨[], rfl⟩
  | @plain c s hc _ ih =>
    obtain ⟨t, ht⟩ := ih
    have hne : c ≠ '%' := by
      rintro rfl
      revert hc
      decide
    refine ⟨c :: t, ?_⟩
    rw [Url.unescapeAny, unescape_cons hne, if_pos rfl]
    exact congrArg (Option.map _) ht
  | @encoded a b s ha hb _ ih =>
    obtain ⟨t, ht⟩ := ih
    obtain ⟨x, hx⟩ := Option.isSome_iff_exists.mp ha
    obtain ⟨y, hy⟩ := Option.isSome_iff_exists.mp hb
    refine ⟨Char.ofNat (16 * x + y) :: t, ?_⟩
    rw [Url.unescapeAny, unescape, hx, hy]
    exact congrArg (Option.map _) ht

theorem IsUserinfo.parseUserinfo (h : IsUserinfo u) : ∃ user, Url.parseUserinfo u = some user := by
  have hvalid : u.all validUserinfoChar = true := by
    rw [List.all_eq_true]
    exact fun c hc => inClass_of_subset (by decide) (h.inClass c hc)
  unfold Url.parseUserinfo
  rw [hvalid, if_neg (by decide)]
  by_cases hcolon : ':' ∈ u
  · obtain ⟨name, password, rfl, hname⟩ := List.eq_append_cons_of_mem hcolon
    obtain ⟨huser, hpass⟩ := h.split (by decide) rfl
    obtain ⟨s, hs⟩ := huser.unescapeAny
    obtain ⟨t, ht⟩ := hpass.unescapeAny
    rw [cut_append hname]
    show ∃ user, (Url.unescapeAny name).bind _ = some user
    rw [hs, Option.bind_some, ht]
    exact ⟨_, rfl⟩
  · obtain ⟨s, hs⟩ := h.unescapeAny
    rw [cut_of_not_mem hcolon, hs]
    exact ⟨_, rfl⟩

def IsSchemeName (scheme : List Char) : Prop :=
  scheme ≠ [] ∧ ∀ c ∈ scheme, 'a' ≤ c ∧ c ≤ 'z'

theorem getScheme_append (h : IsSchemeName scheme) (rest : List Char) :
    getScheme (scheme ++ ':' :: rest) = some (scheme, rest) := by
  have hchars : ∀ c ∈ scheme, schemeChar c = true := by
    intro c hc
    obtain ⟨hlo, hhi⟩ := h.2 c hc
    simp [schemeChar, inClass, isAlphanum, hlo, hhi]
  have hcolon : schemeChar ':' = false := by decide
  obtain ⟨first, more, rfl⟩ := List.exists_cons_of_ne_nil h.1
  have halpha : first.isAlpha = true := by
    obtain ⟨hlo, hhi⟩ := h.2 first (List.mem_cons_self ..)
    have hlower : first.isLower = true := by
      simp only [Char.isLower, Bool.and_eq_true, decide_eq_true_eq]
      exact ⟨hlo, hhi⟩
    rw [Char.isAlpha, hlower, Bool.or_true]
  unfold getScheme
  rw [List.takeWhile_append_of_pos hchars, List.dropWhile_append_of_pos hchars,
    List.takeWhile_cons, List.dropWhile_cons, hcolon, if_neg Bool.false_ne_true,
    if_neg Bool.false_ne_true, List.append_nil]
  exact if_pos halpha

theorem map_toLower_of_isSchemeName (h : IsSchemeName scheme) :
    scheme.map Char.toLower = scheme := by
  rw [List.map_congr_left (g := id), List.map_id]
  intro c hc
  obtain ⟨hlo, hhi⟩ := h.2 c hc
  have h1 : 97 ≤ c.toNat := toNat_le_toNat hlo
  have hupper : ¬ (c.val ≥ 'A'.val ∧ c.val ≤ 'Z'.val) := by
    rintro ⟨-, hle⟩
    have h2 : c.toNat ≤ 90 := UInt32.le_iff_toNat_le.mp hle
    omega
  exact dif_neg hupper

theorem parseRest_authority {authority : List Char} (hscheme : scheme ≠ [])
    (hslash : '/' ∉ authority) (rawQuery : List Char) :
    parseRest scheme ('/' :: '/' :: authority) rawQuery
      = (parseAuthority authority).map fun p => ⟨scheme, p.1, p.2, rawQuery, []⟩ := by
  have hopen : "//".toList.isPrefixOf ('/' :: '/' :: authority) = true := by
    simp [List.isPrefixOf]
  have hhead : ¬ ('/' :: '/' :: authority).head? ≠ some '/' := fun hne => hne rfl
  rw [parseRest, if_neg (fun hand => hhead hand.1), if_neg (fun hand => hhead hand.1),
    if_pos ⟨Or.inl hscheme, hopen⟩]
  have hcut : cut '/' (('/' :: '/' :: authority).drop 2) = (authority, none) :=
    cut_of_not_mem hslash
  rw [hcut]
  cases parseAuthority authority with
  | none => rfl
  | some p => simp [unescapeAny, unescape]

/-- **The userinfo of a URL decides nothing but the userinfo.**  The rest of what is
    parsed from `scheme://userinfo@host` is the scheme and what is read from the host. -/
theorem parse_userinfo_host {h : List Char} (hscheme : IsSchemeName scheme) (hu : IsUserinfo u)
    (hh : ∀ c ∈ h, hostChar c = true) :
    ∃ user, parse (scheme ++ "://".toList ++ u ++ '@' :: h)
      = (parseHost h).map fun host => ⟨scheme, some user, host, [], []⟩ := by
  obtain ⟨user, huser⟩ := hu.parseUserinfo
  refine ⟨user, ?_⟩
  have htext : scheme ++ "://".toList ++ u ++ '@' :: h
      = scheme ++ ':' :: ('/' :: '/' :: (u ++ '@' :: h)) := by simp
  -- every character of the text belongs to one class of visible characters
  have hclass : ∀ c ∈ scheme ++ "://".toList ++ u ++ '@' :: h,
      inClass "-._~!$&'()*+,;=:%[]/@" c = true := by
    intro c hc
    simp only [List.mem_append, List.mem_cons] at hc
    rcases hc with ((hc | hc) | hc) | (rfl | hc)
    · obtain ⟨hlo, hhi⟩ := hscheme.2 c hc
      simp [inClass, isAlphanum, hlo, hhi]
    · exact List.all_eq_true.mp (by decide : "://".toList.all _ = true) c hc
    · exact inClass_of_subset (by decide) (hu.inClass c hc)
    · decide
    · exact inClass_of_subset (by decide) (hh c hc)
  have hhash := not_mem_of_inClass (d := '#') (by decide) hclass
  have hquery := not_mem_of_inClass (d := '?') (by decide) hclass
  have hslash : '/' ∉ u ++ '@' :: h := by
    have hu' := not_mem_of_inClass (d := '/') (by decide) hu.inClass
    have hh' := not_mem_of_inClass (d := '/') (by decide) hh
    simp [hu', hh']
  have hat : '@' ∉ h := not_mem_of_inClass (by decide) hh
  have hcontrol : ((scheme ++ "://".toList ++ u ++ '@' :: h).any fun c =>
      c.toNat < 32 || c.toNat == 127) = false := by
    rw [List.any_eq_false]
    intro c hc
    have hp := printable_of_inClass (by decide) (hclass c hc)
    simp only [Bool.or_eq_true, decide_eq_true_eq, beq_iff_eq, not_or]
    omega
  have hstar : scheme ++ "://".toList ++ u ++ '@' :: h ≠ ['*'] := by
    intro heq
    have hmem : '@' ∈ ['*'] := heq ▸ List.mem_append_right _ (List.mem_cons_self ..)
    revert hmem
    decide
  have hauthority : parseAuthority (u ++ '@' :: h)
      = (parseHost h).map fun host => (some user, host) := by
    simp only [parseAuthority, cutLast_append hat, huser, Option.map_some]
    cases parseHost h with
    | none | some host => rfl
  have hrest := parseRest_authority hscheme.1 hslash []
  have hquery' : '?' ∉ '/' :: '/' :: (u ++ '@' :: h) := by
    rw [htext] at hquery
    exact fun hmem => hquery (List.mem_append_right _ (List.mem_cons_of_mem _ hmem))
  have hbytes := bytes_eq_self fun c hc => (printable_of_inClass (by decide) (hclass c hc)).2
  rw [parse, hbytes, cut_of_not_mem hhash, parseNoFragment, hcontrol, if_neg Bool.false_ne_true,
    if_neg hstar, htext, getScheme_append hscheme, Option.bind_some,
    map_toLower_of_isSchemeName hscheme, cut_of_not_mem hquery']
  show (parseRest scheme ('/' :: '/' :: (u ++ '@' :: h)) []).bind _ = _
  rw [hrest, hauthority]
  cases parseHost h with
  | none | some host => rfl

end Url

end NexusGateway.Lib
