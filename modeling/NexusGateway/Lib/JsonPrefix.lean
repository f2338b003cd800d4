/-
A document that is an array has no proper prefix that is a document, not
even one whose last character is cut in the middle of its bytes.

A scan follows the brackets outside of strings and is `closed` for good when
the first of them is closed again.  Whatever the reader takes for a value is
balanced (`reads_balanced`), so that the scan of an array is closed by its
last bracket and not before.
-/

import NexusGateway.Lib.JsonWriter

namespace NexusGateway.Lib.Json

/-! ## Scanning brackets -/

/-- Where a scan stands: outside of strings, inside of one, after a backslash there; or
    past the end of the value. -/
inductive Scan where
  | plain (depth : Nat)
  | quoted (depth : Nat)
  | escaped (depth : Nat)
  | closed

def Scan.next : Scan → Char → Scan
  | .closed, _ => .closed
  | .escaped d, _ => .quoted d
  | .quoted d, c => if c = '\\' then .escaped d else if c = '"' then .plain d else .quoted d
  | .plain d, c =>
    if c = '"' then .quoted d
    else if c = '[' ∨ c = '{' then .plain (d + 1)
    else if c = ']' ∨ c = '}' then if d ≤ 1 then .closed else .plain (d - 1)
    else .plain d

def scan (s : Scan) (cs : List Char) : Scan := cs.foldl Scan.next s

theorem scan_cons (s : Scan) (c : Char) (cs : List Char) : scan s (c :: cs) = scan (s.next c) cs :=
  rfl

theorem scan_append (s : Scan) (cs ds : List Char) : scan s (cs ++ ds) = scan (scan s cs) ds :=
  List.foldl_append

theorem scan_closed (cs : List Char) : scan .closed cs = .closed := by
  induction cs with
  | nil => rfl
  | cons c cs ih => exact ih

def Balanced (cs : List Char) : Prop := ∀ d, 0 < d → scan (.plain d) cs = .plain d

def InQuotes (cs : List Char) : Prop := ∀ d, scan (.quoted d) cs = .quoted d

variable {cs : List Char}

theorem Balanced.append {ds : List Char} (hcs : Balanced cs) (hds : Balanced ds) :
    Balanced (cs ++ ds) := by
  intro d hd
  rw [scan_append, hcs d hd, hds d hd]

theorem InQuotes.append {ds : List Char} (hcs : InQuotes cs) (hds : InQuotes ds) :
    InQuotes (cs ++ ds) := by
  intro d
  rw [scan_append, hcs d, hds d]

theorem InQuotes.balanced (h : InQuotes cs) : Balanced ('"' :: (cs ++ ['"'])) := by
  intro d _
  rw [scan_cons]
  show scan (.quoted d) (cs ++ ['"']) = .plain d
  rw [scan_append, h d]
  rfl

def isNeutral (c : Char) : Bool := c ∉ ['"', '[', ']', '{', '}']

variable {c : Char}

theorem next_neutral (h : isNeutral c = true) (d : Nat) : (Scan.plain d).next c = .plain d := by
  simp only [isNeutral, List.mem_cons, List.not_mem_nil, or_false, not_or, decide_eq_true_eq] at h
  simp [Scan.next, h]

theorem balanced_of_neutral (h : cs.all isNeutral = true) : Balanced cs := by
  intro d hd
  induction cs with
  | nil => rfl
  | cons c cs ih =>
    rw [List.all_cons, Bool.and_eq_true] at h
    rw [scan_cons, next_neutral h.1]
    exact ih h.2

theorem isNeutral_of_isSpace (h : isSpace c = true) : isNeutral c = true := by
  simp only [isSpace, Bool.or_eq_true, decide_eq_true_eq] at h
  rcases h with ((rfl | rfl) | rfl) | rfl <;> decide

theorem isNeutral_of_isNumberChar (h : isNumberChar c = true) : isNeutral c = true := by
  rw [isNeutral, decide_eq_true_eq]
  intro hmem
  simp only [List.mem_cons, List.not_mem_nil, or_false] at hmem
  rcases hmem with rfl | rfl | rfl | rfl | rfl <;> exact absurd h (by decide)

theorem balanced_space {sp : List Char} (h : ∀ c ∈ sp, isSpace c = true) : Balanced sp :=
  balanced_of_neutral (List.all_eq_true.mpr fun c hc => isNeutral_of_isSpace (h c hc))

theorem next_close {c : Char} (hc : c = ']' ∨ c = '}') (d : Nat) :
    (Scan.plain d).next c = if d ≤ 1 then .closed else .plain (d - 1) := by
  rcases hc with rfl | rfl <;> rfl

theorem Balanced.enclosed (h : Balanced cs) {a z : Char}
    (ha : a = '[' ∨ a = '{') (hz : z = ']' ∨ z = '}') : Balanced (a :: (cs ++ [z])) := by
  intro d hd
  have hopen : (Scan.plain d).next a = .plain (d + 1) := by rcases ha with rfl | rfl <;> rfl
  rw [scan_cons, hopen, scan_append, h (d + 1) (by omega), scan_cons, next_close hz,
    if_neg (by omega)]
  rfl

/-! ## What the reader takes is balanced -/

theorem expect_eq_some {r : List Char} (h : expect c cs = some r) :
    ∃ sp, (∀ x ∈ sp, isSpace x = true) ∧ cs = sp ++ c :: r := by
  rw [expect] at h
  split at h
  · cases h
  · next d rest hdrop =>
    split_ifs at h with hd
    cases h
    refine ⟨cs.takeWhile isSpace, List.all_eq_true.mp List.all_takeWhile, ?_⟩
    rw [← hd, ← hdrop, List.takeWhile_append_dropWhile]

variable {n : Nat}

theorem next_hex (h : hexValue c = some n) (d : Nat) : (Scan.quoted d).next c = .quoted d := by
  have hslash : c ≠ '\\' := by
    rintro rfl
    cases h
  have hquote : c ≠ '"' := by
    rintro rfl
    cases h
  simp [Scan.next, hslash, hquote]

theorem readHex4_inQuotes {r : List Char} (h : readHex4 cs = some (n, r)) :
    ∃ hex, cs = hex ++ r ∧ InQuotes hex := by
  unfold readHex4 at h
  split at h
  · next a b c d rest =>
    simp only [Option.bind_eq_bind, Option.bind_eq_some_iff] at h
    obtain ⟨_, ha, _, hb, _, hc, _, hd, h⟩ := h
    cases h
    refine ⟨[a, b, c, d], rfl, fun depth => ?_⟩
    simp only [scan, List.foldl_cons, List.foldl_nil, next_hex ha, next_hex hb, next_hex hc,
      next_hex hd]
  · cases h

theorem inQuotes_escape (e : Char) (h : InQuotes cs) : InQuotes ('\\' :: e :: cs) :=
  fun d => h d

theorem readLow_inQuotes {r : List Char} (h : readLow cs = some (n, r)) :
    ∃ low, cs = low ++ r ∧ InQuotes low := by
  unfold readLow at h
  split at h
  · next rest =>
    obtain ⟨hex, rfl, hhex⟩ := readHex4_inQuotes (Option.filter_eq_some_iff.mp h).1
    exact ⟨'\\' :: 'u' :: hex, rfl, inQuotes_escape 'u' hhex⟩
  · cases h

theorem readUnicode_inQuotes {x : Char} {r : List Char} (h : readUnicode cs = some (x, r)) :
    ∃ pre, cs = pre ++ r ∧ InQuotes pre := by
  rw [readUnicode, Option.bind_eq_bind, Option.bind_eq_some_iff] at h
  obtain ⟨⟨n, rest⟩, hhigh, h⟩ := h
  obtain ⟨hex, rfl, hhex⟩ := readHex4_inQuotes hhigh
  simp only at h
  split_ifs at h
  · split at h
    · next m rest' hlow =>
      rw [Option.some.injEq, Prod.mk.injEq] at h
      obtain ⟨-, rfl⟩ := h
      obtain ⟨low, rfl, hquoted⟩ := readLow_inQuotes hlow
      exact ⟨hex ++ low, (List.append_assoc ..).symm, hhex.append hquoted⟩
    · cases h
      exact ⟨hex, rfl, hhex⟩
  · cases h
    exact ⟨hex, rfl, hhex⟩
  · cases h
    exact ⟨hex, rfl, hhex⟩

theorem readChar_inQuotes {x : Char} {r : List Char} (hc : c ≠ '"')
    (h : readChar (c :: cs) = some (x, r)) : ∃ pre, c :: cs = pre ++ r ∧ InQuotes pre := by
  simp only [readChar] at h
  split_ifs at h with hslash hsmall
  · subst hslash
    split at h
    · cases h
    · next e rest =>
      split_ifs at h
      · obtain ⟨pre, rfl, hpre⟩ := readUnicode_inQuotes h
        exact ⟨'\\' :: e :: pre, rfl, inQuotes_escape e hpre⟩
      · obtain ⟨y, -, hy⟩ := Option.map_eq_some_iff.mp h
        cases hy
        exact ⟨['\\', e], rfl, fun _ => rfl⟩
  · cases h
    refine ⟨[c], rfl, fun d => ?_⟩
    simp [scan, Scan.next, hslash, hc]

theorem readString_inQuotes {xs r : List Char} (h : readString n cs = some (xs, r)) :
    ∃ pre, cs = pre ++ '"' :: r ∧ InQuotes pre := by
  induction n generalizing cs xs with
  | zero =>
    rw [readString] at h
    cases h
  | succ n ih =>
    cases cs with
    | nil =>
      rw [readString] at h
      cases h
    | cons c cs =>
      rw [readString] at h
      split_ifs at h with hc
      · cases h
        exact ⟨[], by rw [hc]; rfl, fun _ => rfl⟩
      · simp only [Option.bind_eq_bind, Option.bind_eq_some_iff] at h
        obtain ⟨⟨x, rest⟩, hx, ⟨ys, rest'⟩, hys, h⟩ := h
        cases h
        obtain ⟨pre, hpre, hchar⟩ := readChar_inQuotes hc hx
        obtain ⟨pre', rfl, hstring⟩ := ih hys
        exact ⟨pre ++ pre', by rw [hpre, List.append_assoc], hchar.append hstring⟩

theorem readScalar_balanced {j : Json} {r : List Char} (h : readScalar cs = some (j, r)) :
    ∃ pre, cs = pre ++ r ∧ Balanced pre := by
  unfold readScalar at h
  split at h
  · cases h
    exact ⟨['n', 'u', 'l', 'l'], rfl, balanced_of_neutral (by decide)⟩
  · cases h
    exact ⟨['t', 'r', 'u', 'e'], rfl, balanced_of_neutral (by decide)⟩
  · cases h
    exact ⟨['f', 'a', 'l', 's', 'e'], rfl, balanced_of_neutral (by decide)⟩
  · rw [readNumber] at h
    split_ifs at h
    cases h
    refine ⟨_, List.takeWhile_append_dropWhile.symm, balanced_of_neutral ?_⟩
    rw [List.all_eq_true]
    intro c hc
    exact isNeutral_of_isNumberChar (List.all_eq_true.mp List.all_takeWhile c hc)

def BalancedValues (n : Nat) : Prop :=
  ∀ cs j r, readValue n cs = some (j, r) → ∃ pre, cs = pre ++ r ∧ Balanced pre

def BalancedItems (n : Nat) : Prop :=
  ∀ cs xs r, readItems n cs = some (xs, r) → ∃ pre, cs = pre ++ ']' :: r ∧ Balanced pre

def BalancedMembers (n : Nat) : Prop :=
  ∀ cs ms r, readMembers n cs = some (ms, r) → ∃ pre, cs = pre ++ '}' :: r ∧ Balanced pre

theorem readValue_string {j : Json} {r : List Char}
    (h : readValue (n + 1) ('"' :: cs) = some (j, r)) :
    ∃ pre, cs = pre ++ '"' :: r ∧ InQuotes pre := by
  rw [readValue_quote] at h
  obtain ⟨⟨xs, r'⟩, hxs, h⟩ := Option.map_eq_some_iff.mp h
  cases h
  exact readString_inQuotes hxs

theorem readValue_array {n : Nat} (hitems : BalancedItems n) {j : Json} {cs r : List Char}
    (h : readValue (n + 1) ('[' :: cs) = some (j, r)) :
    ∃ pre, cs = pre ++ ']' :: r ∧ Balanced pre := by
  rw [readValue_bracket] at h
  cases hclose : expect ']' cs with
  | some rest =>
    rw [hclose] at h
    cases h
    obtain ⟨sp, hsp, rfl⟩ := expect_eq_some hclose
    exact ⟨sp, rfl, balanced_space hsp⟩
  | none =>
    rw [hclose, Option.elim_none] at h
    obtain ⟨⟨xs, r'⟩, hxs, h⟩ := Option.map_eq_some_iff.mp h
    cases h
    exact hitems _ _ _ hxs

theorem readValue_object {n : Nat} (hmembers : BalancedMembers n) {j : Json} {cs r : List Char}
    (h : readValue (n + 1) ('{' :: cs) = some (j, r)) :
    ∃ pre, cs = pre ++ '}' :: r ∧ Balanced pre := by
  rw [readValue_brace] at h
  cases hclose : expect '}' cs with
  | some rest =>
    rw [hclose] at h
    cases h
    obtain ⟨sp, hsp, rfl⟩ := expect_eq_some hclose
    exact ⟨sp, rfl, balanced_space hsp⟩
  | none =>
    rw [hclose, Option.elim_none] at h
    obtain ⟨⟨ms, r'⟩, hms, h⟩ := Option.map_eq_some_iff.mp h
    cases h
    exact hmembers _ _ _ hms

theorem balancedValues_succ (hitems : BalancedItems n) (hmembers : BalancedMembers n) :
    BalancedValues (n + 1) := by
  intro cs j r h
  have hspace : ∀ c ∈ cs.takeWhile isSpace, isSpace c = true :=
    List.all_eq_true.mp List.all_takeWhile
  have hsplit : cs = cs.takeWhile isSpace ++ cs.dropWhile isSpace :=
    List.takeWhile_append_dropWhile.symm
  -- it is enough to look at the text from its first significant character on
  suffices hvalue : ∃ pre, cs.dropWhile isSpace = pre ++ r ∧ Balanced pre by
    obtain ⟨pre, hpre, hbalanced⟩ := hvalue
    refine ⟨cs.takeWhile isSpace ++ pre, ?_, (balanced_space hspace).append hbalanced⟩
    rw [List.append_assoc, ← hpre, ← hsplit]
  rw [hsplit, readValue_space hspace] at h
  have hhead := List.head?_dropWhile_not isSpace cs
  cases hdrop : cs.dropWhile isSpace with
  | nil =>
    rw [hdrop, readValue] at h
    cases h
  | cons c rest =>
    rw [hdrop] at h hhead
    have hc : isSpace c = false := by simpa using hhead
    by_cases hquote : c = '"'
    · subst hquote
      obtain ⟨pre, rfl, hpre⟩ := readValue_string h
      exact ⟨'"' :: (pre ++ ['"']), by simp, hpre.balanced⟩
    by_cases hbracket : c = '['
    · subst hbracket
      obtain ⟨pre, rfl, hpre⟩ := readValue_array hitems h
      exact ⟨'[' :: (pre ++ [']']), by simp, hpre.enclosed (.inl rfl) (.inl rfl)⟩
    by_cases hbrace : c = '{'
    · subst hbrace
      obtain ⟨pre, rfl, hpre⟩ := readValue_object hmembers h
      exact ⟨'{' :: (pre ++ ['}']), by simp, hpre.enclosed (.inr rfl) (.inr rfl)⟩
    · rw [readValue_scalar hc hquote hbracket hbrace] at h
      exact readScalar_balanced h

theorem balancedItems_succ (hvalues : BalancedValues n) (hitems : BalancedItems n) :
    BalancedItems (n + 1) := by
  intro cs xs r h
  simp only [readItems, Option.bind_eq_bind, Option.bind_eq_some_iff] at h
  obtain ⟨⟨x, rest⟩, hx, h⟩ := h
  obtain ⟨pre, rfl, hpre⟩ := hvalues _ _ _ hx
  split at h
  · next hclose =>
    cases h
    obtain ⟨sp, hsp, rfl⟩ := expect_eq_some hclose
    exact ⟨pre ++ sp, by simp, hpre.append (balanced_space hsp)⟩
  · simp only [Option.bind_eq_some_iff] at h
    obtain ⟨rest', hcomma, ⟨ys, _⟩, hys, h⟩ := h
    cases h
    obtain ⟨sp, hsp, rfl⟩ := expect_eq_some hcomma
    obtain ⟨pre', rfl, hpre'⟩ := hitems _ _ _ hys
    have hsep : Balanced [','] := balanced_of_neutral (by decide)
    refine ⟨pre ++ (sp ++ ([','] ++ pre')), by simp, ?_⟩
    exact hpre.append ((balanced_space hsp).append (hsep.append hpre'))

theorem balancedMembers_succ (hvalues : BalancedValues n) (hmembers : BalancedMembers n) :
    BalancedMembers (n + 1) := by
  intro cs ms r h
  simp only [readMembers, Option.bind_eq_bind, Option.bind_eq_some_iff] at h
  obtain ⟨_, hopen, ⟨k, _⟩, hname, _, hcolon, ⟨v, _⟩, hv, h⟩ := h
  obtain ⟨sp, hsp, rfl⟩ := expect_eq_some hopen
  obtain ⟨name, rfl, hquoted⟩ := readString_inQuotes hname
  obtain ⟨sp', hsp', rfl⟩ := expect_eq_some hcolon
  obtain ⟨value, rfl, hvalue⟩ := hvalues _ _ _ hv
  have hsep : Balanced [':'] := balanced_of_neutral (by decide)
  have hmember : Balanced (sp ++ ('"' :: (name ++ ['"']) ++ (sp' ++ ([':'] ++ value)))) :=
    (balanced_space hsp).append (hquoted.balanced.append
      ((balanced_space hsp').append (hsep.append hvalue)))
  split at h
  · next hclose =>
    cases h
    obtain ⟨sp'', hsp'', rfl⟩ := expect_eq_some hclose
    exact ⟨_, by simp, hmember.append (balanced_space hsp'')⟩
  · simp only [Option.bind_eq_some_iff] at h
    obtain ⟨rest', hcomma, ⟨ns, _⟩, hns, h⟩ := h
    cases h
    obtain ⟨sp'', hsp'', rfl⟩ := expect_eq_some hcomma
    obtain ⟨pre', rfl, hpre'⟩ := hmembers _ _ _ hns
    have hcomma : Balanced [','] := balanced_of_neutral (by decide)
    exact ⟨_, by simp, hmember.append ((balanced_space hsp'').append (hcomma.append hpre'))⟩

theorem reads_balanced (n : Nat) : BalancedValues n ∧ BalancedItems n ∧ BalancedMembers n := by
  induction n with
  | zero =>
    refine ⟨?_, ?_, ?_⟩ <;> intro cs j r h
    · rw [readValue] at h
      cases h
    · rw [readItems] at h
      cases h
    · rw [readMembers] at h
      cases h
  | succ n ih =>
    obtain ⟨hvalues, hitems, hmembers⟩ := ih
    exact ⟨balancedValues_succ hitems hmembers, balancedItems_succ hvalues hitems,
      balancedMembers_succ hvalues hmembers⟩

/-! ## Prefixes of an array -/

theorem scan_of_readValue {n : Nat} {j : Json} {cs r : List Char}
    (h : readValue n ('[' :: cs) = some (j, r)) :
    ∃ pre, cs = pre ++ ']' :: r ∧ scan (.plain 0) ('[' :: pre) = .plain 1 ∧
      scan (.plain 0) ('[' :: cs) = .closed := by
  cases n with
  | zero =>
    rw [readValue] at h
    cases h
  | succ n =>
    obtain ⟨pre, rfl, hpre⟩ := readValue_array (reads_balanced n).2.1 h
    have hopen : scan (.plain 0) ('[' :: pre) = .plain 1 := hpre 1 (by omega)
    refine ⟨pre, rfl, hopen, ?_⟩
    rw [← List.cons_append, scan_append, hopen]
    exact scan_closed r

theorem next_replacement {s : Scan} (h : s ≠ .closed) : s.next replacement ≠ .closed := by
  cases s with
  | plain d => rw [next_neutral (by decide)]; exact h
  | quoted d => exact h
  | escaped d => exact fun heq => by cases heq
  | closed => exact absurd rfl h

theorem scan_replacement {s : Scan} (h : s ≠ .closed) {junk : List Char}
    (hjunk : ∀ c ∈ junk, c = replacement) : scan s junk ≠ .closed := by
  induction junk generalizing s with
  | nil => exact h
  | cons c junk ih =>
    rw [scan_cons, hjunk c List.mem_cons_self]
    exact ih (next_replacement h) fun x hx => hjunk x (List.mem_cons_of_mem _ hx)

theorem readValue_prefix {n m : Nat} {j : Json} {cs q junk : List Char}
    (h : readValue n ('[' :: cs) = some (j, [])) (hq : q <+: cs) (hne : q ≠ cs)
    (hjunk : ∀ c ∈ junk, c = replacement) : readValue m ('[' :: (q ++ junk)) = none := by
  rw [Option.eq_none_iff_forall_ne_some]
  rintro ⟨j', r⟩ hread
  obtain ⟨pre, rfl, hopen, -⟩ := scan_of_readValue h
  obtain ⟨-, -, -, hclosed⟩ := scan_of_readValue hread
  have hinner : q <+: pre := by
    rcases List.prefix_concat_iff.mp hq with heq | hinner
    · exact absurd heq hne
    · exact hinner
  -- the scan is not closed after the prefix, since it is not closed before the last bracket
  have hq_open : scan (.plain 0) ('[' :: q) ≠ .closed := by
    intro hq_closed
    obtain ⟨rest, rfl⟩ := hinner
    rw [← List.cons_append, scan_append, hq_closed, scan_closed] at hopen
    cases hopen
  rw [← List.cons_append, scan_append] at hclosed
  exact scan_replacement hq_open hjunk hclosed

/-! ## Prefixes of the bytes -/

theorem runes_one {b : UInt8} (hb : ¬ b.toNat < 0x80) : runes [b] = [replacement] := by
  rw [runes.eq_def]
  simp only [hb, if_false]

theorem runes_lead_two {b b₁ : UInt8} (hb : ¬ b.toNat < 0x80) (h₁ : between 0xc2 0xdf b = false) :
    runes [b, b₁] = replacement :: runes [b₁] := by
  rw [runes.eq_def]
  simp only [hb, if_false, h₁, Bool.false_and, Bool.false_eq_true]

theorem runes_lead_three {b b₁ b₂ : UInt8} (hb : ¬ b.toNat < 0x80)
    (h₁ : between 0xc2 0xdf b = false) (h₂ : between 0xe0 0xef b = false) :
    runes [b, b₁, b₂] = replacement :: runes [b₁, b₂] := by
  rw [runes.eq_def]
  simp only [hb, if_false, h₁, h₂, Bool.false_and, Bool.false_eq_true]

def Unreadable (bs : List UInt8) : Prop := ∀ x ∈ runes bs, x = replacement

theorem unreadable_nil : Unreadable [] := fun _ hx => absurd hx List.not_mem_nil

theorem unreadable_one {b : UInt8} (hb : ¬ b.toNat < 0x80) : Unreadable [b] := by
  intro x hx
  rw [runes_one hb] at hx
  exact List.mem_singleton.mp hx

theorem unreadable_two {b b₁ : UInt8} (hb : ¬ b.toNat < 0x80) (h₁ : between 0xc2 0xdf b = false)
    (hb₁ : ¬ b₁.toNat < 0x80) : Unreadable [b, b₁] := by
  intro x hx
  rw [runes_lead_two hb h₁] at hx
  rcases List.mem_cons.mp hx with rfl | hx
  · rfl
  · exact unreadable_one hb₁ x hx

theorem unreadable_three {b b₁ b₂ : UInt8} (hb : ¬ b.toNat < 0x80)
    (h₁ : between 0xc2 0xdf b = false) (h₂ : between 0xe0 0xef b = false)
    (htail : Unreadable [b₁, b₂]) : Unreadable [b, b₁, b₂] := by
  intro x hx
  rw [runes_lead_three hb h₁ h₂] at hx
  rcases List.mem_cons.mp hx with rfl | hx
  · rfl
  · exact htail x hx

theorem between_eq_false {lo hi : Nat} (hn : n < 256) (h : n < lo ∨ hi < n) :
    between lo hi (UInt8.ofNat n) = false := by
  rw [between, toNat_ofNat_byte hn, Bool.and_eq_false_iff, decide_eq_false_iff_not,
    decide_eq_false_iff_not]
  omega

theorem not_ascii (hlo : 0x80 ≤ n) (hhi : n < 256) : ¬ (UInt8.ofNat n).toNat < 0x80 := by
  rw [toNat_ofNat_byte hhi]
  omega

theorem exists_take_of_prefix {bs cs : List UInt8} (h : bs <+: cs) (hne : bs ≠ cs) :
    ∃ k < cs.length, bs = cs.take k := by
  refine ⟨bs.length, ?_, List.prefix_iff_eq_take.mp h⟩
  have hle := h.length_le
  have hlt : bs.length ≠ cs.length := fun heq => hne (h.eq_of_length heq)
  omega

theorem unreadable_of_cut {bs : List UInt8} (h : bs <+: utf8Char c) (hne : bs ≠ utf8Char c) :
    Unreadable bs := by
  have hrange := toNat_cases c
  have htail (k : Nat) : ¬ (UInt8.ofNat (0x80 + k % 64)).toNat < 0x80 :=
    not_ascii (by omega) (by omega)
  have htail₂ (k : Nat) : between 0xc2 0xdf (UInt8.ofNat (0x80 + k % 64)) = false :=
    between_eq_false (by omega) (by omega)
  obtain ⟨k, hk, rfl⟩ := exists_take_of_prefix h hne
  clear h hne
  unfold utf8Char at hk ⊢
  simp only at hk ⊢
  -- one case for each length of the character, one for each place of the cut
  split_ifs at hk ⊢ with h₁ h₂ h₃
  · have hlen : k < 1 := hk
    obtain rfl : k = 0 := by omega
    exact unreadable_nil
  · have hlead := not_ascii (show 0x80 ≤ 0xc0 + c.toNat / 64 by omega) (by omega)
    have hlen : k < 2 := hk
    obtain rfl | rfl : k = 0 ∨ k = 1 := by omega
    · exact unreadable_nil
    · exact unreadable_one hlead
  · have hlead := not_ascii (show 0x80 ≤ 0xe0 + c.toNat / 4096 by omega) (by omega)
    have hlead₂ : between 0xc2 0xdf (UInt8.ofNat (0xe0 + c.toNat / 4096)) = false :=
      between_eq_false (by omega) (by omega)
    have hlen : k < 3 := hk
    obtain rfl | rfl | rfl : k = 0 ∨ k = 1 ∨ k = 2 := by omega
    · exact unreadable_nil
    · exact unreadable_one hlead
    · exact unreadable_two hlead hlead₂ (htail _)
  · have hlead := not_ascii (show 0x80 ≤ 0xf0 + c.toNat / 262144 by omega) (by omega)
    have hlead₂ : between 0xc2 0xdf (UInt8.ofNat (0xf0 + c.toNat / 262144)) = false :=
      between_eq_false (by omega) (by omega)
    have hlead₃ : between 0xe0 0xef (UInt8.ofNat (0xf0 + c.toNat / 262144)) = false :=
      between_eq_false (by omega) (by omega)
    have hlen : k < 4 := hk
    obtain rfl | rfl | rfl | rfl : k = 0 ∨ k = 1 ∨ k = 2 ∨ k = 3 := by omega
    · exact unreadable_nil
    · exact unreadable_one hlead
    · exact unreadable_two hlead hlead₂ (htail _)
    · exact unreadable_three hlead hlead₂ hlead₃ (unreadable_two (htail _) (htail₂ _) (htail _))

theorem runes_prefix {bs : List UInt8} (h : bs <+: utf8 cs) (hne : bs ≠ utf8 cs) :
    ∃ q junk, runes bs = q ++ junk ∧ q <+: cs ∧ q ≠ cs ∧ ∀ x ∈ junk, x = replacement := by
  induction cs generalizing bs with
  | nil => exact absurd (List.prefix_nil.mp h) hne
  | cons c cs ih =>
    have hcons : utf8 (c :: cs) = utf8Char c ++ utf8 cs := rfl
    rw [hcons] at h hne
    by_cases hcut : utf8Char c <+: bs
    · obtain ⟨bs', rfl⟩ := hcut
      have hne' : bs' ≠ utf8 cs := fun heq => hne (by rw [heq])
      obtain ⟨q, junk, hrunes, hq, hq_ne, hjunk⟩ :=
        ih ((List.prefix_append_right_inj _).mp h) hne'
      refine ⟨c :: q, junk, by rw [runes_utf8Char, hrunes]; rfl, ?_, ?_, hjunk⟩
      · exact List.cons_prefix_cons.mpr ⟨rfl, hq⟩
      · exact fun heq => hq_ne (List.cons.inj heq).2
    · have hinner : bs <+: utf8Char c :=
        (List.prefix_or_prefix_of_prefix h (List.prefix_append ..)).resolve_right hcut
      have hbs : bs ≠ utf8Char c := fun heq => hcut (heq ▸ List.prefix_rfl)
      exact ⟨[], runes bs, rfl, List.nil_prefix, (List.cons_ne_nil c cs).symm,
        unreadable_of_cut hinner hbs⟩

theorem read_prefix {n : Nat} {j : Json} {cs : List Char} {bs : List UInt8}
    (h : readValue n ('[' :: cs) = some (j, [])) (hbs : bs <+: utf8 ('[' :: cs))
    (hne : bs ≠ utf8 ('[' :: cs)) : read bs = none := by
  have hcons : utf8 ('[' :: cs) = 0x5b :: utf8 cs := rfl
  rw [hcons] at hbs hne
  rcases List.prefix_cons_iff.mp hbs with rfl | ⟨bs', rfl, hbs'⟩
  · rfl
  · have hne' : bs' ≠ utf8 cs := fun heq => hne (by rw [heq])
    obtain ⟨q, junk, hrunes, hq, hq_ne, hjunk⟩ := runes_prefix hbs' hne'
    have hfirst : runes (0x5b :: bs') = '[' :: runes bs' := runes_utf8Char '[' bs'
    rw [read, hfirst, hrunes]
    exact readValue_prefix h hq hq_ne hjunk

end NexusGateway.Lib.Json
