/-
Writing JSON with a layout, and reading it back.

A layout says which insignificant space stands between the tokens:
`compact` none, `indented` a line for every item and member.  Reading what
is written for a well-formed tree gives the tree, whatever the layout
(`readValue_written`); `text` is the compact layout, so that distinct trees
have distinct texts (`text_injective`).
-/

import NexusGateway.Lib.JsonReader

namespace NexusGateway.Lib.Json

/-! ## Layouts -/

/-- The space before an item, a member or a closing bracket at a depth, and the space
    after a colon. -/
structure Layout where
  line : Nat → List Char
  colon : List Char
  line_space : ∀ depth, ∀ c ∈ line depth, isSpace c = true
  colon_space : ∀ c ∈ colon, isSpace c = true

def compact : Layout where
  line _ := []
  colon := []
  line_space _ _ hc := absurd hc List.not_mem_nil
  colon_space _ hc := absurd hc List.not_mem_nil

/-- Go's `MarshalIndent` with this many blanks for each level. -/
def indented (width : Nat) : Layout where
  line depth := '\n' :: List.replicate (width * depth) ' '
  colon := [' ']
  line_space depth c hc := by
    rcases List.mem_cons.mp hc with rfl | hc
    · rfl
    · rw [List.eq_of_mem_replicate hc]
      rfl
  colon_space c hc := by
    rw [List.mem_singleton.mp hc]
    rfl

mutual

def written (lay : Layout) (html : Bool) (depth : Nat) : Json → List Char
  | .null => text html .null
  | .bool b => text html (.bool b)
  | .num l => l.toList
  | .str s => quote html s
  | .arr xs => '[' :: writtenItems lay html depth xs
  | .obj ms => '{' :: writtenMembers lay html depth ms

def writtenItems (lay : Layout) (html : Bool) (depth : Nat) : List Json → List Char
  | [] => [']']
  | [x] => lay.line (depth + 1) ++ (written lay html (depth + 1) x ++ (lay.line depth ++ [']']))
  | x :: y :: xs =>
    lay.line (depth + 1) ++
      (written lay html (depth + 1) x ++ ',' :: writtenItems lay html depth (y :: xs))

def writtenMembers (lay : Layout) (html : Bool) (depth : Nat) : List (String × Json) → List Char
  | [] => ['}']
  | [m] =>
    lay.line (depth + 1) ++ (quote html m.1 ++ ':' :: (lay.colon ++
      (written lay html (depth + 1) m.2 ++ (lay.line depth ++ ['}']))))
  | m :: m' :: ms =>
    lay.line (depth + 1) ++ (quote html m.1 ++ ':' :: (lay.colon ++
      (written lay html (depth + 1) m.2 ++ ',' :: writtenMembers lay html depth (m' :: ms))))

end

/-! ## Space and delimiters -/

variable {c : Char}

theorem expect_cons_self (h : isSpace c = false) (r : List Char) : expect c (c :: r) = some r := by
  rw [expect, List.dropWhile_cons, h, if_neg Bool.false_ne_true]
  exact if_pos rfl

theorem expect_cons_ne {d : Char} (h : isSpace d = false) (hne : d ≠ c) (r : List Char) :
    expect c (d :: r) = none := by
  rw [expect, List.dropWhile_cons, h, if_neg Bool.false_ne_true]
  exact if_neg hne

theorem isSpace_of_isNumberChar (h : isNumberChar c = true) : isSpace c = false := by
  rw [isNumberChar] at h
  simp only [Bool.or_eq_true, decide_eq_true_eq] at h
  rcases h with ((((h | rfl) | rfl) | rfl) | rfl) | rfl
  · rw [Bool.eq_false_iff]
    intro hspace
    rw [isSpace] at hspace
    simp only [Bool.or_eq_true, decide_eq_true_eq] at hspace
    rcases hspace with ((rfl | rfl) | rfl) | rfl <;> exact absurd h (by decide)
  all_goals decide

theorem isNumberChar_of_isSpace (h : isSpace c = true) : isNumberChar c = false := by
  rw [Bool.eq_false_iff]
  intro hnum
  rw [isSpace_of_isNumberChar hnum] at h
  cases h

variable {sp : List Char}

theorem dropWhile_space (hsp : ∀ c ∈ sp, isSpace c = true) (cs : List Char) :
    (sp ++ cs).dropWhile isSpace = cs.dropWhile isSpace :=
  List.dropWhile_append_of_pos hsp

theorem expect_space (hsp : ∀ c ∈ sp, isSpace c = true) (c : Char) (cs : List Char) :
    expect c (sp ++ cs) = expect c cs := by
  rw [expect, expect, dropWhile_space hsp]

theorem readValue_space (hsp : ∀ c ∈ sp, isSpace c = true) (n : Nat) (cs : List Char) :
    readValue n (sp ++ cs) = readValue n cs := by
  cases n with
  | zero => rw [readValue, readValue]
  | succ n => rw [readValue, readValue, dropWhile_space hsp]

theorem delimited_cons (h : isNumberChar c = false) (r : List Char) : Delimited (c :: r) := by
  intro d hd
  rw [List.head?_cons, Option.mem_some_iff] at hd
  rw [← hd]
  exact h

theorem delimited_space {r : List Char} (hsp : ∀ c ∈ sp, isSpace c = true) (hr : Delimited r) :
    Delimited (sp ++ r) := by
  cases sp with
  | nil => exact hr
  | cons c sp => exact delimited_cons (isNumberChar_of_isSpace (hsp c List.mem_cons_self)) _

/-! ## What is written is read back -/

def Reads (cs : List Char) (j : Json) : Prop :=
  ∀ n r, Delimited r → cs.length ≤ n → readValue n (cs ++ r) = some (j, r)

theorem readValue_scalar {c : Char} (hspace : isSpace c = false) (hquote : c ≠ '"')
    (hbracket : c ≠ '[') (hbrace : c ≠ '{') (n : Nat) (cs : List Char) :
    readValue (n + 1) (c :: cs) = readScalar (c :: cs) := by
  rw [readValue, List.dropWhile_cons, hspace, if_neg Bool.false_ne_true]
  show (if c = '"' then _ else if c = '[' then _ else if c = '{' then _
    else readScalar (c :: cs)) = _
  rw [if_neg hquote, if_neg hbracket, if_neg hbrace]

theorem reads_num {l : String} (h : validNumber l.toList = true) :
    Reads l.toList (.num l) := by
  intro n r hr hn
  obtain ⟨c, cs, hcs⟩ := List.exists_cons_of_ne_nil (validNumber_ne_nil h)
  have hc := validNumber_chars h c (by rw [hcs]; exact List.mem_cons_self ..)
  have hne (d : Char) (hd : isNumberChar d = false) : c ≠ d := by
    rintro rfl
    rw [hc] at hd
    exact absurd hd (by decide)
  have hread := readNumber_append h hr
  rw [String.ofList_toList] at hread
  rw [hcs] at hn ⊢
  rw [hcs] at hread
  obtain ⟨n, rfl⟩ : ∃ m, n = m + 1 := ⟨n - 1, by rw [List.length_cons] at hn; omega⟩
  rw [List.cons_append, readValue_scalar (isSpace_of_isNumberChar hc) (hne _ (by decide))
    (hne _ (by decide)) (hne _ (by decide))]
  -- a number starts none of the three literal names
  unfold readScalar
  split
  · next heq => exact absurd (List.cons.inj heq).1 (hne 'n' (by decide))
  · next heq => exact absurd (List.cons.inj heq).1 (hne 't' (by decide))
  · next heq => exact absurd (List.cons.inj heq).1 (hne 'f' (by decide))
  · exact hread

theorem readString_quote (html : Bool) (k : String) (r : List Char) :
    readString ((stringBody html k.toList ++ r).length + 1) (stringBody html k.toList ++ r) =
      some (k.toList, r) := by
  have hbody := length_lt_stringBody html k.toList
  refine readString_stringBody html k.toList r _ ?_
  rw [List.length_append]
  omega

theorem reads_str (html : Bool) (s : String) : Reads (quote html s) (.str s) := by
  intro n r _ hn
  rw [quote] at hn ⊢
  obtain ⟨n, rfl⟩ : ∃ m, n = m + 1 := ⟨n - 1, by rw [List.length_cons] at hn; omega⟩
  rw [List.cons_append, readValue_quote, readString_quote, Option.map_some, String.ofList_toList]

variable {j : Json}

section Written

variable {lay : Layout} {html : Bool}

theorem written_head (depth : Nat) (h : WellFormed j) :
    ∃ c cs, written lay html depth j = c :: cs ∧ isSpace c = false ∧ c ≠ ']' := by
  cases j with
  | null => exact ⟨_, _, by rw [written, text], by decide, by decide⟩
  | bool b => cases b <;> exact ⟨_, _, by rw [written, text], by decide, by decide⟩
  | str s => exact ⟨_, _, by rw [written, quote], by decide, by decide⟩
  | arr xs | obj ms => exact ⟨_, _, by rw [written], by decide, by decide⟩
  | num l =>
    have hvalid : validNumber l.toList = true := h
    obtain ⟨c, cs, hcs⟩ := List.exists_cons_of_ne_nil (validNumber_ne_nil hvalid)
    have hc := validNumber_chars hvalid c (by rw [hcs]; exact List.mem_cons_self ..)
    refine ⟨c, cs, by rw [written, hcs], isSpace_of_isNumberChar hc, ?_⟩
    rintro rfl
    exact absurd hc (by decide)

theorem readItems_written {depth : Nat} {xs : List Json} (hne : xs ≠ [])
    (h : ∀ x ∈ xs, Reads (written lay html (depth + 1) x) x) (n : Nat) (r : List Char)
    (hn : (writtenItems lay html depth xs).length ≤ n) :
    readItems n (writtenItems lay html depth xs ++ r) = some (xs, r) := by
  induction xs generalizing n with
  | nil => exact absurd rfl hne
  | cons x xs ih =>
    have hx := h x (List.mem_cons_self ..)
    cases xs with
    | nil =>
      rw [writtenItems] at hn ⊢
      simp only [List.length_append, List.length_singleton] at hn
      obtain ⟨n, rfl⟩ : ∃ m, n = m + 1 := ⟨n - 1, by omega⟩
      have hread := hx n (lay.line depth ++ ']' :: r)
        (delimited_space (lay.line_space depth) (delimited_cons (by decide) r)) (by omega)
      simp only [List.append_assoc, List.singleton_append]
      simp only [readItems, readValue_space (lay.line_space _), hread, Option.bind_eq_bind,
        Option.bind_some, expect_space (lay.line_space _),
        expect_cons_self (show isSpace ']' = false by decide)]
    | cons y ys =>
      rw [writtenItems] at hn ⊢
      simp only [List.length_append, List.length_cons] at hn
      obtain ⟨n, rfl⟩ : ∃ m, n = m + 1 := ⟨n - 1, by omega⟩
      have hread := hx n (',' :: (writtenItems lay html depth (y :: ys) ++ r))
        (delimited_cons (by decide) _) (by omega)
      have hrest := ih (by simp) (fun z hz => h z (List.mem_cons_of_mem _ hz)) n (by omega)
      simp only [List.append_assoc, List.cons_append]
      simp only [readItems, readValue_space (lay.line_space _), hread, Option.bind_eq_bind,
        Option.bind_some,
        expect_cons_ne (show isSpace ',' = false by decide) (show ',' ≠ ']' by decide),
        expect_cons_self (show isSpace ',' = false by decide), hrest]

theorem readMembers_written {depth : Nat} {ms : List (String × Json)} (hne : ms ≠ [])
    (h : ∀ m ∈ ms, Reads (written lay html (depth + 1) m.2) m.2) (n : Nat) (r : List Char)
    (hn : (writtenMembers lay html depth ms).length ≤ n) :
    readMembers n (writtenMembers lay html depth ms ++ r) = some (ms, r) := by
  have hquote : isSpace '"' = false := by decide
  have hcolon : isSpace ':' = false := by decide
  induction ms generalizing n with
  | nil => exact absurd rfl hne
  | cons m ms ih =>
    have hm := h m (List.mem_cons_self ..)
    cases ms with
    | nil =>
      rw [writtenMembers] at hn ⊢
      simp only [List.length_append, List.length_cons] at hn
      obtain ⟨n, rfl⟩ : ∃ k, n = k + 1 := ⟨n - 1, by omega⟩
      have hread := hm n (lay.line depth ++ '}' :: r)
        (delimited_space (lay.line_space depth) (delimited_cons (by decide) r)) (by omega)
      simp only [quote, List.cons_append, List.append_assoc, List.nil_append]
      simp only [readMembers, expect_space (lay.line_space _), expect_cons_self hquote,
        readString_quote, expect_cons_self hcolon, readValue_space lay.colon_space, hread,
        Option.bind_eq_bind, Option.bind_some, String.ofList_toList,
        expect_cons_self (show isSpace '}' = false by decide)]
    | cons m' ms =>
      rw [writtenMembers] at hn ⊢
      simp only [List.length_append, List.length_cons] at hn
      obtain ⟨n, rfl⟩ : ∃ k, n = k + 1 := ⟨n - 1, by omega⟩
      have hread := hm n (',' :: (writtenMembers lay html depth (m' :: ms) ++ r))
        (delimited_cons (by decide) _) (by omega)
      have hrest := ih (by simp) (fun z hz => h z (List.mem_cons_of_mem _ hz)) n (by omega)
      simp only [quote, List.cons_append, List.append_assoc]
      simp only [readMembers, expect_space (lay.line_space _), expect_cons_self hquote,
        readString_quote, expect_cons_self hcolon, readValue_space lay.colon_space, hread,
        Option.bind_eq_bind, Option.bind_some, String.ofList_toList,
        expect_cons_ne (show isSpace ',' = false by decide) (show ',' ≠ '}' by decide),
        expect_cons_self (show isSpace ',' = false by decide), hrest]

theorem reads_written (j : Json) :
    WellFormed j → ∀ depth, Reads (written lay html depth j) j := by
  induction j using Json.induct with
  | null =>
    intro _ depth n r _ hn
    rw [written, text] at hn ⊢
    obtain ⟨n, rfl⟩ : ∃ m, n = m + 1 := ⟨n - 1, by rw [List.length_cons] at hn; omega⟩
    exact readValue_scalar (by decide) (by decide) (by decide) (by decide) n _
  | bool b =>
    intro _ depth n r _ hn
    cases b <;>
    · rw [written, text] at hn ⊢
      obtain ⟨n, rfl⟩ : ∃ m, n = m + 1 := ⟨n - 1, by rw [List.length_cons] at hn; omega⟩
      exact readValue_scalar (by decide) (by decide) (by decide) (by decide) n _
  | num l =>
    intro h depth
    rw [written]
    exact reads_num h
  | str s =>
    intro _ depth
    rw [written]
    exact reads_str html s
  | arr xs ih =>
    intro h depth n r hr hn
    rw [wellFormed_arr] at h
    rw [written, List.length_cons] at hn
    obtain ⟨n, rfl⟩ : ∃ m, n = m + 1 := ⟨n - 1, by omega⟩
    rw [written, List.cons_append, readValue_bracket]
    cases xs with
    | nil =>
      rw [writtenItems, List.singleton_append, expect_cons_self (by decide), Option.elim_some]
    | cons x xs =>
      have hopen : expect ']' (writtenItems lay html depth (x :: xs) ++ r) = none := by
        obtain ⟨c, cs, htext, hspace, hc⟩ :=
          written_head (depth + 1) (h x (List.mem_cons_self ..))
        cases xs with
        | nil | cons y ys =>
          rw [writtenItems, htext, List.append_assoc, expect_space (lay.line_space _)]
          exact expect_cons_ne hspace hc _
      rw [hopen, readItems_written (by simp) (fun x hx => ih x hx (h x hx) _) n r (by omega)]
      rfl
  | obj ms ih =>
    intro h depth n r hr hn
    rw [wellFormed_obj] at h
    rw [written, List.length_cons] at hn
    obtain ⟨n, rfl⟩ : ∃ m, n = m + 1 := ⟨n - 1, by omega⟩
    rw [written, List.cons_append, readValue_brace]
    cases ms with
    | nil =>
      rw [writtenMembers, List.singleton_append, expect_cons_self (by decide),
        Option.elim_some]
    | cons m ms =>
      have hopen : expect '}' (writtenMembers lay html depth (m :: ms) ++ r) = none := by
        cases ms with
        | nil | cons m' ms =>
          rw [writtenMembers, List.append_assoc, expect_space (lay.line_space _), quote]
          exact expect_cons_ne (by decide) (by decide) _
      rw [hopen, readMembers_written (by simp) (fun m hm => ih m hm (h m hm) _) n r (by omega)]
      rfl

theorem readValue_written (depth : Nat) (h : WellFormed j) :
    readValue (written lay html depth j).length (written lay html depth j) = some (j, []) := by
  have hreads : Reads (written lay html depth j) j := reads_written j h depth
  have hread := hreads _ [] (by simp [Delimited]) le_rfl
  rwa [List.append_nil] at hread

theorem read_written (depth : Nat) (h : WellFormed j) :
    read (utf8 (written lay html depth j)) = some (j, []) := by
  rw [read, runes_utf8, readValue_written depth h]

end Written

/-! ## The compact text -/

section Text

variable {html : Bool}

theorem itemsText_eq_written (depth : Nat) {xs : List Json}
    (h : ∀ x ∈ xs, ∀ depth, text html x = written compact html depth x) :
    itemsText html xs = writtenItems compact html depth xs := by
  induction xs with
  | nil => rw [itemsText, writtenItems]
  | cons x xs ih =>
    have hx := h x (List.mem_cons_self ..) (depth + 1)
    have hrest := ih fun y hy => h y (List.mem_cons_of_mem _ hy)
    cases xs with
    | nil => rw [itemsText, writtenItems, hx]; rfl
    | cons y ys => rw [itemsText, writtenItems, hx, hrest]; rfl

theorem membersText_eq_written (depth : Nat) {ms : List (String × Json)}
    (h : ∀ m ∈ ms, ∀ depth, text html m.2 = written compact html depth m.2) :
    membersText html ms = writtenMembers compact html depth ms := by
  induction ms with
  | nil => rw [membersText, writtenMembers]
  | cons m ms ih =>
    have hm := h m (List.mem_cons_self ..) (depth + 1)
    have hrest := ih fun m' hm' => h m' (List.mem_cons_of_mem _ hm')
    cases ms with
    | nil => rw [membersText, writtenMembers, hm]; rfl
    | cons m' ms => rw [membersText, writtenMembers, hm, hrest]; rfl

theorem text_eq_written (j : Json) : ∀ depth, text html j = written compact html depth j := by
  induction j using Json.induct with
  | null | bool b =>
    intro depth
    rw [written]
  | num l | str s =>
    intro depth
    rw [written, text]
  | arr xs ih =>
    intro depth
    rw [text, written, itemsText_eq_written depth ih]
  | obj ms ih =>
    intro depth
    rw [text, written, membersText_eq_written depth ih]

theorem readValue_text (h : WellFormed j) :
    readValue (text html j).length (text html j) = some (j, []) := by
  rw [text_eq_written j 0]
  exact readValue_written 0 h

theorem read_text (h : WellFormed j) : read (utf8 (text html j)) = some (j, []) := by
  rw [text_eq_written j 0]
  exact read_written 0 h

theorem text_injective {j' : Json} (h : WellFormed j) (h' : WellFormed j')
    (heq : text html j = text html j') : j = j' := by
  have hread : readValue (text html j).length (text html j) = some (j, []) := readValue_text h
  rw [heq, readValue_text h', Option.some.injEq, Prod.mk.injEq] at hread
  exact hread.1.symm

end Text

end NexusGateway.Lib.Json
