/-
The first value of a text with more behind it, as a streaming decoder takes
it.  A number ends where the grammar does not let it go on, whatever comes
then: `12,5` starts with the number 12 and `2024-01-01` with 2024.  A text
that is one value and nothing else is the case where both ways of reading
agree (`nextScalar_eq_iff`).
-/

import NexusGateway.Lib.JsonPrefix
import NexusGateway.Lib.Text

namespace NexusGateway.Lib.Json

/-! ## The longest number -/

/-- What follows the longest number a text starts with; none where that is left
    unfinished. -/
def dropNumber (cs : List Char) : Option (List Char) :=
  ((dropInteger (dropSign ['-'] cs)).bind dropFraction).bind dropExponent

def TakesNumberChars (part : List Char → Option (List Char)) : Prop :=
  ∀ cs r, part cs = some r → ∃ pre, cs = pre ++ r ∧ ∀ c ∈ pre, isNumberChar c = true

theorem isNumberChar_of_isDigit {c : Char} (h : c.isDigit = true) : isNumberChar c = true := by
  simp [isNumberChar, h]

theorem takes_dropDigits : TakesNumberChars dropDigits := by
  intro cs r h
  cases cs with
  | nil => cases h
  | cons c cs =>
    rw [dropDigits] at h
    split_ifs at h with hc
    cases h
    refine ⟨c :: cs.takeWhile Char.isDigit, ?_, ?_⟩
    · rw [List.cons_append, List.takeWhile_append_dropWhile]
    · intro d hd
      rcases List.mem_cons.mp hd with rfl | hd
      · exact isNumberChar_of_isDigit hc
      · exact isNumberChar_of_isDigit (List.all_eq_true.mp List.all_takeWhile d hd)

theorem TakesNumberChars.cons {part : List Char → Option (List Char)} (h : TakesNumberChars part)
    {c : Char} (hc : isNumberChar c = true) {cs r : List Char} (hr : part cs = some r) :
    ∃ pre, c :: cs = pre ++ r ∧ ∀ d ∈ pre, isNumberChar d = true := by
  obtain ⟨pre, rfl, hpre⟩ := h cs r hr
  refine ⟨c :: pre, rfl, fun d hd => ?_⟩
  rcases List.mem_cons.mp hd with rfl | hd
  · exact hc
  · exact hpre d hd

theorem TakesNumberChars.bind {part part' : List Char → Option (List Char)}
    (h : TakesNumberChars part) (h' : TakesNumberChars part') :
    TakesNumberChars fun cs => (part cs).bind part' := by
  intro cs r hr
  obtain ⟨mid, hmid, hrest⟩ := Option.bind_eq_some_iff.mp hr
  obtain ⟨pre, rfl, hpre⟩ := h cs mid hmid
  obtain ⟨pre', rfl, hpre'⟩ := h' mid r hrest
  refine ⟨pre ++ pre', (List.append_assoc ..).symm, fun c hc => ?_⟩
  rcases List.mem_append.mp hc with hc | hc
  · exact hpre c hc
  · exact hpre' c hc

theorem TakesNumberChars.dropSign {part : List Char → Option (List Char)}
    (h : TakesNumberChars part) {signs : List Char} (hsigns : signs.all isNumberChar = true) :
    TakesNumberChars fun cs => part (dropSign signs cs) := by
  intro cs r hr
  cases cs with
  | nil => exact h [] r hr
  | cons c cs =>
    simp only [Json.dropSign] at hr
    split_ifs at hr with hc
    · exact h.cons (List.all_eq_true.mp hsigns c hc) hr
    · exact h (c :: cs) r hr

theorem takes_dropInteger : TakesNumberChars dropInteger := by
  intro cs r h
  cases cs with
  | nil => cases h
  | cons c cs =>
    rw [dropInteger] at h
    split_ifs at h with hc
    · cases h
      refine ⟨[c], rfl, fun d hd => ?_⟩
      rw [List.mem_singleton.mp hd, hc]
      rfl
    · exact takes_dropDigits _ _ h

theorem takes_dropFraction : TakesNumberChars dropFraction := by
  intro cs r h
  cases cs with
  | nil =>
    cases h
    exact ⟨[], rfl, nofun⟩
  | cons c cs =>
    rw [dropFraction] at h
    split_ifs at h with hc
    · exact takes_dropDigits.cons (by rw [hc]; rfl) h
    · cases h
      exact ⟨[], rfl, nofun⟩

theorem takes_dropExponent : TakesNumberChars dropExponent := by
  intro cs r h
  cases cs with
  | nil =>
    cases h
    exact ⟨[], rfl, nofun⟩
  | cons c cs =>
    rw [dropExponent] at h
    split_ifs at h with hc
    · have hchar : isNumberChar c = true := by
        simp only [Bool.or_eq_true, decide_eq_true_eq] at hc
        rcases hc with rfl | rfl
        · rfl
        · rfl
      have hsign : TakesNumberChars fun cs => dropDigits (dropSign ['+', '-'] cs) :=
        takes_dropDigits.dropSign rfl
      exact hsign.cons hchar h
    · cases h
      exact ⟨[], rfl, nofun⟩

theorem takes_dropNumber : TakesNumberChars dropNumber := by
  have hinteger : TakesNumberChars fun cs => dropInteger (dropSign ['-'] cs) :=
    takes_dropInteger.dropSign rfl
  exact (hinteger.bind takes_dropFraction).bind takes_dropExponent

theorem validNumber_iff {cs : List Char} : validNumber cs = true ↔ dropNumber cs = some [] := by
  rw [validNumber, Bool.and_eq_true, decide_eq_true_eq]
  constructor
  · exact And.right
  · intro h
    obtain ⟨pre, hpre, hchars⟩ := takes_dropNumber cs [] h
    rw [List.append_nil] at hpre
    rw [hpre]
    rw [hpre] at h
    exact ⟨List.all_eq_true.mpr hchars, h⟩

/-! ## The first value -/

/-- The first value of a text that starts with neither space, a bracket nor a brace, and
    what follows it. -/
def nextScalar : List Char → Option (Json × List Char)
  | '"' :: cs => (readString (cs.length + 1) cs).map fun p => (.str (String.ofList p.1), p.2)
  | 'n' :: 'u' :: 'l' :: 'l' :: rest => some (.null, rest)
  | 't' :: 'r' :: 'u' :: 'e' :: rest => some (.bool true, rest)
  | 'f' :: 'a' :: 'l' :: 's' :: 'e' :: rest => some (.bool false, rest)
  | cs => (dropNumber cs).map fun rest =>
    (.num (String.ofList (cs.take (cs.length - rest.length))), rest)

theorem readNumber_eq_iff {cs : List Char} {v : Json} :
    readNumber cs = some (v, []) ↔ dropNumber cs = some [] ∧ v = .num (String.ofList cs) := by
  rw [readNumber]
  constructor
  · intro h
    split_ifs at h with hvalid
    simp only [Option.some.injEq, Prod.mk.injEq] at h
    have hall : cs.takeWhile isNumberChar = cs := by
      have happend := List.takeWhile_append_dropWhile (p := isNumberChar) (l := cs)
      rwa [h.2, List.append_nil] at happend
    rw [hall] at hvalid h
    exact ⟨validNumber_iff.mp hvalid, h.1.symm⟩
  · rintro ⟨hdrop, rfl⟩
    have hvalid := validNumber_iff.mpr hdrop
    have hread := readNumber_append hvalid (r := []) (by simp [Delimited])
    rwa [List.append_nil, readNumber] at hread

theorem nextScalar_eq_iff {c : Char} (hspace : isSpace c = false) (hbracket : c ≠ '[')
    (hbrace : c ≠ '{') {n : Nat} {cs : List Char} {v : Json} :
    nextScalar (c :: cs) = some (v, []) ↔ readValue (n + 1) (c :: cs) = some (v, []) := by
  by_cases hquote : c = '"'
  · subst hquote
    rw [readValue_quote, nextScalar]
  · rw [readValue_scalar hspace hquote hbracket hbrace]
    unfold nextScalar readScalar
    split
    · next heq => exact absurd (List.cons.inj heq).1 hquote
    · next heq => simp only [heq]
    · next heq => simp only [heq]
    · next heq => simp only [heq]
    · next hnull htrue hfalse =>
      split
      · next rest heq => exact absurd heq (hnull rest)
      · next rest heq => exact absurd heq (htrue rest)
      · next rest heq => exact absurd heq (hfalse rest)
      · rw [readNumber_eq_iff]
        constructor
        · intro h
          obtain ⟨rest, hrest, heq⟩ := Option.map_eq_some_iff.mp h
          cases heq
          exact ⟨hrest, by rw [List.length_nil, Nat.sub_zero, List.take_length]⟩
        · rintro ⟨hdrop, rfl⟩
          rw [hdrop, Option.map_some, List.length_nil, Nat.sub_zero, List.take_length]

end NexusGateway.Lib.Json
