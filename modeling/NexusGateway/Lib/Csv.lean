/-
Comma-separated values as Go's `encoding/csv` reads them, with commas, no
comments and records of any length: a field may be quoted, with quotes inside
doubled; empty lines are skipped; a line may end in `\r\n`.

A table can be written in many ways, as the writer chooses which fields to
quote and how to end a line.  `Renders` is all of them, and each is read back
(`readAll_renders`).
-/

import NexusGateway.Lib.Except
import Mathlib.Data.List.Basic

namespace NexusGateway.Lib.Csv

/-! ## The reader -/

abbrev Field := List Char

/-- `ErrBareQuote` and `ErrQuote`; the position is left out. -/
inductive Error where
  | bareQuote
  | quote
deriving DecidableEq, Repr

/-- Where the reader is: before a record, before a field, in one of either kind, or after a
    quote in a quoted field. -/
inductive Place where
  | record
  | field
  | plain
  | quoted
  | quote
deriving DecidableEq, Repr

structure Reader where
  place : Place := .record
  field : Field := []
  record : List Field := []
  records : List (List Field) := []

namespace Reader

def endField (r : Reader) : Reader :=
  { r with place := .field, field := [], record := r.record ++ [r.field] }

def endRecord (r : Reader) : Reader :=
  { records := r.records ++ [r.record ++ [r.field]] }

def openField (r : Reader) (c : Char) : Reader :=
  if c = '"' then { r with place := .quoted }
  else if c = ',' then r.endField
  else if c = '\n' then r.endRecord
  else { r with place := .plain, field := r.field ++ [c] }

def step (r : Reader) (c : Char) : Except Error Reader :=
  match r.place with
  | .record => if c = '\n' then .ok r else .ok (r.openField c)
  | .field => .ok (r.openField c)
  | .plain =>
    if c = '"' then .error .bareQuote
    else if c = ',' then .ok r.endField
    else if c = '\n' then .ok r.endRecord
    else .ok { r with field := r.field ++ [c] }
  | .quoted =>
    if c = '"' then .ok { r with place := .quote } else .ok { r with field := r.field ++ [c] }
  | .quote =>
    if c = '"' then .ok { r with place := .quoted, field := r.field ++ ['"'] }
    else if c = ',' then .ok r.endField
    else if c = '\n' then .ok r.endRecord
    else .error .quote

def finish (r : Reader) : Except Error (List (List Field)) :=
  match r.place with
  | .record => .ok r.records
  | .field | .plain | .quote => .ok r.endRecord.records
  | .quoted => .error .quote

end Reader

/-- `\r\n` becomes `\n`, and a `\r` at the very end is dropped. -/
def normalizeLines : List Char → List Char
  | [] => []
  | '\r' :: '\n' :: cs => '\n' :: normalizeLines cs
  | ['\r'] => []
  | c :: cs => c :: normalizeLines cs

def readAll (text : List Char) : Except Error (List (List Field)) :=
  (normalizeLines text).foldlM Reader.step {} >>= Reader.finish

/-! ## The texts of a table -/

def doubled (f : Field) : List Char := f.flatMap fun c => if c = '"' then ['"', '"'] else [c]

/-- A field stands as it is, if it has no special characters, or in quotes. -/
inductive RendersField : Field → List Char → Prop
  | plain {f : Field} : (∀ c ∈ f, c ≠ '"' ∧ c ≠ ',' ∧ c ≠ '\n') → RendersField f f
  | quoted (f : Field) : RendersField f ('"' :: (doubled f ++ ['"']))

inductive RendersRow : List Field → List Char → Prop
  | last {f : Field} {t : List Char} : RendersField f t → RendersRow [f] t
  | cons {f : Field} {t ts : List Char} {fs : List Field} : RendersField f t →
      RendersRow fs ts → RendersRow (f :: fs) (t ++ ',' :: ts)

/-- Rows that are not empty lines, each with the end of its line; the last may go without. -/
inductive Renders : List (List Field) → List Char → Prop
  | nil : Renders [] []
  | last {row : List Field} {t : List Char} : RendersRow row t → t ≠ [] → Renders [row] t
  | cons {row : List Field} {t eol ts : List Char} {rows : List (List Field)} :
      RendersRow row t → t ≠ [] → eol = ['\n'] ∨ eol = ['\r', '\n'] → Renders rows ts →
      Renders (row :: rows) (t ++ (eol ++ ts))

/-! ## Fields and rows are read back -/

section Fields

variable {r : Reader}

theorem foldlM_append_ok {cs ds : List Char} {r' : Reader}
    (h : cs.foldlM Reader.step r = .ok r') :
    (cs ++ ds).foldlM Reader.step r = ds.foldlM Reader.step r' := by
  rw [List.foldlM_append, h, ok_bind]

theorem read_plain {cs : List Char} (hplace : r.place = .plain)
    (hcs : ∀ c ∈ cs, c ≠ '"' ∧ c ≠ ',' ∧ c ≠ '\n') :
    cs.foldlM Reader.step r = .ok { r with field := r.field ++ cs } := by
  induction cs generalizing r with
  | nil =>
    rw [List.append_nil]
    rfl
  | cons c cs ih =>
    obtain ⟨hquote, hcomma, hline⟩ := hcs c (List.mem_cons_self ..)
    have hstep : r.step c = .ok { r with field := r.field ++ [c] } := by
      simp [Reader.step, hplace, hquote, hcomma, hline]
    have hrest := ih (r := { r with field := r.field ++ [c] }) hplace
      fun d hd => hcs d (List.mem_cons_of_mem _ hd)
    rw [List.foldlM_cons, hstep, ok_bind, hrest, List.append_assoc, List.singleton_append]

theorem read_doubled {f : Field} (hplace : r.place = .quoted) :
    (doubled f).foldlM Reader.step r = .ok { r with field := r.field ++ f } := by
  induction f generalizing r with
  | nil =>
    rw [List.append_nil]
    rfl
  | cons c f ih =>
    have hchar : (if c = '"' then ['"', '"'] else [c]).foldlM Reader.step r =
        .ok { r with field := r.field ++ [c] } := by
      by_cases hc : c = '"'
      · subst hc
        simp [Reader.step, hplace, ok_bind]
      · simp [Reader.step, hplace, hc]
    rw [doubled, List.flatMap_cons, foldlM_append_ok hchar]
    have hrest := ih (r := { r with field := r.field ++ [c] }) hplace
    rw [List.append_assoc, List.singleton_append] at hrest
    exact hrest

theorem read_field {f : Field} {t : List Char} (h : RendersField f t)
    (hplace : r.place = .record ∨ r.place = .field) (hfield : r.field = []) :
    ∃ r', t.foldlM Reader.step r = .ok r' ∧ r'.field = f ∧ r'.record = r.record ∧
      r'.records = r.records ∧ r'.place ≠ .quoted ∧ (t ≠ [] → r'.place ≠ .record) := by
  cases h with
  | plain hplain =>
    cases f with
    | nil =>
      refine ⟨r, rfl, hfield, rfl, rfl, ?_, fun hne => absurd rfl hne⟩
      rcases hplace with hp | hp <;> simp [hp]
    | cons c cs =>
      obtain ⟨hquote, hcomma, hline⟩ := hplain c (List.mem_cons_self ..)
      have hopen : r.step c = .ok { r with place := .plain, field := [c] } := by
        rcases hplace with hp | hp <;>
          simp [Reader.step, Reader.openField, hp, hquote, hcomma, hline, hfield]
      have hrest := read_plain (r := { r with place := .plain, field := [c] }) rfl
        fun d hd => hplain d (List.mem_cons_of_mem _ hd)
      refine ⟨{ r with place := .plain, field := c :: cs }, ?_, rfl, rfl, rfl, ?_, ?_⟩
      · rw [List.foldlM_cons, hopen, ok_bind, hrest]
        rfl
      · simp
      · simp
  | quoted =>
    have hopen : r.step '"' = .ok { r with place := .quoted } := by
      rcases hplace with hp | hp <;> simp [Reader.step, Reader.openField, hp]
    have hbody := read_doubled (r := { r with place := .quoted }) (f := f) rfl
    refine ⟨{ r with place := .quote, field := f }, ?_, rfl, rfl, rfl, ?_, ?_⟩
    · rw [List.foldlM_cons, hopen, ok_bind, foldlM_append_ok hbody]
      simp [Reader.step, hfield]
    · simp
    · simp

theorem step_comma (h : r.place ≠ .quoted) : r.step ',' = .ok r.endField := by
  cases hplace : r.place with
  | quoted => exact absurd hplace h
  | record | field => simp [Reader.step, Reader.openField, hplace]
  | plain | quote => simp [Reader.step, hplace]

theorem step_newline (h : r.place ≠ .quoted) (hrecord : r.place ≠ .record) :
    r.step '\n' = .ok r.endRecord := by
  cases hplace : r.place with
  | quoted => exact absurd hplace h
  | record => exact absurd hplace hrecord
  | field => simp [Reader.step, Reader.openField, hplace]
  | plain | quote => simp [Reader.step, hplace]

theorem finish_ended (h : r.place ≠ .quoted) (hrecord : r.place ≠ .record) :
    r.finish = .ok r.endRecord.records := by
  cases hplace : r.place with
  | quoted => exact absurd hplace h
  | record => exact absurd hplace hrecord
  | field | plain | quote => simp [Reader.finish, hplace]

theorem read_row {fs : List Field} {t : List Char} (h : RendersRow fs t)
    (hplace : r.place = .record ∨ r.place = .field) (hfield : r.field = []) :
    ∃ r', t.foldlM Reader.step r = .ok r' ∧ r'.record ++ [r'.field] = r.record ++ fs ∧
      r'.records = r.records ∧ r'.place ≠ .quoted ∧ (t ≠ [] → r'.place ≠ .record) := by
  induction h generalizing r with
  | last hf =>
    obtain ⟨r', hread, hf', hrecord, hrecords, hquoted, hne⟩ := read_field hf hplace hfield
    exact ⟨r', hread, by rw [hf', hrecord], hrecords, hquoted, hne⟩
  | @cons f t ts fs hf _ ih =>
    obtain ⟨r', hread, hf', hrecord, hrecords, hquoted, -⟩ := read_field hf hplace hfield
    obtain ⟨r'', hread'', hrecord'', hrecords'', hquoted'', hplace''⟩ :=
      ih (r := r'.endField) (Or.inr rfl) rfl
    refine ⟨r'', ?_, ?_, ?_, hquoted'', fun _ => ?_⟩
    · rw [foldlM_append_ok hread, List.foldlM_cons, step_comma hquoted, ok_bind, hread'']
    · rw [hrecord'', Reader.endField, hf', hrecord, List.append_assoc, List.singleton_append]
    · rw [hrecords'', Reader.endField, hrecords]
    · by_cases hts : ts = []
      · subst hts
        cases hread''
        simp [Reader.endField]
      · exact hplace'' hts

end Fields

/-! ## Tables are read back -/

section Tables

theorem not_mem_of_rendersField {f : Field} {t : List Char} (h : RendersField f t)
    (hf : '\r' ∉ f) : '\r' ∉ t := by
  cases h with
  | plain _ => exact hf
  | quoted =>
    intro hmem
    simp only [doubled, List.mem_cons, List.mem_append, List.mem_flatMap, List.not_mem_nil,
      or_false] at hmem
    rcases hmem with hquote | ⟨c, hc, hmem⟩ | hquote
    · cases hquote
    · split_ifs at hmem with hcq
      · simp at hmem
      · rw [List.mem_singleton.mp hmem] at hf
        exact hf hc
    · cases hquote

theorem not_mem_of_rendersRow {fs : List Field} {t : List Char} (h : RendersRow fs t)
    (hfs : ∀ f ∈ fs, '\r' ∉ f) : '\r' ∉ t := by
  induction h with
  | last hf => exact not_mem_of_rendersField hf (hfs _ (List.mem_singleton_self _))
  | cons hf _ ih =>
    intro hmem
    rcases List.mem_append.mp hmem with hmem | hmem
    · exact not_mem_of_rendersField hf (hfs _ (List.mem_cons_self ..)) hmem
    · rcases List.mem_cons.mp hmem with heq | hmem
      · cases heq
      · exact ih (fun f hf => hfs f (List.mem_cons_of_mem _ hf)) hmem

theorem normalizeLines_cons {c : Char} (h : c ≠ '\r') (cs : List Char) :
    normalizeLines (c :: cs) = c :: normalizeLines cs := by
  rw [normalizeLines]
  · rintro ds rfl
    exact absurd rfl h
  · rintro rfl
    exact absurd rfl h

theorem normalizeLines_append {t : List Char} (h : '\r' ∉ t) (cs : List Char) :
    normalizeLines (t ++ cs) = t ++ normalizeLines cs := by
  induction t with
  | nil => rfl
  | cons c t ih =>
    rw [List.mem_cons, not_or] at h
    rw [List.cons_append, normalizeLines_cons (Ne.symm h.1), ih h.2, List.cons_append]

theorem normalizeLines_eol {eol : List Char} (h : eol = ['\n'] ∨ eol = ['\r', '\n'])
    (cs : List Char) : normalizeLines (eol ++ cs) = '\n' :: normalizeLines cs := by
  rcases h with rfl | rfl
  · exact normalizeLines_cons (by decide) cs
  · rfl

theorem readAll_renders {rows : List (List Field)} {text : List Char} (h : Renders rows text)
    (hrows : ∀ row ∈ rows, ∀ f ∈ row, '\r' ∉ f) : readAll text = .ok rows := by
  have hread : ∀ records, ((normalizeLines text).foldlM Reader.step { records := records } >>=
      Reader.finish) = .ok (records ++ rows) := by
    induction h with
    | nil =>
      intro records
      rw [List.append_nil]
      rfl
    | @last row t hrow hne =>
      intro records
      have hclean := not_mem_of_rendersRow hrow (hrows row (List.mem_singleton_self row))
      obtain ⟨r, hr, hrecord, hrecords, hquoted, hplace⟩ :=
        read_row (r := { records := records }) hrow (Or.inl rfl) rfl
      have htext := normalizeLines_append hclean []
      rw [List.append_nil] at htext
      rw [htext, normalizeLines, List.append_nil, hr, ok_bind,
        finish_ended hquoted (hplace hne), Reader.endRecord, hrecord, hrecords]
      rfl
    | @cons row t eol ts rows hrow hne heol _ ih =>
      intro records
      have hclean := not_mem_of_rendersRow hrow (hrows row (List.mem_cons_self ..))
      obtain ⟨r, hr, hrecord, hrecords, hquoted, hplace⟩ :=
        read_row (r := { records := records }) hrow (Or.inl rfl) rfl
      rw [normalizeLines_append hclean, normalizeLines_eol heol, foldlM_append_ok hr,
        List.foldlM_cons, step_newline hquoted (hplace hne), ok_bind, Reader.endRecord, hrecord,
        hrecords, ih fun row' hrow' => hrows row' (List.mem_cons_of_mem _ hrow')]
      simp
  exact hread []

end Tables

/-! ## Every table has a text -/

def quoteRow : List Field → List Char
  | [] => []
  | [f] => '"' :: (doubled f ++ ['"'])
  | f :: g :: fs => '"' :: (doubled f ++ ['"']) ++ ',' :: quoteRow (g :: fs)

def quoteAll (rows : List (List Field)) : List Char :=
  rows.flatMap fun row => quoteRow row ++ ['\n']

theorem rendersRow_quoteRow {row : List Field} (h : row ≠ []) : RendersRow row (quoteRow row) := by
  induction row with
  | nil => exact absurd rfl h
  | cons f fs ih =>
    cases fs with
    | nil => exact .last (.quoted f)
    | cons g fs => exact .cons (.quoted f) (ih (List.cons_ne_nil _ _))

theorem quoteRow_ne_nil {row : List Field} (h : row ≠ []) : quoteRow row ≠ [] := by
  match row, h with
  | [_], _ | _ :: _ :: _, _ => exact List.cons_ne_nil _ _

theorem renders_quoteAll {rows : List (List Field)} (h : ∀ row ∈ rows, row ≠ []) :
    Renders rows (quoteAll rows) := by
  induction rows with
  | nil => exact .nil
  | cons row rows ih =>
    have hrow : row ≠ [] := h row (List.mem_cons_self ..)
    have hrest := ih fun other hother => h other (List.mem_cons_of_mem _ hother)
    have htext : quoteAll (row :: rows) = quoteRow row ++ (['\n'] ++ quoteAll rows) := by
      rw [quoteAll, List.flatMap_cons, List.append_assoc]
      rfl
    rw [htext]
    exact .cons (rendersRow_quoteRow hrow) (quoteRow_ne_nil hrow) (.inl rfl) hrest

end NexusGateway.Lib.Csv
