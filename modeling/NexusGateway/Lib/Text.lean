/-
White space around a text, as Go's `strings.TrimSpace` and `bytes.TrimSpace`
take it: the space characters of Unicode, not only those of ASCII.
-/

import Mathlib.Data.List.DropRight

namespace NexusGateway.Lib

/-- `unicode.IsSpace`. -/
def isUnicodeSpace (c : Char) : Bool :=
  let n := c.toNat
  (9 ≤ n && n ≤ 13) || n = 0x20 || n = 0x85 || n = 0xa0 || n = 0x1680 ||
    (0x2000 ≤ n && n ≤ 0x200a) || n = 0x2028 || n = 0x2029 || n = 0x202f || n = 0x205f ||
    n = 0x3000

def trimSpace (cs : List Char) : List Char :=
  (cs.dropWhile isUnicodeSpace).rdropWhile isUnicodeSpace

structure Trimmed (cs : List Char) : Prop where
  head : ∀ c ∈ cs.head?, isUnicodeSpace c = false
  last : ∀ c ∈ cs.getLast?, isUnicodeSpace c = false

theorem Trimmed.trimSpace_eq {cs : List Char} (h : Trimmed cs) : trimSpace cs = cs := by
  have hdrop : cs.dropWhile isUnicodeSpace = cs := by
    cases cs with
    | nil => rfl
    | cons c cs => rw [List.dropWhile_cons, h.head c rfl, if_neg Bool.false_ne_true]
  rw [trimSpace, hdrop, List.rdropWhile_eq_self_iff]
  intro hne
  rw [h.last _ (List.getLast?_eq_some_getLast hne)]
  exact Bool.false_ne_true

theorem trimmed_trimSpace (cs : List Char) : Trimmed (trimSpace cs) := by
  have hprefix : trimSpace cs <+: cs.dropWhile isUnicodeSpace := List.rdropWhile_prefix ..
  constructor
  · intro c hc
    -- the first character that is left is where dropping from the left stopped
    cases htrim : trimSpace cs with
    | nil =>
      rw [htrim] at hc
      cases hc
    | cons d ds =>
      rw [htrim] at hc hprefix
      cases hc
      obtain ⟨rest, hrest⟩ := hprefix
      have hhead := List.head?_dropWhile_not isUnicodeSpace cs
      rw [← hrest] at hhead
      simpa using hhead
  · intro c hc
    have hne : trimSpace cs ≠ [] := by
      intro hnil
      rw [hnil] at hc
      cases hc
    have hlast := List.rdropWhile_last_not isUnicodeSpace (cs.dropWhile isUnicodeSpace) hne
    rw [List.getLast?_eq_some_getLast hne] at hc
    cases hc
    exact Bool.eq_false_iff.mpr hlast

theorem Trimmed.eq_nil_of_append {cs rest : List Char} (h : Trimmed (cs ++ rest))
    (hspace : ∀ c ∈ rest, isUnicodeSpace c = true) : rest = [] := by
  by_contra hne
  have hlast := h.last (rest.getLast hne) (by
    rw [List.getLast?_append_of_ne_nil _ hne, List.getLast?_eq_some_getLast hne]
    rfl)
  rw [hspace _ (List.getLast_mem hne)] at hlast
  cases hlast

theorem trimmed_of_forall {cs : List Char} (h : ∀ c ∈ cs, isUnicodeSpace c = false) :
    Trimmed cs :=
  ⟨fun c hc => h c (List.mem_of_mem_head? hc), fun c hc => h c (List.mem_of_mem_getLast? hc)⟩

theorem isUnicodeSpace_of_printable {c : Char} (h : 33 ≤ c.toNat ∧ c.toNat < 127) :
    isUnicodeSpace c = false := by
  simp only [isUnicodeSpace, Bool.or_eq_false_iff, Bool.and_eq_false_iff, decide_eq_false_iff_not]
  omega

theorem isUnicodeSpace_of_isDigit {c : Char} (h : c.isDigit = true) : isUnicodeSpace c = false := by
  rw [Char.isDigit, Bool.and_eq_true, decide_eq_true_eq, decide_eq_true_eq] at h
  have hlow : 48 ≤ c.toNat := UInt32.le_iff_toNat_le.mp h.1
  have hhigh : c.toNat ≤ 57 := UInt32.le_iff_toNat_le.mp h.2
  exact isUnicodeSpace_of_printable (by omega)

theorem printable_of_toLower {c : Char} (h : 97 ≤ c.toLower.toNat ∧ c.toLower.toNat ≤ 122) :
    33 ≤ c.toNat ∧ c.toNat < 127 := by
  unfold Char.toLower at h
  split at h
  · rename_i hupper
    have hlow : 65 ≤ c.toNat := UInt32.le_iff_toNat_le.mp hupper.1
    have hhigh : c.toNat ≤ 90 := UInt32.le_iff_toNat_le.mp hupper.2
    omega
  · omega

def unary (n : Nat) : String := String.ofList (List.replicate n 'a')

theorem unary_injective : Function.Injective unary := by
  intro m n h
  simpa [unary] using congrArg (fun s => s.toList.length) h

end NexusGateway.Lib
