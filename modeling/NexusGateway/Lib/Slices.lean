/-
Arrays by reference, and slices of them.  An allocation gives a reference no
one else has; a write through one reference is seen by every slice of that
array and by no other.
-/

import Mathlib.Data.List.Basic

namespace NexusGateway.Lib

variable {α : Type _}

/-- `len` elements of the array `ref`, from `off` on. -/
structure Slice where
  ref : Nat
  off : Nat
  len : Nat
deriving DecidableEq, Repr

/-- `s[k:]`. -/
def Slice.drop (s : Slice) (k : Nat) : Slice := { s with off := s.off + k, len := s.len - k }

/-- The arrays allocated so far; a reference is an index into them. -/
structure Heap (α : Type _) where
  arrays : List (List α)

namespace Heap

def read (h : Heap α) (ref : Nat) : List α := h.arrays.getD ref []

def alloc (h : Heap α) (xs : List α) : Heap α × Slice :=
  (⟨h.arrays ++ [xs]⟩, { ref := h.arrays.length, off := 0, len := xs.length })

/-- `a[i] = x` for the array `a` behind a reference. -/
def write (h : Heap α) (ref i : Nat) (x : α) : Heap α :=
  ⟨h.arrays.modify ref (·.set i x)⟩

def elems (h : Heap α) (s : Slice) : List α := ((h.read s.ref).drop s.off).take s.len

def Live (h : Heap α) (ref : Nat) : Prop := ref < h.arrays.length

variable {h : Heap α} {ref : Nat}

theorem Live.alloc (hlive : h.Live ref) (xs : List α) : (h.alloc xs).1.Live ref := by
  show ref < (h.arrays ++ [xs]).length
  rw [List.length_append]
  exact Nat.lt_of_lt_of_le hlive (Nat.le_add_right _ _)

theorem Live.write (hlive : h.Live ref) (ref' i : Nat) (x : α) : (h.write ref' i x).Live ref := by
  show ref < (h.arrays.modify ref' (·.set i x)).length
  rw [List.length_modify]
  exact hlive

theorem Live.ne_alloc (hlive : h.Live ref) (xs : List α) : (h.alloc xs).2.ref ≠ ref :=
  Nat.ne_of_gt hlive

theorem live_alloc (h : Heap α) (xs : List α) : (h.alloc xs).1.Live (h.alloc xs).2.ref := by
  show h.arrays.length < (h.arrays ++ [xs]).length
  rw [List.length_append]
  exact Nat.lt_succ_self _

theorem read_alloc (hlive : h.Live ref) (xs : List α) : (h.alloc xs).1.read ref = h.read ref := by
  show (h.arrays ++ [xs]).getD ref [] = h.arrays.getD ref []
  rw [List.getD_eq_getElem?_getD, List.getD_eq_getElem?_getD, List.getElem?_append_left hlive]

theorem read_write (hlive : h.Live ref) (i : Nat) (x : α) :
    (h.write ref i x).read ref = (h.read ref).set i x := by
  have hget : h.arrays[ref]? = some h.arrays[ref] := List.getElem?_eq_getElem hlive
  simp [write, read, hget]

theorem read_write_ne {ref' : Nat} (hne : ref' ≠ ref) (i : Nat) (x : α) :
    (h.write ref' i x).read ref = h.read ref := by
  show (h.arrays.modify ref' (·.set i x)).getD ref [] = h.arrays.getD ref []
  rw [List.getD_eq_getElem?_getD, List.getD_eq_getElem?_getD, List.getElem?_modify]
  simp [hne]

theorem elems_alloc (h : Heap α) (xs : List α) :
    (h.alloc xs).1.elems (h.alloc xs).2 = xs := by
  simp [elems, alloc, read]

theorem elems_drop (h : Heap α) (s : Slice) (k : Nat) :
    h.elems (s.drop k) = (h.elems s).drop k := by
  simp only [elems, Slice.drop, List.drop_take, List.drop_drop]

theorem elems_congr {h' : Heap α} {s : Slice} (hread : h'.read s.ref = h.read s.ref) :
    h'.elems s = h.elems s := by
  rw [elems, hread, elems]

end Heap

end NexusGateway.Lib
