import Mathlib.Data.List.Basic

/-! # Bounds-checked C arrays

An array on the stack: a fixed number of cells, each holding nothing until it is
stored to. A load or store outside the cells faults, and so does the load of a
cell that holds nothing, so a run without a fault reads and writes only what the
array has. -/
namespace ATV2Utils.Lib.Buffer

variable {α : Type*}

inductive Fault where
  | outOfBounds (index : Nat)
  | uninitialised (index : Nat)
deriving DecidableEq, Repr

abbrev CArray (α : Type*) := List (Option α)

/-- A local array of `size` cells, before any store. -/
def uninitialised (size : Nat) : CArray α := List.replicate size none

def load (a : CArray α) (i : Nat) : Except Fault α :=
  match a[i]? with
  | some (some x) => .ok x
  | some none => .error (.uninitialised i)
  | none => .error (.outOfBounds i)

def store (a : CArray α) (i : Nat) (x : α) : Except Fault (CArray α) :=
  if i < a.length then .ok (a.set i (some x)) else .error (.outOfBounds i)

/-- Consecutive stores from index `i` on. -/
def storeAll (a : CArray α) (i : Nat) : List α → Except Fault (CArray α)
  | [] => .ok a
  | x :: xs => do
    let a ← store a i x
    storeAll a (i + 1) xs

/-- The string that starts at the first of the cells, whose index is `i`. -/
def readString [DecidableEq α] (nul : α) (i : Nat) : CArray α → Except Fault (List α)
  | [] => .error (.outOfBounds i)
  | none :: _ => .error (.uninitialised i)
  | some c :: rest =>
    if c = nul then .ok []
    else do
      let s ← readString nul (i + 1) rest
      return c :: s

theorem load_map_some {xs : List α} {i : Nat} (h : i < xs.length) :
    load (xs.map some) i = .ok xs[i] := by
  simp [load, h]

/-- Stores that fit in front of the rest of an array leave what precedes and
what follows them. -/
theorem storeAll_append (before : CArray α) (xs : List α) (room after : CArray α)
    (h : room.length = xs.length) :
    storeAll (before ++ room ++ after) before.length xs = .ok (before ++ xs.map some ++ after) := by
  induction xs generalizing before room with
  | nil =>
    obtain rfl : room = [] := List.length_eq_zero_iff.mp h
    rfl
  | cons x xs ih =>
    obtain ⟨cell, room, rfl⟩ := List.exists_cons_of_length_eq_add_one h
    have hstore : store (before ++ (cell :: room) ++ after) before.length x =
        .ok ((before ++ [some x]) ++ room ++ after) := by
      simp [store]
    have hlen : room.length = xs.length := by simpa using h
    have hrest := ih (before ++ [some x]) room hlen
    simp only [storeAll, hstore, bind, Except.bind]
    simpa using hrest

/-- A terminated string is read up to its terminator. -/
theorem readString_terminated [DecidableEq α] {nul : α} {s : List α} (h : nul ∉ s) (i : Nat)
    (rest : CArray α) : readString nul i (s.map some ++ some nul :: rest) = .ok s := by
  induction s generalizing i with
  | nil => simp [readString]
  | cons c s ih =>
    simp only [List.mem_cons, not_or] at h
    have hrest := ih h.2 (i + 1)
    simp [readString, Ne.symm h.1, hrest, bind, Except.bind, pure, Except.pure]

end ATV2Utils.Lib.Buffer
