import Mathlib.Data.List.Basic

/-! # Foundation and BackRow

What the menus use of the two frameworks: arrays that raise outside their
bounds, the 32-bit integers of the target, menu items and dividers. -/
namespace ATV2Utils.Foundation

/-- `long` of the 32-bit target. -/
abbrev Long := BitVec 32

abbrev NSUInteger := BitVec 32

inductive NSException where
  | rangeException (index count : Nat)
  | invalidArgumentException
deriving DecidableEq, Repr

def objectAtIndex {α : Type} (array : List α) (index : Nat) : Except NSException α :=
  match array[index]? with
  | some x => .ok x
  | none => .error (.rangeException index array.length)

def count {α : Type} (array : List α) : NSUInteger := BitVec.ofNat 32 array.length

/-- `%d`, whose argument is read as a signed integer. -/
def printfD (n : NSUInteger) : String := toString n.toInt

/-- `%u`. -/
def printfU (n : NSUInteger) : String := toString n.toNat

/-- A field width: padding on the left. -/
def printfWidth (width : Nat) (text : String) : String :=
  String.ofList (List.leftpad width ' ' text.toList)

theorem objectAtIndex_lt {α : Type} {array : List α} {index : Nat} (h : index < array.length) :
    objectAtIndex array index = .ok array[index] := by
  simp [objectAtIndex, h]

theorem objectAtIndex_ge {α : Type} {array : List α} {index : Nat} (h : array.length ≤ index) :
    objectAtIndex array index = .error (.rangeException index array.length) := by
  simp [objectAtIndex, h]

end ATV2Utils.Foundation
