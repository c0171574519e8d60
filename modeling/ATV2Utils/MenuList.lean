import ATV2Utils.Foundation
import Mathlib.Algebra.Group.Nat.Defs

/-! # Menu lists

What the six menu controllers share: an array `_names` of row texts, dividers
added to the list control, and an item provider whose guard and array access are
the same six times. A row keeps, beside its text, which datum the `addObject:`
that made it presents; no controller reads that, the theorems about layouts do. -/
namespace ATV2Utils.MenuList
open ATV2Utils.Foundation

/-- The text attributes of `BRThemeInfo` that the menus use. -/
inductive TextAttributes where
  | menuItemTextAttributes
  | smallHeightListDividerLabelAttributes
  | menuTitleSubtextAttributes
  | smallMenuTitleTextAttributes
  | menuItemSmallTextAttributes
  | menuItemBoldTextAttributes
  | metadataTitleSubtextAttributes
  | dividerLabelAttributes
  | menuTitleTextAttributes
deriving DecidableEq, Repr

structure BRMenuItem where
  text : Option (String × TextAttributes)
  rightJustifiedText : Option (String × TextAttributes)
  accessories : List Nat
deriving DecidableEq, Repr

/-- `[[BRMenuItem alloc] init]`. -/
def BRMenuItem.new : BRMenuItem := ⟨none, none, []⟩

def BRMenuItem.setText (menuItem : BRMenuItem) (text : String) (attributes : TextAttributes) :
    BRMenuItem :=
  { menuItem with text := some (text, attributes) }

def BRMenuItem.setRightJustifiedText (menuItem : BRMenuItem) (text : String)
    (attributes : TextAttributes) : BRMenuItem :=
  { menuItem with rightJustifiedText := some (text, attributes) }

def BRMenuItem.addAccessoryOfType (menuItem : BRMenuItem) (type : Nat) : BRMenuItem :=
  { menuItem with accessories := menuItem.accessories ++ [type] }

@[simp] theorem new_accessories : BRMenuItem.new.accessories = [] := rfl

@[simp] theorem setText_accessories (menuItem : BRMenuItem) (text : String)
    (attributes : TextAttributes) :
    (menuItem.setText text attributes).accessories = menuItem.accessories := rfl

@[simp] theorem addAccessoryOfType_accessories (menuItem : BRMenuItem) (type : Nat) :
    (menuItem.addAccessoryOfType type).accessories = menuItem.accessories ++ [type] := rfl

structure Row (δ : Type) where
  datum : δ
  text : String
deriving DecidableEq, Repr

structure Divider where
  index : Nat
  label : String
deriving DecidableEq, Repr

/-- A controller after `init`: its rows, and the dividers in the order added. -/
structure Menu (δ : Type) where
  rows : List (Row δ)
  dividers : List Divider
deriving DecidableEq, Repr

variable {δ : Type}

def Menu.names (m : Menu δ) : List String := m.rows.map Row.text

def Menu.layout (m : Menu δ) : List δ := m.rows.map Row.datum

/-- The datum at a row, the row read as `objectAtIndex:` reads it. -/
def Menu.datumAt (m : Menu δ) (row : Long) : Option δ := m.layout[row.toNat]?

/-- What the rows of a datum show. -/
def Menu.shown [DecidableEq δ] (m : Menu δ) (datum : δ) : List String :=
  (m.rows.filter fun row => row.datum = datum).map Row.text

@[simp] theorem Menu.names_length (m : Menu δ) : m.names.length = m.rows.length := by
  simp [Menu.names]

@[simp] theorem Menu.layout_length (m : Menu δ) : m.layout.length = m.rows.length := by
  simp [Menu.layout]

/-- `itemCount`: the unsigned count, returned as a `long`. -/
def itemCount (names : List String) : Long := count names

/-- `if(row > [_names count]) return nil;`, then `[_names objectAtIndex:row]`.
The comparison converts `row` to unsigned; `none` is nil. -/
def guardedTitle (names : List String) (row : Long) : Except NSException (Option String) :=
  if row > count names then .ok none
  else (objectAtIndex names row.toNat).map some

/-- `itemForRow:` of the menus whose item depends on the row and its text alone. -/
def itemForRowWith (item : Long → String → BRMenuItem) (names : List String) (row : Long) :
    Except NSException (Option BRMenuItem) :=
  (guardedTitle names row).map fun menuTitle => menuTitle.map (item row)

/-- `titleForRow:`. -/
def titleForRow (names : List String) (row : Long) : Except NSException String :=
  objectAtIndex names row.toNat

/-- The item most menus build: the text, then the text in small letters. -/
def smallItem (_ : Long) (menuTitle : String) : BRMenuItem :=
  (BRMenuItem.new.setText menuTitle .menuItemTextAttributes).setText menuTitle
    .smallHeightListDividerLabelAttributes

theorem count_toNat_le (names : List String) : (count names).toNat ≤ names.length := by
  rw [count, BitVec.toNat_ofNat]
  exact Nat.mod_le _ _

theorem count_toNat {names : List String} (h : names.length < 2 ^ 32) :
    (count names).toNat = names.length := by
  rw [count, BitVec.toNat_ofNat, Nat.mod_eq_of_lt h]

theorem guardedTitle_beyond {names : List String} {row : Long} (h : count names < row) :
    guardedTitle names row = .ok none :=
  if_pos h

theorem guardedTitle_within {names : List String} {row : Long} (hrow : ¬ count names < row)
    (h : row.toNat < names.length) : guardedTitle names row = .ok (some names[row.toNat]) := by
  rw [guardedTitle, if_neg hrow, objectAtIndex_lt h]
  rfl

theorem guardedTitle_raises {names : List String} {row : Long} (hrow : ¬ count names < row)
    (h : names.length ≤ row.toNat) :
    guardedTitle names row = .error (.rangeException row.toNat names.length) := by
  rw [guardedTitle, if_neg hrow, objectAtIndex_ge h]
  rfl

/-- A row inside an array of ordinary length has a title. -/
theorem guardedTitle_of_lt {names : List String} {row : Long} (hlen : names.length < 2 ^ 32)
    (h : row.toNat < names.length) : guardedTitle names row = .ok (some names[row.toNat]) := by
  refine guardedTitle_within ?_ h
  rw [BitVec.lt_def, count_toNat hlen]
  omega

/-- A title is only given for a row of the array. -/
theorem lt_of_guardedTitle {names : List String} {row : Long} {menuTitle : String}
    (h : guardedTitle names row = .ok (some menuTitle)) : row.toNat < names.length := by
  by_contra hge
  by_cases hrow : count names < row
  · rw [guardedTitle_beyond hrow] at h
    exact nomatch h
  · rw [guardedTitle_raises hrow (Nat.not_lt.mp hge)] at h
    exact nomatch h

/-- A `long` equals a small number in either reading. -/
theorem toInt_eq_iff {k : Nat} (hk : k < 2 ^ 31) (row : Long) :
    row.toInt = k ↔ row.toNat = k := by
  have hrow := row.isLt
  rw [BitVec.toInt_eq_toNat_cond]
  split <;> omega

/-- A property of the first rows of a list, checked at each of them. -/
theorem forall_row_lt {P : Long → Prop} (n : Nat) (h : ∀ k : Fin n, P (BitVec.ofNat 32 k)) (row : Long)
    (hrow : row.toNat < n) : P row := by
  have hk := h ⟨row.toNat, hrow⟩
  rwa [BitVec.ofNat_toNat, BitVec.setWidth_eq] at hk

end ATV2Utils.MenuList
