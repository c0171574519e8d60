import ATV2Utils.Environment
import ATV2Utils.LogSize
import ATV2Utils.MenuList

/-! # The Memory menu -/
namespace ATV2Utils.MemoryMainMenu
open ATV2Utils.Foundation ATV2Utils.MenuList ATV2Utils.Environment ATV2Utils.LogSize

inductive Datum where
  | systemTotal | systemFree | systemFreePct
  | userTotal | userFree | userFreePct
  | devfsTotal | devfsFree
  | syslogSize
  | cachesRentals | cachesOther
  | maximumRAM | freeUserRAM | standardRAM | bufferSize
deriving DecidableEq, Repr

/-- The size from which on the menu asks to rotate the log. -/
def rotateLimit : Nat := 50000000

/-- The `addObject:` calls of `init`, in order. -/
def rows (device : Device) (syslogSize : String) : List (Row Datum) :=
  -- the line below the test is commented out, so the test guards the next one
  (if device.networkAvailable then
    [⟨.systemTotal, "System Total\t\t: " ++ device.totalDiskSpace⟩] else []) ++
  [⟨.systemFree, "System Free\t\t: " ++ device.freeDiskSpace⟩,
   ⟨.systemFreePct, "/dev/disk0s1s2  " ++ device.freeDiskSpacePct⟩,
   ⟨.userTotal, "User total: " ++ device.tempTotalDiskSpace⟩,
   ⟨.userFree, "User free : " ++ device.tempFreeDiskSpace⟩,
   ⟨.userFreePct, "/dev/disk0s1s1  " ++ device.pctFreeDiskSpace⟩,
   ⟨.devfsTotal, "Total devfs\t\t: " ++ device.devTotalDiskSpace⟩,
   ⟨.devfsFree, "Free  devfs\t\t: " ++ device.devFreeDiskSpace⟩,
   ⟨.syslogSize, "syslog size: \n\n " ++ printfWidth 3 syslogSize⟩,
   ⟨.cachesRentals, "caches rentals: " ++ device.cachesSize⟩,
   ⟨.cachesOther, "caches other  : " ++ device.cachesSize1⟩,
   ⟨.maximumRAM, "Maximum RAM in MB\t: " ++ printfD device.totalMemory⟩,
   ⟨.freeUserRAM, "Free User RAM in MB: " ++ printfD device.userMemory⟩,
   ⟨.standardRAM, "Standard RAM in MB\t: " ++ printfD device.imhoMemory⟩,
   ⟨.bufferSize, "Buffer  size\t\t: " ++ printfD device.maxSocketBufferSize⟩]

def rotateDivider : Divider := ⟨8, "Please rotate your syslog !"⟩

def usedDivider : Divider := ⟨8, "your used cashes space"⟩

/-- The dividers, given the sizes that the two tests read. -/
def dividers (first second : Nat) : List Divider :=
  [⟨0, "iOS filesystem '/private/var'"⟩, ⟨3, "User filesystem '/'"⟩,
   ⟨6, "Dev filesystem '/dev'"⟩] ++
  (if first ≥ rotateLimit then [rotateDivider] else []) ++
  (if second < rotateLimit then [usedDivider] else []) ++
  [⟨11, "RAM"⟩]

/-- `init`: one size is read for the row, and one by each of the two tests. -/
def init (device : Device) (log : Syslog) : Except NSException (Menu Datum × Syslog) := do
  let (size, log) := logSize log
  let syslogSize ← prettyBytesLogSize size
  let (first, log) := logSize log
  let (second, log) := logSize log
  return (⟨rows device syslogSize, dividers first second⟩, log)

/-- The switch of `previewControlForItem:`, each case with the datum its comment
names and the image it loads. -/
def previewCase (item : Long) : Option (Option Datum × String) :=
  match item.toInt with
  | 0 => some (some .systemTotal, "100")
  | 1 => some (some .systemFree, "102")
  | 2 => some (some .systemFreePct, "102")
  | 3 => some (some .userTotal, "100")
  | 4 => some (some .userFree, "102")
  | 5 => some (some .userFreePct, "102")
  | 6 => some (some .devfsTotal, "100")
  | 7 => some (some .devfsFree, "102")
  | 8 => some (some .syslogSize, "108")
  | 9 => some (some .cachesRentals, "110")
  | 10 => some (some .cachesOther, "111")
  | 11 => some (some .maximumRAM, "112")
  | 12 => some (some .freeUserRAM, "113")
  | 13 => some (some .standardRAM, "114")
  | 14 => some (some .bufferSize, "115")
  | 15 => some (none, "113")
  | 16 => some (none, "114")
  | 17 => some (none, "115")
  | _ => none

def previewControlForItem (item : Long) : Option String := (previewCase item).map Prod.snd

/-- What `itemSelected:` pushes on the stack. -/
inductive Controller where
  | logMainMenu
deriving DecidableEq, Repr

def itemSelected (names : List String) (selected : Long) :
    Except NSException (Option Controller) := do
  let _currentObject ← objectAtIndex names selected.toNat
  if selected.toInt = 0 then return none
  else if selected.toInt = 8 then return some .logMainMenu
  else return none

/-- Case 8 of `itemForRow:`. The second addition has no `else` before it. -/
def syslogItem (size : Nat) (menuItem : BRMenuItem) : BRMenuItem :=
  let menuItem := if size ≥ rotateLimit then menuItem.addAccessoryOfType 3 else menuItem
  menuItem.addAccessoryOfType 7

/-- `itemForRow:`; a size is read in case 8 only. -/
def itemForRow (names : List String) (row : Long) (log : Syslog) :
    Except NSException (Option BRMenuItem) × Syslog :=
  match guardedTitle names row with
  | .error e => (.error e, log)
  | .ok none => (.ok none, log)
  | .ok (some menuTitle) =>
    let menuItem := BRMenuItem.new.setText menuTitle .menuItemTextAttributes
    if row.toInt = 8 then
      let (size, log) := logSize log
      (.ok (some (syslogItem size menuItem)), log)
    else
      (.ok (some (menuItem.setText menuTitle .smallHeightListDividerLabelAttributes)), log)

/-! ## What `init` builds -/

/-- The data of the rows. -/
def layout (networkAvailable : Bool) : List Datum :=
  (if networkAvailable then [.systemTotal] else []) ++
  [.systemFree, .systemFreePct, .userTotal, .userFree, .userFreePct, .devfsTotal, .devfsFree,
   .syslogSize, .cachesRentals, .cachesOther, .maximumRAM, .freeUserRAM, .standardRAM, .bufferSize]

theorem rows_layout (device : Device) (syslogSize : String) :
    (rows device syslogSize).map Row.datum = layout device.networkAvailable := by
  cases h : device.networkAvailable <;> simp [rows, layout, h]

theorem layout_length_lt (networkAvailable : Bool) : (layout networkAvailable).length < 2 ^ 32 := by
  cases networkAvailable <;> decide

/-- Where the row of the log stands. -/
def syslogRow (networkAvailable : Bool) : Nat := if networkAvailable then 8 else 7

theorem layout_syslogSize_iff (networkAvailable : Bool) (row : Long) :
    (layout networkAvailable)[row.toNat]? = some .syslogSize ↔
      row.toNat = syslogRow networkAvailable := by
  have hnodup : (layout networkAvailable).Nodup := by cases networkAvailable <;> decide
  have hat : (layout networkAvailable)[syslogRow networkAvailable]? = some .syslogSize := by
    cases networkAvailable <;> rfl
  constructor
  · intro h
    obtain ⟨hlt, hget⟩ := List.getElem?_eq_some_iff.mp h
    obtain ⟨_, hrow⟩ := List.getElem?_eq_some_iff.mp hat
    exact hnodup.getElem_inj_iff.mp (hget.trans hrow.symm)
  · intro h
    rw [h, hat]

/-- `init` never raises; it takes three sizes from the log. -/
theorem init_ok (device : Device) (log : Syslog) :
    ∃ syslogSize, init device log =
      .ok (⟨rows device syslogSize, dividers (log.get 1) (log.get 2)⟩, log.drop 3) := by
  obtain ⟨syslogSize, htext⟩ := prettyBytesLogSize_ok log.head
  refine ⟨syslogSize, ?_⟩
  simp only [init, logSize, htext, bind, Except.bind, pure, Except.pure]
  rfl

theorem init_layout {device : Device} {log rest : Syslog} {menu : Menu Datum}
    (h : init device log = .ok (menu, rest)) : menu.layout = layout device.networkAvailable := by
  obtain ⟨syslogSize, hinit⟩ := init_ok device log
  obtain ⟨rfl, -⟩ := Prod.mk.inj (Except.ok.inj (hinit.symm.trans h))
  exact rows_layout device syslogSize

/-! ## What the handlers do at a row -/

theorem syslogItem_accessories (size : Nat) (menuItem : BRMenuItem) :
    (syslogItem size menuItem).accessories =
      menuItem.accessories ++ (if size ≥ rotateLimit then [3] else []) ++ [7] := by
  by_cases h : size ≥ rotateLimit <;> simp [syslogItem, h]

theorem itemForRow_eight {names : List String} {row : Long} (hlen : names.length < 2 ^ 32)
    (h : row.toNat < names.length) (hrow : row.toNat = 8) (log : Syslog) :
    itemForRow names row log =
      (.ok (some (syslogItem log.head
        (BRMenuItem.new.setText names[row.toNat] .menuItemTextAttributes))), log.tail) := by
  have hint : row.toInt = 8 := (toInt_eq_iff (by norm_num) row).mpr hrow
  simp only [itemForRow, guardedTitle_of_lt hlen h, if_pos hint]
  rfl

theorem itemForRow_other {names : List String} {row : Long} (hlen : names.length < 2 ^ 32)
    (h : row.toNat < names.length) (hrow : row.toNat ≠ 8) (log : Syslog) :
    itemForRow names row log = (.ok (some (smallItem row names[row.toNat])), log) := by
  have hint : ¬ row.toInt = 8 := fun hint => hrow ((toInt_eq_iff (by norm_num) row).mp hint)
  simp only [itemForRow, guardedTitle_of_lt hlen h, if_neg hint]
  rfl

theorem itemForRow_log_of_ne {names : List String} {row : Long} (hrow : row.toNat ≠ 8)
    (log : Syslog) : (itemForRow names row log).2 = log := by
  have hint : ¬ row.toInt = 8 := fun hint => hrow ((toInt_eq_iff (by norm_num) row).mp hint)
  rw [itemForRow]
  rcases guardedTitle names row with e | _ | menuTitle
  · rfl
  · rfl
  · simp only [if_neg hint]

/-- An item is only given for a row of the array. -/
theorem lt_of_itemForRow {names : List String} {row : Long} {log : Syslog} {item : BRMenuItem}
    (h : (itemForRow names row log).1 = .ok (some item)) : row.toNat < names.length := by
  rw [itemForRow] at h
  cases htitle : guardedTitle names row with
  | error e => rw [htitle] at h; exact nomatch h
  | ok title =>
    cases title with
    | none => rw [htitle] at h; exact nomatch h
    | some menuTitle => exact lt_of_guardedTitle htitle

/-- The accessories of any item given: those of the log at row 8, else none. -/
theorem itemForRow_accessories {names : List String} {row : Long} {log : Syslog}
    {item : BRMenuItem} (hlen : names.length < 2 ^ 32)
    (h : (itemForRow names row log).1 = .ok (some item)) :
    item.accessories =
      if row.toNat = 8 then (if log.head ≥ rotateLimit then [3] else []) ++ [7] else [] := by
  have hlt := lt_of_itemForRow h
  by_cases hrow : row.toNat = 8
  · rw [itemForRow_eight hlen hlt hrow] at h
    obtain rfl := Option.some.inj (Except.ok.inj h)
    simp [syslogItem_accessories, hrow]
  · rw [itemForRow_other hlen hlt hrow] at h
    obtain rfl := Option.some.inj (Except.ok.inj h)
    simp [smallItem, hrow]

theorem itemForRow_some {names : List String} {row : Long} (hlen : names.length < 2 ^ 32)
    (h : row.toNat < names.length) (log : Syslog) :
    ∃ item, (itemForRow names row log).1 = .ok (some item) := by
  by_cases hrow : row.toNat = 8
  · rw [itemForRow_eight hlen h hrow]
    exact ⟨_, rfl⟩
  · rw [itemForRow_other hlen h hrow]
    exact ⟨_, rfl⟩

theorem itemSelected_eq {names : List String} {selected : Long} (h : selected.toNat < names.length) :
    itemSelected names selected =
      .ok (if selected.toNat = 8 then some .logMainMenu else none) := by
  have hzero := toInt_eq_iff (k := 0) (by norm_num) selected
  have height := toInt_eq_iff (k := 8) (by norm_num) selected
  simp only [Nat.cast_zero, Nat.cast_ofNat] at hzero height
  simp only [itemSelected, objectAtIndex_lt h, bind, Except.bind, pure, Except.pure, hzero, height]
  split_ifs <;> first | rfl | omega

theorem itemSelected_raises {names : List String} {selected : Long}
    (h : names.length ≤ selected.toNat) :
    itemSelected names selected = .error (.rangeException selected.toNat names.length) := by
  rw [itemSelected, objectAtIndex_ge h]
  rfl

end ATV2Utils.MemoryMainMenu
