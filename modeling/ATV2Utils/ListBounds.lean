import ATV2Utils.HardwareMainMenu
import ATV2Utils.LogMainMenu
import ATV2Utils.MemoryMainMenu
import ATV2Utils.NetworkMainMenu
import ATV2Utils.PowerMainMenu
import ATV2Utils.SoftwareMainMenu

/-! # The bound of the item providers

All six `itemForRow:` compare the row with the count by `>`, where the first row
outside the list is the count itself. Their results depend on the guard alone, so
one argument tells, for every array and every 32-bit row, where a provider gives
an item, where it gives nil, and where `objectAtIndex:` raises. -/
namespace ATV2Utils.ListBounds
open ATV2Utils.Foundation ATV2Utils.MenuList ATV2Utils.Environment

inductive MenuController where
  | hardware | memory | network | software | log | power
deriving DecidableEq, Repr

/-- `itemForRow:` of each controller; the Memory menu may read the log. -/
def itemForRow (controller : MenuController) (names : List String) (row : Long) (log : Syslog) :
    Except NSException (Option BRMenuItem) :=
  match controller with
  | .hardware => HardwareMainMenu.itemForRow names row
  | .memory => (MemoryMainMenu.itemForRow names row log).1
  | .network => NetworkMainMenu.itemForRow names row
  | .software => SoftwareMainMenu.itemForRow names row
  | .log => LogMainMenu.itemForRow names row
  | .power => PowerMainMenu.itemForRow names row

/-- The rows the list control may ask for, in signed arithmetic. -/
def InRange (names : List String) (row : Long) : Prop :=
  0 ≤ row.toInt ∧ row.toInt < (itemCount names).toInt

/-- What an exact bound gives at one row. -/
structure ExactAt (names : List String) (row : Long)
    (result : Except NSException (Option BRMenuItem)) : Prop where
  noRaise : ∀ e, result ≠ .error e
  nil_iff : result = .ok none ↔ ¬ InRange names row
  item : InRange names row → ∃ menuItem, result = .ok (some menuItem)

/-- Where the guard is right, the two sides read as unsigned numbers: with a
count that is a positive `long`, everywhere but at the count; with one that is
negative as a `long`, above it only. -/
def GuardRight (names : List String) (row : Long) : Prop :=
  (count names).toNat < 2 ^ 31 ∧ row ≠ count names ∨
    2 ^ 31 ≤ (count names).toNat ∧ count names < row

/-- Apart from the item itself, every provider is its guard. -/
theorem itemForRow_guarded (controller : MenuController) (names : List String) (row : Long)
    (log : Syslog) : ∃ item : String → BRMenuItem,
      itemForRow controller names row log = (guardedTitle names row).map (Option.map item) := by
  cases controller with
  | hardware => exact ⟨smallItem row, rfl⟩
  | network => exact ⟨smallItem row, rfl⟩
  | software => exact ⟨smallItem row, rfl⟩
  | log => exact ⟨LogMainMenu.logItem row, rfl⟩
  | power => exact ⟨PowerMainMenu.powerItem row, rfl⟩
  | memory =>
    by_cases hrow : row.toInt = 8
    · refine ⟨fun menuTitle => MemoryMainMenu.syslogItem log.head
        (BRMenuItem.new.setText menuTitle .menuItemTextAttributes), ?_⟩
      simp only [itemForRow, MemoryMainMenu.itemForRow, if_pos hrow]
      rcases guardedTitle names row with e | _ | menuTitle <;> rfl
    · refine ⟨smallItem row, ?_⟩
      simp only [itemForRow, MemoryMainMenu.itemForRow, if_neg hrow]
      rcases guardedTitle names row with e | _ | menuTitle <;> rfl

/-- The signed range, read off the unsigned numbers. -/
theorem inRange_iff (names : List String) (row : Long) :
    InRange names row ↔ (count names).toNat < 2 ^ 31 ∧ row < count names := by
  have hrow := row.isLt
  have hcount := (count names).isLt
  rw [InRange, itemCount, BitVec.toInt_eq_toNat_cond, BitVec.toInt_eq_toNat_cond, BitVec.lt_def]
  split <;> split <;> omega

theorem guardRight_of_beyond {names : List String} {row : Long} (h : count names < row) :
    GuardRight names row := by
  rw [GuardRight]
  rcases Nat.lt_or_ge (count names).toNat (2 ^ 31) with hlt | hge
  · refine .inl ⟨hlt, fun heq => ?_⟩
    rw [heq] at h
    exact absurd h (BitVec.lt_irrefl _)
  · exact .inr ⟨hge, h⟩

/-- Up to the count, the guard is right exactly on the rows of the range. -/
theorem guardRight_iff_inRange {names : List String} {row : Long} (h : ¬ count names < row) :
    GuardRight names row ↔ InRange names row := by
  rw [BitVec.lt_def] at h
  rw [inRange_iff, GuardRight, Ne, ← BitVec.toNat_inj, BitVec.lt_def, BitVec.lt_def]
  omega

/-- Outside the array and not above the count, the row is the count. -/
theorem not_guardRight_of_raises {names : List String} {row : Long} (h : ¬ count names < row)
    (hlen : names.length ≤ row.toNat) : ¬ GuardRight names row := by
  rw [guardRight_iff_inRange h, inRange_iff, BitVec.lt_def]
  have hcount := count_toNat_le names
  omega

theorem exactAt_iff (names : List String) (row : Long) (item : String → BRMenuItem) :
    ExactAt names row ((guardedTitle names row).map (Option.map item)) ↔ GuardRight names row := by
  by_cases hrow : count names < row
  · -- nil, and the row is outside
    have hout : ¬ InRange names row := by
      rw [inRange_iff, BitVec.lt_def]
      rw [BitVec.lt_def] at hrow
      omega
    rw [guardedTitle_beyond hrow]
    refine ⟨fun _ => guardRight_of_beyond hrow, fun _ => ⟨nofun, ?_, fun h => absurd h hout⟩⟩
    exact ⟨fun _ => hout, fun _ => rfl⟩
  · rcases Nat.lt_or_ge row.toNat names.length with hlt | hge
    · -- an item, whatever the range
      rw [guardRight_iff_inRange hrow, guardedTitle_within hrow hlt]
      refine ⟨fun h => ?_, fun h => ⟨nofun, ⟨nofun, fun hout => absurd h hout⟩, fun _ => ⟨_, rfl⟩⟩⟩
      by_contra hout
      exact nomatch h.nil_iff.mpr hout
    · -- the array raises
      rw [guardedTitle_raises hrow hge]
      refine ⟨fun h => absurd rfl (h.noRaise _), fun h => ?_⟩
      exact absurd h (not_guardRight_of_raises hrow hge)

/-- **Where the bound of a menu is exact.** For every controller, array and row:
at every row but the count itself, as long as the count is a positive `long`. -/
theorem itemForRow_exact_iff (controller : MenuController) (names : List String) (row : Long)
    (log : Syslog) :
    ExactAt names row (itemForRow controller names row log) ↔ GuardRight names row := by
  obtain ⟨item, hitem⟩ := itemForRow_guarded controller names row log
  rw [hitem]
  exact exactAt_iff names row item

/-- The row behind the last one raises, in every menu. -/
theorem itemForRow_at_count (controller : MenuController) {names : List String}
    (h : names.length < 2 ^ 32) (log : Syslog) :
    itemForRow controller names (count names) log =
      .error (.rangeException names.length names.length) := by
  obtain ⟨item, hitem⟩ := itemForRow_guarded controller names (count names) log
  have hcount := count_toNat h
  rw [hitem, guardedTitle_raises (BitVec.lt_irrefl _) hcount.ge, hcount]
  rfl

/-- An empty list, asked for its row 0. -/
theorem itemForRow_emptyList :
    itemForRow .memory [] 0 (Stream'.const 0) = .error (.rangeException 0 0) ∧
      ¬ ExactAt [] 0 (itemForRow .memory [] 0 (Stream'.const 0)) := by
  have hraise : itemForRow .memory [] 0 (Stream'.const 0) = .error (.rangeException 0 0) := rfl
  exact ⟨hraise, fun h => h.noRaise _ hraise⟩

/-- Where a provider gives an item, `titleForRow:` gives a title. -/
theorem titleForRow_of_item {controller : MenuController} {names : List String} {row : Long}
    {log : Syslog} {menuItem : BRMenuItem}
    (h : itemForRow controller names row log = .ok (some menuItem)) :
    ∃ title, titleForRow names row = .ok title := by
  obtain ⟨item, hitem⟩ := itemForRow_guarded controller names row log
  rw [hitem] at h
  cases htitle : guardedTitle names row with
  | error e => rw [htitle] at h; exact nomatch h
  | ok title =>
    cases title with
    | none => rw [htitle] at h; exact nomatch h
    | some menuTitle =>
      exact ⟨_, objectAtIndex_lt (lt_of_guardedTitle htitle)⟩

/-- The lists the menus build are short: there, only the row just behind the
last is wrong, and it raises. -/
theorem itemForRow_short (controller : MenuController) {names : List String}
    (h : names.length < 2 ^ 31) (row : Long) (log : Syslog) :
    ExactAt names row (itemForRow controller names row log) ↔ row.toNat ≠ names.length := by
  have hcount : (count names).toNat = names.length := count_toNat (by omega)
  obtain ⟨item, hitem⟩ := itemForRow_guarded controller names row log
  rw [hitem, exactAt_iff, GuardRight, Ne, ← BitVec.toNat_inj, BitVec.lt_def, hcount]
  omega

end ATV2Utils.ListBounds
