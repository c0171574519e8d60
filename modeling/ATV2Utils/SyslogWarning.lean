import ATV2Utils.Lib.Machine
import ATV2Utils.MemoryMainMenu
import Mathlib.Data.Stream.Init

/-! # The warning about the log

The Memory menu reads the size of the log anew for every test it makes, and the
daemon may change the file between two reads. The menu is followed through
`init` and any run of row requests, over any sequence of sizes. -/
namespace ATV2Utils.SyslogWarning
open ATV2Utils.Foundation ATV2Utils.MenuList ATV2Utils.Environment
open ATV2Utils.MemoryMainMenu ATV2Utils.Lib.Machine

/-- A request of a row, as a step over the sizes still to come. -/
def step (menu : Menu Datum) (log : Syslog) (row : Long) :
    Syslog × Except NSException (Option BRMenuItem) :=
  let answer := itemForRow menu.names row log
  (answer.2, answer.1)

def isSizeDivider (divider : Divider) : Bool :=
  divider = rotateDivider || divider = usedDivider

/-- Exactly one of the two dividers that depend on the size, and the one this
size calls for. -/
def OneSizeDivider (menu : Menu Datum) (size : Nat) : Prop :=
  menu.dividers.filter isSizeDivider = [if size ≥ rotateLimit then rotateDivider else usedDivider]

/-- A request of the row of the log gives an item with one accessory, the arrow
exactly when the size read for it reaches the limit. -/
def Marked (menu : Menu Datum) (log : Syslog) (row : Long) : Prop :=
  menu.datumAt row = some .syslogSize → ∃ item, (step menu log row).2 = .ok (some item) ∧
    item.accessories = [if log.head ≥ rotateLimit then 3 else 7]

/-- The warning is right from `init` on, through a run of requests: the divider
for both sizes that the tests of `init` read, the mark for the size of each
request. -/
def Consistent (device : Device) (log : Syslog) (requests : List Long) : Prop :=
  ∃ menu rest, init device log = .ok (menu, rest) ∧
    OneSizeDivider menu (log.get 1) ∧ OneSizeDivider menu (log.get 2) ∧
    AtEveryStep (step menu) (Marked menu) rest requests

/-- The two tests of `init` read sizes on one side of the limit. -/
def SameSide (log : Syslog) : Prop := log.get 1 ≥ rotateLimit ↔ log.get 2 ≥ rotateLimit

/-- How many sizes a run of requests reads. -/
def reads (requests : List Long) : Nat := requests.countP fun row => row.toNat = 8

/-- Every request of the row of the log is made of a menu that was built with a
network, and reads a size below the limit. -/
def RequestsBelow (device : Device) (log : Syslog) (requests : List Long) : Prop :=
  ∀ pre row post, requests = pre ++ row :: post →
    row.toNat = syslogRow device.networkAvailable →
      device.networkAvailable = true ∧ log.get (3 + reads pre) < rotateLimit

/-! ## The dividers -/

/-- Each test adds its own divider, so two sizes on different sides of the limit
give two or none. -/
theorem dividers_filter (first second : Nat) :
    (dividers first second).filter isSizeDivider =
      (if first ≥ rotateLimit then [rotateDivider] else []) ++
        if second < rotateLimit then [usedDivider] else [] := by
  by_cases hfirst : first ≥ rotateLimit <;> by_cases hsecond : second < rotateLimit <;>
    simp [dividers, hfirst, hsecond, isSizeDivider, rotateDivider, usedDivider]

theorem oneSizeDivider_dividers (rows : List (Row Datum)) (first second : Nat) :
    OneSizeDivider ⟨rows, dividers first second⟩ first ∧
      OneSizeDivider ⟨rows, dividers first second⟩ second ↔
      (first ≥ rotateLimit ↔ second ≥ rotateLimit) := by
  rw [OneSizeDivider, OneSizeDivider, dividers_filter]
  rcases Nat.lt_or_ge second rotateLimit with hsecond | hsecond <;>
    by_cases hfirst : first ≥ rotateLimit
  · simp [hfirst, hsecond, Nat.not_le.mpr hsecond]
  · simp [hfirst, hsecond, Nat.not_le.mpr hsecond]
  · simp [hfirst, hsecond, Nat.not_lt.mpr hsecond]
  · simp [hfirst, hsecond, Nat.not_lt.mpr hsecond]

theorem oneSizeDivider_iff {device : Device} {log rest : Syslog} {menu : Menu Datum}
    (h : init device log = .ok (menu, rest)) :
    OneSizeDivider menu (log.get 1) ∧ OneSizeDivider menu (log.get 2) ↔ SameSide log := by
  obtain ⟨text, hinit⟩ := init_ok device log
  obtain ⟨rfl, -⟩ := Prod.mk.inj (Except.ok.inj (hinit.symm.trans h))
  exact oneSizeDivider_dividers _ _ _

/-! ## The requests -/

/-- A menu as `init` leaves it, with or without its first row. -/
structure Built (networkAvailable : Bool) (menu : Menu Datum) : Prop where
  layout_eq : menu.layout = layout networkAvailable

theorem Built.names_length {networkAvailable : Bool} {menu : Menu Datum}
    (h : Built networkAvailable menu) : menu.names.length = (layout networkAvailable).length := by
  rw [Menu.names_length, ← Menu.layout_length, h.layout_eq]

theorem Built.short {networkAvailable : Bool} {menu : Menu Datum}
    (h : Built networkAvailable menu) : menu.names.length < 2 ^ 32 := by
  rw [h.names_length]
  exact layout_length_lt networkAvailable

theorem Built.datumAt_iff {networkAvailable : Bool} {menu : Menu Datum}
    (h : Built networkAvailable menu) (row : Long) :
    menu.datumAt row = some .syslogSize ↔ row.toNat = syslogRow networkAvailable := by
  rw [Menu.datumAt, h.layout_eq, layout_syslogSize_iff]

/-- Row 8 is in the list with and without the first row. -/
theorem Built.eight_lt {networkAvailable : Bool} {menu : Menu Datum}
    (h : Built networkAvailable menu) : 8 < menu.names.length := by
  rw [h.names_length]
  cases networkAvailable <;> decide

/-- One request takes a size from the log at row 8, and nothing elsewhere. -/
theorem Built.step_fst {networkAvailable : Bool} {menu : Menu Datum}
    (h : Built networkAvailable menu) (log : Syslog) (row : Long) :
    (step menu log row).1 = if row.toNat = 8 then log.tail else log := by
  by_cases height : row.toNat = 8
  · have hlt : row.toNat < menu.names.length := by
      rw [height]
      exact h.eight_lt
    rw [step, itemForRow_eight h.short hlt height, if_pos height]
  · rw [if_neg height, step, itemForRow_log_of_ne height]

/-- A run takes as many sizes as it has requests of row 8. -/
theorem foldl_taken (log : Syslog) (requests : List Long) :
    requests.foldl (fun log row => if row.toNat = 8 then log.tail else log) log =
      log.drop (reads requests) := by
  induction requests generalizing log with
  | nil => rfl
  | cons row requests ih =>
    rw [List.foldl_cons, ih, reads, reads, List.countP_cons]
    by_cases height : row.toNat = 8
    · simp only [height, if_true, decide_true]
      rfl
    · simp [height]

/-- One request: the row of the log is marked right only where case 8 is its
case and the size is below the limit. -/
theorem Built.marked_iff {networkAvailable : Bool} {menu : Menu Datum}
    (h : Built networkAvailable menu) (log : Syslog) (row : Long) :
    Marked menu log row ↔ (row.toNat = syslogRow networkAvailable →
      networkAvailable = true ∧ log.head < rotateLimit) := by
  rw [Marked, h.datumAt_iff]
  refine forall_congr' fun hrow => ?_
  have hlt : row.toNat < menu.names.length := by
    refine lt_of_le_of_lt ?_ h.eight_lt
    rw [hrow]
    cases networkAvailable <;> decide
  obtain ⟨item, hitem⟩ := itemForRow_some h.short hlt log
  have hgiven : (∃ item, (step menu log row).2 = .ok (some item) ∧
      item.accessories = [if log.head ≥ rotateLimit then 3 else 7]) ↔
      item.accessories = [if log.head ≥ rotateLimit then 3 else 7] := by
    constructor
    · rintro ⟨other, hother, hacc⟩
      obtain rfl := Option.some.inj (Except.ok.inj (hitem.symm.trans hother))
      exact hacc
    · intro hacc
      exact ⟨item, hitem, hacc⟩
  rw [hgiven, itemForRow_accessories h.short hitem, hrow]
  cases networkAvailable with
  | false => simp [syslogRow]
  | true => by_cases hsize : rotateLimit ≤ log.head <;> simp [syslogRow, hsize, Nat.not_le.mp]

/-! ## Runs -/

theorem requests_iff {device : Device} {log rest : Syslog} {menu : Menu Datum}
    (h : init device log = .ok (menu, rest)) (requests : List Long) :
    AtEveryStep (step menu) (Marked menu) rest requests ↔ RequestsBelow device log requests := by
  have hbuilt : Built device.networkAvailable menu := ⟨init_layout h⟩
  have hrest : rest = log.drop 3 := by
    obtain ⟨text, hinit⟩ := init_ok device log
    exact ((Prod.mk.inj (Except.ok.inj (hinit.symm.trans h))).2).symm
  have hrun := atEveryStep_observe (P := Marked menu)
    (Q := fun log row => row.toNat = syslogRow device.networkAvailable →
      device.networkAvailable = true ∧ log.head < rotateLimit)
    id (fun log row => if row.toNat = 8 then log.tail else log)
    hbuilt.step_fst hbuilt.marked_iff rest requests
  refine hrun.trans ?_
  unfold RequestsBelow
  refine forall_congr' fun pre => forall_congr' fun row => forall_congr' fun post =>
    imp_congr_right fun _ => ?_
  rw [id, foldl_taken, hrest, Stream'.drop_drop, Stream'.head_drop]

/-- **When the warning is consistent.** Exactly when the two tests of `init`
read sizes on one side of the limit, and every later request of the row of the
log finds the row where case 8 expects it and a size below the limit. -/
theorem warning_consistent_iff (device : Device) (log : Syslog) (requests : List Long) :
    Consistent device log requests ↔ SameSide log ∧ RequestsBelow device log requests := by
  constructor
  · rintro ⟨menu, rest, hinit, hfirst, hsecond, hrun⟩
    exact ⟨(oneSizeDivider_iff hinit).mp ⟨hfirst, hsecond⟩, (requests_iff hinit requests).mp hrun⟩
  · rintro ⟨hside, hbelow⟩
    obtain ⟨text, hinit⟩ := init_ok device log
    obtain ⟨hfirst, hsecond⟩ := (oneSizeDivider_iff hinit).mpr hside
    exact ⟨_, _, hinit, hfirst, hsecond, (requests_iff hinit requests).mpr hbelow⟩

/-- The log is rotated between the two tests of `init`. -/
def rotatedLog : Syslog := fun n => if n < 2 then 60000000 else 0

/-- A rotation gives both dividers; a log that stays large gives two accessories. -/
theorem warning_inconsistent :
    ¬ Consistent (plainDevice true).toDevice rotatedLog [] ∧
      ¬ Consistent (plainDevice true).toDevice (Stream'.const 60000000) [8] := by
  constructor
  · rintro ⟨menu, rest, hinit, hfirst, hsecond, -⟩
    have hside := (oneSizeDivider_iff hinit).mp ⟨hfirst, hsecond⟩
    exact absurd (hside.mp (by decide)) (by decide)
  · rintro ⟨menu, rest, hinit, -, -, hrun⟩
    have hbelow := (requests_iff hinit [8]).mp hrun [] 8 [] rfl rfl
    exact absurd hbelow.2 (by decide)

end ATV2Utils.SyslogWarning
