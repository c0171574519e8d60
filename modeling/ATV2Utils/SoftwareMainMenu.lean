import ATV2Utils.Environment
import ATV2Utils.MenuList

/-! # The Software menu

`init` computes a chip ID that no row shows; a row shows `UniqueID_`, whose
assignment is commented out. -/
namespace ATV2Utils.SoftwareMainMenu
open ATV2Utils.Foundation ATV2Utils.MenuList ATV2Utils.Environment ATV2Utils.ChipID

inductive Datum where
  | build | minimumOSVersion | cfBundleVersion | machine
  | uniqueID | deviceType | jailbreak | systemNumber
deriving DecidableEq, Repr

/-- The two keys read of `Info.plist`. -/
structure Info where
  minimumOSVersion : Option String
  cfBundleVersion : Option String

structure Answers where
  uniqueChipID : Option (List UInt8)
  productBuildVersion : Option String
  info : Option Info
  machine : Option String
  systemName : String
  jbName : Option String
  jbVersion : Option String
  systemNumber : String

def rows (a : Answers) (info : Info) (machine : String) : List (Row Datum) :=
  [⟨.build, "Build\t: " ++ printfObject a.productBuildVersion⟩,
   ⟨.minimumOSVersion, "MinimumOSVersion: " ++ printfObject info.minimumOSVersion⟩,
   ⟨.cfBundleVersion, "CFBundleVersion : " ++ printfObject info.cfBundleVersion⟩,
   ⟨.machine, machine⟩,
   ⟨.uniqueID, "UUID iOS5: " ++ printfObject none⟩,
   ⟨.deviceType, "Device type : " ++ a.systemName⟩,
   ⟨.jailbreak, "Jailbreak: " ++ printfObject a.jbName ++ " -" ++ printfObject a.jbVersion⟩,
   ⟨.systemNumber, "systemNumber: " ++ a.systemNumber⟩]

/-- What `init` does with `Info.plist`: nil without it. -/
def initNames (a : Answers) : Except NSException (Option (Menu Datum)) :=
  match a.info with
  | none => .ok none
  | some info =>
    match a.machine with
    -- `stringWithUTF8String:` of a null pointer
    | none => .error .invalidArgumentException
    | some machine => .ok (some ⟨rows a info machine, []⟩)

def init (a : Answers) : Except Crash (Option (Menu Datum)) := do
  let _chipID ← (chipIDOf softwareChipID a.uniqueChipID).mapError Crash.fault
  (initNames a).mapError Crash.exception

/-- The image number in the comment behind each `addObject:`. -/
def imageNumber : Datum → String
  | .build => "3"
  | .minimumOSVersion => "4"
  | .cfBundleVersion => "5"
  | .machine => "6"
  | .uniqueID => "7"
  | .deviceType => "9"
  | .jailbreak => "10"
  | .systemNumber => "12"

def previewControlForItem (item : Long) : Option String :=
  match item.toInt with
  | 0 => some "3"
  | 1 => some "4"
  | 2 => some "5"
  | 3 => some "6"
  | 4 => some "7"
  | 6 => some "8"
  | 7 => some "9"
  | 8 => some "sp"
  | 9 => some "12"
  | 10 => some "13"
  | 11 => some "14"
  | _ => none

inductive Effect where
  | system (command : String)
  | execlp (file : String)
  | newHardwareMainMenu
deriving DecidableEq, Repr

/-- The branches of `itemSelected:`; the second repeats the test of the first. -/
def effectOf (selected : Int) : Option Effect :=
  if selected = 0 then none
  else if selected = 0 then some (.system "sleep 6s")
  else if selected = 1 then some (.system "sleep 6s")
  else if selected = 2 then some (.execlp "ifconfig >>imho.txt")
  else if selected = 3 then some .newHardwareMainMenu
  else if selected = 4 then some (.system "halt")
  else if selected = 10 then some (.system "killall -9 AppleTV")
  else if selected = 5 then some (.system "echo Poweroff")
  else if selected = 6 then some (.system "echo purge")
  else if selected = 7 then some (.system "echo reboot")
  else if selected = 8 then some (.system "echo HALT")
  else none

def itemSelected (names : List String) (selected : Long) :
    Except NSException (Option Effect) := do
  let _currentObject ← objectAtIndex names selected.toNat
  return effectOf selected.toInt

def itemForRow : List String → Long → Except NSException (Option BRMenuItem) :=
  itemForRowWith smallItem

theorem itemSelected_eq {names : List String} {selected : Long}
    (h : selected.toNat < names.length) :
    itemSelected names selected = .ok (effectOf selected.toInt) := by
  rw [itemSelected, objectAtIndex_lt h]
  rfl

theorem itemSelected_raises {names : List String} {selected : Long}
    (h : names.length ≤ selected.toNat) :
    itemSelected names selected = .error (.rangeException selected.toNat names.length) := by
  rw [itemSelected, objectAtIndex_ge h]
  rfl

/-- A row selected without an exception is one of the list. -/
theorem itemSelected_ok {names : List String} {selected : Long} {effect : Option Effect}
    (h : itemSelected names selected = .ok effect) :
    selected.toNat < names.length ∧ effect = effectOf selected.toInt := by
  rcases Nat.lt_or_ge selected.toNat names.length with hlt | hge
  · exact ⟨hlt, (Except.ok.inj ((itemSelected_eq hlt).symm.trans h)).symm⟩
  · exact nomatch (itemSelected_raises hge).symm.trans h

theorem init_rows {a : Answers} {menu : Menu Datum} (h : init a = .ok (some menu)) :
    ∃ info machine, menu = ⟨rows a info machine, []⟩ := by
  have hnames : initNames a = .ok (some menu) := by
    rw [init] at h
    cases hchip : chipIDOf softwareChipID a.uniqueChipID with
    | error f => rw [hchip] at h; cases h
    | ok chipID =>
      rw [hchip] at h
      cases hbuilt : initNames a with
      | error e => rw [hbuilt] at h; cases h
      | ok built => rw [hbuilt] at h; cases h; rfl
  unfold initNames at hnames
  cases hinfo : a.info with
  | none => rw [hinfo] at hnames; exact nomatch hnames
  | some info =>
    cases hmachine : a.machine with
    | none => rw [hinfo, hmachine] at hnames; exact nomatch hnames
    | some machine =>
      rw [hinfo, hmachine] at hnames
      exact ⟨info, machine, (Option.some.inj (Except.ok.inj hnames)).symm⟩

theorem effectOf_kills {selected : Int}
    (h : effectOf selected = some (.system "killall -9 AppleTV")) : selected = 10 := by
  by_contra hten
  rw [effectOf, if_neg hten] at h
  simp [ite_eq_iff] at h

/-- No row of the menu kills the application: the branch stands at row 10, and
`objectAtIndex:` raises from row 8 on. -/
theorem itemSelected_never_kills {a : Answers} {menu : Menu Datum}
    (h : init a = .ok (some menu)) (selected : Long) :
    itemSelected menu.names selected ≠ .ok (some (.system "killall -9 AppleTV")) := by
  obtain ⟨info, machine, rfl⟩ := init_rows h
  intro hkill
  have hlen : (Menu.mk (rows a info machine) []).names.length = 8 := by simp [rows]
  obtain ⟨hlt, heffect⟩ := itemSelected_ok hkill
  have hten := (toInt_eq_iff (k := 10) (by norm_num) selected).mp (effectOf_kills heffect.symm)
  omega

end ATV2Utils.SoftwareMainMenu
