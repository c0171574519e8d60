import ATV2Utils.MenuList
import ATV2Utils.Tasks

/-! # The Power menu -/
namespace ATV2Utils.PowerMainMenu
open ATV2Utils.Foundation ATV2Utils.MenuList ATV2Utils.Tasks ATV2Utils.Lib.Handler

def names : List String :=
  ["menuTitleSubtextAttributes 0", "smallMenuTitleTextAttributes 1",
   "menuItemSmallTextAttributes 2", "menuItemBoldTextAttributes 3", "NSLog 4", "NSlog~ 5",
   "menuTitleTextAttributes 6", "setDetailedText 7", "menuItemTextAttributes 8",
   "smallHeightListDividerLabelAttributes 9", "menuItemSmallTextAttributes 10*",
   "Reboot(1) 11", "reboot RB_AUTOBOOT - turn off 12*", "killall -HUP SpringBoard  13",
   "sbreload 14", "reboot(0) 15", "reboot(RB_HALT) 16*", "echo reboot 17",
   "killall system 18", "Halt 19", "screencapture 20", "mdir it_works 21",
   "write logname 22", "sbreload zonder system 23"]

/-- Each text is a datum of its own. -/
def init : Menu String where
  rows := names.map fun name => ⟨name, name⟩
  dividers := [⟨2, "Divider op 2"⟩, ⟨5, "Divider op 5"⟩, ⟨names.length, "onder aan de lijst"⟩]

/-- The switch of `previewControlForItem:` is commented out. -/
def previewControlForItem (_ : Long) : Option String := none

/-- The switch of `itemForRow:`. -/
def powerItem (row : Long) (menuTitle : String) : BRMenuItem :=
  let menuItem := BRMenuItem.new.setText menuTitle .menuItemTextAttributes
  match row.toInt with
  | 0 => menuItem.setText menuTitle .menuTitleSubtextAttributes
  | 1 => menuItem.setText menuTitle .smallMenuTitleTextAttributes
  | 2 => menuItem.setText menuTitle .menuItemSmallTextAttributes
  | 3 => menuItem.setText menuTitle .menuItemBoldTextAttributes
  | 4 => menuItem.setText menuTitle .metadataTitleSubtextAttributes
  | 5 => menuItem.setText menuTitle .dividerLabelAttributes
  | 6 => menuItem.setText "Error, " .menuTitleTextAttributes
  | 7 => menuItem.addAccessoryOfType 7
  | 8 => menuItem.setText menuTitle .menuItemTextAttributes
  | 9 => menuItem.setText menuTitle .smallHeightListDividerLabelAttributes
  | 10 => menuItem.setRightJustifiedText "subText" .menuItemSmallTextAttributes
  | 11 => menuItem.setText "myText" .menuItemSmallTextAttributes
  | 12 => menuItem.addAccessoryOfType 10
  | 13 => menuItem.addAccessoryOfType 25
  | 14 => menuItem.addAccessoryOfType 26
  | 15 => menuItem.addAccessoryOfType 27
  | 16 => menuItem.addAccessoryOfType 28
  | 17 => menuItem.addAccessoryOfType 29
  | 18 => menuItem.addAccessoryOfType 30
  | 19 => menuItem.addAccessoryOfType 31
  | 20 => menuItem.addAccessoryOfType 32
  | 21 => menuItem.addAccessoryOfType 33
  | 99 => menuItem.addAccessoryOfType 34
  | _ => menuItem.setText menuTitle .smallHeightListDividerLabelAttributes

def itemForRow : List String → Long → Except NSException (Option BRMenuItem) :=
  itemForRowWith powerItem

/-! ## Selecting a row -/

/-- `runThisCmd:withArgs:`; what the task prints goes to no one. -/
def runThisCmd (canLaunch : String → Bool) (runString : String) (runArgs : List String) :
    Act Unit :=
  launchNewTask canLaunch runString runArgs

/-- `runForOutput:`; the command it is given is not looked at. -/
def runForOutput (canLaunch : String → Bool) (_command : String) : Act Unit :=
  runThisCmd canLaunch "/bin/bash" ["-c", "mkdir", "it_worksx"]

/-- A task is launched, given another path and launched again. -/
def launchTwice (canLaunch : String → Bool) (launchPath argument : String) : Act Unit := do
  let task ← launchedTaskWithLaunchPath canLaunch launchPath [argument]
  let task ← task.setLaunchPath "~/"
  let _ ← task.launch canLaunch

/-- `itemSelected:` looks no row up. -/
def itemSelected (canLaunch : String → Bool) (selected : Long) : Act Unit :=
  match selected.toInt with
  | 0 => ask (.system "killall -9 AppleTV")
  | 1 => launchTwice canLaunch "/bin" "mkdir it_works1"
  | 2 => launchTwice canLaunch "/bin/bash" "mkdir it_works2"
  | 3 => launchTwice canLaunch "/usr/sbin" "mkdir it_works3"
  | 4 => do
    -- no launch path is ever set
    let task ← NSTask.new.setArguments ["/sbin/reboot"]
    let _ ← task.launch canLaunch
  | 5 => launchTwice canLaunch "/bin/bash" "touch hoi"
  | 6 => ask (.system "halt")
  | 7 => ask (.system "halt")
  | 8 => ask (.system "halt")
  | 9 => ask (.system "halt")
  | 10 => ask (.system "halt")
  | 11 => ask (.reboot 1)
  | 12 => ask (.system "halt")
  | 13 => return
  | 14 => ask (.system "sbreload")
  | 15 => ask (.reboot 0)
  | 16 => return
  | 17 => ask (.system "echo reboot")
  | 18 => ask (.system ("killall " ++ " -9 AppleTV"))
  | 19 => ask (.system "halt")
  | 20 => runForOutput canLaunch "mdir it_tests20"
  | 21 => return
  | 22 => runForOutput canLaunch "mdir it_tests22"
  | 23 => runForOutput canLaunch "system(mdir it_tests23)"
  | _ => return

/-- A second launch raises, whatever the first one did. -/
theorem launchTwice_eq (canLaunch : String → Bool) (launchPath argument : String) :
    launchTwice canLaunch launchPath argument =
      ⟨if canLaunch launchPath then [.spawn launchPath [argument]] else [],
        .error .invalidArgumentException⟩ := by
  rw [launchTwice, launchedTaskWithLaunchPath, launch_eq]
  split <;> rfl

end ATV2Utils.PowerMainMenu
