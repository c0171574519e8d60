import ATV2Utils.Environment
import ATV2Utils.MenuList
import ATV2Utils.Tasks

/-! # The Log menu -/
namespace ATV2Utils.LogMainMenu
open ATV2Utils.Foundation ATV2Utils.MenuList ATV2Utils.Environment ATV2Utils.Tasks
open ATV2Utils.Lib.Handler

inductive Datum where
  | accountName | accountID | groupName | groupID
deriving DecidableEq, Repr

/-- The attributes of `/var/log/syslog` that the rows show. -/
structure Attributes where
  fileOwnerAccountName : Option String
  fileOwnerAccountID : Option String
  fileGroupOwnerAccountName : Option String
  fileGroupOwnerAccountID : Option String
  displayName : String

def init (attr : Attributes) : Menu Datum where
  rows :=
    [⟨.accountName, "Account file: " ++ printfObject attr.fileOwnerAccountName⟩,
     ⟨.accountID, "Account file: " ++ printfObject attr.fileOwnerAccountID⟩,
     ⟨.groupName, "account group name: " ++ printfObject attr.fileGroupOwnerAccountName⟩,
     ⟨.groupID, "account group ID  : " ++ printfObject attr.fileGroupOwnerAccountID⟩]
  dividers := [⟨2, "file : " ++ attr.displayName⟩, ⟨0, "Divider op 0"⟩]

def previewControlForItem (item : Long) : Option String :=
  match item.toInt with
  | 0 => some "spec_raspberrypi_png_128_outline_transp_by_durio-d4mnble"
  | 1 => some "301"
  | 2 => some "302"
  | 3 => some "303"
  | 4 => some "304"
  | _ => none

/-- The switch of `itemForRow:` has an empty default. -/
def logItem (_ : Long) (menuTitle : String) : BRMenuItem :=
  BRMenuItem.new.setText menuTitle .menuItemTextAttributes

def itemForRow : List String → Long → Except NSException (Option BRMenuItem) :=
  itemForRowWith logItem

/-! ## Selecting a row -/

/-- What `changePermissions:` and `changeOwner:` have in common. -/
def changeFile (canLaunch : String → Bool) (launchPath change onFile : String) (isRecursive : Bool) :
    Act Unit :=
  let args := (if isRecursive then ["-R"] else []) ++ [change, onFile]
  launchNewTask canLaunch launchPath args

def changePermissions (canLaunch : String → Bool) (perms onFile : String) (isRecursive : Bool) :
    Act Unit :=
  changeFile canLaunch "/bin/chmod" perms onFile isRecursive

def changeOwner (canLaunch : String → Bool) (theOwner onFile : String) (isRecursive : Bool) :
    Act Unit :=
  changeFile canLaunch "/usr/sbin/chown" theOwner onFile isRecursive

def itemSelected (canLaunch : String → Bool) (names : List String) (selected : Long) : Act Unit := do
  let _currentObject ← silently (objectAtIndex names selected.toNat)
  match selected.toInt with
  | 0 => launchNewTask canLaunch "/usr/bin/openssl" ["yourScript.sh"]
  | 1 => ask (.writeToFile "/private/var/root/sample1.txt" "Sample text")
  | 2 => changeOwner canLaunch "root:staff" "/var/log/test.mho" true
  | 3 => changePermissions canLaunch "+x" "/var/log/test.mho" true
  -- `setArguments:` is given nil
  | 4 => launchNewTask canLaunch "/bin/chmod +x /var/log/test.mho" []
  | 5 => ask (.system "/bin/chmod +x /var/log/test.mho")
  | _ => return

end ATV2Utils.LogMainMenu
