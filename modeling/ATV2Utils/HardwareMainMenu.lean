import ATV2Utils.Environment
import ATV2Utils.MenuList

/-! # The Hardware menu

`init` first walks the interfaces as the Network menu does; nothing it finds
there reaches a row. -/
namespace ATV2Utils.HardwareMainMenu
open ATV2Utils.Foundation ATV2Utils.MenuList ATV2Utils.Environment ATV2Utils.ChipID
open ATV2Utils.Lib.Buffer

inductive Datum where
  | serialNumber | chipID
  | platform | processor | model
  | busFrequency | cpuFrequency | clockFrequency
  | cpuSpeed | ethernet | usb | video
  | systemNumber
deriving DecidableEq, Repr

def rows (device : Device) (chipID : Option String) : List (Row Datum) :=
  (if device.networkAvailable then
    [⟨.serialNumber, "S/N\t: " ++ printfObject device.serialNumber⟩] else []) ++
  [⟨.chipID, "Chip ID: " ++ printfObject chipID⟩,
   ⟨.platform, "Platform\t  : " ++ device.platform⟩,
   ⟨.processor, "Processor\t  : " ++ device.platformString⟩,
   ⟨.model, "Model\t\t  : " ++ device.hwmodel⟩,
   ⟨.busFrequency, "Bus freq MHz : " ++ printfD device.busFrequency⟩,
   ⟨.cpuFrequency, "CPU freq     : " ++ printfD device.cpuFrequency⟩,
   ⟨.clockFrequency, "Clock freq hz: " ++ printfU device.printClockInfo2⟩,
   ⟨.cpuSpeed, "CPU speed: 1 GHz"⟩,
   ⟨.ethernet, "Ethernet : 1 (RJ-45)"⟩,
   ⟨.usb, "USB\t\t : 1 (Micro-USB)"⟩,
   ⟨.video, "Video\t : 1 (HDMI)"⟩,
   ⟨.systemNumber, "systemNumber : " ++ device.systemNumber⟩]

def init (device : Device) : Except Fault (Menu Datum) := do
  let chipID ← chipIDOf hardwareChipID device.uniqueChipID
  return ⟨rows device chipID, []⟩

/-- The image number in the comment behind each `addObject:`. -/
def imageNumber : Datum → String
  | .serialNumber => "300"
  | .chipID => "301"
  | .platform => "302"
  | .processor => "303"
  | .model => "304"
  | .busFrequency => "305"
  | .cpuFrequency => "306"
  | .clockFrequency => "307"
  | .cpuSpeed => "308"
  | .ethernet => "309"
  | .usb => "310"
  | .video => "311"
  | .systemNumber => "312"

def previewControlForItem (item : Long) : Option String :=
  match item.toInt with
  | 0 => some "300"
  | 1 => some "301"
  | 2 => some "302"
  | 3 => some "303"
  | 4 => some "304"
  | 5 => some "305"
  | 6 => some "306"
  | 7 => some "307"
  | 8 => some "308"
  | 9 => some "309"
  | 10 => some "310"
  | 11 => some "311"
  | 12 => some "312"
  | _ => none

/-- The command `itemSelected:` passes to `system`. -/
def itemSelected (names : List String) (selected : Long) :
    Except NSException (Option String) := do
  let _currentObject ← objectAtIndex names selected.toNat
  if selected.toInt = 0 then return some "echo reboot" else return none

def itemForRow : List String → Long → Except NSException (Option BRMenuItem) :=
  itemForRowWith smallItem

/-- The one command of the menu. -/
theorem itemSelected_ok {names : List String} {selected : Long} {command : String}
    (h : itemSelected names selected = .ok (some command)) : command = "echo reboot" := by
  rw [itemSelected] at h
  cases hname : objectAtIndex names selected.toNat with
  | error e =>
    rw [hname] at h
    cases h
  | ok name =>
    rw [hname] at h
    by_cases hzero : selected.toInt = 0
    · rw [if_pos hzero] at h
      exact (Option.some.inj (Except.ok.inj h)).symm
    · rw [if_neg hzero] at h
      cases h

/-! ## What `init` builds -/

def layout (networkAvailable : Bool) : List Datum :=
  (if networkAvailable then [.serialNumber] else []) ++
  [.chipID, .platform, .processor, .model, .busFrequency, .cpuFrequency, .clockFrequency,
   .cpuSpeed, .ethernet, .usb, .video, .systemNumber]

theorem rows_layout (device : Device) (chipID : Option String) :
    (rows device chipID).map Row.datum = layout device.networkAvailable := by
  cases h : device.networkAvailable <;> simp [rows, layout, h]

theorem init_ok {device : Device} (h : device.uniqueChipID ≠ some []) :
    ∃ chipID, init device = .ok ⟨rows device chipID, []⟩ := by
  obtain ⟨chipID, htext⟩ := chipIDOf_ok h
  refine ⟨chipID, ?_⟩
  have hchip : chipIDOf hardwareChipID device.uniqueChipID = .ok chipID := htext
  rw [init, hchip]
  rfl

/-- An empty property keeps the menu from being built. -/
theorem init_faults_iff (device : Device) :
    (∃ f, init device = .error f) ↔ device.uniqueChipID = some [] := by
  constructor
  · rintro ⟨f, hfault⟩
    by_contra hne
    obtain ⟨chipID, hinit⟩ := init_ok hne
    exact nomatch hinit.symm.trans hfault
  · intro hempty
    obtain ⟨f, hfault⟩ := chipIDOf_empty
    have hchip : chipIDOf hardwareChipID device.uniqueChipID = .error f := by
      rw [hempty]
      exact hfault
    exact ⟨f, by rw [init, hchip]; rfl⟩

/-- A menu that was built had a byte of the property at least, or no property. -/
theorem chipID_ne_of_init {device : Device} {menu : Menu Datum} (h : init device = .ok menu) :
    device.uniqueChipID ≠ some [] := by
  intro hempty
  obtain ⟨f, hfault⟩ := (init_faults_iff device).mpr hempty
  exact nomatch h.symm.trans hfault

theorem init_layout {device : Device} {menu : Menu Datum} (h : init device = .ok menu) :
    menu.layout = layout device.networkAvailable := by
  obtain ⟨chipID, hinit⟩ := init_ok (chipID_ne_of_init h)
  obtain rfl := Except.ok.inj (hinit.symm.trans h)
  exact rows_layout device chipID

end ATV2Utils.HardwareMainMenu
