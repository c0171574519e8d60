import ATV2Utils.HardwareMainMenu
import ATV2Utils.MemoryMainMenu
import ATV2Utils.NetworkMainMenu
import ATV2Utils.SoftwareMainMenu

/-! # Layouts and the tables indexed by row

`MemoryMainMenu` and `HardwareMainMenu` add their first row only when
`networkAvailable` says yes, and select, decorate and illustrate rows by fixed
numbers. A menu is aligned when those numbers mean the rows they were written
for. Two environments are compared: their layouts agree when their verdicts do,
and with the tables only the full layout agrees. -/
namespace ATV2Utils.MenuLayout
open ATV2Utils.Foundation ATV2Utils.MenuList ATV2Utils.Environment

/-! ## The Memory menu -/
section Memory
open ATV2Utils.MemoryMainMenu

/-- The datum the switch of `previewControlForItem:` assumes at a row. -/
def previewAssumes (item : Long) : Option Datum := (previewCase item).bind Prod.fst

structure MemoryAligned (menu : Menu Datum) : Prop where
  selection : ∀ row, itemSelected menu.names row = .ok (some .logMainMenu) ↔
    menu.datumAt row = some .syslogSize
  decoration : ∀ row log, (∃ item, (itemForRow menu.names row log).1 = .ok (some item) ∧
    item.accessories ≠ []) ↔ menu.datumAt row = some .syslogSize
  logImage : ∀ row, previewControlForItem row = some "108" ↔
    menu.datumAt row = some .syslogSize
  preview : ∀ row datum, menu.datumAt row = some datum → previewAssumes row = some datum

/-- The menus of the two environments have one layout and fit the tables. -/
structure MemoryIndependent (e₁ e₂ : Device) (log₁ log₂ : Syslog) : Prop where
  built : ∃ menu₁ menu₂ rest₁ rest₂, init e₁ log₁ = .ok (menu₁, rest₁) ∧
    init e₂ log₂ = .ok (menu₂, rest₂) ∧ menu₁.layout = menu₂.layout ∧
    MemoryAligned menu₁ ∧ MemoryAligned menu₂

theorem layout_inj {b₁ b₂ : Bool} (h : layout b₁ = layout b₂) : b₁ = b₂ := by
  have hlen := congrArg List.length h
  cases b₁ <;> cases b₂ <;> first | rfl | simp [layout] at hlen

theorem full_previewAssumes {row : Long} (h : row.toNat < 15) :
    previewAssumes row = (layout true)[row.toNat]? :=
  forall_row_lt (P := fun row => previewAssumes row = (layout true)[row.toNat]?) 15
    (by decide) row h

theorem previewControlForItem_log_iff (row : Long) :
    previewControlForItem row = some "108" ↔ row.toNat = 8 := by
  rw [← toInt_eq_iff (by norm_num), previewControlForItem, previewCase]
  split <;> simp_all

theorem memoryAligned_of_full {menu : Menu Datum} (h : menu.layout = layout true) :
    MemoryAligned menu := by
  have hlen : menu.names.length = 15 := by
    rw [Menu.names_length, ← Menu.layout_length, h]
    rfl
  have hshort : menu.names.length < 2 ^ 32 := by omega
  have hdatum : ∀ row, menu.datumAt row = some .syslogSize ↔ row.toNat = 8 := by
    intro row
    rw [Menu.datumAt, h, layout_syslogSize_iff]
    rfl
  refine ⟨fun row => ?_, fun row log => ?_, fun row => ?_, fun row datum hrow => ?_⟩
  · rw [hdatum]
    rcases Nat.lt_or_ge row.toNat menu.names.length with hlt | hge
    · rw [itemSelected_eq hlt]
      by_cases height : row.toNat = 8 <;> simp [height]
    · rw [itemSelected_raises hge]
      exact ⟨nofun, fun height => by omega⟩
  · rw [hdatum]
    constructor
    · rintro ⟨item, hitem, hne⟩
      by_contra height
      rw [itemForRow_accessories hshort hitem, if_neg height] at hne
      exact hne rfl
    · intro height
      have hlt : row.toNat < menu.names.length := by omega
      obtain ⟨item, hitem⟩ := itemForRow_some hshort hlt log
      refine ⟨item, hitem, ?_⟩
      rw [itemForRow_accessories hshort hitem, if_pos height]
      simp
  · rw [hdatum, previewControlForItem_log_iff]
  · rw [Menu.datumAt, h] at hrow
    rw [full_previewAssumes (List.getElem?_eq_some_iff.mp hrow).1, hrow]

/-- Without its first row the menu opens the log from the row of the rentals. -/
theorem not_memoryAligned_of_short {menu : Menu Datum} (h : menu.layout = layout false) :
    ¬ MemoryAligned menu := by
  intro haligned
  have hlen : menu.names.length = 14 := by
    rw [Menu.names_length, ← Menu.layout_length, h]
    rfl
  have height : (8 : Long).toNat < menu.names.length := by
    rw [hlen]
    decide
  have hselected : itemSelected menu.names 8 = .ok (some .logMainMenu) := itemSelected_eq height
  have hdatum := (haligned.selection 8).mp hselected
  rw [Menu.datumAt, h] at hdatum
  exact absurd hdatum (by decide)

theorem memoryAligned_iff {device : Device} {log rest : Syslog} {menu : Menu Datum}
    (h : init device log = .ok (menu, rest)) :
    MemoryAligned menu ↔ device.networkAvailable = true := by
  have hlayout := init_layout h
  cases hnet : device.networkAvailable with
  | true =>
    rw [hnet] at hlayout
    exact ⟨fun _ => rfl, fun _ => memoryAligned_of_full hlayout⟩
  | false =>
    rw [hnet] at hlayout
    exact ⟨fun ha => absurd ha (not_memoryAligned_of_short hlayout), nofun⟩

theorem memoryIndependent_iff (e₁ e₂ : Device) (log₁ log₂ : Syslog) :
    MemoryIndependent e₁ e₂ log₁ log₂ ↔
      e₁.networkAvailable = true ∧ e₂.networkAvailable = true := by
  constructor
  · rintro ⟨menu₁, menu₂, rest₁, rest₂, hinit₁, hinit₂, -, ha₁, ha₂⟩
    exact ⟨(memoryAligned_iff hinit₁).mp ha₁, (memoryAligned_iff hinit₂).mp ha₂⟩
  · rintro ⟨hnet₁, hnet₂⟩
    obtain ⟨text₁, hinit₁⟩ := init_ok e₁ log₁
    obtain ⟨text₂, hinit₂⟩ := init_ok e₂ log₂
    refine ⟨_, _, _, _, hinit₁, hinit₂, ?_, (memoryAligned_iff hinit₁).mpr hnet₁,
      (memoryAligned_iff hinit₂).mpr hnet₂⟩
    rw [init_layout hinit₁, init_layout hinit₂, hnet₁, hnet₂]

/-- The layouts alone agree when the verdicts agree, whatever else differs. -/
theorem memory_layout_agrees_iff {e₁ e₂ : Device} {log₁ log₂ rest₁ rest₂ : Syslog}
    {menu₁ menu₂ : Menu Datum} (h₁ : init e₁ log₁ = .ok (menu₁, rest₁))
    (h₂ : init e₂ log₂ = .ok (menu₂, rest₂)) :
    menu₁.layout = menu₂.layout ↔ e₁.networkAvailable = e₂.networkAvailable := by
  rw [init_layout h₁, init_layout h₂]
  exact ⟨layout_inj, congrArg layout⟩

end Memory

/-! ## The Hardware menu -/
section Hardware
open ATV2Utils.HardwareMainMenu

/-- Every row is illustrated by the image its `addObject:` is numbered with. -/
def HardwareAligned (menu : Menu Datum) : Prop :=
  ∀ row datum, menu.datumAt row = some datum →
    previewControlForItem row = some (imageNumber datum)

structure HardwareIndependent (e₁ e₂ : Device) : Prop where
  built : ∃ menu₁ menu₂, init e₁ = .ok menu₁ ∧ init e₂ = .ok menu₂ ∧
    menu₁.layout = menu₂.layout ∧ HardwareAligned menu₁ ∧ HardwareAligned menu₂

theorem full_imageNumber {row : Long} (h : row.toNat < 13) :
    previewControlForItem row = (layout true)[row.toNat]?.map imageNumber :=
  forall_row_lt (P := fun row => previewControlForItem row =
    (layout true)[row.toNat]?.map imageNumber) 13 (by decide) row h

theorem hardwareAligned_iff {device : Device} {menu : Menu Datum} (h : init device = .ok menu) :
    HardwareAligned menu ↔ device.networkAvailable = true := by
  have hlayout := init_layout h
  cases hnet : device.networkAvailable with
  | true =>
    rw [hnet] at hlayout
    refine ⟨fun _ => rfl, fun _ row datum hrow => ?_⟩
    rw [Menu.datumAt, hlayout] at hrow
    rw [full_imageNumber (List.getElem?_eq_some_iff.mp hrow).1, hrow]
    rfl
  | false =>
    rw [hnet] at hlayout
    refine ⟨fun ha => ?_, nofun⟩
    -- the chip ID has moved up to the row of the serial number
    have himage := ha 0 .chipID (by rw [Menu.datumAt, hlayout]; rfl)
    exact absurd himage (by decide)

theorem hardwareIndependent_iff (e₁ e₂ : DeviceEnvironment) :
    HardwareIndependent e₁.toDevice e₂.toDevice ↔
      e₁.networkAvailable = true ∧ e₂.networkAvailable = true := by
  constructor
  · rintro ⟨menu₁, menu₂, hinit₁, hinit₂, -, ha₁, ha₂⟩
    exact ⟨(hardwareAligned_iff hinit₁).mp ha₁, (hardwareAligned_iff hinit₂).mp ha₂⟩
  · rintro ⟨hnet₁, hnet₂⟩
    obtain ⟨chipID₁, hinit₁⟩ := init_ok e₁.chipID_nonempty
    obtain ⟨chipID₂, hinit₂⟩ := init_ok e₂.chipID_nonempty
    refine ⟨_, _, hinit₁, hinit₂, ?_, (hardwareAligned_iff hinit₁).mpr hnet₁,
      (hardwareAligned_iff hinit₂).mpr hnet₂⟩
    rw [init_layout hinit₁, init_layout hinit₂, hnet₁, hnet₂]

end Hardware

/-- **When the layouts do not depend on the environment** and fit the tables
indexed by row: exactly when both environments have a network. -/
theorem layouts_independent_iff (e₁ e₂ : DeviceEnvironment) (log₁ log₂ : Syslog) :
    MemoryIndependent e₁.toDevice e₂.toDevice log₁ log₂ ∧
        HardwareIndependent e₁.toDevice e₂.toDevice ↔
      e₁.networkAvailable = true ∧ e₂.networkAvailable = true := by
  rw [memoryIndependent_iff, hardwareIndependent_iff, and_self_iff]

/-- Without a network, row 8 is the rentals, and selecting it opens the log. -/
theorem layouts_depend_disconnected :
    ¬ (MemoryIndependent (plainDevice true).toDevice (plainDevice false).toDevice
        (Stream'.const 1) (Stream'.const 1) ∧
      HardwareIndependent (plainDevice true).toDevice (plainDevice false).toDevice) := by
  rintro ⟨hmemory, -⟩
  exact absurd ((memoryIndependent_iff _ _ _ _).mp hmemory).2 (by decide)

/-! ## The Network menu -/
section Network
open ATV2Utils.NetworkMainMenu

/-- Two rows were added without moving the images: connected, the first four
rows have the image they are numbered with, and the others do not. -/
theorem network_image_iff {a : Answers} (h : a.networkAvailable = true) {row : Long} {datum : Datum}
    (hrow : (init a).datumAt row = some datum) :
    previewControlForItem row = imageNumber datum ↔ row.toNat < 4 := by
  have hlayout : (init a).layout = [.uptime, .now, .hostname, .localHostName, .ispName, .lanPort,
      .lanID, .lanIDWifi, .appleTVsIP, .googlesIP, .ispsIP, .ispsIP2, .interfaceIP] := by
    simp [init, rows, Menu.layout, h]
  rw [Menu.datumAt, hlayout] at hrow
  have hlt : row.toNat < 13 := (List.getElem?_eq_some_iff.mp hrow).1
  have himage := forall_row_lt (P := fun row => previewControlForItem row =
    ([.uptime, .now, .hostname, .localHostName, .ispName, .lanPort, .lanID, .lanIDWifi,
      .appleTVsIP, .googlesIP, .ispsIP, .ispsIP2, .interfaceIP] : List Datum)[row.toNat]?.bind
      imageNumber ↔ row.toNat < 4) 13 (by decide) row hlt
  rwa [hrow] at himage

end Network

/-! ## The Software menu -/
section Software
open ATV2Utils.SoftwareMainMenu

/-- The row of the deprecated UDID is commented out, and its image is not: the
first five rows have the image they are numbered with, and the others do not. -/
theorem software_image_iff {a : Answers} {menu : Menu Datum} (h : init a = .ok (some menu))
    {row : Long} {datum : Datum} (hrow : menu.datumAt row = some datum) :
    previewControlForItem row = some (imageNumber datum) ↔ row.toNat < 5 := by
  obtain ⟨info, machine, rfl⟩ := init_rows h
  have hlayout : (Menu.mk (rows a info machine) []).layout = [.build, .minimumOSVersion,
      .cfBundleVersion, .machine, .uniqueID, .deviceType, .jailbreak, .systemNumber] := rfl
  rw [Menu.datumAt, hlayout] at hrow
  have hlt : row.toNat < 8 := (List.getElem?_eq_some_iff.mp hrow).1
  have himage := forall_row_lt (P := fun row => previewControlForItem row =
    ([.build, .minimumOSVersion, .cfBundleVersion, .machine, .uniqueID, .deviceType, .jailbreak,
      .systemNumber] : List Datum)[row.toNat]?.map imageNumber ↔ row.toNat < 5) 8
    (by decide) row hlt
  rwa [hrow] at himage

end Software

end ATV2Utils.MenuLayout
