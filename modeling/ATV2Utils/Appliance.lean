import ATV2Utils.LogMainMenu
import ATV2Utils.MenuLayout
import ATV2Utils.PowerMainMenu
import ATV2Utils.SoftwareMainMenu

/-! # The appliance

A session of the application: categories are opened, each building its menu from
what the device answers then, and the reachability calls of other parts come in
between. All of them share the flags variable, so whether a menu fits the tables
indexed by row is decided by the last retrieval that succeeded. -/
namespace ATV2Utils.Appliance
open ATV2Utils.Foundation ATV2Utils.MenuList ATV2Utils.Environment ATV2Utils.MenuLayout
open ATV2Utils.Reachability ATV2Utils.Lib.Machine ATV2Utils.Lib.Buffer

/-! ## Categories -/

def HW_ID : String := "ATV2 Utils by MACasuba"
def SOFTWARE_ID : String := "Software info"
def HARDWARE_ID : String := "Hardware info"
def NETWORK_ID : String := "Network info"
def MEMORY_ID : String := "Memory info"
def POWER_ID : String := "Power info"
def LOG_ID : String := "Log info"

structure BRApplianceCategory where
  name : String
  identifier : String
  preferredOrder : Nat
deriving DecidableEq, Repr

def applianceCategories : List BRApplianceCategory :=
  [⟨"About", HW_ID, 0⟩,
   ⟨"Software info", SOFTWARE_ID, 1⟩,
   ⟨"Hardware info", HARDWARE_ID, 2⟩,
   ⟨"Network info", NETWORK_ID, 3⟩,
   ⟨"Memory info", MEMORY_ID, 4⟩,
   ⟨"Power info", POWER_ID, 5⟩,
   ⟨"Log info", LOG_ID, 6⟩]

/-- What the device answers while a category is opened. -/
structure Answers where
  getFlags : GetFlags
  device : Device
  log : Syslog
  network : NetworkMainMenu.Answers
  software : SoftwareMainMenu.Answers
  attributes : LogMainMenu.Attributes

/-- The device as an `init` finds it that asks `networkAvailable`. -/
def Answers.refreshed (a : Answers) (g : Globals) : Device :=
  { a.device with networkAvailable := (networkAvailable g a.getFlags).2 }

/-- A controller, with what its `init` gave. -/
inductive Controller where
  | alert (titled primaryText secondaryText : String)
  | software (menu : Except Crash (Option (Menu SoftwareMainMenu.Datum)))
  | hardware (menu : Except Fault (Menu HardwareMainMenu.Datum))
  | network (menu : Menu NetworkMainMenu.Datum)
  | memory (menu : Except NSException (Menu MemoryMainMenu.Datum × Syslog))
  | power (menu : Menu String)
  | log (menu : Menu LogMainMenu.Datum)

/-- `controllerForIdentifier:args:`. Three of the menus ask `networkAvailable`. -/
def controllerForIdentifier (g : Globals) (a : Answers) (identifier : String) :
    Globals × Option Controller :=
  let refreshed := networkAvailable g a.getFlags
  let device := a.refreshed g
  if identifier = HW_ID then
    (g, some (.alert "About & Credits" "ATV2_Utils-8-BT" "created by MACasuba - www.iMHo.nu"))
  else if identifier = SOFTWARE_ID then (g, some (.software (SoftwareMainMenu.init a.software)))
  else if identifier = HARDWARE_ID then
    (refreshed.1, some (.hardware (HardwareMainMenu.init device)))
  else if identifier = NETWORK_ID then
    (refreshed.1,
      some (.network (NetworkMainMenu.init { a.network with networkAvailable := refreshed.2 })))
  else if identifier = MEMORY_ID then
    (refreshed.1, some (.memory (MemoryMainMenu.init device a.log)))
  else if identifier = POWER_ID then (g, some (.power PowerMainMenu.init))
  else if identifier = LOG_ID then (g, some (.log (LogMainMenu.init a.attributes)))
  else (g, none)

/-- Every category of the list opens a controller, in any state. -/
theorem controllerForIdentifier_category {category : BRApplianceCategory}
    (h : category ∈ applianceCategories) (g : Globals) (a : Answers) :
    ∃ controller, (controllerForIdentifier g a category.identifier).2 = some controller := by
  simp only [applianceCategories, List.mem_cons, List.not_mem_nil, or_false] at h
  rcases h with rfl | rfl | rfl | rfl | rfl | rfl | rfl <;> exact ⟨_, rfl⟩

/-! ## Sessions -/

inductive Request where
  | openCategory (identifier : String) (answers : Answers)
  | call (c : Call)

def step (g : Globals) : Request → Globals × Option Controller
  | .openCategory identifier answers => controllerForIdentifier g answers identifier
  | .call c => ((Reachability.step g c).1, none)

/-- The identifiers whose menus ask `networkAvailable`. -/
def AsksNetwork (identifier : String) : Prop :=
  identifier = HARDWARE_ID ∨ identifier = NETWORK_ID ∨ identifier = MEMORY_ID

instance (identifier : String) : Decidable (AsksNetwork identifier) :=
  inferInstanceAs (Decidable (_ ∨ _ ∨ _))

/-- What a request does to the flags variable. -/
def Request.refresh (flags : Flags) : Request → Flags
  | .openCategory identifier answers =>
    if AsksNetwork identifier then answers.getFlags.getD flags else flags
  | .call c => c.refresh flags

/-- The flags of the last successful retrieval of a session, 0 before the first. -/
def lastRetrieved (session : List Request) : Flags := session.foldl Request.refresh 0

theorem controllerForIdentifier_connectionFlags (g : Globals) (a : Answers) (identifier : String) :
    (controllerForIdentifier g a identifier).1.connectionFlags =
      (Request.openCategory identifier a).refresh g.connectionFlags := by
  have hrefreshed : (networkAvailable g a.getFlags).1.connectionFlags =
      a.getFlags.getD g.connectionFlags := by simp
  unfold controllerForIdentifier Request.refresh AsksNetwork
  split_ifs with hhw hsoftware hhardware hnetwork hmemory <;>
    simp_all [HW_ID, SOFTWARE_ID, HARDWARE_ID, NETWORK_ID, MEMORY_ID, POWER_ID, LOG_ID]

theorem step_connectionFlags (g : Globals) (request : Request) :
    (step g request).1.connectionFlags = request.refresh g.connectionFlags := by
  cases request with
  | openCategory identifier answers =>
    exact controllerForIdentifier_connectionFlags g answers identifier
  | call c => exact Reachability.step_connectionFlags g c

variable {g : Globals} {a : Answers} {identifier : String}

end ATV2Utils.Appliance
