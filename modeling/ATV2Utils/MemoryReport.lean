import ATV2Utils.CacheSize
import ATV2Utils.KernelInfo
import ATV2Utils.MemoryMainMenu

/-! # What the Memory menu reports

The answers a menu is built from, computed from the file systems, the cache
folders and the kernel, and what follows for the rows of the Memory menu. -/
namespace ATV2Utils.MemoryReport
open ATV2Utils.Foundation ATV2Utils.MenuList ATV2Utils.Environment ATV2Utils.MemoryMainMenu
open ATV2Utils.DiskSpace ATV2Utils.CacheSize ATV2Utils.KernelInfo

/-- Where the accessors look. What the others answer, texts of the framework's
formatters and of the registry, is taken as given. -/
structure System where
  attributesOfFileSystemForPath : String → Option FileSystemAttributes
  homeDirectory : String
  fileManager : FileManager
  sysctl : Sysctl
  others : Device

def System.device (system : System) : Device :=
  { system.others with
    totalDiskSpace := totalDiskSpace system.attributesOfFileSystemForPath system.homeDirectory
    freeDiskSpace := freeDiskSpace system.attributesOfFileSystemForPath system.homeDirectory
    tempTotalDiskSpace := tempTotalDiskSpace system.attributesOfFileSystemForPath
    tempFreeDiskSpace := tempFreeDiskSpace system.attributesOfFileSystemForPath
    devTotalDiskSpace := devTotalDiskSpace system.attributesOfFileSystemForPath
    devFreeDiskSpace := devFreeDiskSpace system.attributesOfFileSystemForPath
    cachesSize := cachesSize system.fileManager
    cachesSize1 := cachesSize1 system.fileManager
    totalMemory := totalMemory system.sysctl
    userMemory := userMemory system.sysctl
    imhoMemory := imhoMemory system.sysctl
    maxSocketBufferSize := maxSocketBufferSize system.sysctl
    busFrequency := busFrequency system.sysctl
    cpuFrequency := cpuFrequency system.sysctl }

/-- No part exceeds its whole. -/
structure System.Consistent (system : System) : Prop where
  free_le : ∀ path a, system.attributesOfFileSystemForPath path = some a →
    a.fileSystemFreeSize ≤ a.fileSystemSize
  user_le : system.sysctl ctlHW hwUsermem ≤ system.sysctl ctlHW hwPhysmem

/-- Two rows with numbers in this order, the second one there or not. -/
def Pair (menu : Menu Datum) (part whole : Datum) (partLabel wholeLabel unit : String)
    (present : Bool) : Prop :=
  ∃ low high, Ordered low high unit ∧ menu.shown part = [partLabel ++ low] ∧
    menu.shown whole = if present then [wholeLabel ++ high] else []

variable {system : System}

theorem pair_system (device : Device) (syslogSize : String) (dividers : List Divider)
    (h : Ordered device.freeDiskSpace device.totalDiskSpace "GB") :
    Pair ⟨rows device syslogSize, dividers⟩ .systemFree .systemTotal
      "System Free\t\t: " "System Total\t\t: " "GB" device.networkAvailable := by
  refine ⟨_, _, h, ?_, ?_⟩ <;> cases hnetwork : device.networkAvailable <;>
    simp [Menu.shown, rows, hnetwork]

theorem pair_user (device : Device) (syslogSize : String) (dividers : List Divider)
    (h : Ordered device.tempFreeDiskSpace device.tempTotalDiskSpace "MB") :
    Pair ⟨rows device syslogSize, dividers⟩ .userFree .userTotal
      "User free : " "User total: " "MB" true := by
  refine ⟨_, _, h, ?_, ?_⟩ <;> cases hnetwork : device.networkAvailable <;>
    simp [Menu.shown, rows, hnetwork]

theorem pair_devfs (device : Device) (syslogSize : String) (dividers : List Divider)
    (h : Ordered device.devFreeDiskSpace device.devTotalDiskSpace "KB") :
    Pair ⟨rows device syslogSize, dividers⟩ .devfsFree .devfsTotal
      "Free  devfs\t\t: " "Total devfs\t\t: " "KB" true := by
  refine ⟨_, _, h, ?_, ?_⟩ <;> cases hnetwork : device.networkAvailable <;>
    simp [Menu.shown, rows, hnetwork]

/-- A number of megabytes is printed without a sign. -/
theorem printfD_of_lt {n : NSUInteger} (h : n.toNat < 2 ^ 31) : printfD n = toString n.toNat := by
  have hint : n.toInt = n.toNat := BitVec.toInt_eq_toNat_of_lt (by omega)
  rw [printfD, hint]
  rfl

/-- The rows of the memory, whatever the numbers are. -/
theorem shown_memory (device : Device) (syslogSize : String) (dividers : List Divider) :
    Menu.shown ⟨rows device syslogSize, dividers⟩ .maximumRAM =
      ["Maximum RAM in MB\t: " ++ printfD device.totalMemory] ∧
    Menu.shown ⟨rows device syslogSize, dividers⟩ .freeUserRAM =
      ["Free User RAM in MB: " ++ printfD device.userMemory] := by
  constructor <;> cases hnetwork : device.networkAvailable <;> simp [Menu.shown, rows, hnetwork]

/-- **The Memory menu shows no part larger than its whole**: free space and space
of the three file systems, and the memory of the user and of the machine, which
are rounded in different ways. -/
theorem memoryMenu_consistent (h : system.Consistent) (log : Syslog) :
    ∃ menu rest, init system.device log = .ok (menu, rest) ∧
      Pair menu .systemFree .systemTotal "System Free\t\t: " "System Total\t\t: " "GB"
        system.others.networkAvailable ∧
      Pair menu .userFree .userTotal "User free : " "User total: " "MB" true ∧
      Pair menu .devfsFree .devfsTotal "Free  devfs\t\t: " "Total devfs\t\t: " "KB" true ∧
      ∃ user total : ℕ, user ≤ total ∧
        menu.shown .freeUserRAM = ["Free User RAM in MB: " ++ toString user] ∧
        menu.shown .maximumRAM = ["Maximum RAM in MB\t: " ++ toString total] := by
  obtain ⟨syslogSize, hinit⟩ := init_ok system.device log
  obtain ⟨hsystem, huser, _, hdevfs⟩ := freeDiskSpace_ordered system.homeDirectory h.free_le
  have hmemory : userMemory system.sysctl ≤ totalMemory system.sysctl :=
    userMemory_le_totalMemory h.user_le
  have htotal := totalMemory_lt system.sysctl
  have hnat : (userMemory system.sysctl).toNat ≤ (totalMemory system.sysctl).toNat := hmemory
  obtain ⟨hmaximum, hfree⟩ := shown_memory system.device syslogSize
    (dividers (log.get 1) (log.get 2))
  refine ⟨_, _, hinit, pair_system _ _ _ hsystem, pair_user _ _ _ huser, pair_devfs _ _ _ hdevfs,
    (userMemory system.sysctl).toNat, (totalMemory system.sysctl).toNat, hnat, ?_, ?_⟩
  · rw [hfree, ← printfD_of_lt (by omega)]
    rfl
  · rw [hmaximum, ← printfD_of_lt htotal]
    rfl

/-- File systems of two gigabytes, half full, and 256 MB of memory. -/
def halfFull : System where
  attributesOfFileSystemForPath _ := some ⟨2147483648, 1073741824⟩
  homeDirectory := "/private/var/mobile"
  fileManager := uniform ["film"] 33554432
  sysctl _ _ := 268435456
  others := (plainDevice true).toDevice

theorem memoryMenu_consistent_halfFull :
    ∃ menu rest, init halfFull.device (Stream'.const 0) = .ok (menu, rest) ∧
      Pair menu .systemFree .systemTotal "System Free\t\t: " "System Total\t\t: " "GB"
        halfFull.others.networkAvailable ∧
      Pair menu .userFree .userTotal "User free : " "User total: " "MB" true ∧
      Pair menu .devfsFree .devfsTotal "Free  devfs\t\t: " "Total devfs\t\t: " "KB" true ∧
      ∃ user total : ℕ, user ≤ total ∧
        menu.shown .freeUserRAM = ["Free User RAM in MB: " ++ toString user] ∧
        menu.shown .maximumRAM = ["Maximum RAM in MB\t: " ++ toString total] := by
  refine memoryMenu_consistent ⟨?_, by decide⟩ _
  intro _ a ha
  cases ha
  decide

end ATV2Utils.MemoryReport
