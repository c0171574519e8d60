import ATV2Utils.ChipID
import ATV2Utils.Foundation
import Mathlib.Data.Stream.Defs

/-! # What the device answers

What the `UIDevice` accessors and the registry answer while a menu is built. A
text accessor answers with what `%@` prints of its result. -/
namespace ATV2Utils.Environment
open ATV2Utils.Foundation ATV2Utils.ChipID ATV2Utils.Lib.Buffer

structure Device where
  networkAvailable : Bool
  totalDiskSpace : String
  freeDiskSpace : String
  freeDiskSpacePct : String
  tempTotalDiskSpace : String
  tempFreeDiskSpace : String
  pctFreeDiskSpace : String
  devTotalDiskSpace : String
  devFreeDiskSpace : String
  cachesSize : String
  cachesSize1 : String
  totalMemory : NSUInteger
  userMemory : NSUInteger
  imhoMemory : NSUInteger
  maxSocketBufferSize : NSUInteger
  serialNumber : Option String
  uniqueChipID : Option (List UInt8)
  platform : String
  platformString : String
  hwmodel : String
  busFrequency : NSUInteger
  cpuFrequency : NSUInteger
  printClockInfo2 : NSUInteger
  systemNumber : String
deriving DecidableEq

/-- A device whose `unique-chip-id` property, if it has one, has a byte at least, so
that the menus that print it can be built. -/
structure DeviceEnvironment extends Device where
  chipID_nonempty : uniqueChipID ≠ some []

/-- What ends the application: an exception that nothing catches, or the read of
a cell that nothing was stored to. -/
inductive Crash where
  | exception (e : NSException)
  | fault (f : Fault)

/-- What `%@` prints of a string that may be nil. -/
def printfObject (object : Option String) : String := object.getD "(null)"

/-- The sizes that successive calls of `logSize` find. -/
abbrev Syslog := Stream' Nat

def logSize (log : Syslog) : Nat × Syslog := (log.head, log.tail)

/-- `ChipID_`, nil without the property. -/
def chipIDOf (encoder : List UInt8 → Except Fault String) (uniqueChipID : Option (List UInt8)) :
    Except Fault (Option String) :=
  match uniqueChipID with
  | none => .ok none
  | some ecid => (encoder ecid).map some

theorem chipIDOf_ok {uniqueChipID : Option (List UInt8)} (h : uniqueChipID ≠ some []) :
    ∃ text, chipIDOf chipIDString uniqueChipID = .ok text := by
  cases uniqueChipID with
  | none => exact ⟨none, rfl⟩
  | some ecid =>
    have hne : ecid ≠ [] := fun hnil => h (congrArg some hnil)
    rw [chipIDOf, chipIDString_eq (List.length_pos_iff.mpr hne)]
    exact ⟨_, rfl⟩

theorem chipIDOf_empty : ∃ f, chipIDOf chipIDString (some []) = .error f := by
  obtain ⟨f, hf⟩ := (chipIDString_faults_iff []).mpr rfl
  exact ⟨f, by rw [chipIDOf, hf]; rfl⟩

/-- A device on which everything but the verdict is fixed. -/
def plainDevice (networkAvailable : Bool) : DeviceEnvironment where
  networkAvailable := networkAvailable
  totalDiskSpace := "8 GB"
  freeDiskSpace := "4 GB"
  freeDiskSpacePct := "50%"
  tempTotalDiskSpace := "1 GB"
  tempFreeDiskSpace := "1 GB"
  pctFreeDiskSpace := "90%"
  devTotalDiskSpace := "1 MB"
  devFreeDiskSpace := "1 MB"
  cachesSize := "12 MB"
  cachesSize1 := "3 MB"
  totalMemory := 256
  userMemory := 200
  imhoMemory := 256
  maxSocketBufferSize := 4
  serialNumber := some "C00"
  uniqueChipID := some [0x0A]
  platform := "AppleTV2,1"
  platformString := "Apple TV 2G"
  hwmodel := "K66AP"
  busFrequency := 100
  cpuFrequency := 1000
  printClockInfo2 := 100
  systemNumber := "1"
  chipID_nonempty := by decide

end ATV2Utils.Environment
