import ATV2Utils.Addresses
import ATV2Utils.Lib.Hex

/-! # What names the device

Two families of `UIDevice (Hardware)`: the processor the Hardware menu shows for
the platform's name, and the link-layer addresses of the two ports that the
Network menu shows. -/
namespace ATV2Utils.DeviceIdentity
open ATV2Utils.Addresses ATV2Utils.Lib.Hex

/-! ## The platform -/

/-- The values of `UIDevicePlatform` that the two methods below name. -/
inductive UIDevicePlatform where
  | unknown
  | iPhoneSimulatoriPhone
  | iPhoneSimulatoriPad
  | appleTV2
  | unknownAppleTV
  | iFPGA
deriving DecidableEq, Repr

def hasSuffix (s suffix : String) : Bool := suffix.toList.isSuffixOf s.toList

/-- `platformType`, with whether the main screen is less than 768 points wide. -/
def platformType (platform : String) (smallerScreen : Bool) : UIDevicePlatform :=
  if platform = "iFPGA" then .iFPGA
  else if hasPrefix platform "AppleTV2" then .appleTV2
  else if hasSuffix platform "86" || platform = "x86_64" then
    if smallerScreen then .iPhoneSimulatoriPhone else .iPhoneSimulatoriPad
  else .unknown

/-- `platformString`. -/
def platformString (platform : String) (smallerScreen : Bool) : String :=
  match platformType platform smallerScreen with
  | .appleTV2 => "Apple A4"
  | .unknownAppleTV => "Unknown Apple TV"
  | .iFPGA => "iFPGA"
  | _ => "Unknown iOS device"

/-- No platform has the type the source keeps for other models of the Apple TV. -/
theorem platformType_ne_unknownAppleTV (platform : String) (smallerScreen : Bool) :
    platformType platform smallerScreen ≠ .unknownAppleTV := by
  unfold platformType
  split_ifs <;> exact nofun

/-- **Only the second Apple TV is known by its name.** The later ones are shown
as an unknown iOS device, whatever their screen. -/
theorem platformString_eq (platform : String) (smallerScreen : Bool) :
    platformString platform smallerScreen =
      if platform = "iFPGA" then "iFPGA"
      else if hasPrefix platform "AppleTV2" then "Apple A4" else "Unknown iOS device" := by
  unfold platformString platformType
  split_ifs <;> rfl

/-! ## Link-layer addresses -/

/-- The six bytes behind `LLADDR`. -/
structure LinkAddress where
  bytes : List UInt8
  length_eq : bytes.length = 6

/-- What the system answers to one call of `macaddress` or `macaddressW`: the index
of an interface, the size of its list, whether there is memory for it, and the
address in the list. -/
structure LinkSystem where
  ifNametoindex : String → Nat
  listSize : Nat → Option Nat
  malloc : Nat → Bool
  list : Nat → Option LinkAddress

/-- The format `%02X-%02X-%02X-%02X-%02X-%02X`. -/
def linkAddressText (address : LinkAddress) : String :=
  "-".intercalate (address.bytes.map fun b => String.ofList (printfX 2 b.toNat))

/-- The body that `macaddress` and `macaddressW` have twice; `none` is NULL. -/
def macaddressOf (interface : String) (system : LinkSystem) : Option String :=
  let index := system.ifNametoindex interface
  if index = 0 then none
  else
    match system.listSize index with
    | none => none
    | some len =>
      if !system.malloc len then none
      else (system.list index).map linkAddressText

def macaddress : LinkSystem → Option String := macaddressOf "en1"

def macaddressW : LinkSystem → Option String := macaddressOf "en0"

/-- The address of an interface, if the call gets to it. -/
def LinkSystem.addressOf (system : LinkSystem) (interface : String) : Option LinkAddress :=
  let index := system.ifNametoindex interface
  if index ≠ 0 ∧ (system.listSize index).any system.malloc then system.list index else none

theorem macaddressOf_eq (interface : String) (system : LinkSystem) :
    macaddressOf interface system = (system.addressOf interface).map linkAddressText := by
  simp only [macaddressOf, LinkSystem.addressOf]
  by_cases hindex : system.ifNametoindex interface = 0
  · simp [hindex]
  · cases hsize : system.listSize (system.ifNametoindex interface) with
    | none => simp [hindex]
    | some len => cases hmalloc : system.malloc len <;> simp [hindex, hmalloc]

/-- Without its hyphens the text is the encoding of the bytes. -/
theorem linkAddressText_digits (address : LinkAddress) :
    (linkAddressText address).toList.filter (fun c => c != '-') = encode address.bytes := by
  have htexts : (address.bytes.map fun b => String.ofList (printfX 2 b.toNat)).map String.toList =
      address.bytes.map byteText := by
    simp [printfX_two]
  rw [linkAddressText, String.toList_intercalate, htexts, show "-".toList = ['-'] from rfl, encode]
  refine filter_separated rfl (fun b c hc => ?_) address.bytes
  obtain ⟨v, hv⟩ := hexValue_of_mem_byteText hc
  exact bne_iff_ne.mpr (ne_of_hexValue hv rfl)

theorem linkAddressText_injective {a b : LinkAddress} (h : linkAddressText a = linkAddressText b) :
    a = b := by
  have hdigits := linkAddressText_digits a
  rw [h, linkAddressText_digits] at hdigits
  cases a
  cases b
  rw [LinkAddress.mk.injEq]
  exact (encode_injective hdigits).symm

/-- **The two rows show one text exactly when the two ports have one address**,
or neither is found; each call is answered for itself. -/
theorem macaddress_eq_macaddressW_iff (system systemW : LinkSystem) :
    macaddress system = macaddressW systemW ↔
      system.addressOf "en1" = systemW.addressOf "en0" := by
  rw [macaddress, macaddressW, macaddressOf_eq, macaddressOf_eq]
  have hinjective : Function.Injective linkAddressText := fun _ _ => linkAddressText_injective
  exact (Option.map_injective hinjective).eq_iff

end ATV2Utils.DeviceIdentity
