import ATV2Utils.Lib.Scanf
import Mathlib.Data.List.TakeWhile

/-! # Bluetooth addresses

`BTDevice` writes an address as six lower-case bytes between colons, and reads it
back with colons, hyphens or nothing between the digits. The text is also the key
under which `BTstackManager` keeps what it knows of a device. -/
namespace ATV2Utils.BTDevice
open ATV2Utils.Lib.Hex ATV2Utils.Lib.Scanf

/-- `bd_addr_t`. -/
structure BdAddr where
  bytes : List UInt8
  length_eq : bytes.length = 6
deriving DecidableEq

/-- `stringForAddress:`, by the format `%02x:%02x:%02x:%02x:%02x:%02x`. -/
def stringForAddress (address : BdAddr) : String :=
  ":".intercalate (address.bytes.map fun b => String.ofList (printfx 2 b.toNat))

/-- `stringByReplacingOccurrencesOfString:withString:` of one character by nothing.
The search is not literal: with a mark that combines with it behind it, the
character is another one. -/
def removing (combining : Char → Bool) (separator : Char) : List Char → List Char
  | [] => []
  | c :: rest =>
    if c = separator ∧ rest.head?.any combining = false then removing combining separator rest
    else c :: removing combining separator rest

/-- The two replacements at the head of `address:fromString:`. -/
def withoutSeparators (combining : Char → Bool) (addressString : String) : List Char :=
  removing combining '-' (removing combining ':' addressString.toList)

/-- `length` of an `NSString`: UTF-16 units. -/
def utf16Length (text : List Char) : Nat :=
  (text.map fun c => if c.toNat < 0x10000 then 1 else 2).sum

/-- What a C function sees of the text: the part before a null character. -/
def cString (text : List Char) : List Char := text.takeWhile fun c => c != '\x00'

/-- `address:fromString:`: the address after the call, and the result. -/
def addressFromString (combining : Char → Bool) (address : BdAddr) (addressString : String) :
    BdAddr × Bool :=
  let addressString := withoutSeparators combining addressString
  if utf16Length addressString ≠ 12 then (address, false)
  else
    let buffer := scanMany scanHex2 6 (cString addressString)
    if h : buffer.length = 6 then
      (⟨buffer.map UInt8.ofNat, by rw [List.length_map, h]⟩, true)
    else (address, false)

/-! ## Reading -/
section Reading
variable {combining : Char → Bool}

theorem mem_of_mem_removing {separator c : Char} {text : List Char}
    (h : c ∈ removing combining separator text) : c ∈ text := by
  induction text with
  | nil => exact h
  | cons d rest ih =>
    rw [removing] at h
    split_ifs at h
    · exact List.mem_cons_of_mem d (ih h)
    · rcases List.mem_cons.mp h with rfl | hrest
      · exact List.mem_cons_self
      · exact List.mem_cons_of_mem d (ih hrest)

theorem mem_of_mem_withoutSeparators {c : Char} {addressString : String}
    (h : c ∈ withoutSeparators combining addressString) : c ∈ addressString.toList :=
  mem_of_mem_removing (mem_of_mem_removing h)

/-- A call that answers NO has not touched the address. -/
theorem addressFromString_failed {address : BdAddr} {addressString : String}
    (h : (addressFromString combining address addressString).2 = false) :
    (addressFromString combining address addressString).1 = address := by
  by_cases hlen : utf16Length (withoutSeparators combining addressString) = 12
  · by_cases hread : (scanMany scanHex2 6 (cString (withoutSeparators combining addressString))).length = 6
    · have hyes : (addressFromString combining address addressString).2 = true := by
        simp [addressFromString, hlen, hread]
      rw [hyes] at h
      exact nomatch h
    · simp [addressFromString, hlen, hread]
  · simp [addressFromString, hlen]

theorem utf16Length_of_hex {text : List Char} (h : ∀ c ∈ text, ∃ v, hexValue c = some v) :
    utf16Length text = text.length := by
  have hone : ∀ c ∈ text, (if c.toNat < 0x10000 then 1 else 2) = 1 := by
    intro c hc
    obtain ⟨v, hv⟩ := h c hc
    have hbounds := (hexValue_some hv).2
    exact if_pos (by omega)
  rw [utf16Length, List.map_congr_left hone]
  simp

theorem cString_append_of_hex {s : List Char} (h : ∀ c ∈ s, ∃ v, hexValue c = some v)
    (t : List Char) : cString (s ++ t) = s ++ cString t := by
  refine List.takeWhile_append_of_pos fun c hc => ?_
  obtain ⟨v, hv⟩ := h c hc
  exact bne_iff_ne.mpr (ne_of_hexValue hv rfl)

theorem cString_of_hex {text : List Char} (h : ∀ c ∈ text, ∃ v, hexValue c = some v) :
    cString text = text := by
  have happend := cString_append_of_hex h []
  rwa [List.append_nil, show cString [] = [] from rfl, List.append_nil] at happend

theorem utf16Length_append (s t : List Char) :
    utf16Length (s ++ t) = utf16Length s + utf16Length t := by
  simp [utf16Length]

/-- One unit is one character, of the basic plane. -/
theorem utf16Length_eq_one {text : List Char} (h : utf16Length text = 1) :
    ∃ c, text = [c] ∧ c.toNat < 0x10000 := by
  match text with
  | [] => exact nomatch h
  | [c] =>
    refine ⟨c, rfl, ?_⟩
    by_contra hc
    simp [utf16Length, hc] at h
  | c :: d :: rest =>
    simp only [utf16Length, List.map_cons, List.sum_cons] at h
    split_ifs at h <;> omega

/-- The C text is the text, or ends where a null character stands. -/
theorem cString_append (text : List Char) :
    ∃ more, text = cString text ++ more ∧ ∀ c ∈ more.head?, c = '\x00' := by
  refine ⟨text.dropWhile fun c => c != '\x00', List.takeWhile_append_dropWhile.symm, ?_⟩
  intro c hc
  have hnot := List.head?_dropWhile_not (fun c => c != '\x00') text
  rw [Option.mem_def.mp hc] at hnot
  simpa using hnot

/-- What is stored are the numbers themselves. -/
theorem addressFromString_eq_iff {address a : BdAddr} {addressString : String} :
    addressFromString combining address addressString = (a, true) ↔
      utf16Length (withoutSeparators combining addressString) = 12 ∧
      scanMany scanHex2 6 (cString (withoutSeparators combining addressString)) =
        a.bytes.map UInt8.toNat := by
  generalize hnumbers : scanMany scanHex2 6 (cString (withoutSeparators combining addressString)) = numbers
  have hsmall : ∀ v ∈ numbers, v < 256 := by
    rw [← hnumbers]
    exact fun v hv => scanMany_lt hv
  have hback : (numbers.map UInt8.ofNat).map UInt8.toNat = numbers := by
    rw [List.map_map]
    refine (List.map_congr_left fun v hv => ?_).trans (List.map_id _)
    exact UInt8.toNat_ofNat_of_lt (hsmall v hv)
  by_cases hunits : utf16Length (withoutSeparators combining addressString) = 12
  · by_cases hsix : numbers.length = 6
    · simp only [addressFromString, hunits, hnumbers, hsix, ne_eq, not_true_eq_false, if_false,
        dif_pos, Prod.mk.injEq, and_true, true_and]
      constructor
      · rintro rfl
        exact hback.symm
      · rintro rfl
        cases a
        simp [Function.comp_def]
    · have hlen : numbers ≠ a.bytes.map UInt8.toNat := by
        rintro rfl
        exact hsix (by rw [List.length_map, a.length_eq])
      simp [addressFromString, hunits, hnumbers, hsix, hlen]
  · simp [addressFromString, hunits]

/-- Twelve digits of either case are read, with any separators between them. -/
theorem addressFromString_digits {address a : BdAddr} {addressString : String}
    (h : decode (withoutSeparators combining addressString) = some a.bytes) :
    addressFromString combining address addressString = (a, true) := by
  obtain ⟨hlen, hdigits⟩ := decode_some h
  refine addressFromString_eq_iff.mpr ⟨?_, ?_⟩
  · rw [utf16Length_of_hex hdigits, hlen, a.length_eq]
  · have hscan := scanMany_append h 0 []
    rw [List.append_nil, a.length_eq] at hscan
    rw [cString_of_hex hdigits, hscan]
    exact List.append_nil _

/-- The last number, of the one or two characters after ten digits. -/
theorem scanHex2_last {tail more after : List Char} {v : Nat} (hplain : ∀ c ∈ tail, Plain c)
    (hscan : scanHex2 tail = some (v, after)) (hunits : utf16Length (tail ++ more) = 2)
    (hmore : ∀ c ∈ more.head?, c = '\x00') :
    ∃ d c x, tail ++ more = [d, c] ∧ hexValue d = some x ∧
      ((∃ y, hexValue c = some y ∧ v = 16 * x + y) ∨
        hexValue c = none ∧ c.toNat < 0x10000 ∧ v = x) := by
  cases tail with
  | nil => exact nomatch hscan
  | cons d rest =>
    rw [scanHex2_plain (hplain d List.mem_cons_self)] at hscan
    obtain ⟨x, hx, hv⟩ := Option.map_eq_some_iff.mp hscan
    have hone : utf16Length [d] = 1 := by
      refine utf16Length_of_hex fun c hc => ⟨x, ?_⟩
      rwa [List.mem_singleton.mp hc]
    have hrest : utf16Length (rest ++ more) = 1 := by
      have happend := utf16Length_append [d] (rest ++ more)
      rw [List.singleton_append, ← List.cons_append, hunits, hone] at happend
      omega
    obtain ⟨c, hc, hplane⟩ := utf16Length_eq_one hrest
    refine ⟨d, c, x, by rw [List.cons_append, hc], hx, ?_⟩
    cases rest with
    | nil =>
      -- the text goes on, so a null character ended the C text
      have hnul : c = '\x00' := hmore c (by rw [show more = [c] from hc]; rfl)
      exact Or.inr ⟨by rw [hnul]; rfl, hplane, (Prod.mk.inj hv).1.symm⟩
    | cons e rest =>
      obtain ⟨rfl, -⟩ := List.cons.inj hc
      cases he : hexValue e with
      | none =>
        simp only [afterDigit, he] at hv
        exact Or.inr ⟨rfl, hplane, (Prod.mk.inj hv).1.symm⟩
      | some y =>
        simp only [afterDigit, he] at hv
        exact Or.inl ⟨y, rfl, (Prod.mk.inj hv).1.symm⟩

/-- **What is read as an address.** Where nothing is skipped but the separators that
carry no mark, that is twelve digits, or eleven and any other character behind them:
the last byte then has one digit. -/
theorem addressFromString_true_iff {address a : BdAddr} {addressString : String}
    (h : ∀ c ∈ addressString.toList, Plain c) :
    addressFromString combining address addressString = (a, true) ↔
      decode (withoutSeparators combining addressString) = some a.bytes ∨
      ∃ pairs d c, withoutSeparators combining addressString = pairs ++ [d, c] ∧
        decode (pairs ++ ['0', d]) = some a.bytes ∧ hexValue c = none ∧ c.toNat < 0x10000 := by
  constructor
  · intro hread
    obtain ⟨hunits, hnumbers⟩ := addressFromString_eq_iff.mp hread
    obtain ⟨bs, b, hbytes⟩ : ∃ bs b, a.bytes = bs ++ [b] :=
      (List.eq_nil_or_concat' a.bytes).resolve_left fun hnil => by simpa [hnil] using a.length_eq
    have hfive : bs.length = 5 := by simpa [hbytes] using a.length_eq
    obtain ⟨more, htext, hmore⟩ := cString_append (withoutSeparators combining addressString)
    have hplain : ∀ c ∈ cString (withoutSeparators combining addressString), Plain c := fun c hc =>
      h c (mem_of_mem_withoutSeparators (List.takeWhile_subset _ hc))
    rw [hbytes, List.map_append, show 6 = bs.length + 1 by omega] at hnumbers
    obtain ⟨pairs, tail, after, hcut, hpairs, htail⟩ := (scanMany_eq_iff hplain).mp hnumbers
    rw [hcut, List.append_assoc] at htext
    have hten : utf16Length pairs = 10 := by
      obtain ⟨hlen, hall⟩ := decode_some hpairs
      rw [utf16Length_of_hex hall, hlen, hfive]
    have htwo : utf16Length (tail ++ more) = 2 := by
      rw [htext, utf16Length_append] at hunits
      omega
    have htailPlain : ∀ c ∈ tail, Plain c := fun c hc =>
      hplain c (hcut ▸ List.mem_append_right pairs hc)
    obtain ⟨d, c, x, hlast, hx, hend⟩ := scanHex2_last htailPlain htail htwo hmore
    rw [hlast] at htext
    have hb : ∀ n, b.toNat = n → a.bytes = bs ++ [UInt8.ofNat n] := by
      rintro n rfl
      rw [hbytes, UInt8.ofNat_toNat]
    rcases hend with ⟨y, hy, hv⟩ | ⟨hc, hplane, hv⟩
    · left
      rw [htext]
      exact decode_append_pair_iff.mpr ⟨bs, x, y, hpairs, hx, hy, hb _ hv⟩
    · right
      refine ⟨pairs, d, c, htext, ?_, hc, hplane⟩
      exact decode_append_pair_iff.mpr ⟨bs, 0, x, hpairs, rfl, hx, hb _ (by omega)⟩
  · rintro (hdigits | ⟨pairs, d, c, htext, hdecode, hc, hplane⟩)
    · exact addressFromString_digits hdigits
    · obtain ⟨bs, x, y, hpairs, hx, hy, hbytes⟩ := decode_append_pair_iff.mp hdecode
      obtain ⟨hlen, hall⟩ := decode_some hpairs
      have hfive : bs.length = 5 := by simpa [hbytes] using a.length_eq
      have hone : ∀ e ∈ [d], ∃ v, hexValue e = some v := fun e he =>
        ⟨y, by rwa [List.mem_singleton.mp he]⟩
      have hunits : utf16Length [c] = 1 := by simp [utf16Length, hplane]
      obtain ⟨after, hlast⟩ : ∃ after, scanHex2 (d :: cString [c]) = some (y, after) := by
        rw [scanHex2_plain (plain_of_hexValue hy), hy]
        by_cases hnul : c = '\x00'
        · exact ⟨[], by rw [hnul]; rfl⟩
        · exact ⟨[c], by simp [afterDigit, cString, hnul, hc]⟩
      obtain rfl : 0 = x := Option.some.inj hx
      have hbyte : (UInt8.ofNat (16 * 0 + y)).toNat = y := by
        have hlt := (hexValue_some hy).1
        rw [UInt8.toNat_ofNat', Nat.mod_eq_of_lt (by omega)]
        omega
      refine addressFromString_eq_iff.mpr ⟨?_, ?_⟩
      · rw [htext, utf16Length_append, utf16Length_of_hex hall, hlen, hfive,
          show [d, c] = [d] ++ [c] from rfl, utf16Length_append, utf16Length_of_hex hone, hunits]
        rfl
      · rw [htext, cString_append_of_hex hall, show [d, c] = [d] ++ [c] from rfl,
          cString_append_of_hex hone, hbytes, List.map_append, List.map_singleton, hbyte,
          show 6 = bs.length + 1 by omega, scanMany_append hpairs]
        simp [scanMany, hlast]

/-- The first block of marks that combine with the character before them. -/
def combiningDiacriticalMark (c : Char) : Bool := 0x300 ≤ c.toNat && c.toNat ≤ 0x36f

/-- An address whose last digit is misspelt. -/
theorem addressFromString_true_oneDigit :
    addressFromString combiningDiacriticalMark ⟨[0, 0, 0, 0, 0, 0], rfl⟩ "00:1b:63:aa:0c:dg" =
      (⟨[0x00, 0x1b, 0x63, 0xaa, 0x0c, 0x0d], rfl⟩, true) :=
  (addressFromString_true_iff (by simp [Plain, isSpace])).mpr
    (Or.inr ⟨"001b63aa0c".toList, 'd', 'g', by decide, by decide, rfl, by decide⟩)

/-- A colon with an acute accent stays, and makes the text too long. -/
example : (addressFromString combiningDiacriticalMark ⟨[0, 0, 0, 0, 0, 0], rfl⟩
    "0123456789a:\u0301").2 = false := by decide

end Reading

/-! ## Writing and reading back -/

theorem stringForAddress_toList (address : BdAddr) :
    (stringForAddress address).toList = [':'].intercalate (address.bytes.map lowerByteText) := by
  have htexts : (address.bytes.map fun b => String.ofList (printfx 2 b.toNat)).map String.toList =
      address.bytes.map lowerByteText := by
    simp [printfx_two]
  rw [stringForAddress, String.toList_intercalate, htexts]
  rfl

theorem stringForAddress_ascii (address : BdAddr) :
    ∀ c ∈ (stringForAddress address).toList, c.toNat < 0x80 := by
  intro c hc
  rw [stringForAddress_toList] at hc
  rcases mem_separated hc with rfl | ⟨b, hb⟩
  · decide
  · obtain ⟨v, hv⟩ := hexValue_of_mem_lowerByteText hb
    have hbounds := (hexValue_some hv).2
    omega

/-- Text of ASCII carries no marks. -/
theorem removing_eq_filter {combining : Char → Bool}
    (hascii : ∀ c, c.toNat < 0x80 → combining c = false) (separator : Char) {text : List Char}
    (h : ∀ c ∈ text, c.toNat < 0x80) :
    removing combining separator text = text.filter fun c => c != separator := by
  induction text with
  | nil => rfl
  | cons c rest ih =>
    have hrest := ih fun d hd => h d (List.mem_cons_of_mem c hd)
    have hmark : rest.head?.any combining = false := by
      cases rest with
      | nil => rfl
      | cons d rest => exact hascii d (h d (by simp))
    by_cases hc : c = separator <;> simp [removing, hmark, hc, hrest]

theorem withoutSeparators_stringForAddress {combining : Char → Bool}
    (hascii : ∀ c, c.toNat < 0x80 → combining c = false) (address : BdAddr) :
    withoutSeparators combining (stringForAddress address) = encodeLower address.bytes := by
  have hplain := stringForAddress_ascii address
  have hcolons := removing_eq_filter hascii ':' hplain
  have hkept : ∀ c ∈ removing combining ':' (stringForAddress address).toList, c.toNat < 0x80 :=
    fun c hc => hplain c (mem_of_mem_removing hc)
  have hhyphens := removing_eq_filter hascii '-' hkept
  rw [withoutSeparators, hhyphens, hcolons, List.filter_filter, stringForAddress_toList, encodeLower]
  refine filter_separated rfl (fun b c hc => ?_) address.bytes
  obtain ⟨v, hv⟩ := hexValue_of_mem_lowerByteText hc
  have hcolon : c ≠ ':' := ne_of_hexValue hv rfl
  have hhyphen : c ≠ '-' := ne_of_hexValue hv rfl
  simp [hcolon, hhyphen]

/-- **An address reads back from its text**, whatever the device held before. -/
theorem addressFromString_stringForAddress {combining : Char → Bool}
    (hascii : ∀ c, c.toNat < 0x80 → combining c = false) (address a : BdAddr) :
    addressFromString combining address (stringForAddress a) = (a, true) := by
  refine addressFromString_digits ?_
  rw [withoutSeparators_stringForAddress hascii, decode_encodeLower]

theorem stringForAddress_injective {a b : BdAddr} (h : stringForAddress a = stringForAddress b) :
    a = b := by
  have hnone : ∀ c : Char, c.toNat < 0x80 → (fun _ => false) c = false := fun _ _ => rfl
  have hread := addressFromString_stringForAddress hnone a b
  rw [← h, addressFromString_stringForAddress hnone] at hread
  exact (Prod.mk.inj hread).1

/-! ## Devices -/

/-- What a device is known by. -/
structure Device where
  name : Option String
  address : BdAddr
deriving DecidableEq

def Device.addressString (device : Device) : String := stringForAddress device.address

def Device.nameOrAddress (device : Device) : String := device.name.getD device.addressString

def Device.setAddressFromString (combining : Char → Bool) (device : Device)
    (addressString : String) : Device × Bool :=
  let (address, result) := addressFromString combining device.address addressString
  ({ device with address := address }, result)

/-- `deviceForAddress:` of `BTstackManager`. -/
def deviceForAddress (discoveredDevices : List Device) (address : BdAddr) : Option Device :=
  discoveredDevices.find? fun device => device.address == address

theorem setAddressFromString_addressString {combining : Char → Bool}
    (hascii : ∀ c, c.toNat < 0x80 → combining c = false) (device other : Device) :
    device.setAddressFromString combining other.addressString =
      ({ device with address := other.address }, true) := by
  simp only [Device.setAddressFromString, Device.addressString,
    addressFromString_stringForAddress hascii]

/-- Unnamed devices that show one label have one address. -/
theorem nameOrAddress_unnamed {d e : Device} (hd : d.name = none) (he : e.name = none) :
    d.nameOrAddress = e.nameOrAddress ↔ d.address = e.address := by
  simp only [Device.nameOrAddress, hd, he, Option.getD_none, Device.addressString]
  exact ⟨stringForAddress_injective, congrArg stringForAddress⟩

/-- The search by address is a search by the text that keys `deviceInfo`. -/
theorem deviceForAddress_eq (discoveredDevices : List Device) (address : BdAddr) :
    deviceForAddress discoveredDevices address =
      discoveredDevices.find? fun device => device.addressString == stringForAddress address := by
  refine congrArg (fun p => List.find? p discoveredDevices) (funext fun device => ?_)
  rw [Bool.eq_iff_iff, beq_iff_eq, beq_iff_eq, Device.addressString]
  exact ⟨congrArg stringForAddress, stringForAddress_injective⟩

/-! ## What is kept of the devices -/

/-- An entry of `deviceInfo`. -/
structure DeviceDict where
  linkKey : Option String
  remoteName : Option String
deriving DecidableEq

/-- `deviceInfo`, by address text. -/
abbrev DeviceInfo := String → Option DeviceDict

def dropLinkKeyForAddress (deviceInfo : DeviceInfo) (address : BdAddr) : DeviceInfo :=
  let devAddress := stringForAddress address
  fun key =>
    if key = devAddress then (deviceInfo key).map fun deviceDict => { deviceDict with linkKey := none }
    else deviceInfo key

/-- Dropping the link key of one device leaves what is kept of the others, and
the name of its own. -/
theorem dropLinkKeyForAddress_spec (deviceInfo : DeviceInfo) (a b : BdAddr) :
    dropLinkKeyForAddress deviceInfo a (stringForAddress b) =
      if b = a then (deviceInfo (stringForAddress b)).map fun d => { d with linkKey := none }
      else deviceInfo (stringForAddress b) := by
  simp only [dropLinkKeyForAddress]
  by_cases hab : b = a
  · rw [hab, if_pos rfl, if_pos rfl]
  · rw [if_neg hab, if_neg fun htext => hab (stringForAddress_injective htext)]

end ATV2Utils.BTDevice
