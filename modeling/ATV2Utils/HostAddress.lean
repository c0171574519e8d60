import ATV2Utils.Lib.Dotted
import ATV2Utils.Lib.Scanf
import ATV2Utils.Reachability
import Mathlib.Data.List.TakeWhile

/-! # Addresses as text

`stringFromAddress:` and `addressFromString:address:` with the whole record they
work on, and `hostAvailable:`, which sends an address through its text. -/
namespace ATV2Utils.HostAddress
open ATV2Utils.Interfaces ATV2Utils.Reachability
open ATV2Utils.Lib.Dotted ATV2Utils.Lib.Hex ATV2Utils.Lib.Scanf

/-- `struct sockaddr_in`; the port is in network order. -/
structure SockaddrIn where
  sinLen : UInt8
  sinFamily : UInt8
  sinPort : UInt8 × UInt8
  sinAddr : InAddr
  sinZero : List UInt8
deriving DecidableEq, Repr

def ntohs (port : UInt8 × UInt8) : Nat := port.1.toNat * 256 + port.2.toNat

/-- The four bytes of a number, most significant first. -/
def inAddrOfNat (n : Nat) : InAddr :=
  ⟨UInt8.ofNat (n / 2 ^ 24), UInt8.ofNat (n / 2 ^ 16), UInt8.ofNat (n / 2 ^ 8), UInt8.ofNat n⟩

/-- A C string ends at the first NUL. -/
def cString (s : String) : List Char := s.toList.takeWhile (· != '\x00')

/-- `inet_aton`, which does not look behind the first white space. -/
def inetAton (s : String) : Option InAddr :=
  (address ((cString s).takeWhile fun c => !isSpace c)).map inAddrOfNat

/-- The size and the value of `memset` are swapped, so that no byte is set. -/
def memset (address : SockaddrIn) : SockaddrIn := address

def addressFromString (ipAddress : Option String) (address : SockaddrIn) : SockaddrIn × Bool :=
  match ipAddress with
  | none => (address, false)
  | some text =>
    if text.length = 0 then (address, false)
    else
      let address := memset address
      let address := { address with sinFamily := AF_INET, sinLen := 16 }
      match inetAton text with
      | none => (address, false)
      | some addr => ({ address with sinAddr := addr }, true)

def stringFromAddress (address : Option SockaddrIn) : Option String :=
  match address with
  | none => none
  | some sin =>
    if sin.sinFamily = AF_INET then
      some (inetNtoa sin.sinAddr ++ ":" ++ toString (ntohs sin.sinPort))
    else none

/-! ## Reading an address -/

/-- The text of an address, each number in a spelling of its own. -/
def spelled (a : InAddr) (r0 r1 r2 r3 : Spelling) : String :=
  String.ofList (['.'].intercalate
    [spell r0 a.b0.toNat, spell r1 a.b1.toNat, spell r2 a.b2.toNat, spell r3 a.b3.toNat])

theorem inetNtoa_eq_spelled (a : InAddr) :
    inetNtoa a = spelled a .decimal .decimal .decimal .decimal := by
  apply String.toList_inj.mp
  rw [inetNtoa, String.toList_intercalate, spelled, String.toList_ofList]
  simp [InAddr.octets, spell]

theorem inAddrOfNat_octets (a : InAddr) :
    inAddrOfNat (a.b0.toNat * 2 ^ 24 + a.b1.toNat * 2 ^ 16 + a.b2.toNat * 2 ^ 8 + a.b3.toNat) = a := by
  obtain ⟨b0, b1, b2, b3⟩ := a
  have h0 := b0.toNat_lt
  have h1 := b1.toNat_lt
  have h2 := b2.toNat_lt
  have h3 := b3.toNat_lt
  simp only [inAddrOfNat, Interfaces.InAddr.mk.injEq, ← UInt8.toNat_inj, UInt8.toNat_ofNat']
  omega

/-- A character that is no digit, mark or dot does not stand in the text. -/
theorem not_mem_spelled {e : Char} (he : hexValue e = none) (hx : e ≠ 'x') (hX : e ≠ 'X')
    (hdot : e ≠ '.') (a : InAddr) (r0 r1 r2 r3 : Spelling) :
    e ∉ (spelled a r0 r1 r2 r3).toList := by
  have hnumber (r : Spelling) (n : Nat) : e ∉ spell r n := not_mem_spell he hx hX r n
  rw [spelled, String.toList_ofList]
  simp [List.intercalate, hnumber, hdot]

theorem not_isSpace_of_mem_spelled {a : InAddr} {r0 r1 r2 r3 : Spelling} {c : Char}
    (hc : c ∈ (spelled a r0 r1 r2 r3).toList) : isSpace c = false := by
  refine Bool.eq_false_iff.mpr fun hspace => ?_
  have hne : ∀ d, isSpace d = false → c ≠ d := by
    rintro d hd rfl
    exact nomatch hspace.symm.trans hd
  have hdigit : hexValue c = none := by
    cases hv : hexValue c with
    | none => rfl
    | some v => exact nomatch hspace.symm.trans (not_isSpace_of_hexValue hv)
  exact not_mem_spelled hdigit (hne 'x' rfl) (hne 'X' rfl) (hne '.' rfl) a r0 r1 r2 r3 hc

/-- The whole text is read. -/
theorem takeWhile_spelled (a : InAddr) (r0 r1 r2 r3 : Spelling) :
    (cString (spelled a r0 r1 r2 r3)).takeWhile (fun c => !isSpace c) =
      (spelled a r0 r1 r2 r3).toList := by
  have hcString : cString (spelled a r0 r1 r2 r3) = (spelled a r0 r1 r2 r3).toList := by
    rw [cString, List.takeWhile_eq_self_iff]
    intro c hc
    rw [bne_iff_ne]
    rintro rfl
    exact not_mem_spelled rfl (by decide) (by decide) (by decide) a r0 r1 r2 r3 hc
  rw [hcString, List.takeWhile_eq_self_iff]
  intro c hc
  rw [not_isSpace_of_mem_spelled hc]
  rfl

theorem inetAton_spelled (a : InAddr) (r0 r1 r2 r3 : Spelling) :
    inetAton (spelled a r0 r1 r2 r3) = some a := by
  rw [inetAton, takeWhile_spelled, spelled, String.toList_ofList,
    address_spell a.b0.toNat_lt a.b1.toNat_lt a.b2.toNat_lt a.b3.toNat_lt, Option.map_some,
    inAddrOfNat_octets]

theorem spelled_length_ne (a : InAddr) (r0 r1 r2 r3 : Spelling) :
    (spelled a r0 r1 r2 r3).length ≠ 0 := by
  intro hlen
  have hempty : inetAton "" = none := by decide
  rw [← String.length_eq_zero_iff.mp hlen, inetAton_spelled] at hempty
  cases hempty

/-- **What an address text leaves in the record.** Each number may be spelled in
decimal, in octal or in hexadecimal, with zeros in front and in either case; the port
and the padding are those the record had before. -/
theorem addressFromString_spelled (a : InAddr) (r0 r1 r2 r3 : Spelling) (old : SockaddrIn) :
    addressFromString (some (spelled a r0 r1 r2 r3)) old =
      (⟨16, AF_INET, old.sinPort, a, old.sinZero⟩, true) := by
  rw [addressFromString]
  dsimp only
  rw [if_neg (spelled_length_ne a r0 r1 r2 r3), inetAton_spelled]
  rfl

/-! ## Writing it back -/

/-- The text has the old port behind it, so it ends in `:0` exactly when that was
zero before. -/
theorem stringFromAddress_spelled (a : InAddr) (r0 r1 r2 r3 : Spelling) (old : SockaddrIn) :
    stringFromAddress (some (addressFromString (some (spelled a r0 r1 r2 r3)) old).1) =
      some (inetNtoa a ++ ":" ++ toString (ntohs old.sinPort)) := by
  rw [addressFromString_spelled]
  rfl

theorem colon_not_mem_inetNtoa (a : InAddr) : ':' ∉ (inetNtoa a).toList := by
  rw [inetNtoa_eq_spelled]
  exact not_mem_spelled rfl (by decide) (by decide) (by decide) _ _ _ _ _

theorem ntohs_injective {p q : UInt8 × UInt8} (h : ntohs p = ntohs q) : p = q := by
  have hp := p.2.toNat_lt
  have hq := q.2.toNat_lt
  rw [ntohs, ntohs] at h
  exact Prod.ext (UInt8.toNat_inj.mp (by omega)) (UInt8.toNat_inj.mp (by omega))

theorem stringFromAddress_some {a : SockaddrIn} {text : String}
    (h : stringFromAddress (some a) = some text) :
    text.toList = (inetNtoa a.sinAddr).toList ++ ':' :: Nat.toDigits 10 (ntohs a.sinPort) := by
  rw [stringFromAddress] at h
  split at h
  case isFalse => cases h
  case isTrue =>
    rw [← Option.some.inj h]
    simp

/-- A text names one address and one port. -/
theorem stringFromAddress_injective {a b : SockaddrIn} {text : String}
    (ha : stringFromAddress (some a) = some text) (hb : stringFromAddress (some b) = some text) :
    a.sinAddr = b.sinAddr ∧ a.sinPort = b.sinPort := by
  have htext := (stringFromAddress_some ha).symm.trans (stringFromAddress_some hb)
  have hcolon : ':' ∉ Nat.toDigits 10 (ntohs a.sinPort) :=
    not_mem_spell rfl (by decide) (by decide) .decimal (ntohs a.sinPort)
  obtain ⟨haddr, -, hport⟩ :=
    (List.append_cons_inj_of_notMem (colon_not_mem_inetNtoa a.sinAddr) hcolon).mp htext
  refine ⟨inetNtoa_injective (String.toList_inj.mp haddr), ntohs_injective ?_⟩
  have hnumber := congrArg (fun ds => Nat.ofDigitChars 10 ds 0) hport
  simpa using hnumber

/-! ## A host by name -/

/-- What `hostAvailable:` takes of the record is the address alone, and the text it
reads is there. -/
theorem addressFromString_eq (text : String) (old : SockaddrIn) :
    Reachability.addressFromString inetAton text =
      if (addressFromString (some text) old).2 then
        some (addressFromString (some text) old).1.sinAddr
      else none := by
  by_cases hlen : text.length = 0
  · simp [Reachability.addressFromString, addressFromString, hlen]
  · cases hread : inetAton text <;>
      simp [Reachability.addressFromString, addressFromString, hlen, hread]

/-- **The address that is asked for is the host's first.** `hostAvailable:` answers
YES exactly when the name has an address and the flags of its first address can be
retrieved and say reachable. -/
theorem hostAvailable_iff (gethostbyname : String → Option Hostent) (theHost : String)
    (getFlags : InAddr → GetFlags) :
    hostAvailable gethostbyname inetAton theHost getFlags = true ↔
      ∃ host flags, gethostbyname theHost = some host ∧ getFlags host.first = some flags ∧
        flags &&& kSCNetworkFlagsReachable ≠ 0 := by
  rw [hostAvailable, getIPAddressForHost]
  cases gethostbyname theHost with
  | none => simp
  | some host =>
    have haddress : Reachability.addressFromString inetAton (inetNtoa host.first) =
        some host.first := by
      rw [addressFromString_eq _ ⟨0, 0, (0, 0), InAddr.any, []⟩, inetNtoa_eq_spelled,
        addressFromString_spelled]
      rfl
    simp only [Option.map_some, haddress]
    cases hflags : getFlags host.first with
    | none => simp [hflags]
    | some flags => simp [hflags]

end ATV2Utils.HostAddress
