import Mathlib.Data.List.Basic
import Mathlib.Tactic.IntervalCases

/-! # Interface lists and dotted addresses

What `getifaddrs` hands to the device code, with the Darwin layouts, and the
text `inet_ntoa` makes of the four address bytes. A socket address carries the
proof that the internet families have their four bytes, so reading one through
`struct sockaddr_in` never runs off the record. -/
namespace ATV2Utils.Interfaces

def AF_INET : UInt8 := 2
def AF_LINK : UInt8 := 18
def AF_INET6 : UInt8 := 30
def IFF_LOOPBACK : UInt32 := 0x8

/-- `struct in_addr`: the four bytes of `s_addr`, in network order. -/
structure InAddr where
  b0 : UInt8
  b1 : UInt8
  b2 : UInt8
  b3 : UInt8
deriving DecidableEq, Repr

def InAddr.octets (a : InAddr) : List UInt8 := [a.b0, a.b1, a.b2, a.b3]

/-- `INADDR_ANY`. -/
def InAddr.any : InAddr := ⟨0, 0, 0, 0⟩

/-- `struct sockaddr`: one length byte, one family byte, then the family's own
bytes. `sin_port` and `sin6_port` are the first two of these; the next four are
`sin_addr` for AF_INET and `sin6_flowinfo` for AF_INET6. -/
structure Sockaddr where
  saLen : UInt8
  saFamily : UInt8
  saData : List UInt8
  room : saFamily = AF_INET ∨ saFamily = AF_INET6 → 6 ≤ saData.length
deriving DecidableEq

/-- `((struct sockaddr_in *) sa)->sin_addr`, whatever the family of `sa` is. -/
def Sockaddr.sinAddr (sa : Sockaddr) : InAddr :=
  ⟨sa.saData.getD 2 0, sa.saData.getD 3 0, sa.saData.getD 4 0, sa.saData.getD 5 0⟩

/-- The cast reads bytes that are there: no default is taken for an internet family. -/
theorem Sockaddr.sinAddr_octets (sa : Sockaddr)
    (h : sa.saFamily = AF_INET ∨ sa.saFamily = AF_INET6) :
    sa.sinAddr.octets = (sa.saData.drop 2).take 4 := by
  have hroom := sa.room h
  apply List.ext_getElem
  · simp [InAddr.octets]; omega
  · intro i hi _
    have hi4 : i < 4 := by simpa [InAddr.octets] using hi
    interval_cases i <;>
      simp [InAddr.octets, Sockaddr.sinAddr, List.getD_eq_getElem?_getD,
        show 2 < sa.saData.length by omega, show 3 < sa.saData.length by omega,
        show 4 < sa.saData.length by omega, show 5 < sa.saData.length by omega]

/-- An entry of the list `getifaddrs` returns (`ifa_addr` is never null; the
netmask and destination addresses are not read). `ifaData` is the pointer to
the interface's statistics. -/
structure Ifaddrs where
  ifaName : String
  ifaFlags : UInt32
  ifaAddr : Sockaddr
  ifaData : Nat
deriving DecidableEq

abbrev Ifaddrs.family (e : Ifaddrs) : UInt8 := e.ifaAddr.saFamily

/-- `getifaddrs`: `none` when it fails, otherwise the list in the kernel's order. -/
abbrev Getifaddrs := Option (List Ifaddrs)

/-! ## Dotted quads -/

/-- `inet_ntoa`. -/
def inetNtoa (a : InAddr) : String := ".".intercalate (a.octets.map fun b => toString b.toNat)

/-- `-[NSString componentsSeparatedByString:]` for a one-character separator. -/
def componentsSeparatedByString (s : String) (sep : Char) : List String :=
  (s.toList.splitOn sep).map String.ofList

theorem dot_not_mem_toString (n : Nat) : '.' ∉ (toString n).toList := by
  intro h
  have hd : '.' ∈ Nat.toDigits 10 n := by simpa using h
  have := Nat.isDigit_of_mem_toDigits (by decide) (by decide) hd
  exact absurd this (by decide)

/-- Splitting a dotted quad at its dots gives back its four numbers. -/
theorem inetNtoa_components (a : InAddr) :
    componentsSeparatedByString (inetNtoa a) '.' = a.octets.map fun b => toString b.toNat := by
  unfold componentsSeparatedByString inetNtoa
  rw [String.toList_intercalate, show ".".toList = ['.'] from rfl, List.splitOn_intercalate]
  · simp only [List.map_map]
    exact List.map_congr_left fun b _ => String.ofList_toList
  · intro l hl
    simp only [List.map_map, List.mem_map] at hl
    obtain ⟨b, _, rfl⟩ := hl
    exact dot_not_mem_toString b.toNat
  · simp [InAddr.octets]

theorem toString_toNat_injective {b c : UInt8} (h : toString b.toNat = toString c.toNat) :
    b = c := by
  have hdigits : Nat.toDigits 10 b.toNat = Nat.toDigits 10 c.toNat := by
    simpa using congrArg String.toList h
  have hnum := congrArg (fun ds => Nat.ofDigitChars 10 ds 0) hdigits
  exact UInt8.toNat_inj.mp (by simpa using hnum)

theorem inetNtoa_injective {a b : InAddr} (h : inetNtoa a = inetNtoa b) : a = b := by
  have hc : (a.octets.map fun x => toString x.toNat) = b.octets.map fun x => toString x.toNat := by
    rw [← inetNtoa_components, ← inetNtoa_components, h]
  have ho : a.octets = b.octets :=
    List.map_injective_iff.mpr (fun _ _ hxy => toString_toNat_injective hxy) hc
  cases a; cases b
  simpa [InAddr.octets] using ho

theorem inetNtoa_inj {a b : InAddr} : inetNtoa a = inetNtoa b ↔ a = b :=
  ⟨inetNtoa_injective, congrArg inetNtoa⟩

theorem inetNtoa_any : inetNtoa InAddr.any = "0.0.0.0" := by decide

/-- Text without a dot is no address. -/
theorem inetNtoa_ne_of_dotless {s : String} (h : '.' ∉ s.toList) (a : InAddr) : inetNtoa a ≠ s := by
  intro he
  have hc := inetNtoa_components a
  rw [he] at hc
  simp [componentsSeparatedByString, List.splitOn_eq_singleton h, InAddr.octets] at hc

end ATV2Utils.Interfaces
