import ATV2Utils.Foundation
import ATV2Utils.Lib.Floating
import Mathlib.Data.Rat.Floor

/-! # What the kernel tells about the hardware

Every accessor reads one integer from the hardware tree, some through a `float`.
The name of another tree is a number too, and is read as hardware. -/
namespace ATV2Utils.KernelInfo
open ATV2Utils.Foundation ATV2Utils.Lib.Floating

def ctlHW : Nat := 6

/-- As hardware, the machine's name. -/
def kipcMaxsockbuf : Nat := 1
def hwPhysmem : Nat := 5
def hwUsermem : Nat := 6
def hwBusFreq : Nat := 14
def hwCpuFreq : Nat := 15
def hwMemsize : Nat := 24

/-- What is in the four bytes at `results` after a call, failed or not. -/
abbrev Sysctl := Nat → Nat → BitVec 32

section Accessors
variable (sysctl : Sysctl)

def getSysInfo (typeSpecifier : Nat) : NSUInteger := sysctl ctlHW typeSpecifier

/-- The conversion of an integer to a `float`. -/
def float (n : NSUInteger) : ℚ := roundTo 24 (n.toNat : ℚ)

/-- The conversion of a `float` to an integer, of those in its range. -/
def truncate (x : ℚ) : NSUInteger := BitVec.ofNat 32 ⌊x⌋₊

def cpuFrequency : NSUInteger := getSysInfo sysctl hwCpuFreq

def busFrequency : NSUInteger :=
  truncate (roundTo 24 (float (getSysInfo sysctl hwBusFreq) / 1000000))

/-- `n / 1024.0f / 1024.0f`. -/
def floatMegabytes (n : NSUInteger) : NSUInteger :=
  truncate (roundTo 24 (roundTo 24 (float n / 1024) / 1024))

/-- `n / 1024 / 1024`. -/
def megabytes (n : NSUInteger) : NSUInteger := n / 1024 / 1024

def totalMemory : NSUInteger := floatMegabytes (getSysInfo sysctl hwPhysmem)

def userMemory : NSUInteger := megabytes (getSysInfo sysctl hwUsermem)

def imhoMemory : NSUInteger := megabytes (getSysInfo sysctl hwMemsize)

def maxSocketBufferSize : NSUInteger := floatMegabytes (getSysInfo sysctl kipcMaxsockbuf)

end Accessors

/-! ## Through the float -/

theorem toNat_megabytes (n : NSUInteger) : (megabytes n).toNat = n.toNat / 2 ^ 20 := by
  simp [megabytes, BitVec.toNat_udiv, Nat.div_div_eq_div_mul]

theorem floatMegabytes_quotient (n : NSUInteger) :
    roundTo 24 (roundTo 24 (float n / 1024) / 1024) = float n / 2 ^ 20 := by
  have hnonneg : 0 ≤ float n := roundTo_nonneg 24 n.toNat.cast_nonneg
  have hr : Representable 24 (float n) := roundTo_representable (by norm_num) n.toNat.cast_nonneg
  have hfirst := roundTo_div_two_pow hnonneg hr 10
  have hsecond := roundTo_div_two_pow (by positivity) (hr.div_two_pow 10) 10
  norm_num at hfirst hsecond
  rw [hfirst, hsecond, div_div]
  norm_num

theorem log_lt (n : NSUInteger) : Nat.log 2 n.toNat < 32 := by
  rcases n.toNat.eq_zero_or_pos with hzero | hpos
  · rw [hzero]
    decide
  · exact Nat.log_lt_of_lt_pow hpos.ne' n.isLt

/-- Half the last place of the float. -/
def halfPlace (n : NSUInteger) : ℕ := 2 ^ Nat.log 2 n.toNat / 2 ^ 24

theorem halfPlace_le (n : NSUInteger) : halfPlace n ≤ 128 := by
  have hlog := log_lt n
  have hpow : 2 ^ Nat.log 2 n.toNat ≤ 2 ^ 31 := Nat.pow_le_pow_right two_pos (by omega)
  unfold halfPlace
  omega

/-- The float adds half its last place before the division. -/
theorem toNat_floatMegabytes (n : NSUInteger) :
    (floatMegabytes n).toNat = (n.toNat + halfPlace n) / 2 ^ 20 := by
  have hlog := log_lt n
  have hhalf := halfPlace_le n
  have hlt := n.isLt
  have hfloor := natFloor_roundTo_div (K := ℚ) (p := 24) (n := n.toNat) (s := 20) (by omega)
  rw [← halfPlace] at hfloor
  rw [floatMegabytes, floatMegabytes_quotient, truncate, BitVec.toNat_ofNat, float, hfloor]
  exact Nat.mod_eq_of_lt (by omega)

theorem totalMemory_lt (sysctl : Sysctl) : (totalMemory sysctl).toNat < 2 ^ 31 := by
  have hhalf := halfPlace_le (sysctl ctlHW hwPhysmem)
  have hlt := (sysctl ctlHW hwPhysmem).isLt
  rw [totalMemory, getSysInfo, toNat_floatMegabytes]
  omega

theorem userMemory_le_totalMemory {sysctl : Sysctl}
    (h : sysctl ctlHW hwUsermem ≤ sysctl ctlHW hwPhysmem) :
    userMemory sysctl ≤ totalMemory sysctl := by
  have hnat : (sysctl ctlHW hwUsermem).toNat ≤ (sysctl ctlHW hwPhysmem).toNat := h
  rw [BitVec.le_def, userMemory, totalMemory, getSysInfo, getSysInfo, toNat_megabytes,
    toNat_floatMegabytes]
  omega

/-- **The memory in megabytes is truncated, unless the float takes it up**: when it
is no more than half a place, at most 128 bytes, below the next megabyte. -/
theorem totalMemory_rounds (sysctl : Sysctl) :
    halfPlace (sysctl ctlHW hwPhysmem) ≤ 128 ∧
    (totalMemory sysctl).toNat =
      (sysctl ctlHW hwPhysmem).toNat / 2 ^ 20 +
        (if (sysctl ctlHW hwPhysmem).toNat % 2 ^ 20 + halfPlace (sysctl ctlHW hwPhysmem) < 2 ^ 20
          then 0 else 1) := by
  have hhalf := halfPlace_le (sysctl ctlHW hwPhysmem)
  have htotal := toNat_floatMegabytes (sysctl ctlHW hwPhysmem)
  refine ⟨hhalf, ?_⟩
  rw [totalMemory, getSysInfo, htotal]
  split_ifs <;> omega

/-! ## The bus frequency -/

theorem busFrequency_error (n : NSUInteger) :
    |roundTo 24 (float n / 1000000) * 1000000 - n.toNat| < 513 := by
  have hn : (0 : ℚ) ≤ n.toNat := n.toNat.cast_nonneg
  have hlt : (n.toNat : ℚ) < 4294967296 := by
    have hbits := n.isLt
    exact_mod_cast hbits
  have hfloat : 0 ≤ float n := roundTo_nonneg 24 hn
  have hconvert := abs_le.mp (roundTo_relative_error 24 hn)
  have hdivide := abs_le.mp (roundTo_relative_error (K := ℚ) 24
    (show 0 ≤ float n / 1000000 by positivity))
  have hsame : roundTo 24 (n.toNat : ℚ) = float n := rfl
  rw [hsame] at hconvert
  rw [abs_lt]
  norm_num at hconvert hdivide
  constructor <;> linarith

theorem toNat_busFrequency (sysctl : Sysctl) :
    (busFrequency sysctl).toNat * 1000000 < (sysctl ctlHW hwBusFreq).toNat + 513 ∧
    (sysctl ctlHW hwBusFreq).toNat < ((busFrequency sysctl).toNat + 1) * 1000000 + 513 := by
  have hlt := (sysctl ctlHW hwBusFreq).isLt
  have herr := abs_lt.mp (busFrequency_error (sysctl ctlHW hwBusFreq))
  have hfloat : 0 ≤ float (sysctl ctlHW hwBusFreq) := roundTo_nonneg 24 (Nat.cast_nonneg _)
  have hnonneg := roundTo_nonneg (K := ℚ) 24
    (show 0 ≤ float (sysctl ctlHW hwBusFreq) / 1000000 by positivity)
  have hlow := Nat.floor_le hnonneg
  have hhigh := Nat.lt_floor_add_one (roundTo 24 (float (sysctl ctlHW hwBusFreq) / 1000000))
  have hfirst : ⌊roundTo 24 (float (sysctl ctlHW hwBusFreq) / 1000000)⌋₊ * 1000000 <
      (sysctl ctlHW hwBusFreq).toNat + 513 := by
    rw [← Nat.cast_lt (α := ℚ)]
    push_cast
    linarith
  have hsecond : (sysctl ctlHW hwBusFreq).toNat <
      (⌊roundTo 24 (float (sysctl ctlHW hwBusFreq) / 1000000)⌋₊ + 1) * 1000000 + 513 := by
    rw [← Nat.cast_lt (α := ℚ)]
    push_cast
    linarith
  rw [busFrequency, getSysInfo, truncate, BitVec.toNat_ofNat, Nat.mod_eq_of_lt (by omega)]
  exact ⟨hfirst, hsecond⟩

/-- The two roundings cost the bus frequency one megahertz at most, and nothing
when it is 513 Hz or more away from a whole number of them. -/
theorem busFrequency_close (sysctl : Sysctl) :
    (sysctl ctlHW hwBusFreq).toNat / 1000000 ≤ (busFrequency sysctl).toNat + 1 ∧
    (busFrequency sysctl).toNat ≤ (sysctl ctlHW hwBusFreq).toNat / 1000000 + 1 ∧
    (513 ≤ (sysctl ctlHW hwBusFreq).toNat % 1000000 →
      (sysctl ctlHW hwBusFreq).toNat % 1000000 ≤ 999487 →
      (busFrequency sysctl).toNat = (sysctl ctlHW hwBusFreq).toNat / 1000000) := by
  obtain ⟨hlow, hhigh⟩ := toNat_busFrequency sysctl
  refine ⟨by omega, by omega, fun hfar hnear => by omega⟩

/-- A megahertz is lost on whole numbers too. -/
example : (busFrequency fun _ _ => 1077000000).toNat = 1076 := by decide +kernel

end ATV2Utils.KernelInfo
