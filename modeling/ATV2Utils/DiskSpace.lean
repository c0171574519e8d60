import ATV2Utils.Lib.Floating
import ATV2Utils.LogSize

/-! # Sizes as the menus show them

A size becomes a `float`, is divided by a power of 1024 and printed with two
decimals. Both conversions are monotone, so what is shown keeps the order of what
there is. -/
namespace ATV2Utils.DiskSpace
open ATV2Utils.LogSize ATV2Utils.Lib.Floating

/-- What the accessors read of `attributesOfFileSystemForPath:error:`. -/
structure FileSystemAttributes where
  fileSystemSize : UInt64
  fileSystemFreeSize : UInt64

/-- `floatValue` of a number, which nil answers with zero. -/
def floatValue (number : Option UInt64) : ℚ :=
  match number with
  | none => 0
  | some n => roundTo 24 (n.toNat : ℚ)

/-- The quotient that is printed, of a float and an integer. -/
def quotient (value : ℚ) (divisor : ℕ) : ℚ := roundTo 24 (value / roundTo 24 (divisor : ℚ))

/-- `\n\n %3.2f` and a unit. Every number reaches the width. -/
def sizeText (value : ℚ) (divisor : ℕ) (unit : String) : String :=
  "\n\n " ++ printfF2 (quotient value divisor) ++ " " ++ unit

section Accessors
variable (attributesOfFileSystemForPath : String → Option FileSystemAttributes)
  (homeDirectory : String)

def sizeOf (path : String) : ℚ :=
  floatValue ((attributesOfFileSystemForPath path).map FileSystemAttributes.fileSystemSize)

def freeSizeOf (path : String) : ℚ :=
  floatValue ((attributesOfFileSystemForPath path).map FileSystemAttributes.fileSystemFreeSize)

def totalDiskSpace : String :=
  sizeText (sizeOf attributesOfFileSystemForPath homeDirectory) 1073741824 "GB"

def freeDiskSpace : String :=
  sizeText (freeSizeOf attributesOfFileSystemForPath homeDirectory) 1073741824 "GB"

def tempTotalDiskSpace : String := sizeText (sizeOf attributesOfFileSystemForPath "/") 1048576 "MB"

def tempFreeDiskSpace : String :=
  sizeText (freeSizeOf attributesOfFileSystemForPath "/") 1048576 "MB"

def tempTotalDiskSpaceVar : String :=
  sizeText (sizeOf attributesOfFileSystemForPath "/private/var") 1073741824 "GB"

def tempFreeDiskSpaceVar : String :=
  sizeText (freeSizeOf attributesOfFileSystemForPath "/private/var") 1073741824 "GB"

def devTotalDiskSpace : String := sizeText (sizeOf attributesOfFileSystemForPath "/dev") 1024 "KB"

def devFreeDiskSpace : String :=
  sizeText (freeSizeOf attributesOfFileSystemForPath "/dev") 1024 "KB"

end Accessors

/-! ## The order of what is shown -/

theorem hundredths_eq {value : ℚ} (h : 0 ≤ value) :
    hundredths value = (nearestEven (value * 100)).toNat := by
  have hscaled : 0 ≤ value * 100 := by positivity
  have hfloor : ((⌊value * 100⌋₊ : ℕ) : ℤ) = ⌊value * 100⌋ := Int.natCast_floor_eq_floor hscaled
  have hrest : value * 100 - ((⌊value * 100⌋₊ : ℕ) : ℚ) = Int.fract (value * 100) := by
    rw [Int.fract, ← hfloor, Int.cast_natCast]
  unfold hundredths nearestEven
  simp only [hrest, ← hfloor]
  split_ifs <;> omega

theorem hundredths_mono {v w : ℚ} (hv : 0 ≤ v) (h : v ≤ w) : hundredths v ≤ hundredths w := by
  rw [hundredths_eq hv, hundredths_eq (hv.trans h)]
  exact Int.toNat_le_toNat (nearestEven_monotone (by linarith))

theorem quotient_nonneg {value : ℚ} (h : 0 ≤ value) (divisor : ℕ) : 0 ≤ quotient value divisor :=
  roundTo_nonneg 24 (div_nonneg h (roundTo_nonneg 24 divisor.cast_nonneg))

theorem quotient_mono {v w : ℚ} (hv : 0 ≤ v) (h : v ≤ w) (divisor : ℕ) :
    quotient v divisor ≤ quotient w divisor := by
  have hdivisor := roundTo_nonneg (K := ℚ) 24 divisor.cast_nonneg
  exact roundTo_monotone (by norm_num) (div_nonneg hv hdivisor)
    (div_le_div_of_nonneg_right h hdivisor)

/-- What is shown of a number of hundredths. -/
def shownText (h : ℕ) (unit : String) : String :=
  "\n\n " ++ (toString (h / 100) ++ "." ++ toString (h % 100 / 10) ++ toString (h % 10)) ++ " " ++
    unit

theorem sizeText_eq (value : ℚ) (divisor : ℕ) (unit : String) :
    sizeText value divisor unit = shownText (hundredths (quotient value divisor)) unit := rfl

/-- Two texts that show numbers in this order. -/
def Ordered (low high unit : String) : Prop :=
  ∃ l h : ℕ, l ≤ h ∧ low = shownText l unit ∧ high = shownText h unit

theorem sizeText_ordered {v w : ℚ} (hv : 0 ≤ v) (h : v ≤ w) (divisor : ℕ) (unit : String) :
    Ordered (sizeText v divisor unit) (sizeText w divisor unit) unit :=
  ⟨_, _, hundredths_mono (quotient_nonneg hv divisor) (quotient_mono hv h divisor),
    sizeText_eq .., sizeText_eq ..⟩

variable {attributesOfFileSystemForPath : String → Option FileSystemAttributes}

theorem freeSizeOf_nonneg (path : String) : 0 ≤ freeSizeOf attributesOfFileSystemForPath path := by
  unfold freeSizeOf floatValue
  split
  · exact le_rfl
  · exact roundTo_nonneg 24 (Nat.cast_nonneg _)

theorem freeSizeOf_le {path : String}
    (h : ∀ a, attributesOfFileSystemForPath path = some a →
      a.fileSystemFreeSize ≤ a.fileSystemSize) :
    freeSizeOf attributesOfFileSystemForPath path ≤ sizeOf attributesOfFileSystemForPath path := by
  unfold freeSizeOf sizeOf
  cases hattributes : attributesOfFileSystemForPath path with
  | none => exact le_rfl
  | some a =>
    have hle : a.fileSystemFreeSize.toNat ≤ a.fileSystemSize.toNat := h a hattributes
    exact roundTo_monotone (by norm_num) (Nat.cast_nonneg _) (by exact_mod_cast hle)

/-- **No file system is shown with more free space than it has space.** -/
theorem freeDiskSpace_ordered (homeDirectory : String)
    (h : ∀ path a, attributesOfFileSystemForPath path = some a →
      a.fileSystemFreeSize ≤ a.fileSystemSize) :
    Ordered (freeDiskSpace attributesOfFileSystemForPath homeDirectory)
      (totalDiskSpace attributesOfFileSystemForPath homeDirectory) "GB" ∧
    Ordered (tempFreeDiskSpace attributesOfFileSystemForPath)
      (tempTotalDiskSpace attributesOfFileSystemForPath) "MB" ∧
    Ordered (tempFreeDiskSpaceVar attributesOfFileSystemForPath)
      (tempTotalDiskSpaceVar attributesOfFileSystemForPath) "GB" ∧
    Ordered (devFreeDiskSpace attributesOfFileSystemForPath)
      (devTotalDiskSpace attributesOfFileSystemForPath) "KB" := by
  have hordered : ∀ path divisor unit,
      Ordered (sizeText (freeSizeOf attributesOfFileSystemForPath path) divisor unit)
        (sizeText (sizeOf attributesOfFileSystemForPath path) divisor unit) unit :=
    fun path divisor unit =>
      sizeText_ordered (freeSizeOf_nonneg path) (freeSizeOf_le (h path)) divisor unit
  exact ⟨hordered .., hordered .., hordered .., hordered ..⟩

/-! ## How close it is -/

theorem representable_floatValue (number : Option UInt64) : Representable 24 (floatValue number) := by
  unfold floatValue
  split
  · exact ⟨0, 0, by norm_num, by simp⟩
  · exact roundTo_representable (by norm_num) (Nat.cast_nonneg _)

/-- A power of two divides without a rounding. -/
theorem quotient_two_pow {value : ℚ} (h : 0 ≤ value) (hr : Representable 24 value) (k : ℕ) :
    quotient value (2 ^ k) = value / 2 ^ k := by
  have hcast : ((2 ^ k : ℕ) : ℚ) = 2 ^ (k : ℤ) := by
    rw [zpow_natCast]
    push_cast
    rfl
  have hdivisor : roundTo 24 ((2 ^ k : ℕ) : ℚ) = 2 ^ k := by
    rw [hcast, roundTo_of_representable (two_zpow_pos _).le (representable_zpow (by norm_num) _),
      zpow_natCast]
  rw [quotient, hdivisor]
  exact roundTo_div_two_pow h hr k

theorem hundredths_error {value : ℚ} (h : 0 ≤ value) :
    |(hundredths value : ℚ) / 100 - value| ≤ 1 / 200 := by
  have hnonneg : (0 : ℤ) ≤ nearestEven (value * 100) :=
    le_nearestEven (by push_cast; positivity)
  have hcast : (hundredths value : ℚ) = nearestEven (value * 100) := by
    rw [hundredths_eq h, ← Int.cast_natCast, Int.toNat_of_nonneg hnonneg]
  have herr := abs_le.mp (nearestEven_error (value * 100))
  rw [hcast, abs_le]
  constructor <;> linarith

/-- The bytes the file system answered with; nil counts as none. -/
def bytesOf (number : Option UInt64) : ℕ := (number.map UInt64.toNat).getD 0

/-- A text shows so many bytes in units of `2 ^ k`, off by half a hundredth and by
one part in `2 ^ 24`. -/
def Shows (text : String) (number : Option UInt64) (k : ℕ) (unit : String) : Prop :=
  ∃ h : ℕ, text = shownText h unit ∧
    |(h : ℚ) / 100 - bytesOf number / 2 ^ k| ≤ 1 / 200 + bytesOf number / 2 ^ k / 2 ^ 24

theorem floatValue_eq (number : Option UInt64) :
    floatValue number = roundTo 24 (bytesOf number : ℚ) := by
  cases number with
  | none => exact (roundTo_of_representable le_rfl ⟨0, 0, by norm_num, by simp⟩).symm
  | some n => rfl

theorem sizeText_shows (number : Option UInt64) (k : ℕ) (unit : String) :
    Shows (sizeText (floatValue number) (2 ^ k) unit) number k unit := by
  have hnat : (0 : ℚ) ≤ bytesOf number := Nat.cast_nonneg _
  have hvalue : 0 ≤ floatValue number := floatValue_eq number ▸ roundTo_nonneg 24 hnat
  have hround : |floatValue number - bytesOf number| ≤ bytesOf number / 2 ^ 24 :=
    floatValue_eq number ▸ roundTo_relative_error 24 hnat
  have hk : (0 : ℚ) < 2 ^ k := by positivity
  refine ⟨_, sizeText_eq .., ?_⟩
  rw [quotient_two_pow hvalue (representable_floatValue _)]
  have hshown := hundredths_error (div_nonneg hvalue hk.le)
  have hscaled : |floatValue number / 2 ^ k - bytesOf number / 2 ^ k| ≤
      bytesOf number / 2 ^ k / 2 ^ 24 := by
    rw [← sub_div, abs_div, abs_of_pos hk, div_right_comm]
    exact div_le_div_of_nonneg_right hround hk.le
  exact (abs_sub_le _ _ _).trans (add_le_add hshown hscaled)

/-- **How close each text is** to the size that the file system answers with. -/
theorem shown_accuracy (attributesOfFileSystemForPath : String → Option FileSystemAttributes)
    (homeDirectory : String) :
    Shows (totalDiskSpace attributesOfFileSystemForPath homeDirectory)
      ((attributesOfFileSystemForPath homeDirectory).map FileSystemAttributes.fileSystemSize)
      30 "GB" ∧
    Shows (freeDiskSpace attributesOfFileSystemForPath homeDirectory)
      ((attributesOfFileSystemForPath homeDirectory).map FileSystemAttributes.fileSystemFreeSize)
      30 "GB" ∧
    Shows (tempTotalDiskSpace attributesOfFileSystemForPath)
      ((attributesOfFileSystemForPath "/").map FileSystemAttributes.fileSystemSize) 20 "MB" ∧
    Shows (tempFreeDiskSpace attributesOfFileSystemForPath)
      ((attributesOfFileSystemForPath "/").map FileSystemAttributes.fileSystemFreeSize) 20 "MB" ∧
    Shows (tempTotalDiskSpaceVar attributesOfFileSystemForPath)
      ((attributesOfFileSystemForPath "/private/var").map FileSystemAttributes.fileSystemSize)
      30 "GB" ∧
    Shows (tempFreeDiskSpaceVar attributesOfFileSystemForPath)
      ((attributesOfFileSystemForPath "/private/var").map FileSystemAttributes.fileSystemFreeSize)
      30 "GB" ∧
    Shows (devTotalDiskSpace attributesOfFileSystemForPath)
      ((attributesOfFileSystemForPath "/dev").map FileSystemAttributes.fileSystemSize) 10 "KB" ∧
    Shows (devFreeDiskSpace attributesOfFileSystemForPath)
      ((attributesOfFileSystemForPath "/dev").map FileSystemAttributes.fileSystemFreeSize)
      10 "KB" :=
  ⟨sizeText_shows _ 30 "GB", sizeText_shows _ 30 "GB", sizeText_shows _ 20 "MB",
    sizeText_shows _ 20 "MB", sizeText_shows _ 30 "GB", sizeText_shows _ 30 "GB",
    sizeText_shows _ 10 "KB", sizeText_shows _ 10 "KB"⟩

end ATV2Utils.DiskSpace
