import ATV2Utils.Lib.Accumulate
import ATV2Utils.DiskSpace

/-! # The size of a folder

`cachesSize` and `cachesSize1` add up the files below a folder in a `float`, and
`documentsFolderSize` in 64 bits. The float is a number of 24 bits; that it does
not overflow is `totalSize_le`. -/
namespace ATV2Utils.CacheSize
open ATV2Utils.Foundation ATV2Utils.LogSize ATV2Utils.DiskSpace ATV2Utils.Lib.Floating
open ATV2Utils.Lib.Accumulate

/-- What `NSFileManager` answers. A folder it cannot list and a file without
attributes are nil; of the attributes only the size is read. -/
structure FileManager where
  subpathsAtPath : String → Option (List String)
  fileAttributesAtPath : String → Option UInt64

/-- Of a folder and a path below it. -/
def stringByAppendingPathComponent (folderPath path : String) : String := folderPath ++ "/" ++ path

/-- `fileSize`, which nil answers with zero. -/
def fileSize (fattrib : Option UInt64) : UInt64 := fattrib.getD 0

/-- What the loop finds in turn. Nil has no enumerator, so no path. -/
def fileSizes (fm : FileManager) (folderPath : String) : List UInt64 :=
  ((fm.subpathsAtPath folderPath).getD []).map fun path =>
    fileSize (fm.fileAttributesAtPath (stringByAppendingPathComponent folderPath path))

def sizes (fm : FileManager) (folderPath : String) : List ℕ :=
  (fileSizes fm folderPath).map UInt64.toNat

/-- `totalSize += [fattrib fileSize]`, from zero. -/
def totalSize (fm : FileManager) (folderPath : String) : ℚ := accumulate 24 0 (sizes fm folderPath)

def rentalsPath : String := "/private/var/mobile/Library/Caches/AppleTV/Video/LocalAndRental"

def otherPath : String := "/private/var/mobile/Library/Caches/AppleTV/Video/Other"

/-- `\n\n %3.2f MB` of `totalSize / 1048576`. -/
def folderText (fm : FileManager) (folderPath : String) : String :=
  sizeText (totalSize fm folderPath) 1048576 "MB"

def cachesSize (fm : FileManager) : String := folderText fm rentalsPath

def cachesSize1 (fm : FileManager) : String := folderText fm otherPath

/-- `documentsFolderSize`, of what the search for the folder answered. -/
def documentsFolderSize (fm : FileManager) (documentPaths : List String) :
    Except NSException UInt64 := do
  let documentsDirectory ← objectAtIndex documentPaths 0
  return (fileSizes fm documentsDirectory).foldl (· + ·) 0

/-! ## The total -/

variable (fm : FileManager) (folderPath : String)

theorem sizes_le {x : ℕ} (hx : x ∈ sizes fm folderPath) : x ≤ 2 ^ 64 := by
  obtain ⟨size, _, rfl⟩ := List.mem_map.mp hx
  exact size.toNat_lt.le

theorem representable_zero : Representable 24 (0 : ℚ) := ⟨0, 0, by norm_num, by simp⟩

theorem totalSize_nonneg : 0 ≤ totalSize fm folderPath := accumulate_nonneg le_rfl

theorem totalSize_representable : Representable 24 (totalSize fm folderPath) :=
  accumulate_representable (by norm_num) le_rfl representable_zero

theorem folderText_eq :
    folderText fm folderPath =
      shownText (hundredths (totalSize fm folderPath / 1048576)) "MB" := by
  have hquotient := quotient_two_pow (totalSize_nonneg fm folderPath)
    (totalSize_representable fm folderPath) 20
  norm_num at hquotient
  rw [folderText, sizeText_eq, hquotient]

/-- However many files there are, the float stays far below its range. -/
theorem totalSize_le : totalSize fm folderPath ≤ 2 ^ 88 :=
  accumulate_le (p := 24) (k := 64) (by norm_num) le_rfl (by positivity)
    fun _ hx => sizes_le fm folderPath hx

/-- **What is shown is what there is, up to one rounding a file**, and the float
does not overflow. -/
theorem folderText_accuracy :
    (1 - 1 / 2 ^ 24) ^ (sizes fm folderPath).length * ((sizes fm folderPath).sum : ℚ) ≤
      totalSize fm folderPath ∧
    totalSize fm folderPath ≤
      (1 + 1 / 2 ^ 24) ^ (sizes fm folderPath).length * ((sizes fm folderPath).sum : ℚ) ∧
    totalSize fm folderPath ≤ 2 ^ 88 ∧
    folderText fm folderPath =
      shownText (hundredths (totalSize fm folderPath / 1048576)) "MB" := by
  have hnear := accumulate_near (K := ℚ) (p := 24) (by norm_num) (sizes fm folderPath)
  exact ⟨hnear.low, hnear.high, totalSize_le fm folderPath, folderText_eq fm folderPath⟩

variable {fm folderPath}

/-- **A folder whose files grow, or that gets new ones wherever they are listed,
is never shown smaller.** -/
theorem folderText_ordered {fm' : FileManager} {folderPath' : String}
    (h : List.SublistForall₂ (· ≤ ·) (sizes fm folderPath) (sizes fm' folderPath')) :
    Ordered (folderText fm folderPath) (folderText fm' folderPath') "MB" := by
  have hmono : totalSize fm folderPath ≤ totalSize fm' folderPath' :=
    accumulate_mono (by norm_num) le_rfl le_rfl representable_zero h
  exact sizeText_ordered (totalSize_nonneg fm folderPath) hmono _ _

/-- Files that have all one size. -/
def uniform (paths : List String) (size : UInt64) : FileManager :=
  ⟨fun _ => some paths, fun _ => some size⟩

theorem folderText_ordered_uniform :
    Ordered (folderText (uniform ["a"] 5) rentalsPath)
      (folderText (uniform ["b", "a"] 7) rentalsPath) "MB" :=
  folderText_ordered (.cons (by decide) .nil)

/-! ## When it is exact -/

theorem totalSize_of_blocks {k : ℕ} (hblock : ∀ x ∈ sizes fm folderPath, 2 ^ k ∣ x)
    (hroom : (sizes fm folderPath).sum ≤ 2 ^ (24 + k)) :
    totalSize fm folderPath = ((sizes fm folderPath).sum : ℕ) := by
  have hexact := accumulate_exact (K := ℚ) (p := 24) (k := k) (n := 0) (by norm_num) (dvd_zero _)
    hblock (by rwa [zero_add])
  rwa [Nat.cast_zero, zero_add] at hexact

theorem foldl_toNat (total : UInt64) (xs : List UInt64) :
    (xs.foldl (· + ·) total).toNat = (total.toNat + (xs.map UInt64.toNat).sum) % 2 ^ 64 := by
  induction xs generalizing total with
  | nil => simp [Nat.mod_eq_of_lt total.toNat_lt]
  | cons x xs ih =>
    rw [List.foldl_cons, ih, UInt64.toNat_add, List.map_cons, List.sum_cons, Nat.mod_add_mod,
      add_assoc]

/-- The sum in 64 bits, which does not depend on the order of the files. -/
theorem documentsFolderSize_cons (fm : FileManager) (folderPath : String)
    (documentPaths : List String) :
    ∃ n : UInt64, documentsFolderSize fm (folderPath :: documentPaths) = .ok n ∧
      n.toNat = (sizes fm folderPath).sum % 2 ^ 64 := by
  refine ⟨_, rfl, ?_⟩
  rw [foldl_toNat]
  simp [sizes]

/-- **Whole blocks are added exactly**, as long as their sum has 24 bits over the
size of a block: the text is that of the sum in 64 bits. -/
theorem folderText_of_blocks {k : ℕ} (hk : k < 40)
    (hblock : ∀ x ∈ sizes fm folderPath, 2 ^ k ∣ x)
    (hroom : (sizes fm folderPath).sum ≤ 2 ^ (24 + k)) :
    ∃ n : UInt64, documentsFolderSize fm [folderPath] = .ok n ∧
      folderText fm folderPath = shownText (hundredths (n.toNat / 1048576)) "MB" := by
  obtain ⟨n, hn, hsum⟩ := documentsFolderSize_cons fm folderPath []
  have hlt : (sizes fm folderPath).sum < 2 ^ 64 :=
    hroom.trans_lt (Nat.pow_lt_pow_right one_lt_two (by omega))
  rw [Nat.mod_eq_of_lt hlt] at hsum
  refine ⟨n, hn, ?_⟩
  rw [folderText_eq, totalSize_of_blocks hblock hroom, hsum]

theorem folderText_of_blocks_uniform :
    ∃ n : UInt64, documentsFolderSize (uniform ["a", "b"] 4096) [rentalsPath] = .ok n ∧
      folderText (uniform ["a", "b"] 4096) rentalsPath =
        shownText (hundredths (n.toNat / 1048576)) "MB" :=
  folderText_of_blocks (k := 12) (by decide) (by decide) (by decide)

/-! ## What is lost -/

/-- **From sixteen million blocks on, files below a block do not count**, however
many are added. -/
theorem folderText_absorbed {fm' : FileManager} {folderPath' : String} {k : ℕ} {more : List ℕ}
    (hk : k ≤ 24) (hlow : 2 ^ (24 + k) ≤ totalSize fm folderPath) (hmore : ∀ x ∈ more, x < 2 ^ k)
    (hsizes : sizes fm' folderPath' = sizes fm folderPath ++ more) :
    folderText fm' folderPath' = folderText fm folderPath := by
  have hlost : totalSize fm' folderPath' = totalSize fm folderPath := by
    rw [totalSize, hsizes, accumulate_append]
    exact accumulate_absorbed (by norm_num) hk (totalSize_representable fm folderPath) hlow hmore
  rw [folderText, folderText, hlost]

/-- A film of 32 MB, and an index that takes one byte. -/
def filmAndIndex : FileManager where
  subpathsAtPath _ := some ["film", "index"]
  fileAttributesAtPath path :=
    some (if path = stringByAppendingPathComponent rentalsPath "film" then 33554432 else 1)

theorem folderText_absorbed_filmAndIndex :
    folderText filmAndIndex rentalsPath = folderText (uniform ["film"] 33554432) rentalsPath := by
  have hfilm : sizes (uniform ["film"] 33554432) rentalsPath = [33554432] := by decide
  have hsizes : sizes filmAndIndex rentalsPath =
      sizes (uniform ["film"] 33554432) rentalsPath ++ [1] := by
    rw [hfilm]
    simp [sizes, fileSizes, filmAndIndex, fileSize, stringByAppendingPathComponent]
  have htotal : totalSize (uniform ["film"] 33554432) rentalsPath = (33554432 : ℕ) :=
    totalSize_of_blocks (k := 25) (by rw [hfilm]; decide) (by rw [hfilm]; decide)
  refine folderText_absorbed (k := 1) (by decide) ?_ (by decide) hsizes
  rw [htotal]
  norm_num

end ATV2Utils.CacheSize
