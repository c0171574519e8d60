import ATV2Utils.Foundation
import ATV2Utils.Lib.Scaling
import Mathlib.Data.Rat.Floor

/-! # The size of the log

`prettyBytesLogSize` divides the size by 1024 until it fits a unit. The float of
the source is read as an exact rational number. -/
namespace ATV2Utils.LogSize
open ATV2Utils.Foundation ATV2Utils.Lib.Scaling

/-- `while(bytes > 1024) { bytes = bytes / 1024.0; unit++; }`, from any state
of the two variables. -/
def scaleLoop (unit : ℕ) (bytes : ℚ) : ℕ × ℚ :=
  if 1024 < bytes then scaleLoop (unit + 1) (bytes / 1024) else (unit, bytes)
termination_by ⌈bytes⌉₊
decreasing_by exact ceil_div_lt (by norm_num) (by assumption)

/-- Two decimals, ties to the even one: the digits of `%.2f`. -/
def hundredths (value : ℚ) : ℕ :=
  let low := ⌊value * 100⌋₊
  let rest := value * 100 - low
  if rest < 1 / 2 then low
  else if 1 / 2 < rest then low + 1
  else if low % 2 = 0 then low else low + 1

def printfF2 (value : ℚ) : String :=
  let h := hundredths value
  toString (h / 100) ++ "." ++ toString (h % 100 / 10) ++ toString (h % 10)

def unitStrings : List String := ["Bytes", "KB", "MB", "GB", "TB", "PB"]

/-- What follows the loop. -/
def unitText (unit : ℕ) (bytes : ℚ) : Except NSException String :=
  if unit > 5 then .ok "HUGE"
  else do
    let unitString ← objectAtIndex unitStrings unit
    if unit = 0 then return toString ⌊bytes⌋₊ ++ " " ++ unitString
    else return printfF2 bytes ++ " " ++ unitString

/-- `prettyBytesLogSize`, of the size that `logSize` returned to it. -/
def prettyBytesLogSize (logSize : ℕ) : Except NSException String :=
  let bytes : ℚ := logSize
  if bytes < 1 then .ok "-"
  else
    let scaled := scaleLoop 0 bytes
    unitText scaled.1 scaled.2

/-- The loop keeps the factorisation it starts from, and leaves at most 1024. -/
theorem scaleLoop_scaled {x : ℚ} (unit : ℕ) (bytes : ℚ) (h : Factored 1024 x unit bytes) :
    Scaled 1024 x (scaleLoop unit bytes).1 (scaleLoop unit bytes).2 := by
  induction unit, bytes using scaleLoop.induct with
  | case1 unit bytes hgt ih =>
    rw [scaleLoop, if_pos hgt]
    exact ih (h.step (by norm_num) hgt)
  | case2 unit bytes hle =>
    rw [scaleLoop, if_neg hle]
    exact h.exit hle

theorem scaleLoop_zero (x : ℚ) : Scaled 1024 x (scaleLoop 0 x).1 (scaleLoop 0 x).2 :=
  scaleLoop_scaled 0 x (Factored.refl 1024 x)

/-- The pair the loop ends with is the only one there is. -/
theorem scaleLoop_eq_iff {x : ℚ} {unit : ℕ} {value : ℚ} :
    scaleLoop 0 x = (unit, value) ↔ Scaled 1024 x unit value := by
  constructor
  · intro h
    have hx := scaleLoop_zero x
    rwa [h] at hx
  · intro h
    obtain ⟨hu, hv⟩ := (scaleLoop_zero x).unique (by norm_num) h
    exact Prod.ext hu hv

theorem scaleLoop_monotone {x y : ℚ} (h : x ≤ y) :
    toLex (scaleLoop 0 x) ≤ toLex (scaleLoop 0 y) :=
  (scaleLoop_zero x).monotone (by norm_num) h (scaleLoop_zero y)

/-! ## Which unit, which text -/

theorem unit_isLeast (n : ℕ) : IsLeast {u : ℕ | n ≤ 1024 ^ (u + 1)} (scaleLoop 0 n).1 := by
  have hleast := (scaleLoop_zero n).isLeast (by norm_num)
  have hset : {u : ℕ | (n : ℚ) ≤ 1024 ^ (u + 1)} = {u : ℕ | n ≤ 1024 ^ (u + 1)} := by
    ext u
    exact_mod_cast Iff.rfl
  rwa [hset] at hleast

theorem unit_le_five_iff (n : ℕ) : (scaleLoop 0 n).1 ≤ 5 ↔ n ≤ 1024 ^ 6 := by
  obtain ⟨hmem, hleast⟩ := unit_isLeast n
  refine ⟨fun h => ?_, fun h => hleast (by exact h)⟩
  have hpow : 1024 ^ ((scaleLoop 0 n).1 + 1) ≤ 1024 ^ 6 :=
    Nat.pow_le_pow_right (by norm_num) (by omega)
  exact le_trans hmem hpow

theorem prettyBytesLogSize_zero : prettyBytesLogSize 0 = .ok "-" := by
  simp [prettyBytesLogSize]

theorem prettyBytesLogSize_pos {n : ℕ} (hn : 1 ≤ n) :
    prettyBytesLogSize n = unitText (scaleLoop 0 n).1 (scaleLoop 0 n).2 := by
  have hone : (1 : ℚ) ≤ n := by exact_mod_cast hn
  rw [prettyBytesLogSize, if_neg (not_lt.mpr hone)]

theorem prettyBytesLogSize_huge {n : ℕ} (h : 1024 ^ 6 < n) :
    prettyBytesLogSize n = .ok "HUGE" := by
  have hunit : (scaleLoop 0 n).1 > 5 :=
    not_le.mp fun hle => absurd h (not_lt.mpr ((unit_le_five_iff n).mp hle))
  rw [prettyBytesLogSize_pos (by omega), unitText, if_pos hunit]

/-- Up to the cut-off the unit is one of the six, and the text is a number, a
space and the unit. -/
theorem prettyBytesLogSize_unit {n : ℕ} (hn : 1 ≤ n) (h : n ≤ 1024 ^ 6) :
    ∃ (hu : (scaleLoop 0 n).1 < unitStrings.length) (number : String),
      prettyBytesLogSize n = .ok (number ++ " " ++ unitStrings[(scaleLoop 0 n).1]) := by
  have hunit := (unit_le_five_iff n).mpr h
  have hu : (scaleLoop 0 n).1 < unitStrings.length := Nat.lt_succ_of_le hunit
  refine ⟨hu, ?_⟩
  rw [prettyBytesLogSize_pos hn, unitText, if_neg (not_lt.mpr hunit), objectAtIndex_lt hu]
  by_cases hzero : (scaleLoop 0 n).1 = 0
  · exact ⟨_, if_pos hzero⟩
  · exact ⟨_, if_neg hzero⟩

theorem number_unit_ne_huge (number unitString : String) :
    number ++ " " ++ unitString ≠ "HUGE" := by
  intro h
  have hmem : ' ' ∈ (number ++ " " ++ unitString).toList := by simp
  rw [h] at hmem
  simp at hmem

theorem prettyBytesLogSize_huge_iff (n : ℕ) :
    prettyBytesLogSize n = .ok "HUGE" ↔ 1024 ^ 6 < n := by
  refine ⟨fun h => ?_, prettyBytesLogSize_huge⟩
  by_contra hle
  rcases Nat.eq_zero_or_pos n with rfl | hn
  · rw [prettyBytesLogSize_zero] at h
    exact absurd (Except.ok.inj h) (by decide)
  · obtain ⟨_, number, htext⟩ := prettyBytesLogSize_unit hn (not_lt.mp hle)
    rw [htext] at h
    exact number_unit_ne_huge _ _ (Except.ok.inj h)

/-- The array of units is never read outside its bounds. -/
theorem prettyBytesLogSize_ok (n : ℕ) : ∃ text, prettyBytesLogSize n = .ok text := by
  rcases Nat.eq_zero_or_pos n with rfl | hn
  · exact ⟨_, prettyBytesLogSize_zero⟩
  · rcases Nat.lt_or_ge (1024 ^ 6) n with hhuge | hle
    · exact ⟨_, prettyBytesLogSize_huge hhuge⟩
    · obtain ⟨_, number, htext⟩ := prettyBytesLogSize_unit hn hle
      exact ⟨_, htext⟩

/-- **Every size is scaled correctly.** The loop that the method runs terminates
and ends with the least unit that leaves at most 1024 of it, exactly; the cut-off
keeps the unit inside the array; larger sizes never get a smaller pair. -/
theorem prettyBytesLogSize_scales (n : ℕ) :
    prettyBytesLogSize 0 = .ok "-" ∧
    (1 ≤ n → prettyBytesLogSize n = unitText (scaleLoop 0 n).1 (scaleLoop 0 n).2) ∧
    Scaled 1024 (n : ℚ) (scaleLoop 0 n).1 (scaleLoop 0 n).2 ∧
    IsLeast {u : ℕ | n ≤ 1024 ^ (u + 1)} (scaleLoop 0 n).1 ∧
    (prettyBytesLogSize n = .ok "HUGE" ↔ 1024 ^ 6 < n) ∧
    (¬ 1024 ^ 6 < n → (scaleLoop 0 n).1 < unitStrings.length) ∧
    (∃ text, prettyBytesLogSize n = .ok text) ∧
    ∀ m : ℕ, n ≤ m → toLex (scaleLoop 0 n) ≤ toLex (scaleLoop 0 m) := by
  refine ⟨prettyBytesLogSize_zero, prettyBytesLogSize_pos, scaleLoop_zero n, unit_isLeast n,
    prettyBytesLogSize_huge_iff n, fun h => ?_, prettyBytesLogSize_ok n, fun m h => ?_⟩
  · exact Nat.lt_succ_of_le ((unit_le_five_iff n).mpr (not_lt.mp h))
  · exact scaleLoop_monotone (by exact_mod_cast h)

/-- The last size in bytes, and the first in kilobytes. -/
example : scaleLoop 0 1024 = (0, 1024) ∧ scaleLoop 0 1025 = (1, 1025 / 1024) := by
  constructor <;> rw [scaleLoop_eq_iff] <;> exact ⟨⟨by norm_num, by norm_num⟩, by norm_num⟩

end ATV2Utils.LogSize
