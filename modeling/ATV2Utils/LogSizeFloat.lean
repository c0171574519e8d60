import ATV2Utils.Lib.Floating
import ATV2Utils.LogSize

/-! # The size of the log, in floating point

`prettyBytesLogSize` with the roundings of its `float`: one when the size is
converted, and two, to `double` and back, in each round of its loop. The latter
change nothing, so the text is the exact one of the converted size. -/
namespace ATV2Utils.LogSizeFloat
open ATV2Utils.Foundation ATV2Utils.LogSize ATV2Utils.Lib.Floating ATV2Utils.Lib.Scaling

/-- `bytes / 1024.0`, a division of `double`s, assigned to a `float`. -/
def divide (bytes : ℚ) : ℚ := roundTo 24 (roundTo 53 (bytes / 1024))

theorem divide_le {bytes : ℚ} (h : 0 ≤ bytes) : divide bytes ≤ bytes / 512 := by
  have hscaled : 0 ≤ bytes / 1024 := by positivity
  have hdouble := (roundTo_bounds 53 hscaled).2
  have hfloat := (roundTo_bounds 24 (roundTo_nonneg 53 hscaled)).2
  have hnonneg := roundTo_nonneg 53 hscaled
  unfold divide
  norm_num at hdouble hfloat
  linarith

/-- `while(bytes > 1024) { bytes = bytes / 1024.0; unit++; }`. -/
def scaleLoopFloat (unit : ℕ) (bytes : ℚ) : ℕ × ℚ :=
  if 1024 < bytes then scaleLoopFloat (unit + 1) (divide bytes) else (unit, bytes)
termination_by ⌈bytes⌉₊
decreasing_by
  have hle := Nat.ceil_mono (divide_le (by linarith : 0 ≤ bytes))
  exact hle.trans_lt (ceil_div_lt (by norm_num) (by linarith))

/-- `prettyBytesLogSize`, of the size that `logSize` returned to it. -/
def prettyBytesLogSizeFloat (logSize : ℕ) : Except NSException String :=
  let bytes : ℚ := roundTo 24 (logSize : ℚ)
  if bytes < 1 then .ok "-"
  else
    let scaled := scaleLoopFloat 0 bytes
    unitText scaled.1 scaled.2

/-! ## The loop loses nothing -/

theorem representable_div {bytes : ℚ} (hr : Representable 24 bytes) :
    Representable 24 (bytes / 1024) := by
  have hdiv := hr.div_two_pow 10
  norm_num at hdiv
  exact hdiv

theorem divide_eq {bytes : ℚ} (h : 0 ≤ bytes) (hr : Representable 24 bytes) :
    divide bytes = bytes / 1024 := by
  have hscaled : 0 ≤ bytes / 1024 := by positivity
  have hfloat := representable_div hr
  rw [divide, roundTo_of_representable hscaled (hfloat.mono (by norm_num)),
    roundTo_of_representable hscaled hfloat]

theorem scaleLoopFloat_eq (unit : ℕ) (bytes : ℚ) (h : 0 ≤ bytes) (hr : Representable 24 bytes) :
    scaleLoopFloat unit bytes = scaleLoop unit bytes := by
  induction unit, bytes using scaleLoop.induct with
  | case1 unit bytes hgt ih =>
    rw [scaleLoopFloat, scaleLoop, if_pos hgt, if_pos hgt, divide_eq h hr]
    exact ih (by positivity) (representable_div hr)
  | case2 unit bytes hle => rw [scaleLoopFloat, scaleLoop, if_neg hle, if_neg hle]

/-- The loop on floats is the exact one on the converted size, a whole number. -/
theorem converted (n : ℕ) :
    ∃ m : ℕ, roundTo 24 (n : ℚ) = m ∧ scaleLoopFloat 0 (roundTo 24 (n : ℚ)) = scaleLoop 0 m ∧
      prettyBytesLogSizeFloat n = prettyBytesLogSize m := by
  have hnonneg := roundTo_nonneg (K := ℚ) 24 n.cast_nonneg
  have hr := roundTo_representable (K := ℚ) (p := 24) (by norm_num) n.cast_nonneg
  obtain ⟨m, hm⟩ := roundTo_natCast (K := ℚ) (p := 24) (by norm_num) n
  have hloop := scaleLoopFloat_eq 0 _ hnonneg hr
  refine ⟨m, hm, by rw [hloop, hm], ?_⟩
  rw [prettyBytesLogSizeFloat, prettyBytesLogSize, hloop, hm]

/-! ## The conversion -/

theorem unit_le_iff (n u : ℕ) : (scaleLoop 0 n).1 ≤ u ↔ n ≤ 1024 ^ (u + 1) := by
  obtain ⟨hmem, hleast⟩ := unit_isLeast n
  refine ⟨fun h => ?_, fun h => hleast h⟩
  have hpow : 1024 ^ ((scaleLoop 0 n).1 + 1) ≤ 1024 ^ (u + 1) :=
    Nat.pow_le_pow_right (by norm_num) (by omega)
  exact le_trans hmem hpow

/-- A power of 1024 takes the sizes that exceed it by a part in `2 ^ 24` or less. -/
theorem converted_le_iff {n m : ℕ} (hm : roundTo 24 (n : ℚ) = m) (u : ℕ) :
    m ≤ 1024 ^ u ↔ 2 ^ 24 * n ≤ (2 ^ 24 + 1) * 1024 ^ u := by
  have hpow : (2 : ℚ) ^ (((24 : ℕ) : ℤ) + (10 * u - 24)) = 1024 ^ u := by
    have hexp : ((24 : ℕ) : ℤ) + (10 * u - 24) = ((10 * u : ℕ) : ℤ) := by
      push_cast
      ring
    rw [hexp, zpow_natCast, pow_mul]
    norm_num
  have hplace : (2 : ℚ) ^ (10 * u - 24 : ℤ) = 1024 ^ u / 2 ^ 24 := by
    rw [← hpow, zpow_add₀ two_ne_zero, zpow_natCast, mul_div_cancel_left₀ _ (by norm_num)]
  rcases n.eq_zero_or_pos with rfl | hn
  · rw [Nat.cast_zero, roundTo_zero] at hm
    have hzero : m = 0 := by exact_mod_cast hm.symm
    rw [hzero]
    exact ⟨fun _ => by positivity, fun _ => Nat.zero_le _⟩
  · have hcast : (0 : ℚ) < n := by exact_mod_cast hn
    have hiff := roundTo_le_zpow_iff (p := 24) (by norm_num) hcast (10 * u - 24)
    rw [hm, hpow, hplace] at hiff
    have hleft : (m : ℚ) ≤ 1024 ^ u ↔ m ≤ 1024 ^ u := by exact_mod_cast Iff.rfl
    have hright : (n : ℚ) ≤ 1024 ^ u + 1024 ^ u / 2 ^ 24 ↔
        2 ^ 24 * n ≤ (2 ^ 24 + 1) * 1024 ^ u := by
      rw [← Nat.cast_le (α := ℚ)]
      push_cast
      constructor <;> intro h <;> linarith
    rw [← hleft, hiff, hright]

theorem unitFloat_le_iff (n u : ℕ) :
    (scaleLoopFloat 0 (roundTo 24 (n : ℚ))).1 ≤ u ↔
      2 ^ 24 * n ≤ (2 ^ 24 + 1) * 1024 ^ (u + 1) := by
  obtain ⟨m, hm, hloop, _⟩ := converted n
  rw [hloop, unit_le_iff, converted_le_iff hm]

/-- The unit is too small for the sizes that the conversion takes down to a power
of 1024, and right for all others. -/
theorem unitFloat_eq_iff (n : ℕ) :
    (scaleLoopFloat 0 (roundTo 24 (n : ℚ))).1 = (scaleLoop 0 n).1 ↔
      ∀ u : ℕ, 2 ^ 24 * n ≤ (2 ^ 24 + 1) * 1024 ^ (u + 1) → n ≤ 1024 ^ (u + 1) := by
  constructor
  · intro h u hle
    rwa [← unitFloat_le_iff, h, unit_le_iff] at hle
  · intro h
    refine le_antisymm ?_ ?_
    · rw [unitFloat_le_iff]
      have hle := (unit_le_iff n (scaleLoop 0 n).1).mp le_rfl
      omega
    · rw [unit_le_iff]
      exact h _ ((unitFloat_le_iff n _).mp le_rfl)

/-- In 32 bits only the sizes just past a gigabyte are that close to a power. -/
theorem close_iff {n : ℕ} (hn : n < 2 ^ 32) :
    (∀ u : ℕ, 2 ^ 24 * n ≤ (2 ^ 24 + 1) * 1024 ^ (u + 1) → n ≤ 1024 ^ (u + 1)) ↔
      ¬ (2 ^ 30 < n ∧ n ≤ 2 ^ 30 + 64) := by
  constructor
  · rintro h ⟨hlow, hhigh⟩
    have hthird := h 2
    omega
  · intro h u hle
    obtain rfl | rfl | rfl | hu : u = 0 ∨ u = 1 ∨ u = 2 ∨ 3 ≤ u := by omega
    · omega
    · omega
    · omega
    · have hpow : 1024 ^ 4 ≤ 1024 ^ (u + 1) := Nat.pow_le_pow_right (by norm_num) (by omega)
      omega

theorem prettyBytesLogSizeFloat_huge_iff (n : ℕ) :
    prettyBytesLogSizeFloat n = .ok "HUGE" ↔ (2 ^ 24 + 1) * 1024 ^ 6 < 2 ^ 24 * n := by
  obtain ⟨m, hm, _, htext⟩ := converted n
  have hle := converted_le_iff hm 6
  rw [htext, prettyBytesLogSize_huge_iff]
  omega

/-- **The float of the log's size against the exact number.** The text is that of
the converted size, which up to `2 ^ 24` bytes is the size; the unit is the exact
one except for sizes past a power of 1024 by at most a part in `2 ^ 24` of it,
which in 32 bits are the 64 sizes past a gigabyte; so is the cut-off. -/
theorem prettyBytesLogSizeFloat_refines (n : ℕ) :
    (∃ m : ℕ, roundTo 24 (n : ℚ) = m ∧ prettyBytesLogSizeFloat n = prettyBytesLogSize m) ∧
    (n ≤ 2 ^ 24 → prettyBytesLogSizeFloat n = prettyBytesLogSize n) ∧
    ((scaleLoopFloat 0 (roundTo 24 (n : ℚ))).1 = (scaleLoop 0 n).1 ↔
      ∀ u : ℕ, 2 ^ 24 * n ≤ (2 ^ 24 + 1) * 1024 ^ (u + 1) → n ≤ 1024 ^ (u + 1)) ∧
    (n < 2 ^ 32 → ((scaleLoopFloat 0 (roundTo 24 (n : ℚ))).1 = (scaleLoop 0 n).1 ↔
      ¬ (2 ^ 30 < n ∧ n ≤ 2 ^ 30 + 64))) ∧
    (prettyBytesLogSizeFloat n = .ok "HUGE" ↔ (2 ^ 24 + 1) * 1024 ^ 6 < 2 ^ 24 * n) := by
  obtain ⟨m, hm, _, htext⟩ := converted n
  refine ⟨⟨m, hm, htext⟩, fun hn => ?_, unitFloat_eq_iff n, fun hn => ?_,
    prettyBytesLogSizeFloat_huge_iff n⟩
  · rw [roundTo_of_representable n.cast_nonneg (representable_natCast (by norm_num) hn)] at hm
    rw [htext, Nat.cast_injective hm]
  · rw [unitFloat_eq_iff, close_iff hn]

end ATV2Utils.LogSizeFloat
