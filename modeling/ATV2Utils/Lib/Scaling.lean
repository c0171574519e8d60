import Mathlib.Algebra.Order.Floor.Ring
import Mathlib.Data.Prod.Lex
import Mathlib.Tactic.FieldSimp
import Mathlib.Tactic.Linarith
import Mathlib.Tactic.Ring

/-! # Scaling by a fixed factor

A quantity written as `value * b ^ unit`. A loop that divides while the value
exceeds `b` keeps `Factored` and ends with `Scaled`, which determines the pair:
`unit` is the least exponent that leaves at most one factor `b`, and the pairs of
two quantities compare as the quantities do. -/
namespace ATV2Utils.Lib.Scaling

section Field
variable {K : Type*} [Field K] [LinearOrder K] [IsStrictOrderedRing K]

/-- No factor `b` is lost or taken out needlessly. -/
structure Factored (b x : K) (unit : ℕ) (value : K) : Prop where
  exact : value * b ^ unit = x
  needed : 0 < unit → 1 < value

/-- A factorisation with no factor left to take out. -/
structure Scaled (b x : K) (unit : ℕ) (value : K) : Prop extends Factored b x unit value where
  atMost : value ≤ b

variable {b x y v w : K} {u t : ℕ}

omit [IsStrictOrderedRing K] in
theorem Factored.refl (b x : K) : Factored b x 0 x :=
  ⟨by rw [pow_zero, mul_one], fun h => absurd h (lt_irrefl 0)⟩

theorem Factored.step (hb : 0 < b) (h : Factored b x u v) (hv : b < v) :
    Factored b x (u + 1) (v / b) where
  exact := by
    rw [pow_succ, ← h.exact]
    field_simp
  needed _ := (one_lt_div hb).mpr hv

omit [IsStrictOrderedRing K] in
theorem Factored.exit (h : Factored b x u v) (hv : ¬ b < v) : Scaled b x u v :=
  ⟨h, not_lt.mp hv⟩

theorem Scaled.le_pow (hb : 0 < b) (h : Scaled b x u v) : x ≤ b ^ (u + 1) := by
  have hmul := mul_le_mul_of_nonneg_right h.atMost (pow_pos hb u).le
  rw [h.exact] at hmul
  rwa [pow_succ']

theorem Factored.pow_lt (hb : 0 < b) (h : Factored b x u v) (hu : 0 < u) : b ^ u < x := by
  have hmul := mul_lt_mul_of_pos_right (h.needed hu) (pow_pos hb u)
  rwa [one_mul, h.exact] at hmul

theorem Factored.unit_le (hb : 1 < b) (h : Factored b x u v) (hx : x ≤ b ^ (t + 1)) : u ≤ t := by
  by_contra hlt
  have hu : t + 1 ≤ u := by omega
  have hpow := h.pow_lt (zero_lt_one.trans hb) (by omega)
  have hmono := pow_le_pow_right₀ hb.le hu
  exact absurd (hpow.trans_le hx) (not_lt.mpr hmono)

/-- The unit is the least exponent that leaves at most one factor. -/
theorem Scaled.isLeast (hb : 1 < b) (h : Scaled b x u v) :
    IsLeast {t : ℕ | x ≤ b ^ (t + 1)} u :=
  ⟨h.le_pow (zero_lt_one.trans hb), fun _ ht => h.unit_le hb ht⟩

/-- Scaling is monotone: first in the unit, then in the value. -/
theorem Scaled.monotone (hb : 1 < b) (hxy : x ≤ y) (hx : Scaled b x u v) (hy : Scaled b y t w) :
    toLex (u, v) ≤ toLex (t, w) := by
  have hb0 := zero_lt_one.trans hb
  have hunit : u ≤ t := hx.unit_le hb (hxy.trans (hy.le_pow hb0))
  rw [Prod.Lex.toLex_le_toLex]
  rcases hunit.lt_or_eq with hlt | rfl
  · exact .inl hlt
  · refine .inr ⟨rfl, ?_⟩
    rw [← hx.exact, ← hy.exact] at hxy
    exact le_of_mul_le_mul_right hxy (pow_pos hb0 u)

theorem Scaled.unique (hb : 1 < b) (h : Scaled b x u v) (h' : Scaled b x t w) :
    u = t ∧ v = w := by
  have hle := h.monotone hb le_rfl h'
  have hge := h'.monotone hb le_rfl h
  have heq := toLex.injective (le_antisymm hle hge)
  exact Prod.mk.inj heq

end Field

section Floor
variable {K : Type*} [Field K] [LinearOrder K] [IsStrictOrderedRing K] [FloorRing K]

/-- What a scaling loop counts down. -/
theorem ceil_div_lt {b x : K} (hb : 2 ≤ b) (hx : b < x) : ⌈x / b⌉₊ < ⌈x⌉₊ := by
  have hb0 : 0 < b := zero_lt_two.trans_le hb
  have hx0 : 0 < x := hb0.trans hx
  have hle : x / b ≤ x - 1 := by
    have hhalf : x / b ≤ x / 2 := div_le_div_of_nonneg_left hx0.le two_pos hb
    linarith
  have hceil : ⌈x / b⌉₊ ≤ ⌈x⌉₊ - 1 := by
    rw [Nat.ceil_le]
    have hx1 : 1 ≤ ⌈x⌉₊ := Nat.ceil_pos.mpr hx0
    rw [Nat.cast_sub hx1, Nat.cast_one]
    exact hle.trans (sub_le_sub_right (Nat.le_ceil x) 1)
  have hpos : 0 < ⌈x⌉₊ := Nat.ceil_pos.mpr hx0
  omega

end Floor

end ATV2Utils.Lib.Scaling
