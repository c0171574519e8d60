import Mathlib.Algebra.Order.Floor.Ring
import Mathlib.Algebra.Order.Round
import Mathlib.Data.Int.Log
import Mathlib.Tactic.FieldSimp
import Mathlib.Tactic.Linarith
import Mathlib.Tactic.Ring

/-! # Rounding to a binary precision

A floating-point number without its range: a significand of `p` bits times a
power of two. Rounding goes to the nearest one, of two to the one whose
significand is even. It is monotone, it fixes what has `p` bits, and its relative
error is at most `2 ^ -p`. -/
namespace ATV2Utils.Lib.Floating

variable {K : Type*} [Field K] [LinearOrder K] [IsStrictOrderedRing K] [FloorRing K]

/-! ## The nearest integer -/

def nearestEven (x : K) : ℤ :=
  if Int.fract x < 1 / 2 then ⌊x⌋
  else if 1 / 2 < Int.fract x then ⌊x⌋ + 1
  else ⌊x⌋ + ⌊x⌋ % 2

theorem nearestEven_error (x : K) : |(nearestEven x : K) - x| ≤ 1 / 2 := by
  have hfract := Int.floor_add_fract x
  have hpos := Int.fract_nonneg x
  have hlt := Int.fract_lt_one x
  unfold nearestEven
  rw [abs_le]
  split_ifs with hlow hhigh
  · constructor <;> linarith
  · push_cast
    constructor <;> linarith
  · have hmod : ⌊x⌋ % 2 = 0 ∨ ⌊x⌋ % 2 = 1 := by omega
    rcases hmod with hmod | hmod <;> rw [hmod] <;> push_cast <;> constructor <;> linarith

@[simp] theorem nearestEven_intCast (k : ℤ) : nearestEven (k : K) = k := by
  simp [nearestEven]

theorem nearestEven_add_of_lt (k : ℤ) {y : K} (hy : 0 ≤ y) (h : y < 1 / 2) :
    nearestEven (k + y) = k := by
  have hfloor : ⌊y⌋ = 0 := Int.floor_eq_zero_iff.mpr ⟨hy, by linarith⟩
  have hfract : Int.fract y = y := by rw [Int.fract, hfloor, Int.cast_zero, sub_zero]
  rw [nearestEven, Int.fract_intCast_add, hfract, if_pos h, Int.floor_intCast_add, hfloor, add_zero]

/-- Two results in the wrong order are both half an integer away, so of one number. -/
theorem nearestEven_monotone {x y : K} (h : x ≤ y) : nearestEven x ≤ nearestEven y := by
  by_contra hlt
  have hstep : nearestEven y + 1 ≤ nearestEven x := not_le.mp hlt
  have hcast : (nearestEven y : K) + 1 ≤ nearestEven x := by exact_mod_cast hstep
  have hx := abs_le.mp (nearestEven_error x)
  have hy := abs_le.mp (nearestEven_error y)
  have heq : x = y := by linarith
  rw [heq] at hlt
  exact hlt le_rfl

theorem nearestEven_le {x : K} {k : ℤ} (h : x ≤ k) : nearestEven x ≤ k := by
  simpa using nearestEven_monotone h

theorem le_nearestEven {x : K} {k : ℤ} (h : (k : K) ≤ x) : k ≤ nearestEven x := by
  simpa using nearestEven_monotone h

/-- An even integer takes the ties on both its sides. -/
theorem nearestEven_le_iff_of_even {x : K} {k : ℤ} (hk : k % 2 = 0) :
    nearestEven x ≤ k ↔ x ≤ k + 1 / 2 := by
  constructor
  · intro h
    have hcast : (nearestEven x : K) ≤ k := by exact_mod_cast h
    have herr := abs_le.mp (nearestEven_error x)
    linarith
  · intro h
    have hfloor : ⌊(k : K) + 1 / 2⌋ = k := by
      rw [Int.floor_eq_iff]
      constructor <;> linarith
    have hfract : Int.fract ((k : K) + 1 / 2) = 1 / 2 := by
      rw [Int.fract, hfloor]
      ring
    have htie : nearestEven ((k : K) + 1 / 2) = k := by
      rw [nearestEven, hfract, hfloor, if_neg (lt_irrefl _), if_neg (lt_irrefl _), hk, add_zero]
    rw [← htie]
    exact nearestEven_monotone h

theorem le_nearestEven_iff_of_even {x : K} {k : ℤ} (hk : k % 2 = 0) :
    k ≤ nearestEven x ↔ (k : K) ≤ x + 1 / 2 := by
  constructor
  · intro h
    have hcast : (k : K) ≤ nearestEven x := by exact_mod_cast h
    have herr := abs_le.mp (nearestEven_error x)
    linarith
  · intro h
    have hfloor : ⌊(k : K) - 1 / 2⌋ = k - 1 := by
      rw [Int.floor_eq_iff]
      push_cast
      constructor <;> linarith
    have hfract : Int.fract ((k : K) - 1 / 2) = 1 / 2 := by
      rw [Int.fract, hfloor]
      push_cast
      ring
    have hodd : (k - 1) % 2 = 1 := by omega
    have htie : nearestEven ((k : K) - 1 / 2) = k := by
      rw [nearestEven, hfract, hfloor, if_neg (lt_irrefl _), if_neg (lt_irrefl _), hodd,
        sub_add_cancel]
    rw [← htie]
    exact nearestEven_monotone (by linarith)

/-! ## The nearest number of `p` bits -/

/-- The exponent of the last place. -/
def quantum (p : ℕ) (x : K) : ℤ := Int.log 2 x + 1 - p

def roundTo (p : ℕ) (x : K) : K := nearestEven (x / 2 ^ quantum p x) * 2 ^ quantum p x

/-- The non-negative numbers of `p` bits. -/
def Representable (p : ℕ) (x : K) : Prop := ∃ (m : ℕ) (e : ℤ), m < 2 ^ p ∧ x = m * 2 ^ e

variable {p : ℕ} {x y : K}

theorem two_zpow_pos (e : ℤ) : (0 : K) < 2 ^ e := zpow_pos two_pos e

omit [FloorRing K] in
theorem two_zpow_add (a b : ℤ) : (2 : K) ^ (a + b) = 2 ^ a * 2 ^ b := zpow_add₀ two_pos.ne' a b

theorem two_zpow_log_le (hx : 0 < x) : (2 : K) ^ Int.log 2 x ≤ x := by
  simpa using Int.zpow_log_le_self one_lt_two hx

theorem lt_two_zpow_log (x : K) : x < (2 : K) ^ (Int.log 2 x + 1) := by
  simpa using Int.lt_zpow_succ_log_self one_lt_two x

@[simp] theorem roundTo_zero (p : ℕ) : roundTo p (0 : K) = 0 := by
  simp [roundTo, nearestEven]

/-- Half a unit in the last place. -/
theorem roundTo_error (p : ℕ) (x : K) : |roundTo p x - x| ≤ 2 ^ (quantum p x - 1) := by
  have hq := two_zpow_pos (K := K) (quantum p x)
  have herr := nearestEven_error (x / 2 ^ quantum p x)
  have heq : roundTo p x - x =
      ((nearestEven (x / 2 ^ quantum p x) : K) - x / 2 ^ quantum p x) * 2 ^ quantum p x := by
    rw [roundTo, sub_mul, div_mul_cancel₀ x hq.ne']
  rw [heq, abs_mul, abs_of_pos hq, zpow_sub_one₀ two_ne_zero]
  calc |(nearestEven (x / 2 ^ quantum p x) : K) - x / 2 ^ quantum p x| * 2 ^ quantum p x
      ≤ 1 / 2 * 2 ^ quantum p x := mul_le_mul_of_nonneg_right herr hq.le
    _ = 2 ^ quantum p x * 2⁻¹ := by ring

theorem roundTo_relative_error (p : ℕ) (hx : 0 ≤ x) : |roundTo p x - x| ≤ x / 2 ^ p := by
  rcases hx.eq_or_lt with rfl | hpos
  · simp
  · refine (roundTo_error p x).trans ?_
    have hexp : quantum p x - 1 = Int.log 2 x - p := by
      unfold quantum
      ring
    rw [hexp, zpow_sub₀ two_ne_zero, zpow_natCast]
    exact div_le_div_of_nonneg_right (two_zpow_log_le hpos) (by positivity)

theorem roundTo_bounds (p : ℕ) (hx : 0 ≤ x) :
    (1 - 1 / 2 ^ p) * x ≤ roundTo p x ∧ roundTo p x ≤ (1 + 1 / 2 ^ p) * x := by
  have herr := abs_le.mp (roundTo_relative_error p hx)
  have hmul : 1 / 2 ^ p * x = x / 2 ^ p := by ring
  rw [sub_mul, add_mul, one_mul, hmul]
  constructor <;> linarith

theorem roundTo_nonneg (p : ℕ) (hx : 0 ≤ x) : 0 ≤ roundTo p x := by
  have hzero : (0 : ℤ) ≤ nearestEven (x / 2 ^ quantum p x) :=
    le_nearestEven (by simpa using div_nonneg hx (two_zpow_pos _).le)
  have hcast : (0 : K) ≤ nearestEven (x / 2 ^ quantum p x) := by exact_mod_cast hzero
  exact mul_nonneg hcast (two_zpow_pos _).le

/-! ## The grid of the last place -/

omit [FloorRing K] in
theorem mul_zpow_div (k e q : ℤ) (h : q ≤ e) :
    ((k * 2 ^ (e - q).toNat : ℤ) : K) = k * 2 ^ e / 2 ^ q := by
  have hexp : ((e - q).toNat : ℤ) = e - q := Int.toNat_of_nonneg (by omega)
  have hpow : (2 : K) ^ (e - q).toNat = 2 ^ e / 2 ^ q := by
    rw [← zpow_natCast, hexp, zpow_sub₀ two_pos.ne']
  push_cast
  rw [hpow, mul_div_assoc]

theorem roundTo_le_grid {k e : ℤ} (he : quantum p x ≤ e) (h : x ≤ k * 2 ^ e) :
    roundTo p x ≤ k * 2 ^ e := by
  have hq := two_zpow_pos (K := K) (quantum p x)
  have hle : x / 2 ^ quantum p x ≤ ((k * 2 ^ (e - quantum p x).toNat : ℤ) : K) := by
    rw [mul_zpow_div k e _ he]
    exact div_le_div_of_nonneg_right h hq.le
  have hcast := Int.cast_le (R := K) |>.mpr (nearestEven_le hle)
  rw [mul_zpow_div k e _ he] at hcast
  exact (le_div_iff₀ hq).mp hcast

theorem grid_le_roundTo {k e : ℤ} (he : quantum p x ≤ e) (h : k * 2 ^ e ≤ x) :
    k * 2 ^ e ≤ roundTo p x := by
  have hq := two_zpow_pos (K := K) (quantum p x)
  have hle : ((k * 2 ^ (e - quantum p x).toNat : ℤ) : K) ≤ x / 2 ^ quantum p x := by
    rw [mul_zpow_div k e _ he]
    exact div_le_div_of_nonneg_right h hq.le
  have hcast := Int.cast_le (R := K) |>.mpr (le_nearestEven hle)
  rw [mul_zpow_div k e _ he] at hcast
  exact (div_le_iff₀ hq).mp hcast

theorem roundTo_le_zpow_log (p : ℕ) (x : K) : roundTo p x ≤ 2 ^ (Int.log 2 x + 1) := by
  have hgrid := roundTo_le_grid (p := p) (x := x) (k := 1) (e := Int.log 2 x + 1)
    (by unfold quantum; omega) (by simpa using (lt_two_zpow_log x).le)
  simpa using hgrid

theorem zpow_log_le_roundTo (hp : 0 < p) (hx : 0 < x) : 2 ^ Int.log 2 x ≤ roundTo p x := by
  have hgrid := grid_le_roundTo (p := p) (x := x) (k := 1) (e := Int.log 2 x)
    (by unfold quantum; omega) (by simpa using two_zpow_log_le hx)
  simpa using hgrid

theorem roundTo_monotone (hp : 0 < p) (hx : 0 ≤ x) (h : x ≤ y) : roundTo p x ≤ roundTo p y := by
  rcases hx.eq_or_lt with rfl | hpos
  · rw [roundTo_zero]
    exact roundTo_nonneg p h
  · rcases (Int.log_mono_right (b := 2) hpos h).lt_or_eq with hlt | heq
    · -- a power of two stands between the two
      calc roundTo p x ≤ 2 ^ (Int.log 2 x + 1) := roundTo_le_zpow_log p x
        _ ≤ 2 ^ Int.log 2 y := zpow_le_zpow_right₀ one_le_two hlt
        _ ≤ roundTo p y := zpow_log_le_roundTo hp (hpos.trans_le h)
    · have hquantum : quantum p x = quantum p y := by rw [quantum, quantum, heq]
      have hq := two_zpow_pos (K := K) (quantum p y)
      have hmono := nearestEven_monotone (div_le_div_of_nonneg_right h hq.le)
      rw [roundTo, roundTo, hquantum]
      exact mul_le_mul_of_nonneg_right (by exact_mod_cast hmono) hq.le

/-! ## What has `p` bits -/

theorem quantum_le_of_lt {e : ℤ} (hx : 0 < x) (h : x < 2 ^ (p + e)) : quantum p x ≤ e := by
  have hlog : Int.log 2 x < p + e := by
    rw [← Int.lt_zpow_iff_log_lt one_lt_two hx]
    simpa using h
  unfold quantum
  omega

/-- A number of `p` bits lies on the grid of its own last place. -/
theorem Representable.quantum_le {m : ℕ} {e : ℤ} (hx : 0 < x) (hm : m < 2 ^ p)
    (h : x = m * 2 ^ e) : quantum p x ≤ e := by
  refine quantum_le_of_lt hx ?_
  have hcast : (m : K) < 2 ^ p := by exact_mod_cast hm
  rw [h, two_zpow_add, zpow_natCast]
  exact mul_lt_mul_of_pos_right hcast (two_zpow_pos e)

theorem roundTo_of_representable (hx : 0 ≤ x) (h : Representable p x) : roundTo p x = x := by
  rcases hx.eq_or_lt with rfl | hpos
  · exact roundTo_zero p
  · obtain ⟨m, e, hm, heq⟩ := h
    have he := Representable.quantum_le hpos hm heq
    have hgrid : x = ((m : ℤ) : K) * 2 ^ e := by rw [heq, Int.cast_natCast]
    refine le_antisymm ?_ ?_
    · exact (roundTo_le_grid he hgrid.le).trans hgrid.ge
    · exact hgrid.le.trans (grid_le_roundTo he hgrid.ge)

theorem roundTo_representable (hp : 0 < p) (hx : 0 ≤ x) : Representable p (roundTo p x) := by
  have hq := two_zpow_pos (K := K) (quantum p x)
  have hnonneg : (0 : ℤ) ≤ nearestEven (x / 2 ^ quantum p x) :=
    le_nearestEven (by simpa using div_nonneg hx hq.le)
  obtain ⟨m, hm⟩ := Int.eq_ofNat_of_zero_le hnonneg
  have heq : roundTo p x = m * 2 ^ quantum p x := by rw [roundTo, hm, Int.cast_natCast]
  have hle : (m : K) ≤ 2 ^ p := by
    have hbound := roundTo_le_zpow_log p x
    have hexp : Int.log 2 x + 1 = p + quantum p x := by
      unfold quantum
      ring
    rw [heq, hexp, two_zpow_add, zpow_natCast] at hbound
    exact le_of_mul_le_mul_right hbound hq
  have hnat : m ≤ 2 ^ p := by exact_mod_cast hle
  rcases hnat.lt_or_eq with hlt | htop
  · exact ⟨m, quantum p x, hlt, heq⟩
  · -- the significand has carried into the next power of two
    refine ⟨1, p + quantum p x, Nat.one_lt_two_pow hp.ne', ?_⟩
    rw [heq, htop, two_zpow_add, zpow_natCast]
    push_cast
    ring

theorem roundTo_le (hp : 0 < p) (hx : 0 ≤ x) (hy : Representable p y) (h : x ≤ y) :
    roundTo p x ≤ y := by
  have hmono := roundTo_monotone hp hx h
  rwa [roundTo_of_representable (hx.trans h) hy] at hmono

omit [LinearOrder K] [IsStrictOrderedRing K] [FloorRing K] in
theorem Representable.mono {q : ℕ} (h : Representable p x) (hpq : p ≤ q) : Representable q x := by
  obtain ⟨m, e, hm, heq⟩ := h
  exact ⟨m, e, hm.trans_le (Nat.pow_le_pow_right two_pos hpq), heq⟩

omit [FloorRing K] in
/-- A power of two moves the point and nothing else. -/
theorem Representable.mul_zpow (h : Representable p x) (k : ℤ) : Representable p (x * 2 ^ k) := by
  obtain ⟨m, e, hm, heq⟩ := h
  exact ⟨m, e + k, hm, by rw [heq, two_zpow_add, mul_assoc]⟩

omit [FloorRing K] in
theorem Representable.div_two_pow (h : Representable p x) (k : ℕ) :
    Representable p (x / 2 ^ k) := by
  have hscale : x / 2 ^ k = x * 2 ^ (-(k : ℤ)) := by
    rw [zpow_neg, zpow_natCast, div_eq_mul_inv]
  rw [hscale]
  exact h.mul_zpow _

theorem roundTo_div_two_pow (hx : 0 ≤ x) (h : Representable p x) (k : ℕ) :
    roundTo p (x / 2 ^ k) = x / 2 ^ k :=
  roundTo_of_representable (by positivity) (h.div_two_pow k)

omit [LinearOrder K] [IsStrictOrderedRing K] [FloorRing K] in
theorem representable_zpow (hp : 0 < p) (e : ℤ) : Representable p ((2 : K) ^ e) :=
  ⟨1, e, Nat.one_lt_two_pow hp.ne', by simp⟩

omit [LinearOrder K] [IsStrictOrderedRing K] [FloorRing K] in
/-- A multiple of `2 ^ k` has room for `k` bits more. -/
theorem representable_of_dvd {n k : ℕ} (hp : 0 < p) (hdvd : 2 ^ k ∣ n) (h : n ≤ 2 ^ (p + k)) :
    Representable p (n : K) := by
  obtain ⟨m, rfl⟩ := hdvd
  rw [pow_add, mul_comm (2 ^ p)] at h
  have hm : m ≤ 2 ^ p := Nat.le_of_mul_le_mul_left h (Nat.two_pow_pos k)
  rcases hm.lt_or_eq with hlt | rfl
  · refine ⟨m, k, hlt, ?_⟩
    rw [zpow_natCast, mul_comm]
    push_cast
    rfl
  · have hpow : ((2 ^ k * 2 ^ p : ℕ) : K) = 2 ^ ((k + p : ℕ) : ℤ) := by
      rw [zpow_natCast, pow_add]
      push_cast
      rfl
    rw [hpow]
    exact representable_zpow hp _

omit [LinearOrder K] [IsStrictOrderedRing K] [FloorRing K] in
theorem representable_natCast {n : ℕ} (hp : 0 < p) (h : n ≤ 2 ^ p) : Representable p (n : K) :=
  representable_of_dvd (k := 0) hp (one_dvd n) h

/-- A whole number is rounded to a whole number. -/
theorem roundTo_natCast (hp : 0 < p) (n : ℕ) : ∃ m : ℕ, roundTo p (n : K) = m := by
  rcases le_or_gt n (2 ^ p) with hle | hgt
  · exact ⟨n, roundTo_of_representable n.cast_nonneg (representable_natCast hp hle)⟩
  · have hn : (0 : K) < n := Nat.cast_pos.mpr ((Nat.two_pow_pos p).trans hgt)
    have hlog : (p : ℤ) ≤ Int.log 2 (n : K) := by
      rw [← Int.zpow_le_iff_le_log one_lt_two hn]
      have hcast : ((2 ^ p : ℕ) : K) ≤ n := by exact_mod_cast hgt.le
      simpa using hcast
    obtain ⟨q, hq⟩ := Int.eq_ofNat_of_zero_le (show 0 ≤ quantum p (n : K) by unfold quantum; omega)
    obtain ⟨m, hm⟩ := Int.eq_ofNat_of_zero_le (le_nearestEven (k := 0)
      (show ((0 : ℤ) : K) ≤ n / 2 ^ quantum p (n : K) by
        simpa using div_nonneg hn.le (two_zpow_pos _).le))
    refine ⟨m * 2 ^ q, ?_⟩
    rw [roundTo, hm, hq]
    push_cast
    rw [zpow_natCast]

/-! ## Where rounding reaches a bound -/

theorem roundTo_le_even_iff {k : ℤ} (hk : k % 2 = 0) :
    roundTo p x ≤ k * 2 ^ quantum p x ↔ x ≤ k * 2 ^ quantum p x + 2 ^ (quantum p x - 1) := by
  have hq := two_zpow_pos (K := K) (quantum p x)
  have hhalf : (2 : K) ^ (quantum p x - 1) = 1 / 2 * 2 ^ quantum p x := by
    rw [zpow_sub_one₀ two_ne_zero]
    ring
  have hscale : x / 2 ^ quantum p x ≤ k + 1 / 2 ↔ x ≤ (k + 1 / 2) * 2 ^ quantum p x :=
    div_le_iff₀ hq
  rw [hhalf, ← add_mul, ← hscale, ← nearestEven_le_iff_of_even hk, roundTo,
    mul_le_mul_iff_left₀ hq, Int.cast_le]

theorem even_le_roundTo_iff {k : ℤ} (hk : k % 2 = 0) :
    k * 2 ^ quantum p x ≤ roundTo p x ↔ k * 2 ^ quantum p x ≤ x + 2 ^ (quantum p x - 1) := by
  have hq := two_zpow_pos (K := K) (quantum p x)
  have hhalf : (2 : K) ^ (quantum p x - 1) = 1 / 2 * 2 ^ quantum p x := by
    rw [zpow_sub_one₀ two_ne_zero]
    ring
  rw [hhalf, roundTo, mul_le_mul_iff_left₀ hq, Int.cast_le, le_nearestEven_iff_of_even hk,
    ← le_div_iff₀ hq, add_div, mul_div_cancel_right₀ _ hq.ne']

/-- Half a place of a whole number, in whole numbers: less than one without effect. -/
theorem le_add_half_place_iff (p n j : ℕ) :
    (j : K) ≤ n + 2 ^ (quantum p (n : K) - 1) ↔ j ≤ n + 2 ^ Nat.log 2 n / 2 ^ p := by
  have hexp : quantum p (n : K) - 1 = (Nat.log 2 n : ℤ) - p := by
    rw [quantum, Int.log_natCast]
    ring
  rw [hexp]
  rcases le_or_gt p (Nat.log 2 n) with hle | hlt
  · have hpow : (2 : K) ^ ((Nat.log 2 n : ℤ) - p) = ((2 ^ Nat.log 2 n / 2 ^ p : ℕ) : K) := by
      rw [Nat.pow_div hle two_pos, ← Nat.cast_sub hle, zpow_natCast]
      push_cast
      rfl
    rw [hpow]
    exact_mod_cast Iff.rfl
  · have hsmall : (2 : K) ^ ((Nat.log 2 n : ℤ) - p) < 1 := zpow_lt_one_of_neg₀ one_lt_two (by omega)
    have hpos := two_zpow_pos (K := K) ((Nat.log 2 n : ℤ) - p)
    rw [Nat.div_eq_of_lt (Nat.pow_lt_pow_right one_lt_two hlt), add_zero]
    constructor
    · intro h
      have hcast : (j : K) < (n + 1 : ℕ) := by
        push_cast
        linarith
      exact Nat.lt_succ_iff.mp (by exact_mod_cast hcast)
    · intro h
      have hcast : (j : K) ≤ n := by exact_mod_cast h
      linarith

/-- Truncating to multiples of a larger power of two after rounding is the same as
adding half a place before it. -/
theorem natFloor_roundTo_div {n s : ℕ} (hs : Nat.log 2 n + 2 ≤ p + s) :
    ⌊roundTo p (n : K) / 2 ^ s⌋₊ = (n + 2 ^ Nat.log 2 n / 2 ^ p) / 2 ^ s := by
  have hround := roundTo_nonneg (K := K) p n.cast_nonneg
  have hq := two_zpow_pos (K := K) (quantum p (n : K))
  have hplace : quantum p (n : K) + 1 ≤ s := by
    rw [quantum, Int.log_natCast]
    omega
  refine eq_of_forall_le_iff fun j => ?_
  -- the multiples of `2 ^ s` are even multiples of the last place
  have hgrid := mul_zpow_div (K := K) j s (quantum p (n : K)) (by omega)
  rw [eq_div_iff hq.ne', zpow_natCast] at hgrid
  have heven : ((j : ℤ) * 2 ^ ((s : ℤ) - quantum p (n : K)).toNat) % 2 = 0 := by
    obtain ⟨t, ht⟩ : ∃ t, ((s : ℤ) - quantum p (n : K)).toNat = t + 1 :=
      ⟨((s : ℤ) - quantum p (n : K)).toNat - 1, by omega⟩
    rw [ht, pow_succ, ← mul_assoc]
    omega
  have hiff := even_le_roundTo_iff (p := p) (x := (n : K)) heven
  have hcast : ((j : ℤ) : K) * 2 ^ s = ((j * 2 ^ s : ℕ) : K) := by push_cast; rfl
  rw [hgrid, hcast, le_add_half_place_iff] at hiff
  rw [Nat.le_floor_iff (by positivity), Nat.le_div_iff_mul_le (Nat.two_pow_pos s),
    le_div_iff₀ (by positivity), ← hiff]
  push_cast
  exact Iff.rfl

/-- A power of two takes what is up to half a place above it. -/
theorem roundTo_le_zpow_iff (hp : 2 ≤ p) (hx : 0 < x) (k : ℤ) :
    roundTo p x ≤ 2 ^ (p + k) ↔ x ≤ 2 ^ (p + k) + 2 ^ k := by
  have hk := two_zpow_pos (K := K) k
  rcases lt_trichotomy (Int.log 2 x) (p + k) with hlt | heq | hgt
  · have hbelow : (2 : K) ^ (Int.log 2 x + 1) ≤ 2 ^ (p + k) := zpow_le_zpow_right₀ one_le_two hlt
    constructor
    · intro _
      exact ((lt_two_zpow_log x).le.trans hbelow).trans (by linarith)
    · intro _
      exact (roundTo_le_zpow_log p x).trans hbelow
  · have hquantum : quantum p x = k + 1 := by
      unfold quantum
      omega
    obtain ⟨r, rfl⟩ : ∃ r, p = r + 2 := ⟨p - 2, by omega⟩
    have heven : (2 ^ (r + 1) : ℤ) % 2 = 0 := by omega
    have hpow : (2 : K) ^ (((r + 2 : ℕ) : ℤ) + k) = ((2 ^ (r + 1) : ℤ) : K) * 2 ^ (k + 1) := by
      push_cast
      rw [← zpow_natCast, ← two_zpow_add]
      congr 1
      push_cast
      ring
    have hiff := roundTo_le_even_iff (p := r + 2) (x := x) heven
    rwa [hquantum, add_sub_cancel_right, ← hpow] at hiff
  · have habove : (2 : K) ^ (p + k + 1) ≤ 2 ^ Int.log 2 x := zpow_le_zpow_right₀ one_le_two hgt
    rw [zpow_add_one₀ two_ne_zero] at habove
    have htop := two_zpow_pos (K := K) (p + k)
    have hbig : (2 : K) ^ k < 2 ^ (p + k) := zpow_lt_zpow_right₀ one_lt_two (by omega)
    constructor
    · intro h
      have hround := zpow_log_le_roundTo (p := p) (by omega) hx
      linarith
    · intro h
      have hlog := two_zpow_log_le hx
      linarith

/-- Less than half a place is lost in an addition. -/
theorem roundTo_add_absorbed {k : ℤ} (hx : Representable p x) (hlow : 2 ^ (p + k) ≤ x)
    (hy : 0 ≤ y) (hyk : y < 2 ^ k) : roundTo p (x + y) = x := by
  obtain ⟨m, e, hm, heq⟩ := hx
  have hsum : 0 < x + y := add_pos_of_pos_of_nonneg ((two_zpow_pos _).trans_le hlow) hy
  -- the sum stays below the power of two that bounds `x`, so `x` is on its grid
  have hroom : x + 2 ^ e ≤ 2 ^ (p + e) := by
    have hcast : (m : K) + 1 ≤ 2 ^ p := by exact_mod_cast hm
    rw [heq, two_zpow_add, zpow_natCast, ← add_one_mul]
    exact mul_le_mul_of_nonneg_right hcast (two_zpow_pos e).le
  have hexp : p + k < p + e := by
    rw [← zpow_lt_zpow_iff_right₀ (one_lt_two (α := K))]
    have he := two_zpow_pos (K := K) e
    linarith
  have hstep : (2 : K) ^ k ≤ 2 ^ e := zpow_le_zpow_right₀ one_le_two (by omega)
  have hgrid : quantum p (x + y) ≤ e := quantum_le_of_lt hsum (by linarith)
  have hlog : p + k ≤ Int.log 2 (x + y) := by
    rw [← Int.zpow_le_iff_le_log one_lt_two hsum]
    push_cast
    linarith
  have hq := two_zpow_pos (K := K) (quantum p (x + y))
  have hhalf : y / 2 ^ quantum p (x + y) < 1 / 2 := by
    have hpow : (2 : K) ^ (k + 1) ≤ 2 ^ quantum p (x + y) :=
      zpow_le_zpow_right₀ one_le_two (by unfold quantum; omega)
    rw [zpow_add_one₀ two_ne_zero] at hpow
    rw [div_lt_iff₀ hq]
    linarith
  have hint := mul_zpow_div (K := K) m e _ hgrid
  rw [Int.cast_natCast, ← heq] at hint
  rw [roundTo, add_div, ← hint, nearestEven_add_of_lt _ (div_nonneg hy hq.le) hhalf, hint,
    div_mul_cancel₀ x hq.ne']

end ATV2Utils.Lib.Floating
