import ATV2Utils.Lib.Floating
import Mathlib.Algebra.BigOperators.Group.List.Basic
import Mathlib.Data.List.Forall2

/-! # Adding up in floating point

A loop `total += x` over whole numbers, in which every addend is converted and
every sum is rounded. What it adds is exact as long as the sum fits the precision
over a common power of two; past that it loses a factor for each addend at most,
it can lose all of a small addend, and addends that are bounded bound the total
however many there are. -/
namespace ATV2Utils.Lib.Accumulate
open ATV2Utils.Lib.Floating

variable {K : Type*} [Field K] [LinearOrder K] [FloorRing K]

def addTo (p : ℕ) (total : K) (x : ℕ) : K := roundTo p (total + roundTo p (x : K))

def accumulate (p : ℕ) (total : K) (xs : List ℕ) : K := xs.foldl (addTo p) total

@[simp] theorem accumulate_nil (p : ℕ) (total : K) : accumulate p total [] = total := rfl

@[simp] theorem accumulate_cons (p : ℕ) (total : K) (x : ℕ) (xs : List ℕ) :
    accumulate p total (x :: xs) = accumulate p (addTo p total x) xs := rfl

theorem accumulate_append (p : ℕ) (total : K) (xs ys : List ℕ) :
    accumulate p total (xs ++ ys) = accumulate p (accumulate p total xs) ys :=
  List.foldl_append

variable [IsStrictOrderedRing K] {p : ℕ} {total sum : K} {xs : List ℕ}

/-! ## What every partial total is -/

theorem addTo_nonneg (p : ℕ) (h : 0 ≤ total) (x : ℕ) : 0 ≤ addTo p total x :=
  roundTo_nonneg p (by linarith [roundTo_nonneg (K := K) p x.cast_nonneg])

theorem addTo_representable (hp : 0 < p) (h : 0 ≤ total) (x : ℕ) :
    Representable p (addTo p total x) :=
  roundTo_representable hp (by linarith [roundTo_nonneg (K := K) p x.cast_nonneg])

theorem accumulate_nonneg (h : 0 ≤ total) : 0 ≤ accumulate p total xs := by
  induction xs generalizing total with
  | nil => exact h
  | cons x xs ih => exact ih (addTo_nonneg p h x)

theorem accumulate_representable (hp : 0 < p) (h : 0 ≤ total) (hr : Representable p total) :
    Representable p (accumulate p total xs) := by
  induction xs generalizing total with
  | nil => exact hr
  | cons x xs ih => exact ih (addTo_nonneg p h x) (addTo_representable hp h x)

/-! ## More is never less -/

theorem addTo_mono (hp : 0 < p) {total' : K} (h : 0 ≤ total) (htotal : total ≤ total')
    {x y : ℕ} (hxy : x ≤ y) : addTo p total x ≤ addTo p total' y := by
  have hround : roundTo p (x : K) ≤ roundTo p (y : K) :=
    roundTo_monotone hp x.cast_nonneg (by exact_mod_cast hxy)
  have hx := roundTo_nonneg (K := K) p x.cast_nonneg
  exact roundTo_monotone hp (by linarith) (by linarith)

theorem le_addTo (hp : 0 < p) (h : 0 ≤ total) (hr : Representable p total) (x : ℕ) :
    total ≤ addTo p total x := by
  have hx := roundTo_nonneg (K := K) p x.cast_nonneg
  have hmono := roundTo_monotone hp h (le_add_of_nonneg_right hx)
  rwa [roundTo_of_representable h hr] at hmono

theorem le_accumulate (hp : 0 < p) (h : 0 ≤ total) (hr : Representable p total) :
    total ≤ accumulate p total xs := by
  induction xs generalizing total with
  | nil => exact le_rfl
  | cons x xs ih =>
    exact (le_addTo hp h hr x).trans (ih (addTo_nonneg p h x) (addTo_representable hp h x))

/-- Addends that grow, and addends put in anywhere, do not make the total less. -/
theorem accumulate_mono (hp : 0 < p) {total' : K} (h : 0 ≤ total) (htotal : total ≤ total')
    (hr : Representable p total') {ys : List ℕ} (hxy : List.SublistForall₂ (· ≤ ·) xs ys) :
    accumulate p total xs ≤ accumulate p total' ys := by
  induction hxy generalizing total total' with
  | nil => exact htotal.trans (le_accumulate hp (h.trans htotal) hr)
  | cons hab _ ih =>
    exact ih (addTo_nonneg p h _) (addTo_mono hp h htotal hab)
      (addTo_representable hp (h.trans htotal) _)
  | cons_right _ ih =>
    exact ih h (htotal.trans (le_addTo hp (h.trans htotal) hr _))
      (addTo_representable hp (h.trans htotal) _)

/-! ## When it is exact -/

theorem addTo_exact {k n : ℕ} (hp : 0 < p) (hn : 2 ^ k ∣ n) (hx : 2 ^ k ∣ x)
    (h : n + x ≤ 2 ^ (p + k)) : addTo p (n : K) x = ((n + x : ℕ) : K) := by
  have hxr : roundTo p (x : K) = x :=
    roundTo_of_representable x.cast_nonneg (representable_of_dvd hp hx (by omega))
  rw [addTo, hxr, ← Nat.cast_add]
  exact roundTo_of_representable (Nat.cast_nonneg _) (representable_of_dvd hp (dvd_add hn hx) h)

/-- Multiples of `2 ^ k` add up exactly as long as the sum has `p` bits over it. -/
theorem accumulate_exact {k n : ℕ} (hp : 0 < p) (hn : 2 ^ k ∣ n) (hxs : ∀ x ∈ xs, 2 ^ k ∣ x)
    (h : n + xs.sum ≤ 2 ^ (p + k)) : accumulate p (n : K) xs = ((n + xs.sum : ℕ) : K) := by
  induction xs generalizing n with
  | nil => simp
  | cons x xs ih =>
    rw [List.sum_cons, ← add_assoc] at h
    have hx : 2 ^ k ∣ x := hxs x (List.mem_cons_self ..)
    rw [accumulate_cons, addTo_exact hp hn hx (by omega), List.sum_cons, ← add_assoc]
    exact ih (dvd_add hn hx) (fun y hy => hxs y (List.mem_cons_of_mem x hy)) h

/-! ## How far off it is -/

/-- `n` roundings away from `sum`, in either direction. -/
structure Near (p n : ℕ) (sum total : K) : Prop where
  low : (1 - 1 / 2 ^ p) ^ n * sum ≤ total
  high : total ≤ (1 + 1 / 2 ^ p) ^ n * sum

theorem roundTo_near (p : ℕ) (h : 0 ≤ sum) : Near p 1 sum (roundTo p sum) := by
  obtain ⟨hlow, hhigh⟩ := roundTo_bounds p h
  exact ⟨by rwa [pow_one], by rwa [pow_one]⟩

theorem one_div_two_pow_le_one (p : ℕ) : (1 : K) / 2 ^ p ≤ 1 := by
  rw [div_le_one (by positivity)]
  exact one_le_pow₀ one_le_two

/-- An addition costs one rounding more, of the total and of the addend alike. -/
theorem Near.step {n : ℕ} (h : Near p (n + 1) sum total) (htotal : 0 ≤ total) (x : ℕ) :
    Near p (n + 2) (sum + x) (addTo p total x) := by
  have hx : (0 : K) ≤ x := x.cast_nonneg
  have hround := roundTo_nonneg p hx
  obtain ⟨hxlow, hxhigh⟩ := roundTo_bounds p hx
  obtain ⟨hlow, hhigh⟩ := roundTo_bounds p (add_nonneg htotal hround)
  have hunit := one_div_two_pow_le_one (K := K) p
  have hpos : (0 : K) ≤ 1 / 2 ^ p := by positivity
  constructor
  · have hpow : (1 - 1 / 2 ^ p : K) ^ (n + 1) ≤ 1 - 1 / 2 ^ p :=
      pow_le_of_le_one (by linarith) (by linarith) (by omega)
    have hxn : (1 - 1 / 2 ^ p : K) ^ (n + 1) * x ≤ roundTo p (x : K) :=
      (mul_le_mul_of_nonneg_right hpow hx).trans hxlow
    calc (1 - 1 / 2 ^ p) ^ (n + 2) * (sum + x)
        = (1 - 1 / 2 ^ p) * ((1 - 1 / 2 ^ p) ^ (n + 1) * sum +
            (1 - 1 / 2 ^ p) ^ (n + 1) * x) := by ring
      _ ≤ (1 - 1 / 2 ^ p) * (total + roundTo p (x : K)) :=
          mul_le_mul_of_nonneg_left (add_le_add h.low hxn) (by linarith)
      _ ≤ addTo p total x := hlow
  · have hpow : (1 + 1 / 2 ^ p : K) ≤ (1 + 1 / 2 ^ p) ^ (n + 1) :=
      le_self_pow₀ (by linarith) (by omega)
    have hxn : roundTo p (x : K) ≤ (1 + 1 / 2 ^ p) ^ (n + 1) * x :=
      hxhigh.trans (mul_le_mul_of_nonneg_right hpow hx)
    calc addTo p total x
        ≤ (1 + 1 / 2 ^ p) * (total + roundTo p (x : K)) := hhigh
      _ ≤ (1 + 1 / 2 ^ p) * ((1 + 1 / 2 ^ p) ^ (n + 1) * sum +
            (1 + 1 / 2 ^ p) ^ (n + 1) * x) :=
          mul_le_mul_of_nonneg_left (add_le_add h.high hxn) (by linarith)
      _ = (1 + 1 / 2 ^ p) ^ (n + 2) * (sum + x) := by ring

theorem Near.steps {n : ℕ} (h : Near p (n + 1) sum total) (htotal : 0 ≤ total) :
    Near p (n + 1 + xs.length) (sum + (xs.sum : ℕ)) (accumulate p total xs) := by
  induction xs generalizing n sum total with
  | nil => simpa using h
  | cons x xs ih =>
    have hrest := ih (h.step htotal x) (addTo_nonneg p htotal x)
    have hcount : n + 1 + (xs.length + 1) = n + 1 + 1 + xs.length := by omega
    rw [List.length_cons, List.sum_cons, Nat.cast_add, ← add_assoc sum, hcount]
    exact hrest

/-- Each addend costs one rounding. -/
theorem accumulate_near (hp : 0 < p) (xs : List ℕ) :
    Near p xs.length ((xs.sum : ℕ) : K) (accumulate p 0 xs) := by
  cases xs with
  | nil => exact ⟨by simp, by simp⟩
  | cons x xs =>
    have hx : (0 : K) ≤ x := x.cast_nonneg
    -- the first sum is with zero, and is not rounded again
    have hfirst : addTo p (0 : K) x = roundTo p (x : K) := by
      rw [addTo, zero_add]
      exact roundTo_of_representable (roundTo_nonneg p hx) (roundTo_representable hp hx)
    have hnear : Near p (0 + 1 + xs.length) ((x : K) + (xs.sum : ℕ))
        (accumulate p (roundTo p (x : K)) xs) := (roundTo_near p hx).steps (roundTo_nonneg p hx)
    rw [accumulate_cons, hfirst, List.length_cons, List.sum_cons, Nat.cast_add]
    rwa [zero_add, add_comm 1] at hnear

/-! ## Small addends -/

/-- Once the total has `p` bits over `2 ^ k`, addends below `2 ^ k` are lost. -/
theorem accumulate_absorbed {k : ℕ} (hp : 0 < p) (hk : k ≤ p) (hr : Representable p total)
    (hlow : 2 ^ (p + k) ≤ total) (hxs : ∀ x ∈ xs, x < 2 ^ k) : accumulate p total xs = total := by
  induction xs with
  | nil => rfl
  | cons x xs ih =>
    have hx := hxs x (List.mem_cons_self ..)
    have hxr : roundTo p (x : K) = x := by
      have hxp : x ≤ 2 ^ p := hx.le.trans (Nat.pow_le_pow_right two_pos hk)
      exact roundTo_of_representable x.cast_nonneg (representable_natCast hp hxp)
    have hlost : addTo p total x = total := by
      rw [addTo, hxr]
      refine roundTo_add_absorbed (k := k) hr ?_ x.cast_nonneg ?_
      · rwa [← Nat.cast_add, zpow_natCast]
      · rw [zpow_natCast]
        exact_mod_cast hx
    rw [accumulate_cons, hlost]
    exact ih fun y hy => hxs y (List.mem_cons_of_mem x hy)

/-- However many addends there are, none of which exceeds `2 ^ k`, the total
stops at the power of two from which on they are lost. -/
theorem accumulate_le {k : ℕ} (hp : 2 ≤ p) (h : 0 ≤ total) (htop : total ≤ 2 ^ (p + k))
    (hxs : ∀ x ∈ xs, x ≤ 2 ^ k) : accumulate p total xs ≤ 2 ^ (p + k) := by
  induction xs generalizing total with
  | nil => exact htop
  | cons x xs ih =>
    refine ih (addTo_nonneg p h x) ?_ fun y hy => hxs y (List.mem_cons_of_mem x hy)
    have hx : (x : K) ≤ 2 ^ k := by exact_mod_cast hxs x (List.mem_cons_self ..)
    have hxr : roundTo p (x : K) ≤ 2 ^ k := by
      have hpow := representable_zpow (K := K) (p := p) (by omega) k
      rw [zpow_natCast] at hpow
      exact roundTo_le (by omega) x.cast_nonneg hpow hx
    have hround := roundTo_nonneg (K := K) p x.cast_nonneg
    have hbound := roundTo_le_zpow_iff (K := K) (p := p) (x := total + roundTo p (x : K)) hp
    rcases (add_nonneg h hround).eq_or_lt with hzero | hpos
    · rw [addTo, ← hzero, roundTo_zero]
      positivity
    · have hiff := hbound hpos k
      rw [← Nat.cast_add, zpow_natCast, zpow_natCast] at hiff
      exact hiff.mpr (by linarith)

end ATV2Utils.Lib.Accumulate
