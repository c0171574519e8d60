import Mathlib.Data.List.Induction

/-! # The first match and the last writer of a walk

A walk along a sequence that assigns a variable at every entry passing a test
leaves the assignment of the last such entry; a walk that returns at the first
such entry leaves the first. Both are read off the filtered sequence, so the
entries that fail the test can be dropped or moved at will. -/
namespace ATV2Utils.Lib.Scan

variable {α β γ : Type*}

/-- The last entry that passes the test. -/
def lastMatch (p : α → Bool) (l : List α) : Option α := (l.filter p).getLast?

@[simp] theorem lastMatch_nil (p : α → Bool) : lastMatch p [] = none := rfl

theorem lastMatch_concat (p : α → Bool) (l : List α) (x : α) :
    lastMatch p (l ++ [x]) = if p x then some x else lastMatch p l := by
  unfold lastMatch
  by_cases hx : p x = true <;> simp [List.filter_append, hx]

theorem lastMatch_some {p : α → Bool} {l : List α} {x : α} (h : lastMatch p l = some x) :
    x ∈ l ∧ p x = true :=
  List.mem_filter.mp (List.mem_of_getLast? h)

theorem lastMatch_eq_none_iff {p : α → Bool} {l : List α} :
    lastMatch p l = none ↔ ∀ x ∈ l, p x = false := by
  simp [lastMatch]

theorem lastMatch_isSome_iff {p : α → Bool} {l : List α} :
    (lastMatch p l).isSome ↔ ∃ x ∈ l, p x = true := by
  rw [Option.isSome_iff_ne_none, Ne, lastMatch_eq_none_iff]
  simp

/-- A weaker test finds the same entry when what it finds passes the stronger one. -/
theorem lastMatch_of_imp {p q : α → Bool} {l : List α} {x : α}
    (himp : ∀ y ∈ l, p y = true → q y = true) (h : lastMatch q l = some x) (hx : p x = true) :
    lastMatch p l = some x := by
  induction l using List.reverseRecOn with
  | nil => simp at h
  | append_singleton l y ih =>
    rw [lastMatch_concat] at h ⊢
    by_cases hq : q y = true
    · have hxy : y = x := by simpa [hq] using h
      subst hxy
      simp [hx]
    · have hp : p y ≠ true := fun hp => hq (himp y (by simp) hp)
      rw [if_neg hq] at h
      rw [if_neg hp]
      exact ih (fun z hz => himp z (by simp [hz])) h

/-- The walk that returns at the first passing entry. -/
theorem find?_eq_filter_head? (p : α → Bool) (l : List α) : l.find? p = (l.filter p).head? := by
  rw [List.head?_filter]

theorem find?_isSome_iff_lastMatch (p : α → Bool) (l : List α) :
    (l.find? p).isSome = (lastMatch p l).isSome := by
  rw [find?_eq_filter_head?, lastMatch]
  cases l.filter p <;> simp

/-- A variable overwritten at every passing entry holds the last one's value. -/
theorem foldl_overwrite (p : α → Bool) (f : α → β) (init : β) (l : List α) :
    l.foldl (fun acc x => if p x then f x else acc) init = ((lastMatch p l).map f).getD init := by
  induction l using List.reverseRecOn with
  | nil => rfl
  | append_singleton l x ih =>
    rw [List.foldl_append, lastMatch_concat]
    simp only [List.foldl_cons, List.foldl_nil, ih]
    split <;> rfl

/-- A variable overwritten at every entry holds the last entry's value. -/
theorem foldl_overwrite_always (f : α → β) (init : β) (l : List α) :
    l.foldl (fun _ x => f x) init = (l.getLast?.map f).getD init := by
  induction l using List.reverseRecOn with
  | nil => rfl
  | append_singleton l x _ => simp

/-- Two variables that do not read each other are folded apart. -/
theorem foldl_pair (f : β → α → β) (g : γ → α → γ) (b : β) (c : γ) (l : List α) :
    l.foldl (fun acc x => (f acc.1 x, g acc.2 x)) (b, c) = (l.foldl f b, l.foldl g c) := by
  induction l generalizing b c with
  | nil => rfl
  | cons x l ih => simpa using ih (f b x) (g c x)

end ATV2Utils.Lib.Scan
