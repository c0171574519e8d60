import Mathlib.Data.List.Basic

/-! # Machines that may fault, and what they stand for

A machine whose steps may fault is followed by an automaton that says when. When
each step faults exactly where the automaton stops, and otherwise leads to a
state the automaton's next state describes, so does every run. -/
namespace ATV2Utils.Lib.Simulation

variable {σ τ ι ε : Type*}

/-- A state described by the automaton's, or a fault where the automaton stops. -/
def Matches (R : σ → τ → Prop) : Except ε σ → Option τ → Prop
  | .ok s, some t => R s t
  | .error _, none => True
  | _, _ => False

variable {R : σ → τ → Prop} {step : σ → ι → Except ε σ} {follow : τ → ι → Option τ}

theorem Matches.ok {s : σ} {t : τ} (h : R s t) : Matches R (.ok s : Except ε σ) (some t) := h

theorem Matches.fault {e : ε} : Matches R (.error e : Except ε σ) (none : Option τ) := trivial

theorem Matches.fault_of {r : Except ε σ} (h : ∀ s, r ≠ .ok s) : Matches R r (none : Option τ) := by
  cases r with
  | error e => exact trivial
  | ok s => exact absurd rfl (h s)

theorem Matches.error_of_none {r : Except ε σ} (h : Matches R r (none : Option τ)) : ∃ e, r = .error e := by
  cases r with
  | error e => exact ⟨e, rfl⟩
  | ok s => exact h.elim

theorem Matches.state_of_some {r : Except ε σ} {t : τ} (h : Matches R r (some t)) :
    ∃ s, r = .ok s ∧ R s t := by
  cases r with
  | error e => exact h.elim
  | ok s => exact ⟨s, rfl, h⟩

/-- Every run faults exactly where the automaton stops. -/
theorem matches_run (h : ∀ s t i, R s t → Matches R (step s i) (follow t i)) {s : σ} {t : τ}
    (hst : R s t) (run : List ι) : Matches R (run.foldlM step s) (run.foldlM follow t) := by
  induction run generalizing s t with
  | nil => exact hst
  | cons i run ih =>
    have hstep := h s t i hst
    rw [List.foldlM_cons, List.foldlM_cons]
    cases hs : step s i with
    | error e =>
      cases ht : follow t i with
      | none => exact trivial
      | some t' =>
        rw [hs, ht] at hstep
        exact hstep.elim
    | ok s' =>
      cases ht : follow t i with
      | none =>
        rw [hs, ht] at hstep
        exact hstep.elim
      | some t' =>
        rw [hs, ht] at hstep
        exact ih hstep

theorem Matches.fault_iff {r : Except ε σ} {a : Option τ} (h : Matches R r a) :
    (∃ e, r = .error e) ↔ a = none := by
  cases r with
  | error e =>
    cases a with
    | none => exact ⟨fun _ => rfl, fun _ => ⟨e, rfl⟩⟩
    | some t => exact h.elim
  | ok s =>
    cases a with
    | none => exact h.elim
    | some t => simp

theorem Matches.related {s : σ} {a : Option τ} (h : Matches R (.ok s : Except ε σ) a) :
    ∃ t, a = some t ∧ R s t := by
  cases a with
  | none => exact h.elim
  | some t => exact ⟨t, rfl, h⟩

end ATV2Utils.Lib.Simulation
