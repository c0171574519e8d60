import Mathlib.Data.List.Basic

/-! # Runs of a deterministic machine

A step takes a state and an input to the next state and an output. What is asked
of every step of a run is asked of the state the step is taken in; where that
depends on a part of the state that moves by a function of its own, the run is
followed through this part alone. -/
namespace ATV2Utils.Lib.Machine

variable {σ ι ο τ : Type*} {step : σ → ι → σ × ο}

/-- The state a run ends in. -/
def after (step : σ → ι → σ × ο) (s : σ) (run : List ι) : σ :=
  run.foldl (fun s i => (step s i).1) s

theorem after_cons (s : σ) (i : ι) (run : List ι) :
    after step s (i :: run) = after step (step s i).1 run := rfl

/-- What every step keeps, every run keeps. -/
theorem after_invariant {P : σ → Prop} (h : ∀ s i, P s → P (step s i).1) {s : σ} (hs : P s)
    (run : List ι) : P (after step s run) := by
  induction run generalizing s with
  | nil => exact hs
  | cons i run ih => exact ih (h s i hs)

/-- `P` holds of every step of the run: of the state it is taken in and its input. -/
def AtEveryStep (step : σ → ι → σ × ο) (P : σ → ι → Prop) (s : σ) (run : List ι) : Prop :=
  ∀ pre i post, run = pre ++ i :: post → P (after step s pre) i

section Observe
variable (obs : σ → τ) (move : τ → ι → τ) (h : ∀ s i, obs (step s i).1 = move (obs s) i)
include h

/-- A part of the state that moves by `move` alone is the fold of `move`. -/
theorem after_observe (s : σ) (run : List ι) :
    obs (after step s run) = run.foldl move (obs s) := by
  induction run generalizing s with
  | nil => rfl
  | cons i run ih => rw [after_cons, ih, h, List.foldl_cons]

/-- What depends on the observed part holds at every step when it holds of what
the inputs before the step have made of it. -/
theorem atEveryStep_observe {P : σ → ι → Prop} {Q : τ → ι → Prop}
    (hPQ : ∀ s i, P s i ↔ Q (obs s) i) (s : σ) (run : List ι) :
    AtEveryStep step P s run ↔
      ∀ pre i post, run = pre ++ i :: post → Q (pre.foldl move (obs s)) i := by
  unfold AtEveryStep
  refine forall_congr' fun pre => forall_congr' fun i => forall_congr' fun post =>
    imp_congr_right fun _ => ?_
  rw [hPQ, after_observe obs move h]

end Observe

end ATV2Utils.Lib.Machine
