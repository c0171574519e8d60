import Mathlib.Data.List.Basic

/-! # Handlers that ask and may raise

A handler asks its surroundings for things one after the other, and ends with a
result or by raising. What it asked for before it raises stays asked. -/
namespace ATV2Utils.Lib.Handler

structure Traced (act ε α : Type) where
  asked : List act
  result : Except ε α

variable {act ε ε' α β : Type}

instance : Monad (Traced act ε) where
  pure x := ⟨[], .ok x⟩
  bind m f :=
    match m.result with
    | .ok x => ⟨m.asked ++ (f x).asked, (f x).result⟩
    | .error e => ⟨m.asked, .error e⟩

def ask (a : act) : Traced act ε Unit := ⟨[a], .ok ()⟩

def raise (e : ε) : Traced act ε α := ⟨[], .error e⟩

/-- A call that asks for nothing. -/
def silently (r : Except ε α) : Traced act ε α := ⟨[], r⟩

/-- What is raised, put into a wider type of errors. -/
def Traced.mapError (lift : ε → ε') (m : Traced act ε α) : Traced act ε' α :=
  ⟨m.asked, m.result.mapError lift⟩

@[simp] theorem result_pure (x : α) : (pure x : Traced act ε α).result = .ok x := rfl

@[simp] theorem result_ask (a : act) : (ask a : Traced act ε Unit).result = .ok () := rfl

@[simp] theorem result_raise (e : ε) : (raise e : Traced act ε α).result = .error e := rfl

theorem bind_of_ok {m : Traced act ε α} {x : α} (h : m.result = .ok x) (f : α → Traced act ε β) :
    m >>= f = ⟨m.asked ++ (f x).asked, (f x).result⟩ := by
  simp only [bind, h]

theorem bind_of_error {m : Traced act ε α} {e : ε} (h : m.result = .error e)
    (f : α → Traced act ε β) : m >>= f = ⟨m.asked, .error e⟩ := by
  simp only [bind, h]

/-- A result of two handlers in a row is one of the second. -/
theorem result_bind_ok {m : Traced act ε α} {f : α → Traced act ε β} {y : β}
    (h : (m >>= f).result = .ok y) : ∃ x, m.result = .ok x ∧ (f x).result = .ok y := by
  cases hm : m.result with
  | ok x =>
    rw [bind_of_ok hm] at h
    exact ⟨x, rfl, h⟩
  | error e =>
    rw [bind_of_error hm] at h
    cases h

@[simp] theorem silently_ok_bind (x : α) (f : α → Traced act ε β) :
    silently (.ok x) >>= f = f x := rfl

@[simp] theorem silently_error_bind (e : ε) (f : α → Traced act ε β) :
    silently (.error e) >>= f = raise e := rfl

/-- What two handlers in a row ask for. -/
theorem mem_asked_bind {m : Traced act ε α} {f : α → Traced act ε β} {a : act} :
    a ∈ (m >>= f).asked ↔ a ∈ m.asked ∨ ∃ x, m.result = .ok x ∧ a ∈ (f x).asked := by
  cases h : m.result with
  | ok x =>
    rw [bind_of_ok h, List.mem_append]
    refine or_congr_right ⟨fun ha => ⟨x, rfl, ha⟩, ?_⟩
    rintro ⟨y, hy, ha⟩
    obtain rfl := Except.ok.inj hy
    exact ha
  | error e =>
    rw [bind_of_error h]
    refine ⟨.inl, ?_⟩
    rintro (ha | ⟨x, hx, -⟩)
    · exact ha
    · cases hx

/-- A result of its own changes nothing of what a handler asks for. -/
theorem asked_bind_pure (m : Traced act ε α) (x : β) :
    (m >>= fun _ => pure x : Traced act ε β).asked = m.asked := by
  cases h : m.result with
  | ok y =>
    rw [bind_of_ok h]
    exact List.append_nil m.asked
  | error e => rw [bind_of_error h]

theorem except_mapError_ok_iff {lift : ε → ε'} {r : Except ε α} {x : α} :
    r.mapError lift = .ok x ↔ r = .ok x := by
  cases r with
  | ok y => exact ⟨fun h => congrArg Except.ok (Except.ok.inj h), fun h => h ▸ rfl⟩
  | error e => exact iff_of_false nofun nofun

end ATV2Utils.Lib.Handler
