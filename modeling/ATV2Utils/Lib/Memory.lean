import Mathlib.Data.List.Basic

/-! # Memory with dead cells

Addresses are handed out in order and never again; a freed cell stays dead. A use
of the null pointer, of a pointer that was never assigned or of a dead cell
faults, so a run without a fault is safe. An object with a retain count dies when
its last reference is released. -/
namespace ATV2Utils.Lib.Memory

variable {α : Type*}

inductive Fault where
  | null
  | uninitialised
  | dangling (address : Nat)
deriving DecidableEq, Repr

/-- `none` is the null pointer. -/
abbrev Pointer := Option Nat

structure Heap (α : Type*) where
  cells : List (Option α)
deriving DecidableEq, Repr

namespace Heap

def empty : Heap α := ⟨[]⟩

/-- How many cells were ever handed out. -/
def size (h : Heap α) : Nat := h.cells.length

/-- What a cell holds, if it is alive. -/
def get? (h : Heap α) (i : Nat) : Option α := h.cells[i]?.join

/-- How many cells are alive. -/
def live (h : Heap α) : Nat := h.cells.countP Option.isSome

def alloc (h : Heap α) (x : α) : Heap α := ⟨h.cells ++ [some x]⟩

def load (h : Heap α) : Pointer → Except Fault α
  | none => .error .null
  | some i =>
    match h.get? i with
    | some x => .ok x
    | none => .error (.dangling i)

def put (h : Heap α) (i : Nat) (x : Option α) : Heap α := ⟨h.cells.set i x⟩

def modify (h : Heap α) (p : Pointer) (f : α → α) : Except Fault (Heap α) :=
  match p with
  | none => .error .null
  | some i =>
    match h.get? i with
    | some x => .ok (h.put i (some (f x)))
    | none => .error (.dangling i)

def free (h : Heap α) (p : Pointer) : Except Fault (Heap α) :=
  match p with
  | none => .error .null
  | some i =>
    match h.get? i with
    | some _ => .ok (h.put i none)
    | none => .error (.dangling i)

/-! ## Cells -/

@[simp] theorem size_alloc (h : Heap α) (x : α) : (h.alloc x).size = h.size + 1 := by
  simp [size, alloc]

@[simp] theorem size_put (h : Heap α) (i : Nat) (x : Option α) : (h.put i x).size = h.size := by
  simp [size, put]

theorem lt_size {h : Heap α} {i : Nat} {x : α} (hx : h.get? i = some x) : i < h.size := by
  by_contra hge
  rw [get?, List.getElem?_eq_none (Nat.not_lt.mp hge)] at hx
  cases hx

theorem get?_beyond {h : Heap α} {i : Nat} (hi : h.size ≤ i) : h.get? i = none := by
  rw [get?, List.getElem?_eq_none hi]
  rfl

theorem get?_alloc (h : Heap α) (x : α) (i : Nat) :
    (h.alloc x).get? i = if i = h.size then some x else h.get? i := by
  rcases Nat.lt_trichotomy i h.cells.length with hlt | rfl | hgt
  · have hne : i ≠ h.size := Nat.ne_of_lt hlt
    rw [if_neg hne, get?, get?, alloc, List.getElem?_append_left hlt]
  · simp [get?, alloc, size]
  · have hne : i ≠ h.size := Nat.ne_of_gt hgt
    rw [if_neg hne, get?_beyond (h := h) (Nat.le_of_lt hgt), get?_beyond]
    rw [size_alloc]
    exact hgt

theorem get?_put {h : Heap α} {i : Nat} (hi : i < h.size) (x : Option α) (j : Nat) :
    (h.put i x).get? j = if j = i then x else h.get? j := by
  by_cases hj : j = i
  · subst hj
    rw [if_pos rfl, get?, put, List.getElem?_set_self hi]
    rfl
  · rw [if_neg hj, get?, get?, put, List.getElem?_set_ne (Ne.symm hj)]

theorem put_put (h : Heap α) (i : Nat) (x y : Option α) : (h.put i x).put i y = h.put i y := by
  simp [put]

/-- What is done to a new cell at once is done before it is handed out. -/
theorem put_alloc (h : Heap α) (x y : α) : (h.alloc x).put h.size (some y) = h.alloc y := by
  simp [put, alloc, size]

theorem get?_alloc_size (h : Heap α) (x : α) : (h.alloc x).get? h.size = some x := by
  rw [get?_alloc, if_pos rfl]

/-! ## Operations on a live cell -/

theorem load_some {h : Heap α} {i : Nat} {x : α} (hx : h.get? i = some x) :
    h.load (some i) = .ok x := by
  simp [load, hx]

theorem modify_some {h : Heap α} {i : Nat} {x : α} (hx : h.get? i = some x) (f : α → α) :
    h.modify (some i) f = .ok (h.put i (some (f x))) := by
  simp [modify, hx]

theorem free_some {h : Heap α} {i : Nat} {x : α} (hx : h.get? i = some x) :
    h.free (some i) = .ok (h.put i none) := by
  simp [free, hx]

/-! ## Operations on a dead cell -/

theorem load_dead {h : Heap α} {i : Nat} (hx : h.get? i = none) :
    h.load (some i) = .error (.dangling i) := by
  simp [load, hx]

theorem modify_dead {h : Heap α} {i : Nat} (hx : h.get? i = none) (f : α → α) :
    h.modify (some i) f = .error (.dangling i) := by
  simp [modify, hx]

/-! ## How many cells are alive -/

theorem live_eq_count {h : Heap α} {l : List Bool} (hsize : h.size = l.length)
    (hl : ∀ i o, l[i]? = some o → (h.get? i).isSome = o) : h.live = l.count true := by
  have hmap : h.cells.map Option.isSome = l := by
    refine List.ext_getElem (by rw [List.length_map]; exact hsize) fun i hi hi' => ?_
    rw [List.length_map] at hi
    rw [List.getElem_map, ← hl i _ (List.getElem?_eq_getElem hi'), get?,
      List.getElem?_eq_getElem hi]
    rfl
  rw [live, ← hmap, List.count, List.countP_map]
  exact List.countP_congr fun x _ => by simp

theorem live_eq_size {h : Heap α} (hall : ∀ i, i < h.size → (h.get? i).isSome) :
    h.live = h.size := by
  have hcount := live_eq_count (h := h) (l := List.replicate h.size true) (by simp) fun i o hi => by
    obtain ⟨hlt, rfl⟩ := List.getElem?_eq_some_iff.mp hi
    rw [List.length_replicate] at hlt
    rw [List.getElem_replicate]
    exact hall i hlt
  rw [hcount, List.count_replicate_self]

end Heap

/-- A computation that returns has returned from its first part. -/
theorem bind_ok {β γ : Type} {x : Except Fault β} {f : β → Except Fault γ} {c : γ}
    (h : (x >>= f) = .ok c) : ∃ b, x = .ok b ∧ f b = .ok c := by
  cases x with
  | error e => exact nomatch h
  | ok b => exact ⟨b, rfl, h⟩

theorem modify_ok {h h' : Heap α} {i : Nat} {f : α → α} (hm : h.modify (some i) f = .ok h') :
    ∃ x, h.get? i = some x ∧ h' = h.put i (some (f x)) := by
  cases hx : h.get? i with
  | none =>
    rw [Heap.modify_dead hx] at hm
    exact nomatch hm
  | some x =>
    rw [Heap.modify_some hx] at hm
    exact ⟨x, rfl, (Except.ok.inj hm).symm⟩

/-! ## Retain counts -/

/-- An object and how many references to it there are. -/
structure Counted (α : Type*) where
  retainCount : Nat
  object : α
deriving DecidableEq, Repr

/-- A new object belongs to the one who made it. -/
def create (h : Heap (Counted α)) (x : α) : Heap (Counted α) := h.alloc ⟨1, x⟩

def retain (h : Heap (Counted α)) (p : Pointer) : Except Fault (Heap (Counted α)) :=
  h.modify p fun c => { c with retainCount := c.retainCount + 1 }

def release (h : Heap (Counted α)) (p : Pointer) : Except Fault (Heap (Counted α)) := do
  let c ← h.load p
  if c.retainCount ≤ 1 then h.free p
  else h.modify p fun c => { c with retainCount := c.retainCount - 1 }

/-- What is done to the object itself. -/
def send (h : Heap (Counted α)) (p : Pointer) (f : α → α) : Except Fault (Heap (Counted α)) :=
  h.modify p fun c => { c with object := f c.object }

theorem release_shared {h : Heap (Counted α)} {i : Nat} {c : Counted α} (hc : h.get? i = some c)
    (hcount : 1 < c.retainCount) :
    release h (some i) =
      .ok (h.put i (some { c with retainCount := c.retainCount - 1 })) := by
  have hnot : ¬ c.retainCount ≤ 1 := Nat.not_le.mpr hcount
  simp only [release, Heap.load_some hc, bind, Except.bind, if_neg hnot, Heap.modify_some hc]

end ATV2Utils.Lib.Memory
