import Mathlib.Data.List.Basic

/-! # Answers by preference

What a lookup over several sources is for: an answer of the first source, in
order of preference, that has one, and a fallback when none has. A source is a
relation, since it may have several answers; nothing is computed here. -/
namespace ATV2Utils.Lib.Preference

variable {ν α : Type*}

/-- `a` is an answer of the first source of `names` that has any, or the fallback. -/
def Preferred (answers : ν → α → Prop) (fallback : α) : List ν → α → Prop
  | [], a => a = fallback
  | n :: ns, a => answers n a ∨ ((∀ b, ¬ answers n b) ∧ Preferred answers fallback ns a)

variable {answers : ν → α → Prop} {fallback : α}

theorem preferred_nil {a : α} : Preferred answers fallback [] a ↔ a = fallback := Iff.rfl

theorem preferred_head {n : ν} {ns : List ν} {a : α} (h : answers n a) :
    Preferred answers fallback (n :: ns) a := Or.inl h

theorem preferred_skip {n : ν} {ns : List ν} {a : α} (h : ∀ b, ¬ answers n b) :
    Preferred answers fallback (n :: ns) a ↔ Preferred answers fallback ns a :=
  ⟨fun hp => hp.elim (fun ha => absurd ha (h a)) And.right, fun hp => Or.inr ⟨h, hp⟩⟩

end ATV2Utils.Lib.Preference
