import ATV2Utils.Lib.Hex

/-! # Reading numbers of two hexadecimal digits

The `%2x` conversion of `sscanf`, and a row of conversions that ends with the
first failure. Text that spells bytes is read as these bytes. -/
namespace ATV2Utils.Lib.Scanf
open ATV2Utils.Lib.Hex

def isSpace (c : Char) : Bool := [' ', '\t', '\n', '\x0b', '\x0c', '\r'].contains c

/-- `%2x` on text in which no digit follows a minus sign: white space is skipped,
then two characters at most are taken, a plus sign among them. A second character
that is no digit stays in the input, as the `x` of `0x` does. -/
def scanHex2 (input : List Char) : Option (Nat × List Char) :=
  match input.dropWhile isSpace with
  | [] => none
  | c :: rest =>
    if c = '+' then
      match rest with
      | [] => none
      | d :: rest => (hexValue d).map fun v => (v, rest)
    else
      match hexValue c with
      | none => none
      | some v =>
        match rest with
        | [] => some (v, [])
        | d :: after =>
          match hexValue d with
          | none => some (v, d :: after)
          | some w => some (16 * v + w, after)

/-- What up to `n` conversions store, in order. -/
def scanMany {α : Type} (conversion : List Char → Option (α × List Char)) :
    Nat → List Char → List α
  | 0, _ => []
  | n + 1, input =>
    match conversion input with
    | none => []
    | some (v, rest) => v :: scanMany conversion n rest

theorem not_isSpace_of_hexValue {c : Char} {v : Nat} (h : hexValue c = some v) :
    isSpace c = false := by
  have hlow := (hexValue_some h).2.1
  refine Bool.eq_false_iff.mpr fun hspace => ?_
  have hmem : c ∈ [' ', '\t', '\n', '\x0b', '\x0c', '\r'] := List.contains_iff_mem.mp hspace
  simp only [List.mem_cons, List.not_mem_nil, or_false] at hmem
  -- every white space character comes before the digits
  rcases hmem with rfl | rfl | rfl | rfl | rfl | rfl <;> exact absurd hlow (by decide)

theorem scanHex2_pair {a b : Char} {v w : Nat} (ha : hexValue a = some v) (hb : hexValue b = some w)
    (rest : List Char) : scanHex2 (a :: b :: rest) = some (16 * v + w, rest) := by
  have hplus : a ≠ '+' := ne_of_hexValue ha rfl
  simp only [scanHex2, List.dropWhile_cons, not_isSpace_of_hexValue ha, if_neg hplus, ha, hb,
    Bool.false_eq_true, if_false]

/-- Neither skipped nor taken for a sign. -/
def Plain (c : Char) : Prop := isSpace c = false ∧ c ≠ '+'

instance (c : Char) : Decidable (Plain c) := inferInstanceAs (Decidable (_ ∧ _))

/-- What a conversion makes of its first digit and the text behind it. -/
def afterDigit (v : Nat) : List Char → Nat × List Char
  | [] => (v, [])
  | d :: after => ((hexValue d).map fun w => (16 * v + w, after)).getD (v, d :: after)

theorem plain_of_hexValue {c : Char} {v : Nat} (h : hexValue c = some v) : Plain c :=
  ⟨not_isSpace_of_hexValue h, ne_of_hexValue h rfl⟩

/-- A conversion that stores something from plain text has met a digit. -/
theorem scanHex2_plain {c : Char} (h : Plain c) (rest : List Char) :
    scanHex2 (c :: rest) = (hexValue c).map fun v => afterDigit v rest := by
  simp only [scanHex2, List.dropWhile_cons, h.1, if_neg h.2, Bool.false_eq_true, if_false]
  cases hexValue c with
  | none => rfl
  | some v =>
    cases rest with
    | nil => rfl
    | cons d after => cases hd : hexValue d <;> simp [afterDigit, hd]

theorem scanMany_append {s : List Char} {bs : List UInt8} (h : decode s = some bs) (n : Nat)
    (rest : List Char) :
    scanMany scanHex2 (bs.length + n) (s ++ rest) =
      bs.map UInt8.toNat ++ scanMany scanHex2 n rest := by
  induction s using decode.induct generalizing bs with
  | case1 =>
    obtain rfl := Option.some.inj h
    simp
  | case2 c => cases h
  | case3 a b s v w hb ha ih =>
    simp only [decode, ha, hb] at h
    obtain ⟨cs, hcs, rfl⟩ := Option.map_eq_some_iff.mp h
    have hv := (hexValue_some ha).1
    have hw := (hexValue_some hb).1
    have hbyte : (UInt8.ofNat (16 * v + w)).toNat = 16 * v + w := by
      rw [UInt8.toNat_ofNat']
      exact Nat.mod_eq_of_lt (by omega)
    simp only [List.length_cons, Nat.add_right_comm, List.cons_append, scanMany,
      scanHex2_pair ha hb, ih hcs, List.map_cons, hbyte]
  | case4 a b s hno =>
    simp only [decode] at h
    cases h

/-- **All conversions but the last take two digits**, where nothing is skipped. -/
theorem scanMany_eq_iff {input : List Char} (hplain : ∀ c ∈ input, Plain c) {bs : List UInt8}
    {x : Nat} :
    scanMany scanHex2 (bs.length + 1) input = bs.map UInt8.toNat ++ [x] ↔
      ∃ pairs tail after, input = pairs ++ tail ∧ decode pairs = some bs ∧
        scanHex2 tail = some (x, after) := by
  constructor
  · intro h
    induction bs generalizing input with
    | nil =>
      simp only [List.length_nil, scanMany] at h
      split at h
      · exact nomatch h
      · next v rest hv =>
        obtain rfl : v = x := by simpa using h
        exact ⟨[], input, rest, rfl, rfl, hv⟩
    | cons b bs ih =>
      cases input with
      | nil => exact nomatch h
      | cons c rest =>
        rw [List.length_cons, scanMany, scanHex2_plain (hplain c List.mem_cons_self)] at h
        cases hc : hexValue c with
        | none =>
          rw [hc] at h
          exact nomatch h
        | some v =>
          rw [hc] at h
          cases rest with
          | nil => simp [afterDigit, scanMany, scanHex2] at h
          | cons d after =>
            cases hd : hexValue d with
            | none =>
              simp [afterDigit, hd, scanMany, scanHex2_plain (hplain d (by simp))] at h
            | some w =>
              simp only [afterDigit, hd, Option.map_some, Option.getD_some, List.map_cons,
                List.cons_append, List.cons.injEq] at h
              obtain ⟨hb, hrest⟩ := h
              obtain ⟨pairs, tail, after', rfl, hpairs, htail⟩ := ih (fun e he => hplain e (by simp [he])) hrest
              refine ⟨c :: d :: pairs, tail, after', rfl, ?_, htail⟩
              simp [decode, hc, hd, hpairs, hb]
  · rintro ⟨pairs, tail, after, rfl, hpairs, htail⟩
    rw [scanMany_append hpairs]
    simp [scanMany, htail]

theorem scanHex2_lt {input rest : List Char} {v : Nat} (h : scanHex2 input = some (v, rest)) :
    v < 256 := by
  have hdigit : ∀ {c : Char} {w : Nat}, hexValue c = some w → w < 16 := fun hc => (hexValue_some hc).1
  unfold scanHex2 at h
  split at h
  · exact nomatch h
  · next c tail _ =>
    split_ifs at h
    · cases tail with
      | nil => exact nomatch h
      | cons d tail =>
        obtain ⟨w, hw, hv⟩ := Option.map_eq_some_iff.mp h
        have hlt := hdigit hw
        obtain ⟨rfl, -⟩ := Prod.mk.inj hv
        omega
    · split at h
      · exact nomatch h
      · next w hw =>
        have hlt := hdigit hw
        split at h
        · obtain ⟨rfl, -⟩ := Prod.mk.inj (Option.some.inj h)
          omega
        · split at h
          · obtain ⟨rfl, -⟩ := Prod.mk.inj (Option.some.inj h)
            omega
          · next u hu =>
            have hlt' := hdigit hu
            obtain ⟨rfl, -⟩ := Prod.mk.inj (Option.some.inj h)
            omega

theorem scanMany_lt {n : Nat} {input : List Char} {v : Nat} (h : v ∈ scanMany scanHex2 n input) :
    v < 256 := by
  induction n generalizing input with
  | zero => cases h
  | succ n ih =>
    simp only [scanMany] at h
    split at h
    · cases h
    · next x rest hx =>
      rcases List.mem_cons.mp h with rfl | h
      · exact scanHex2_lt hx
      · exact ih h

end ATV2Utils.Lib.Scanf
