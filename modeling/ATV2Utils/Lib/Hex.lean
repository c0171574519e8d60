import Mathlib.Data.Nat.Digits.Defs
import Mathlib.Algebra.BigOperators.Fin
import Mathlib.Tactic.Ring

/-! # Hexadecimal text

Two digits a byte, most significant first, in upper case (`%.*X`) or in lower
case (`%0*x`). Either text reads back as the bytes, and as a number it is the
bytes' own number in base 256. -/
namespace ATV2Utils.Lib.Hex

def hexDigit (d : Nat) : Char := d.digitChar.toUpper

/-- The value of a digit of either case. -/
def hexValue (c : Char) : Option Nat :=
  if '0' ≤ c ∧ c ≤ '9' then some (c.toNat - 48)
  else if 'A' ≤ c ∧ c ≤ 'F' then some (c.toNat - 55)
  else if 'a' ≤ c ∧ c ≤ 'f' then some (c.toNat - 87)
  else none

/-- `%.*X`: the digits without leading zeros, padded with zeros to the precision. -/
def printfX (precision v : Nat) : List Char :=
  let digits := (Nat.toDigits 16 v).map Char.toUpper
  List.replicate (precision - digits.length) '0' ++ digits

/-- `%0*x`. -/
def printfx (width v : Nat) : List Char :=
  let digits := Nat.toDigits 16 v
  List.replicate (width - digits.length) '0' ++ digits

def byteText (b : UInt8) : List Char := [hexDigit (b.toNat / 16), hexDigit (b.toNat % 16)]

def lowerByteText (b : UInt8) : List Char := [(b.toNat / 16).digitChar, (b.toNat % 16).digitChar]

def encode (bs : List UInt8) : List Char := bs.flatMap byteText

def encodeLower (bs : List UInt8) : List Char := bs.flatMap lowerByteText

def decode : List Char → Option (List UInt8)
  | [] => some []
  | [_] => none
  | a :: b :: rest =>
    match hexValue a, hexValue b with
    | some x, some y => (decode rest).map (UInt8.ofNat (16 * x + y) :: ·)
    | _, _ => none

/-- A text read as a base-16 number, most significant digit first. -/
def base16 (s : List Char) : Nat := s.foldl (fun n c => 16 * n + (hexValue c).getD 0) 0

theorem hexValue_hexDigit {d : Nat} (h : d < 16) : hexValue (hexDigit d) = some d := by
  have hall : ∀ d : Fin 16, hexValue (hexDigit d) = some d.val := by decide
  exact hall ⟨d, h⟩

theorem hexValue_digitChar {d : Nat} (h : d < 16) : hexValue d.digitChar = some d := by
  have hall : ∀ d : Fin 16, hexValue d.val.digitChar = some d.val := by decide
  exact hall ⟨d, h⟩

theorem hexValue_some {c : Char} {v : Nat} (h : hexValue c = some v) :
    v < 16 ∧ 48 ≤ c.toNat ∧ c.toNat ≤ 102 := by
  unfold hexValue at h
  simp only [Char.le_def, UInt32.le_iff_toNat_le] at h
  split_ifs at h with hdigit hupper hlower
  · obtain rfl := Option.some.inj h
    have hbounds : 48 ≤ c.toNat ∧ c.toNat ≤ 57 := hdigit
    omega
  · obtain rfl := Option.some.inj h
    have hbounds : 65 ≤ c.toNat ∧ c.toNat ≤ 70 := hupper
    omega
  · obtain rfl := Option.some.inj h
    have hbounds : 97 ≤ c.toNat ∧ c.toNat ≤ 102 := hlower
    omega

theorem ne_of_hexValue {c s : Char} {v : Nat} (hc : hexValue c = some v) (hs : hexValue s = none) :
    c ≠ s := by
  rintro rfl
  rw [hs] at hc
  cases hc

theorem printfx_two (b : UInt8) : printfx 2 b.toNat = lowerByteText b := by
  have hb := b.toNat_lt
  by_cases hsmall : b.toNat < 16
  · simp [printfx, lowerByteText, Nat.toDigits_of_lt_base hsmall, Nat.div_eq_of_lt hsmall,
      Nat.mod_eq_of_lt hsmall]
  · have hhigh : b.toNat / 16 < 16 := by omega
    simp [printfx, lowerByteText, Nat.toDigits_of_base_le (b := 16) (by decide)
      (Nat.not_lt.mp hsmall), Nat.toDigits_of_lt_base hhigh]

theorem printfX_two (b : UInt8) : printfX 2 b.toNat = byteText b := by
  have hb := b.toNat_lt
  by_cases hsmall : b.toNat < 16
  · have hzero : hexDigit 0 = '0' := by decide
    simp [printfX, byteText, Nat.toDigits_of_lt_base hsmall, Nat.div_eq_of_lt hsmall,
      Nat.mod_eq_of_lt hsmall, hzero]
    rfl
  · have hhigh : b.toNat / 16 < 16 := by omega
    simp [printfX, byteText, hexDigit, Nat.toDigits_of_base_le (b := 16) (by decide)
      (Nat.not_lt.mp hsmall), Nat.toDigits_of_lt_base hhigh]

theorem mem_byteText {b : UInt8} {c : Char} (h : c ∈ byteText b) : ∃ d < 16, c = hexDigit d := by
  have hb := b.toNat_lt
  simp only [byteText, List.mem_cons, List.not_mem_nil, or_false] at h
  rcases h with rfl | rfl
  · exact ⟨b.toNat / 16, by omega, rfl⟩
  · exact ⟨b.toNat % 16, by omega, rfl⟩

/-- Every character of an encoding is a digit. -/
theorem mem_encode {bs : List UInt8} {c : Char} (h : c ∈ encode bs) :
    ∃ d < 16, c = hexDigit d := by
  obtain ⟨b, _, hc⟩ := List.mem_flatMap.mp h
  exact mem_byteText hc

theorem encode_length (bs : List UInt8) : (encode bs).length = 2 * bs.length := by
  induction bs with
  | nil => rfl
  | cons b bs ih =>
    simp only [encode, List.flatMap_cons, List.length_append] at ih ⊢
    rw [ih]
    simp [byteText]; omega

/-- Two digits that spell a byte are read as that byte. -/
theorem decode_byte {hi lo : Char} {b : UInt8} (hhi : hexValue hi = some (b.toNat / 16))
    (hlo : hexValue lo = some (b.toNat % 16)) (rest : List Char) :
    decode (hi :: lo :: rest) = (decode rest).map (b :: ·) := by
  have hbyte : 16 * (b.toNat / 16) + b.toNat % 16 = b.toNat := by omega
  simp only [decode, hhi, hlo, hbyte]
  simp

theorem decode_encode (bs : List UInt8) : decode (encode bs) = some bs := by
  induction bs with
  | nil => rfl
  | cons b bs ih =>
    have hb := b.toNat_lt
    have hbyte := decode_byte (hexValue_hexDigit (d := b.toNat / 16) (by omega))
      (hexValue_hexDigit (d := b.toNat % 16) (by omega)) (encode bs)
    rw [ih] at hbyte
    exact hbyte

theorem decode_encodeLower (bs : List UInt8) : decode (encodeLower bs) = some bs := by
  induction bs with
  | nil => rfl
  | cons b bs ih =>
    have hb := b.toNat_lt
    have hbyte := decode_byte (hexValue_digitChar (d := b.toNat / 16) (by omega))
      (hexValue_digitChar (d := b.toNat % 16) (by omega)) (encodeLower bs)
    rw [ih] at hbyte
    exact hbyte

/-- What reads as bytes is two digits for each of them. -/
theorem decode_some {s : List Char} {bs : List UInt8} (h : decode s = some bs) :
    s.length = 2 * bs.length ∧ ∀ c ∈ s, ∃ v, hexValue c = some v := by
  induction s using decode.induct generalizing bs with
  | case1 =>
    obtain rfl := Option.some.inj h
    exact ⟨rfl, by simp⟩
  | case2 c => exact nomatch h
  | case3 a b rest x y hy hx ih =>
    simp only [decode, hx, hy] at h
    obtain ⟨cs, hcs, rfl⟩ := Option.map_eq_some_iff.mp h
    obtain ⟨hlen, hall⟩ := ih hcs
    refine ⟨by simp [hlen]; omega, fun c hc => ?_⟩
    rcases List.mem_cons.mp hc with rfl | hc
    · exact ⟨x, hx⟩
    · rcases List.mem_cons.mp hc with rfl | hc
      · exact ⟨y, hy⟩
      · exact hall c hc
  | case4 a b rest hno =>
    simp only [decode] at h
    exact nomatch h

theorem decode_append {s : List Char} {bs : List UInt8} (h : decode s = some bs) (t : List Char) :
    decode (s ++ t) = (decode t).map (bs ++ ·) := by
  induction s using decode.induct generalizing bs with
  | case1 =>
    obtain rfl := Option.some.inj h
    simp
  | case2 c => exact nomatch h
  | case3 a b rest x y hy hx ih =>
    simp only [decode, hx, hy] at h
    obtain ⟨cs, hcs, rfl⟩ := Option.map_eq_some_iff.mp h
    simp only [List.cons_append, decode, hx, hy, ih hcs, Option.map_map]
    rfl
  | case4 a b rest hno =>
    simp only [decode] at h
    exact nomatch h

/-- The last two digits are the last byte. -/
theorem decode_append_pair_iff {s : List Char} {a b : Char} {bs : List UInt8} :
    decode (s ++ [a, b]) = some bs ↔
      ∃ cs x y, decode s = some cs ∧ hexValue a = some x ∧ hexValue b = some y ∧
        bs = cs ++ [UInt8.ofNat (16 * x + y)] := by
  constructor
  · intro h
    induction s using decode.induct generalizing bs with
    | case1 =>
      simp only [List.nil_append, decode] at h
      split at h
      · next x y hx hy => exact ⟨[], x, y, rfl, hx, hy, (Option.some.inj h).symm⟩
      · exact nomatch h
    | case2 c =>
      simp only [List.cons_append, List.nil_append, decode] at h
      split at h <;> exact nomatch h
    | case3 c d rest x y hy hx ih =>
      simp only [List.cons_append, decode, hx, hy] at h
      obtain ⟨cs, hcs, rfl⟩ := Option.map_eq_some_iff.mp h
      obtain ⟨ds, v, w, hds, hv, hw, rfl⟩ := ih hcs
      refine ⟨UInt8.ofNat (16 * x + y) :: ds, v, w, ?_, hv, hw, rfl⟩
      simp only [decode, hx, hy, hds, Option.map_some]
    | case4 c d rest hno =>
      simp only [List.cons_append, decode] at h
      exact nomatch h
  · rintro ⟨cs, x, y, hs, hx, hy, rfl⟩
    simp [decode_append hs, decode, hx, hy]

theorem hexValue_of_mem_byteText {b : UInt8} {c : Char} (h : c ∈ byteText b) :
    ∃ v, hexValue c = some v :=
  (decode_some (decode_encode [b])).2 c (by simpa [encode] using h)

theorem hexValue_of_mem_lowerByteText {b : UInt8} {c : Char} (h : c ∈ lowerByteText b) :
    ∃ v, hexValue c = some v :=
  (decode_some (decode_encodeLower [b])).2 c (by simpa [encodeLower] using h)

theorem encode_injective {as bs : List UInt8} (h : encode as = encode bs) : as = bs := by
  have hdec := decode_encode as
  rw [h, decode_encode] at hdec
  exact (Option.some.inj hdec).symm

theorem base16_append_byte (s : List Char) (b : UInt8) :
    base16 (s ++ byteText b) = 256 * base16 s + b.toNat := by
  have hb := b.toNat_lt
  simp only [base16, byteText, List.foldl_append, List.foldl_cons, List.foldl_nil,
    hexValue_hexDigit (d := b.toNat / 16) (by omega),
    hexValue_hexDigit (d := b.toNat % 16) (by omega), Option.getD_some]
  omega

/-- The number an encoding spells, most significant byte first. -/
theorem base16_encode_reverse (bs : List UInt8) :
    base16 (encode bs.reverse) = Nat.ofDigits 256 (bs.map UInt8.toNat) := by
  induction bs with
  | nil => rfl
  | cons b bs ih =>
    have happ : encode (b :: bs).reverse = encode bs.reverse ++ byteText b := by
      simp [encode]
    rw [happ, base16_append_byte, ih, List.map_cons, Nat.ofDigits_cons]
    ring

/-- Positional value as a sum, least significant byte first. -/
theorem ofDigits_eq_sum (bs : List UInt8) :
    Nat.ofDigits 256 (bs.map UInt8.toNat) = ∑ k : Fin bs.length, bs[k].toNat * 256 ^ k.val := by
  induction bs with
  | nil => rfl
  | cons b bs ih =>
    rw [List.map_cons, Nat.ofDigits_cons, ih]
    simp only [List.length_cons, Fin.sum_univ_succ, Finset.mul_sum]
    simp only [Fin.getElem_fin, Fin.val_zero, List.getElem_cons_zero, pow_zero, mul_one,
      Fin.val_succ, List.getElem_cons_succ, pow_succ]
    congr 1
    refine Finset.sum_congr rfl fun k _ => ?_
    ring

/-- Dropping the separator between the texts of bytes joins the texts. -/
theorem filter_separated {text : UInt8 → List Char} {separator : Char} {p : Char → Bool}
    (hseparator : p separator = false) (htext : ∀ b, ∀ c ∈ text b, p c = true) (bs : List UInt8) :
    ([separator].intercalate (bs.map text)).filter p = bs.flatMap text := by
  have hkept : ∀ b, (text b).filter p = text b := fun b => List.filter_eq_self.mpr (htext b)
  induction bs with
  | nil => rfl
  | cons b bs ih =>
    cases bs with
    | nil => simp [List.intercalate_singleton, hkept]
    | cons next bs =>
      rw [List.map_cons, List.map_cons, List.intercalate_cons_cons, List.filter_append,
        List.filter_append, ← List.map_cons, ih, hkept]
      simp [hseparator]

/-- What stands in the text is the separator or belongs to a byte. -/
theorem mem_separated {text : UInt8 → List Char} {separator c : Char} {bs : List UInt8}
    (h : c ∈ [separator].intercalate (bs.map text)) : c = separator ∨ ∃ b, c ∈ text b := by
  induction bs with
  | nil => cases h
  | cons b bs ih =>
    cases bs with
    | nil => exact .inr ⟨b, by simpa [List.intercalate_singleton] using h⟩
    | cons b' bs =>
      rw [List.map_cons, List.map_cons, List.intercalate_cons_cons, List.mem_append,
        List.mem_append, List.mem_singleton] at h
      rcases h with (hb | hseparator) | hrest
      · exact .inr ⟨b, hb⟩
      · exact .inl hseparator
      · exact ih hrest

end ATV2Utils.Lib.Hex
