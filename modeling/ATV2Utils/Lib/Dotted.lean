import ATV2Utils.Lib.Hex

/-! # Numbers and dots

Numbers as C spells them: in hexadecimal after `0x`, in octal after a zero, in
decimal otherwise. Up to four of them between dots make a number of 32 bits; all
but the last are one byte each, and the last takes the bytes that are left. -/
namespace ATV2Utils.Lib.Dotted
open ATV2Utils.Lib.Hex

/-- One more digit of a number. -/
def digit (base n : Nat) (c : Char) : Option Nat :=
  match hexValue c with
  | some d => if d < base then some (base * n + d) else none
  | none => none

def digitsIn (base : Nat) (ds : List Char) : Option Nat :=
  if ds.isEmpty then none else ds.foldlM (digit base) 0

def number : List Char → Option Nat
  | '0' :: 'x' :: ds => digitsIn 16 ds
  | '0' :: 'X' :: ds => digitsIn 16 ds
  | '0' :: ds => digitsIn 8 ('0' :: ds)
  | ds => digitsIn 10 ds

/-- The numbers are bytes, and the last one is as long as what is left of four. -/
def place (parts : List Nat) : Option Nat :=
  match parts with
  | [a] => if a < 2 ^ 32 then some a else none
  | [a, b] => if a < 2 ^ 8 ∧ b < 2 ^ 24 then some (a * 2 ^ 24 + b) else none
  | [a, b, c] =>
    if a < 2 ^ 8 ∧ b < 2 ^ 8 ∧ c < 2 ^ 16 then some (a * 2 ^ 24 + b * 2 ^ 16 + c) else none
  | [a, b, c, d] =>
    if a < 2 ^ 8 ∧ b < 2 ^ 8 ∧ c < 2 ^ 8 ∧ d < 2 ^ 8 then
      some (a * 2 ^ 24 + b * 2 ^ 16 + c * 2 ^ 8 + d)
    else none
  | _ => none

def address (s : List Char) : Option Nat := ((s.splitOn '.').mapM number).bind place

/-! ## Spelling a number -/

/-- How a number is spelled: in octal and in hexadecimal with any zeros in front, in
hexadecimal with either mark, and each digit in either case. -/
inductive Spelling where
  | decimal
  | octal (zeros : Nat)
  | hexadecimal (zeros : Nat) (upperMark : Bool) (upper : Nat → Bool)

def inCase (upper : Nat → Bool) (i : Nat) (c : Char) : Char := if upper i then c.toUpper else c

def spell : Spelling → Nat → List Char
  | .decimal, n => Nat.toDigits 10 n
  | .octal zeros, n => '0' :: (List.replicate zeros '0' ++ Nat.toDigits 8 n)
  | .hexadecimal zeros upperMark upper, n =>
    '0' :: (if upperMark then 'X' else 'x') ::
      (List.replicate zeros '0' ++ (Nat.toDigits 16 n).mapIdx (inCase upper))

theorem digit_digitChar {base d : Nat} (hd : d < base) (hbase : base ≤ 16) (n : Nat) :
    digit base n d.digitChar = some (base * n + d) := by
  rw [digit, hexValue_digitChar (by omega)]
  exact if_pos hd

theorem foldlM_toDigits {base : Nat} (htwo : 1 < base) (hbase : base ≤ 16) (n : Nat) :
    (Nat.toDigits base n).foldlM (digit base) 0 = some n := by
  induction n using Nat.strong_induction_on with
  | h n ih =>
    rcases Nat.lt_or_ge n base with hlt | hge
    · rw [Nat.toDigits_of_lt_base hlt, List.foldlM_cons, digit_digitChar hlt hbase]
      simp
    · have hdiv : 0 < n / base := Nat.div_pos hge (by omega)
      have hmod : n % base < base := Nat.mod_lt _ (by omega)
      rw [Nat.toDigits_of_base_le htwo hge, List.foldlM_append,
        ih (n / base) (Nat.div_lt_self (by omega) htwo)]
      simp only [Option.bind_eq_bind, Option.bind_some, List.foldlM_cons, digit_digitChar hmod hbase,
        List.foldlM_nil]
      rw [Nat.div_add_mod]
      rfl

/-- Digits are read back in their base. -/
theorem digitsIn_toDigits {base : Nat} (htwo : 1 < base) (hbase : base ≤ 16) (n : Nat) :
    digitsIn base (Nat.toDigits base n) = some n := by
  have hne : (Nat.toDigits base n).isEmpty = false := by
    rw [List.isEmpty_eq_false_iff]
    exact Nat.toDigits_ne_nil
  rw [digitsIn, hne]
  exact foldlM_toDigits htwo hbase n

theorem mem_toDigits {base : Nat} (htwo : 1 < base) {n : Nat} {c : Char}
    (hc : c ∈ Nat.toDigits base n) : ∃ d < base, c = d.digitChar := by
  induction n using Nat.strong_induction_on with
  | h n ih =>
    rcases Nat.lt_or_ge n base with hlt | hge
    · rw [Nat.toDigits_of_lt_base hlt, List.mem_singleton] at hc
      exact ⟨n, hlt, hc⟩
    · rw [Nat.toDigits_of_base_le htwo hge, List.mem_append, List.mem_singleton] at hc
      rcases hc with hc | hc
      · exact ih (n / base) (Nat.div_lt_self (by omega) htwo) hc
      · exact ⟨n % base, Nat.mod_lt _ (by omega), hc⟩

/-- Only zero is written with a leading zero. -/
theorem toDigits_eq_cons {n : Nat} (hn : 0 < n) :
    ∃ c cs, Nat.toDigits 10 n = c :: cs ∧ c ≠ '0' := by
  induction n using Nat.strong_induction_on with
  | h n ih =>
    rcases Nat.lt_or_ge n 10 with hlt | hge
    · refine ⟨n.digitChar, [], Nat.toDigits_of_lt_base hlt, ?_⟩
      have hnonzero : ∀ d : Fin 10, 0 < d.val → d.val.digitChar ≠ '0' := by decide
      exact hnonzero ⟨n, hlt⟩ hn
    · obtain ⟨c, cs, hcs, hc⟩ := ih (n / 10) (by omega) (by omega)
      refine ⟨c, cs ++ [(n % 10).digitChar], ?_, hc⟩
      rw [Nat.toDigits_of_base_le (by decide) hge, hcs, List.cons_append]

theorem number_of_ne {c : Char} {cs : List Char} (hc : c ≠ '0') :
    number (c :: cs) = digitsIn 10 (c :: cs) := by
  rw [number] <;> simp [hc]

theorem number_octal {c : Char} {cs : List Char} (hx : c ≠ 'x') (hX : c ≠ 'X') :
    number ('0' :: c :: cs) = digitsIn 8 ('0' :: c :: cs) := by
  rw [number] <;> simp [hx, hX]

/-- Zeros in front do not count. -/
theorem foldlM_zeros {base : Nat} (hbase : 0 < base) (zeros : Nat) (ds : List Char) :
    (List.replicate zeros '0' ++ ds).foldlM (digit base) 0 = ds.foldlM (digit base) 0 := by
  have hzero : digit base 0 '0' = some 0 := by
    rw [digit, show hexValue '0' = some 0 from rfl]
    exact if_pos hbase
  induction zeros with
  | zero => rfl
  | succ zeros ih =>
    rw [List.replicate_succ, List.cons_append, List.foldlM_cons, hzero]
    exact ih

/-- Characters of one value are one digit. -/
theorem foldlM_mapIdx {base : Nat} {f : Nat → Char → Char} {ds : List Char}
    (h : ∀ i, ∀ c ∈ ds, hexValue (f i c) = hexValue c) (n : Nat) :
    (ds.mapIdx f).foldlM (digit base) n = ds.foldlM (digit base) n := by
  induction ds generalizing f n with
  | nil => rfl
  | cons c ds ih =>
    have hc : digit base n (f 0 c) = digit base n c := by
      rw [digit, digit, h 0 c List.mem_cons_self]
    rw [List.mapIdx_cons, List.foldlM_cons, List.foldlM_cons, hc]
    refine congrArg _ (funext fun m => ?_)
    exact ih (fun i d hd => h (i + 1) d (List.mem_cons_of_mem c hd)) m

theorem hexValue_of_mem_toDigits {base : Nat} (htwo : 1 < base) (hbase : base ≤ 16) {n : Nat}
    {c : Char} (hc : c ∈ Nat.toDigits base n) : ∃ v, hexValue c = some v := by
  obtain ⟨d, hd, rfl⟩ := mem_toDigits htwo hc
  exact ⟨d, hexValue_digitChar (by omega)⟩

theorem hexValue_inCase (upper : Nat → Bool) {n : Nat} (i : Nat) {c : Char}
    (hc : c ∈ Nat.toDigits 16 n) : hexValue (inCase upper i c) = hexValue c := by
  obtain ⟨d, hd, rfl⟩ := mem_toDigits (by decide) hc
  have hupper : ∀ d : Fin 16, hexValue d.val.digitChar.toUpper = hexValue d.val.digitChar := by
    decide
  rw [inCase]
  split
  · exact hupper ⟨d, hd⟩
  · rfl

/-- All that stands in a spelling behind its mark is a digit. -/
theorem hexValue_of_mem_zeros {zeros : Nat} {ds : List Char} {c : Char}
    (hds : ∀ c ∈ ds, ∃ v, hexValue c = some v) (hc : c ∈ List.replicate zeros '0' ++ ds) :
    ∃ v, hexValue c = some v := by
  rcases List.mem_append.mp hc with hzero | hdigit
  · exact ⟨0, by rw [List.eq_of_mem_replicate hzero]; rfl⟩
  · exact hds c hdigit

theorem hexValue_of_mem_mapIdx {upper : Nat → Bool} {n : Nat} {c : Char}
    (hc : c ∈ (Nat.toDigits 16 n).mapIdx (inCase upper)) : ∃ v, hexValue c = some v := by
  obtain ⟨i, hi, rfl⟩ := List.mem_mapIdx.mp hc
  obtain ⟨v, hv⟩ := hexValue_of_mem_toDigits (by decide) (by decide) (List.getElem_mem hi)
  exact ⟨v, (hexValue_inCase upper i (List.getElem_mem hi)).trans hv⟩

/-- Digits behind a zero are octal. -/
theorem number_octal_digits {ds : List Char} (h : ∀ c ∈ ds, ∃ v, hexValue c = some v) :
    number ('0' :: ds) = digitsIn 8 ('0' :: ds) := by
  cases ds with
  | nil => rfl
  | cons c cs =>
    obtain ⟨v, hv⟩ := h c List.mem_cons_self
    exact number_octal (ne_of_hexValue hv rfl) (ne_of_hexValue hv rfl)

/-- A number is read back, however it is spelled. -/
theorem number_spell (r : Spelling) (n : Nat) : number (spell r n) = some n := by
  cases r with
  | decimal =>
    rcases Nat.eq_zero_or_pos n with rfl | hn
    · rfl
    · obtain ⟨c, cs, hcs, hc⟩ := toDigits_eq_cons hn
      rw [spell, hcs, number_of_ne hc, ← hcs]
      exact digitsIn_toDigits (by decide) (by decide) n
  | octal zeros =>
    have hdigits : ∀ c ∈ List.replicate zeros '0' ++ Nat.toDigits 8 n, ∃ v, hexValue c = some v :=
      fun c hc => hexValue_of_mem_zeros
        (fun d hd => hexValue_of_mem_toDigits (by decide) (by decide) hd) hc
    rw [spell, number_octal_digits hdigits, ← List.cons_append, ← List.replicate_succ]
    exact (foldlM_zeros (by decide) (zeros + 1) _).trans (foldlM_toDigits (by decide) (by decide) n)
  | hexadecimal zeros upperMark upper =>
    have hnumber : number (spell (.hexadecimal zeros upperMark upper) n) =
        digitsIn 16 (List.replicate zeros '0' ++ (Nat.toDigits 16 n).mapIdx (inCase upper)) := by
      cases upperMark <;> rfl
    have hne : (List.replicate zeros '0' ++
        (Nat.toDigits 16 n).mapIdx (inCase upper)).isEmpty = false := by
      rw [List.isEmpty_eq_false_iff]
      simp [Nat.toDigits_ne_nil]
    rw [hnumber, digitsIn, hne]
    refine (foldlM_zeros (by decide) zeros _).trans ?_
    rw [foldlM_mapIdx fun i c hc => hexValue_inCase upper i hc]
    exact foldlM_toDigits (by decide) (by decide) n

/-- Digits and the marks of a base are all that a spelling has. -/
theorem not_mem_spell {e : Char} (he : hexValue e = none) (hx : e ≠ 'x') (hX : e ≠ 'X')
    (r : Spelling) (n : Nat) : e ∉ spell r n := by
  have hzero : e ≠ '0' := (ne_of_hexValue (show hexValue '0' = some 0 from rfl) he).symm
  have hnot {ds : List Char} (hds : ∀ c ∈ ds, ∃ v, hexValue c = some v) : e ∉ ds := by
    intro hmem
    obtain ⟨v, hv⟩ := hds e hmem
    exact nomatch he.symm.trans hv
  cases r with
  | decimal => exact hnot fun c hc => hexValue_of_mem_toDigits (by decide) (by decide) hc
  | octal zeros =>
    rw [spell, List.mem_cons, not_or]
    refine ⟨hzero, hnot fun c hc => hexValue_of_mem_zeros (fun d hd => ?_) hc⟩
    exact hexValue_of_mem_toDigits (by decide) (by decide) hd
  | hexadecimal zeros upperMark upper =>
    rw [spell, List.mem_cons, List.mem_cons, not_or, not_or]
    refine ⟨hzero, ?_, hnot fun c hc => hexValue_of_mem_zeros (fun d hd => ?_) hc⟩
    · cases upperMark
      · exact hx
      · exact hX
    · exact hexValue_of_mem_mapIdx hd

/-- Four bytes between dots, however each of them is spelled. -/
theorem address_spell {a b c d : Nat} (ha : a < 2 ^ 8) (hb : b < 2 ^ 8) (hc : c < 2 ^ 8)
    (hd : d < 2 ^ 8) (ra rb rc rd : Spelling) :
    address (['.'].intercalate [spell ra a, spell rb b, spell rc c, spell rd d]) =
      some (a * 2 ^ 24 + b * 2 ^ 16 + c * 2 ^ 8 + d) := by
  have hdots : ∀ l ∈ [spell ra a, spell rb b, spell rc c, spell rd d], '.' ∉ l := by
    simp [not_mem_spell (show hexValue '.' = none from rfl) (by decide) (by decide)]
  have hnumbers : [spell ra a, spell rb b, spell rc c, spell rd d].mapM number =
      some [a, b, c, d] := by
    simp [number_spell]
  rw [address, List.splitOn_intercalate _ hdots (by simp), hnumbers]
  exact if_pos ⟨ha, hb, hc, hd⟩

end ATV2Utils.Lib.Dotted
