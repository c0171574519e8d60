import ATV2Utils.Lib.Buffer
import ATV2Utils.Lib.Hex

/-! # The chip ID

`HardwareMainMenu init` and `SoftwareMainMenu init` turn the bytes of the
`unique-chip-id` property into text with the same loop: one `sprintf` a byte,
last byte first, each writing over the terminator of the one before. -/
namespace ATV2Utils.ChipID
open ATV2Utils.Lib.Buffer ATV2Utils.Lib.Hex

def nul : Char := '\x00'

/-- `sprintf(string + at, "%.2X", v)`: two digits and a terminator. -/
def sprintfX2 (string : CArray Char) (start : Nat) (v : UInt8) : Except Fault (CArray Char) :=
  storeAll string start (printfX 2 v.toNat ++ [nul])

/-- One pass of the loop. -/
def chipIDPass (bytes : CArray UInt8) (length : Nat) (string : CArray Char) (i : Nat) :
    Except Fault (CArray Char) := do
  let b ← load bytes (length - i - 1)
  sprintfX2 string (i * 2) b

/-- The buffer after the loop; `getBytes:` has filled `bytes`, `string` is as
the stack left it. -/
def chipIDBuffer (data : List UInt8) : Except Fault (CArray Char) :=
  let length := data.length
  let bytes := data.map some
  let string := uninitialised (length * 2 + 1)
  (List.range length).foldlM (chipIDPass bytes length) string

def chipIDString (data : List UInt8) : Except Fault String := do
  let string ← chipIDBuffer data
  let chars ← readString nul 0 string
  return String.ofList chars

/-- The loop as it stands in `HardwareMainMenu init`. -/
def hardwareChipID (data : List UInt8) : Except Fault String := chipIDString data

/-- Its copy in `SoftwareMainMenu init`. -/
def softwareChipID (data : List UInt8) : Except Fault String := chipIDString data

theorem sprintfX2_append (before : CArray Char) (v : UInt8) (room after : CArray Char)
    (h : room.length = 3) :
    sprintfX2 (before ++ room ++ after) before.length v =
      .ok (before ++ (byteText v).map some ++ some nul :: after) := by
  have hstore := storeAll_append before (printfX 2 v.toNat ++ [nul]) room after (by
    rw [printfX_two, h]; rfl)
  rw [sprintfX2, hstore, printfX_two]
  simp

/-- The buffer after `k` passes: the digits of the last `k` bytes, the
terminator of the last pass, and the cells not reached yet. -/
structure Filled (data : List UInt8) (k : Nat) (string : CArray Char) : Prop where
  cells : ∃ rest, string = (encode (data.reverse.take k)).map some ++ rest ∧
    rest.length = 2 * (data.length - k) + 1 ∧ (0 < k → rest.head? = some (some nul))

theorem filled_zero (data : List UInt8) :
    Filled data 0 (uninitialised (data.length * 2 + 1)) :=
  ⟨uninitialised (data.length * 2 + 1), by simp [encode], by simp [uninitialised]; omega,
    fun h => absurd h (by decide)⟩

/-- A pass with a byte left to encode stays in bounds and fills two more cells. -/
theorem chipIDPass_filled {data : List UInt8} {k : Nat} {string : CArray Char}
    (hk : k < data.length) (h : Filled data k string) :
    ∃ next, chipIDPass (data.map some) data.length string k = .ok next ∧
      Filled data (k + 1) next := by
  obtain ⟨rest, rfl, hlen, _⟩ := h.cells
  have hidx : data.length - k - 1 < data.length := by omega
  have hbound : k < data.reverse.length := by simpa using hk
  have hrev : data.reverse[k] = data[data.length - k - 1] := by
    rw [List.getElem_reverse]
    congr 1
    omega
  have htake : data.reverse.take (k + 1) = data.reverse.take k ++ [data[data.length - k - 1]] := by
    rw [← hrev, List.take_append_getElem hbound]
  -- the three cells of this pass: the old terminator's place and the next two
  obtain ⟨room, after, rfl, hroom⟩ : ∃ room after, rest = room ++ after ∧ room.length = 3 :=
    ⟨rest.take 3, rest.drop 3, (List.take_append_drop 3 rest).symm, by
      rw [List.length_take]; omega⟩
  have hstart : k * 2 = ((encode (data.reverse.take k)).map some).length := by
    rw [List.length_map, encode_length, List.length_take, List.length_reverse]
    omega
  refine ⟨_, ?_, ⟨some nul :: after, rfl, ?_, fun _ => rfl⟩⟩
  · have hprint := sprintfX2_append ((encode (data.reverse.take k)).map some)
      data[data.length - k - 1] room after hroom
    simp only [chipIDPass, load_map_some hidx, bind, Except.bind]
    rw [hstart, ← List.append_assoc, hprint, htake]
    simp [encode]
  · simp only [List.length_append, hroom] at hlen
    simp only [List.length_cons]
    omega

/-- All passes: by induction on their number. -/
theorem chipIDPasses_filled (data : List UInt8) {k : Nat} (hk : k ≤ data.length) :
    ∃ string, (List.range k).foldlM (chipIDPass (data.map some) data.length)
      (uninitialised (data.length * 2 + 1)) = .ok string ∧ Filled data k string := by
  induction k with
  | zero => exact ⟨_, rfl, filled_zero data⟩
  | succ k ih =>
    obtain ⟨string, hrun, hfilled⟩ := ih (by omega)
    obtain ⟨next, hpass, hnext⟩ := chipIDPass_filled (by omega) hfilled
    refine ⟨next, ?_, hnext⟩
    rw [List.range_succ, List.foldlM_append, hrun]
    simp [hpass, bind, Except.bind, pure, Except.pure]

/-- The loop never leaves its two arrays, and fills the buffer to its last cell. -/
theorem chipIDBuffer_eq {data : List UInt8} (h : 1 ≤ data.length) :
    chipIDBuffer data = .ok ((encode data.reverse).map some ++ [some nul]) := by
  obtain ⟨string, hrun, hfilled⟩ := chipIDPasses_filled data le_rfl
  obtain ⟨rest, rfl, hlen, hhead⟩ := hfilled.cells
  obtain ⟨cell, rfl⟩ := List.length_eq_one_iff.mp (show rest.length = 1 by omega)
  have hcell : cell = some nul := by simpa using hhead h
  rw [chipIDBuffer, hrun, hcell, List.take_of_length_le (by simp)]

theorem nul_not_mem_encode (bs : List UInt8) : nul ∉ encode bs := by
  intro h
  obtain ⟨d, hd, he⟩ := mem_encode h
  have hv := hexValue_hexDigit hd
  rw [← he] at hv
  exact absurd hv (by simp [hexValue, nul])

theorem chipIDString_eq {data : List UInt8} (h : 1 ≤ data.length) :
    chipIDString data = .ok (String.ofList (encode data.reverse)) := by
  have hread := readString_terminated (nul_not_mem_encode data.reverse) 0 []
  simp only [chipIDString, chipIDBuffer_eq h, bind, Except.bind, hread]
  rfl

theorem upperHex_of_mem_encode {bs : List UInt8} {c : Char} (h : c ∈ encode bs) :
    c ∈ "0123456789ABCDEF".toList := by
  obtain ⟨d, hd, rfl⟩ := mem_encode h
  have hall : ∀ d : Fin 16, hexDigit d ∈ "0123456789ABCDEF".toList := by decide
  exact hall ⟨d, hd⟩

/-- What makes a text the chip ID of the bytes `b`. -/
structure Encodes (b : List UInt8) (string : List Char) : Prop where
  length : string.length = 2 * b.length
  digits : ∀ c ∈ string, c ∈ "0123456789ABCDEF".toList
  value : base16 string = ∑ k : Fin b.length, b[k].toNat * 256 ^ k.val
  decoded : (decode string).map List.reverse = some b

theorem encode_reverse_encodes (b : List UInt8) : Encodes b (encode b.reverse) where
  length := by rw [encode_length, List.length_reverse]
  digits _ hc := upperHex_of_mem_encode hc
  value := by rw [base16_encode_reverse, ofDigits_eq_sum]
  decoded := by rw [decode_encode, Option.map_some, List.reverse_reverse]

theorem chipIDString_injective {b c : List UInt8} (hb : 1 ≤ b.length) (hc : 1 ≤ c.length)
    (h : chipIDString b = chipIDString c) : b = c := by
  rw [chipIDString_eq hb, chipIDString_eq hc] at h
  have htext := String.ofList_injective (Except.ok.inj h)
  exact List.reverse_injective (encode_injective htext)

/-- **The chip ID is an in-bounds, reversible encoding.** The loop faults on
neither of its arrays, fills all `2n + 1` cells, and both menus show the text. -/
theorem chipID_encodes {b : List UInt8} (h : 1 ≤ b.length) :
    ∃ string, chipIDBuffer b = .ok (string.map some ++ [some nul]) ∧
      Encodes b string ∧
      hardwareChipID b = .ok (String.ofList string) ∧
      softwareChipID b = .ok (String.ofList string) ∧
      ∀ c : List UInt8, 1 ≤ c.length → hardwareChipID c = hardwareChipID b → c = b := by
  refine ⟨encode b.reverse, chipIDBuffer_eq h, encode_reverse_encodes b, ?_, ?_, ?_⟩
  · exact chipIDString_eq h
  · exact chipIDString_eq h
  · intro c hc heq
    exact chipIDString_injective hc h heq

theorem chipID_encodes_twoBytes :
    ∃ string, chipIDBuffer [0xFF, 0x0A] = .ok (string.map some ++ [some nul]) ∧
      Encodes [0xFF, 0x0A] string ∧
      hardwareChipID [0xFF, 0x0A] = .ok (String.ofList string) ∧
      softwareChipID [0xFF, 0x0A] = .ok (String.ofList string) ∧
      ∀ c : List UInt8, 1 ≤ c.length →
        hardwareChipID c = hardwareChipID [0xFF, 0x0A] → c = [0xFF, 0x0A] :=
  chipID_encodes (by decide)

example : hardwareChipID [0xFF, 0x0A] = .ok "0AFF" := by decide

/-- Only an empty property goes wrong: no pass writes a terminator, and the text
is read from a cell that holds nothing. -/
theorem chipIDString_faults_iff (data : List UInt8) :
    (∃ fault, chipIDString data = .error fault) ↔ data = [] := by
  cases data with
  | nil => exact ⟨fun _ => rfl, fun _ => ⟨.uninitialised 0, rfl⟩⟩
  | cons b bs =>
    refine ⟨?_, fun h => nomatch h⟩
    rintro ⟨fault, hfault⟩
    rw [chipIDString_eq (by simp)] at hfault
    exact nomatch hfault

end ATV2Utils.ChipID
