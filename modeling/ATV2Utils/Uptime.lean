import ATV2Utils.Foundation
import ATV2Utils.Interfaces

/-! # The time since the device was booted

`uptimeATV` prints hours, minutes and seconds between colons. `div` truncates
towards zero, so a clock set back makes all three negative, each with its own
sign; the seconds can be read back either way. -/
namespace ATV2Utils.Uptime
open ATV2Utils.Foundation ATV2Utils.Interfaces

/-- `%02i`: a sign counts towards the width, and a digit always follows it. -/
def printf02i (n : ℤ) : List Char :=
  if n < 0 then '-' :: Nat.toDigits 10 n.natAbs
  else List.leftpad 2 '0' (Nat.toDigits 10 n.natAbs)

/-- What an `int` holds. -/
def InInt (x : ℤ) : Prop := -2 ^ 31 ≤ x ∧ x < 2 ^ 31

instance (x : ℤ) : Decidable (InInt x) := inferInstanceAs (Decidable (_ ∧ _))

/-- The conversion of a whole number of seconds, which `difftime` gives as a double,
to the `int` that `div` takes; of no meaning beyond its range. -/
def intOfDouble (x : ℤ) : Option ℤ := if InInt x then some x else none

/-- The three fields of an interval. -/
def fields (elapsedTime : ℤ) : List ℤ :=
  let hours := elapsedTime.tdiv 3600
  let rem := elapsedTime.tmod 3600
  [hours, rem.tdiv 60, rem.tmod 60]

def uptimeText (elapsedTime : ℤ) : String :=
  ":".intercalate ((fields elapsedTime).map fun n => String.ofList (printf02i n))

/-- `uptimeATV`, of the second the device was booted in, unless the kernel fails
to tell, and of the present one, both a `time_t` and so a `long`; `none` where the
source has no meaning. -/
def uptimeATV (boottime : Option Long) (csec : Long) : Option String :=
  match boottime with
  | none => some "-1"
  | some bsec => (intOfDouble (csec.toInt - bsec.toInt)).map uptimeText

/-! ## Reading it back -/

def readInt (text : List Char) : ℤ :=
  if text.head? = some '-' then -(Nat.ofDigitChars 10 text.tail 0 : ℤ)
  else Nat.ofDigitChars 10 text 0

def readUptime (text : String) : Option ℤ :=
  match (componentsSeparatedByString text ':').map fun s => readInt s.toList with
  | [hours, minutes, seconds] => some (hours * 3600 + minutes * 60 + seconds)
  | _ => none

theorem isDigit_of_mem_leftpad {n : ℕ} {c : Char}
    (h : c ∈ List.leftpad 2 '0' (Nat.toDigits 10 n)) : c.isDigit := by
  rw [List.leftpad, List.mem_append] at h
  rcases h with hpad | hdigit
  · rw [List.eq_of_mem_replicate hpad]
    decide
  · exact Nat.isDigit_of_mem_toDigits (by decide) (by decide) hdigit

theorem readInt_printf02i (n : ℤ) : readInt (printf02i n) = n := by
  unfold printf02i
  split_ifs with hneg
  · have hsign : ('-' :: Nat.toDigits 10 n.natAbs).head? = some '-' := rfl
    rw [readInt, if_pos hsign, List.tail_cons, Nat.ofDigitChars_ten_toDigits]
    omega
  · have hsign : (List.leftpad 2 '0' (Nat.toDigits 10 n.natAbs)).head? ≠ some '-' := by
      intro h
      exact absurd (isDigit_of_mem_leftpad (List.mem_of_mem_head? h)) (by decide)
    rw [readInt, if_neg hsign, List.leftpad, Nat.ofDigitChars_append,
      Nat.ofDigitChars_replicate_zero, Nat.mul_zero, Nat.ofDigitChars_ten_toDigits]
    omega

theorem colon_not_mem_printf02i (n : ℤ) : ':' ∉ printf02i n := by
  intro h
  unfold printf02i at h
  split_ifs at h with hneg
  · rcases List.mem_cons.mp h with hsign | hdigit
    · exact absurd hsign (by decide)
    · exact absurd (Nat.isDigit_of_mem_toDigits (by decide) (by decide) hdigit) (by decide)
  · exact absurd (isDigit_of_mem_leftpad h) (by decide)

theorem uptimeText_components (elapsedTime : ℤ) :
    componentsSeparatedByString (uptimeText elapsedTime) ':' =
      (fields elapsedTime).map fun n => String.ofList (printf02i n) := by
  unfold componentsSeparatedByString uptimeText
  rw [String.toList_intercalate, show ":".toList = [':'] from rfl, List.splitOn_intercalate]
  · rw [List.map_map, List.map_map]
    exact List.map_congr_left fun n _ => String.ofList_toList
  · intro l hl
    rw [List.map_map] at hl
    obtain ⟨n, _, rfl⟩ := List.mem_map.mp hl
    simpa using colon_not_mem_printf02i n
  · simp [fields]

theorem fields_sum (elapsedTime : ℤ) :
    elapsedTime.tdiv 3600 * 3600 + (elapsedTime.tmod 3600).tdiv 60 * 60 +
      (elapsedTime.tmod 3600).tmod 60 = elapsedTime := by
  have hhours := Int.tmod_add_tdiv_mul elapsedTime 3600
  have hminutes := Int.tmod_add_tdiv_mul (elapsedTime.tmod 3600) 60
  omega

theorem readUptime_uptimeText (elapsedTime : ℤ) :
    readUptime (uptimeText elapsedTime) = some elapsedTime := by
  have hread : ((fields elapsedTime).map fun n => String.ofList (printf02i n)).map
      (fun s => readInt s.toList) = fields elapsedTime := by
    simp [Function.comp_def, readInt_printf02i]
  rw [readUptime, uptimeText_components, hread, fields]
  exact congrArg some (fields_sum elapsedTime)

/-- **The seconds read back from the text**, also when the clock was set back to
before the boot, wherever an `int` holds them; the text of a failed call is the text
of no interval. -/
theorem readUptime_uptimeATV (bsec csec csec' : Long) :
    (uptimeATV (some bsec) csec).map readUptime =
      (if InInt (csec.toInt - bsec.toInt) then some (some (csec.toInt - bsec.toInt)) else none) ∧
    (uptimeATV none csec').map readUptime = some none := by
  constructor
  · rw [uptimeATV, intOfDouble]
    split_ifs with hint
    · rw [Option.map_some, Option.map_some, readUptime_uptimeText]
    · rfl
  · have hfailed : readUptime "-1" = none := by decide
    exact congrArg some hfailed

/-- An hour, a minute and a second, forwards and back. -/
example : uptimeATV (some 0) 3661 = some "01:01:01" ∧
    uptimeATV (some 3661) 0 = some "-1:-1:-1" := by decide

/-- The first second and the last are too far apart. -/
example : uptimeATV (some (-1)) 0x7FFFFFFF = none := by decide

end ATV2Utils.Uptime
