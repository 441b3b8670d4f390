import JavaText.Text.Digit
import Mathlib.Algebra.Group.Nat.Defs

/-!
# Numerals

A decimal numeral consists of ASCII digits and spells its number, digit by digit
(`Text.foldl_ofNat`). A hexadecimal one is as wide as is asked for, and spells as much of its number
as there is room for (`Text.hexNumber_hex`).
-/

namespace JavaText

namespace Text

/-! ## Decimal numerals -/

/-- Numerals have digits only. -/
theorem isAsciiDigit_of_mem_ofNat {n : Nat} {c : CodePoint} (h : c ∈ ofNat n) :
    c.isAsciiDigit = true := by
  obtain ⟨d, hd, rfl⟩ := List.mem_map.1 h
  have hdigit := Nat.isDigit_of_mem_toDigits (by decide) (by decide) hd
  rw [Char.isDigit, Bool.and_eq_true, decide_eq_true_eq, decide_eq_true_eq] at hdigit
  rw [CodePoint.isAsciiDigit, Bool.and_eq_true, decide_eq_true_eq, decide_eq_true_eq]
  exact hdigit

/-- Digit by digit, a numeral spells its number. -/
theorem foldl_ofNat (n : Nat) :
    (ofNat n).foldl (fun n c => 10 * n + (c.val - 0x30)) 0 = n := by
  rw [ofNat, List.foldl_map]
  exact Nat.ofDigitChars_toDigits (by decide) (by decide)

/-- A numeral has a digit. -/
theorem ofNat_ne_nil (n : Nat) : ofNat n ≠ [] := by
  rw [ofNat, ne_eq, List.map_eq_nil_iff]
  exact Nat.toDigits_ne_nil

end Text

/-! ## Hexadecimal numerals -/

/-- A hexadecimal digit has the value that it was written for. -/
theorem CodePoint.hexValue?_digitChar {d : Nat} (h : d < 16) :
    (CodePoint.ofChar (Nat.digitChar d)).hexValue? = some d := by
  revert d
  decide

namespace Text

/-- A numeral of a given width has that width. -/
theorem length_hex : ∀ width n : Nat, (hex width n).length = width
  | 0, _ => rfl
  | width + 1, n => by rw [hex, List.length_append, length_hex width, List.length_singleton]

theorem take_hex_append (width n : Nat) (t : Text) : (hex width n ++ t).take width = hex width n :=
  List.take_left' (length_hex width n)

theorem drop_hex_append (width n : Nat) (t : Text) : (hex width n ++ t).drop width = t :=
  List.drop_left' (length_hex width n)

/-- What holds of all hexadecimal digits holds of those of a numeral. -/
theorem forall_mem_hex {P : CodePoint → Prop} (hP : ∀ d < 16, P (.ofChar (Nat.digitChar d))) :
    ∀ width n : Nat, ∀ c ∈ hex width n, P c
  | 0, _ => List.forall_mem_nil _
  | width + 1, n => by
    rw [hex, List.forall_mem_append, List.forall_mem_singleton]
    exact ⟨forall_mem_hex hP width (n / 16), hP _ (Nat.mod_lt n (by decide))⟩

/-- The number that hexadecimal digits spell. -/
def hexNumber (t : Text) : Nat :=
  t.foldl (fun n c => 16 * n + c.hexValue?.getD 0) 0

/-- One more digit counts the others sixteen times. -/
theorem hexNumber_append_singleton (t : Text) (c : CodePoint) :
    hexNumber (t ++ [c]) = 16 * hexNumber t + c.hexValue?.getD 0 := by
  rw [hexNumber, List.foldl_append]
  rfl

/-- The last digits of a number spell what is left when the others are taken off. -/
theorem hexNumber_hex (width n : Nat) : hexNumber (hex width n) = n % 16 ^ width := by
  induction width generalizing n with
  | zero => simp [hex, hexNumber, Nat.mod_one]
  | succ width ih =>
    rw [hex, hexNumber_append_singleton, ih,
      CodePoint.hexValue?_digitChar (Nat.mod_lt n (by decide)), Option.getD_some, Nat.pow_succ',
      Nat.mod_mul, Nat.add_comm]

end Text

end JavaText
