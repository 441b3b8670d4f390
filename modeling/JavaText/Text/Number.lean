import JavaText.Text.Blank
import JavaText.Text.Digit

/-!
# Whole numbers in texts

A whole number is written as a sign, which may be missing, and digits of any script, with single
underscores between them. Blanks around it do not count, except the ASCII separators, which are no
blanks to a number.
-/

namespace JavaText

namespace Text

/-- Whether a blank may stand around a number. The ASCII separators U+001C to U+001F may not. -/
def isNumberBlank (c : CodePoint) : Bool :=
  c.isBlank && !(0x1c ≤ c.val && c.val ≤ 0x1f)

/-- A text without the blanks at its start. -/
def trimStart (t : Text) : Text :=
  t.dropWhile isNumberBlank

/-- A text without the blanks at its start and end. -/
def trim (t : Text) : Text :=
  (trimStart (trimStart t).reverse).reverse

/-- The number that is read after the digits of `n`. An underscore must follow a digit and come
before one. -/
def digitsFrom? (n : Nat) (afterDigit : Bool) : Text → Option Nat
  | [] => if afterDigit then some n else none
  | c :: t =>
    match c.digitValue? with
    | some d => digitsFrom? (10 * n + d) true t
    | none =>
      if c = CodePoint.ofChar '_' ∧ afterDigit then digitsFrom? n false t else none

/-- The number that a text of digits stands for. -/
def digits? (t : Text) : Option Nat :=
  if maxDigits < (t.filter CodePoint.isDigit).length then none else digitsFrom? 0 false t

/-- The whole number that a text stands for. -/
def int? (t : Text) : Option Int :=
  match trim t with
  | [] => none
  | c :: rest =>
    if c = CodePoint.ofChar '-' then (digits? rest).map fun n => -(n : Int)
    else if c = CodePoint.ofChar '+' then (digits? rest).map Int.ofNat
    else (digits? (c :: rest)).map Int.ofNat

end Text

end JavaText
