/-!
# Text as code points

Token texts come from files whose bytes may spell any code point, half of a surrogate pair
included, so a text here is a list of code points and not of Unicode scalar values. Every text of
the library is of this one type; a `String` stands only where a literal is written down.
-/

namespace JavaText

/-- A Unicode code point, surrogates included. -/
abbrev CodePoint := Fin 0x110000

/-- A text is a sequence of code points. -/
abbrev Text := List CodePoint

/-! ## Code points -/

namespace CodePoint

/-- The code point of a character. -/
def ofChar (c : Char) : CodePoint :=
  ⟨c.toNat, by
    have h := c.valid
    simp only [Char.toNat, UInt32.isValidChar, Nat.isValidChar] at *
    omega⟩

instance : Coe Char CodePoint := ⟨ofChar⟩

/-- The code point of a number; a number out of range becomes the replacement character. -/
def ofNat (n : Nat) : CodePoint :=
  if h : n < 0x110000 then ⟨n, h⟩ else ⟨0xfffd, by decide⟩

/-- The first half of a surrogate pair. -/
def isHighSurrogate (c : CodePoint) : Bool :=
  0xd800 ≤ c.val && c.val ≤ 0xdbff

/-- The second half of a surrogate pair. -/
def isLowSurrogate (c : CodePoint) : Bool :=
  0xdc00 ≤ c.val && c.val ≤ 0xdfff

/-- Half of a surrogate pair. -/
def isSurrogate (c : CodePoint) : Bool :=
  0xd800 ≤ c.val && c.val ≤ 0xdfff

/-- The code point that a surrogate pair spells. -/
def joinSurrogates (high low : CodePoint) : CodePoint :=
  ofNat (0x10000 + (high.val % 0x400) * 0x400 + low.val % 0x400)

/-- The first half of the pair that spells a code point above U+FFFF. -/
def highSurrogate (c : CodePoint) : CodePoint :=
  ofNat (0xd800 + (c.val - 0x10000) / 0x400 % 0x400)

/-- The second half of the pair that spells a code point above U+FFFF. -/
def lowSurrogate (c : CodePoint) : CodePoint :=
  ofNat (0xdc00 + c.val % 0x400)

/-- Membership in a table of ranges, both ends included. -/
def within (ranges : List (Nat × Nat)) (c : CodePoint) : Bool :=
  ranges.any fun r => r.1 ≤ c.val && c.val ≤ r.2

end CodePoint

/-! ## Texts -/

namespace Text

/-- The code points of a string. -/
def ofString (s : String) : Text :=
  s.toList.map CodePoint.ofChar

instance : Coe String Text := ⟨ofString⟩

/-- The string of a text; a surrogate, which no string can hold, becomes U+FFFD. -/
def toString (t : Text) : String :=
  String.ofList (t.map fun c => if c.isSurrogate then Char.ofNat 0xfffd else Char.ofNat c.val)

/-- The decimal numeral of a number. -/
def ofNat (n : Nat) : Text :=
  (Nat.toDigits 10 n).map CodePoint.ofChar

/-- The decimal numeral of a whole number, with a sign if it is negative. -/
def ofInt (n : Int) : Text :=
  if n < 0 then CodePoint.ofChar '-' :: ofNat n.natAbs else ofNat n.natAbs

/-- The last `width` lower-case hexadecimal digits of a number. -/
def hex : Nat → Nat → Text
  | 0, _ => []
  | width + 1, n => hex width (n / 16) ++ [CodePoint.ofChar (Nat.digitChar (n % 16))]

/-- The texts one after another with a separator between neighbours. -/
def join (separator : Text) : List Text → Text
  | [] => []
  | [t] => t
  | t :: u :: ts => t ++ separator ++ join separator (u :: ts)

/-- What follows the given start of a text, if the text starts so. -/
def stripStart? : Text → Text → Option Text
  | [], t => some t
  | _ :: _, [] => none
  | c :: start, d :: t => if c = d then stripStart? start t else none

/-- Whether a text starts with another. -/
def startsWith (t start : Text) : Bool :=
  (stripStart? start t).isSome

/-- Whether a text ends with another. -/
def endsWith (t tail : Text) : Bool :=
  startsWith t.reverse tail.reverse

/-- The parts of a text between the occurrences of a separating code point. -/
def splitAt (separator : CodePoint) : Text → List Text
  | [] => [[]]
  | c :: t =>
    if c = separator then [] :: splitAt separator t
    else match splitAt separator t with
      | [] => [[c]]
      | part :: parts => (c :: part) :: parts

/-- Order by code points, a proper start first. -/
def le : Text → Text → Bool
  | [], _ => true
  | _ :: _, [] => false
  | c :: t, d :: u => c.val < d.val || (c = d && le t u)

/-- Whether a text holds the null character, which no name of a file or of an encoding may. -/
def hasNull (t : Text) : Bool :=
  t.contains (CodePoint.ofNat 0)

/-- The ASCII letters of a text in upper case, all else as it is. -/
def asciiUpper (t : Text) : Text :=
  t.map fun c => if 0x61 ≤ c.val ∧ c.val ≤ 0x7a then CodePoint.ofNat (c.val - 32) else c

/-- The ASCII letters of a text in lower case, all else as it is. -/
def asciiLower (t : Text) : Text :=
  t.map fun c => if 0x41 ≤ c.val ∧ c.val ≤ 0x5a then CodePoint.ofNat (c.val + 32) else c

end Text

end JavaText
