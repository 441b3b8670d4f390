import JavaText.Text.Basic

/-!
# Blank characters

The characters that white space between tokens is made of: the separators of every script, the
line breaks, and the four information separators of ASCII.
-/

namespace JavaText

/-- The runs of blank characters, in increasing order. -/
def blankRanges : List (Nat × Nat) := [
    (0x9, 0xd), (0x1c, 0x20), (0x85, 0x85), (0xa0, 0xa0), (0x1680, 0x1680), (0x2000, 0x200a),
    (0x2028, 0x2029), (0x202f, 0x202f), (0x205f, 0x205f), (0x3000, 0x3000)]

/-- A white space character. -/
def CodePoint.isBlank (c : CodePoint) : Bool :=
  c.within blankRanges

end JavaText
