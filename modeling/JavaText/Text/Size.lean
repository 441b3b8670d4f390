import JavaText.Text.Basic

/-!
# The size of a text in bytes

Some limits are set in bytes and not in characters: how long the name of a file may be, and how much
of a name is repeated in a message. The bytes are those of UTF-8.
-/

namespace JavaText

/-- The code point that stands for what could not be decoded. -/
def replacementCharacter : CodePoint := .ofNat 0xfffd

/-- How many bytes a code point takes in UTF-8. -/
def CodePoint.utf8Size (c : CodePoint) : Nat :=
  if c.val < 0x80 then 1 else if c.val < 0x800 then 2 else if c.val < 0x10000 then 3 else 4

namespace Text

/-- How many bytes a text takes in UTF-8. -/
def utf8Size (t : Text) : Nat :=
  t.foldl (fun size c => size + c.utf8Size) 0

/-- The part of a text in its first bytes. The start of a character that is cut in two becomes the
replacement character. -/
def takeBytes : Nat → Text → Text
  | _, [] => []
  | limit, c :: t =>
    if c.utf8Size ≤ limit then c :: takeBytes (limit - c.utf8Size) t
    else if limit = 0 then []
    else [replacementCharacter]

end Text

end JavaText
