import JavaText.Text.Printable

/-!
# Quoted text

A text between quotes on one line, so that it can be read back: the quote and the backslash are
escaped, and so is every character that is not printable. The quote is the single one, unless the
text has a single quote and no double one.
-/

namespace JavaText

namespace Text

/-- The single quote. -/
def singleQuote : CodePoint := .ofNat 0x27

/-- The double quote. -/
def doubleQuote : CodePoint := .ofNat 0x22

/-- The backslash. -/
def backslash : CodePoint := '\\'

/-- The quote around a text: the double one only if that spares the text an escape. -/
def quoteFor (t : Text) : CodePoint :=
  if t.contains singleQuote && !t.contains doubleQuote then doubleQuote else singleQuote

/-- The escape of a code point by number: the shortest of two, four or eight digits that fits. -/
def numericEscape (c : CodePoint) : Text :=
  if c.val < 0x100 then backslash :: CodePoint.ofChar 'x' :: hex 2 c.val
  else if c.val < 0x10000 then backslash :: CodePoint.ofChar 'u' :: hex 4 c.val
  else backslash :: CodePoint.ofChar 'U' :: hex 8 c.val

/-- One code point of a quoted text. -/
def escape (quote c : CodePoint) : Text :=
  if c = quote ∨ c = backslash then [backslash, c]
  else match c.val with
    | 0x09 => [backslash, 't']
    | 0x0a => [backslash, 'n']
    | 0x0d => [backslash, 'r']
    | _ => if c.isPrintable then [c] else numericEscape c

/-- A text between quotes, with escapes. -/
def quoted (t : Text) : Text :=
  let quote := quoteFor t
  quote :: t.flatMap (escape quote) ++ [quote]

end Text

end JavaText
