import JavaText.Kind.Token
import JavaText.Regex

/-!
# Lexemes

Which kind of token a text is. Keywords and symbols go by their fixed texts; all other kinds have
a shape, given by a regular expression, and the first shape that the whole text has decides.
-/

namespace JavaText

namespace Lexeme

/-! ## Parts of shapes -/

/-- A decimal digit of any script. -/
def digit : Regex :=
  .chars .digit

/-- Digits and underscores, possibly none. -/
def digits : Regex :=
  .star (.chars (.union .digit (.single '_')))

/-- A digit and then digits and underscores. -/
def number : Regex :=
  .seq digit digits

/-- A hexadecimal digit, where the digits of any script count, or an underscore. -/
def hexDigit : CharSet :=
  .union .digit (.union (.range 'a' 'f') (.union (.range 'A' 'F') (.single '_')))

/-- What an identifier may start with. -/
def nameStart : CharSet :=
  .union (.range 'A' 'Z') (.union (.range 'a' 'z') (.union (.single '_') (.single '$')))

/-- Hexadecimal, binary or decimal digits of a whole number. -/
def whole : Regex :=
  .alt
    (.sequence [.lit "0", .oneOf "xX", .plus (.chars hexDigit)])
    (.alt (.sequence [.lit "0", .oneOf "bB", .plus (.oneOf "01_")]) number)

/-- A decimal exponent. -/
def exponent : Regex :=
  .sequence [.oneOf "eE", .opt (.oneOf "+-"), .plus digit]

/-- A fraction without digits before the point. -/
def pointFirst : Regex :=
  .sequence [.lit ".", digit, digits]

/-- Any text. -/
def anything : Regex :=
  .star (.chars .all)

/-- What stands between quotes on one line: no bare quote, backslash or line break, and a
backslash before any character but a line feed. -/
def quotedChar (quote : CodePoint) : Regex :=
  .alt (.chars (.compl (.ofText [quote, '\\', '\r', '\n'])))
    (.seq (.lit "\\") (.chars (.compl (.single '\n'))))

/-! ## The shapes -/

/-- White space. -/
def whiteSpace : Regex :=
  .plus (.chars .blank)

/-- A comment for documentation. -/
def docComment : Regex :=
  .sequence [.lit "/**", anything, .lit "*/"]

/-- A comment between delimiters. -/
def blockComment : Regex :=
  .sequence [.lit "/*", anything, .lit "*/"]

/-- A comment to the end of the line. -/
def lineComment : Regex :=
  .seq (.lit "//") (.star (.chars (.compl (.ofText "\r\n"))))

/-- A name: it starts with a letter of ASCII, an underscore or a dollar sign. -/
def identifier : Regex :=
  .seq (.chars nameStart) (.star (.chars (.union .word (.single '$'))))

/-- A whole number with the suffix of the long type. -/
def long : Regex :=
  .seq whole (.oneOf "lL")

/-- A number with the suffix of the float type. -/
def float : Regex :=
  .sequence [
    .alt (.sequence [number, .opt (.lit "."), digits]) pointFirst,
    .opt exponent,
    .oneOf "fF"]

/-- A number of the double type: a point, an exponent or the suffix tells it from an integer. -/
def double : Regex :=
  .alt
    (.sequence [
      .alt (.sequence [number, .lit ".", digits]) pointFirst,
      .opt exponent,
      .opt (.oneOf "dD")])
    (.alt
      (.sequence [number, exponent, .opt (.oneOf "dD")])
      (.seq number (.oneOf "dD")))

/-- A text block between triple quotes. -/
def textBlock : Regex :=
  .sequence [.lit "\"\"\"", anything, .lit "\"\"\""]

/-- A string on one line. -/
def string : Regex :=
  .sequence [.lit "\"", .star (quotedChar (.ofNat 0x22)), .lit "\""]

/-- A character, or several, between single quotes. -/
def character : Regex :=
  .sequence [.lit "'", .plus (quotedChar (.ofNat 0x27)), .lit "'"]

/-- The shapes in the order in which they are tried. -/
def shapes : List (Regex × TokenKind) := [
  (whiteSpace, .trivia .whiteSpace),
  (docComment, .trivia .docComment),
  (blockComment, .trivia .blockComment),
  (lineComment, .trivia .lineComment),
  (identifier, .identifier),
  (long, .literal .long),
  (whole, .literal .integer),
  (float, .literal .float),
  (double, .literal .double),
  (textBlock, .literal .textBlock),
  (string, .literal .string),
  (character, .literal .character)]

end Lexeme

/-- The kind of the token that a text is, if it is one. -/
def TokenKind.ofText? (text : Text) : Option TokenKind :=
  match TokenKind.fixedTexts.lookup text with
  | some kind => some kind
  | none => (Lexeme.shapes.find? fun shape => shape.1.accepts text).map Prod.snd

end JavaText
