import JavaText.Json.Basic

/-!
# Writing JSON

A document is written on one line, with a space after each comma and colon, and in ASCII alone:
whatever is not printable ASCII is escaped, a code point above U+FFFF as its surrogate pair.
-/

namespace JavaText

namespace Json

/-- The escape of a code unit by its number. -/
def unitEscape (n : Nat) : Text :=
  backslash :: CodePoint.ofChar 'u' :: Text.hex 4 n

/-- One code point of a string. -/
def writeChar (c : CodePoint) : Text :=
  match c.val with
  | 0x22 => [backslash, c]
  | 0x5c => [backslash, c]
  | 0x08 => [backslash, 'b']
  | 0x09 => [backslash, 't']
  | 0x0a => [backslash, 'n']
  | 0x0c => [backslash, 'f']
  | 0x0d => [backslash, 'r']
  | n =>
    if 0x20 ≤ n ∧ n ≤ 0x7e then [c]
    else if n < 0x10000 then unitEscape n
    else unitEscape c.highSurrogate.val ++ unitEscape c.lowSurrogate.val

/-- A string between quotes. -/
def writeString (t : Text) : Text :=
  quote :: t.flatMap writeChar ++ [quote]

/-- What stands between the items of an array and between the members of an object. -/
def separator : Text := ", "

mutual

/-- The text of a value. -/
def write : Json → Text
  | null => "null"
  | bool true => "true"
  | bool false => "false"
  | number spelling => spelling
  | string t => writeString t
  | array items => openArray :: writeItems items ++ [closeArray]
  | object members => openObject :: writeMembers members ++ [closeObject]

/-- The texts of the items of an array. -/
def writeItems : List Json → Text
  | [] => []
  | [item] => write item
  | item :: next :: items => write item ++ separator ++ writeItems (next :: items)

/-- The texts of the members of an object. -/
def writeMembers : List (Text × Json) → Text
  | [] => []
  | [(key, value)] => writeString key ++ Text.ofString ": " ++ write value
  | (key, value) :: next :: members =>
    writeString key ++ Text.ofString ": " ++ write value ++ separator
      ++ writeMembers (next :: members)

end

end Json

end JavaText
