import JavaText.Text.Quoted
import JavaText.Text.Size

/-!
# Encodings of text

The encodings in which files are read and written, what is done about a character or a byte that
an encoding has no place for, and the names by which both are chosen.
-/

namespace JavaText

/-- The content of a file. -/
abbrev Bytes := List UInt8

/-- Which byte of a code unit comes first. -/
inductive ByteOrder
  | little
  | big
  deriving DecidableEq, Repr

/-- An encoding of text. Where UTF-16 or UTF-32 fix no byte order, a byte order mark is written and
looked for, and the order is little endian without one. -/
inductive Encoding
  | utf8
  | utf16 (order : Option ByteOrder)
  | utf32 (order : Option ByteOrder)
  | latin1
  | ascii
  deriving DecidableEq, Repr

/-- What is done about characters and bytes that do not fit. -/
inductive Handler
  | strict
  | passSurrogates
  /-- Bytes that do not fit become low surrogates, and such surrogates become bytes again. -/
  | escapeBytes
  | replace
  | ignore
  | characterReference
  | backslashEscape
  /-- A character that does not fit is written by its name, if the table has one. -/
  | characterName (name? : CodePoint → Option Text)
  | unknown (name : Text)

/-- A choice of encoding or handler that names nothing known. -/
inductive UnknownName
  | encoding (name : Text)
  | handler (name : Text)
  /-- A handler that was needed while bytes were read in the named encoding. -/
  | handlerWithin (encoding name : Text)
  deriving DecidableEq, Repr

/-- How many bytes of the name of a handler are repeated in a message. -/
def UnknownName.shownBytes : Nat := 400

/-- The message about an unknown name. -/
def UnknownName.message : UnknownName → Text
  | encoding name => Text.ofString "unknown encoding: " ++ name
  | handler name => unknownHandler name
  | handlerWithin within name =>
    Text.ofString "decoding with '" ++ within ++ Text.ofString "' codec failed (LookupError: "
      ++ unknownHandler name ++ Text.ofString ")"
where
  /-- The message about a handler alone. -/
  unknownHandler (name : Text) : Text :=
    Text.ofString "unknown error handler name '" ++ name.takeBytes shownBytes ++ Text.ofString "'"

/-! ## Names -/

namespace Encoding

/-- Whether a character of a name counts when names are compared. -/
def isNameChar (c : CodePoint) : Bool :=
  (0x61 ≤ c.val && c.val ≤ 0x7a) || (0x30 ≤ c.val && c.val ≤ 0x39) || c.val == 0x2e

/-- The words of a name in lower case, whatever separates them. -/
def nameWords (name : Text) : List Text :=
  (go name.asciiLower).filter (!·.isEmpty)
where
  /-- The runs of name characters, some of them empty. -/
  go : Text → List Text
    | [] => [[]]
    | c :: t =>
      if isNameChar c then
        match go t with
        | [] => [[c]]
        | word :: words => (c :: word) :: words
      else [] :: go t

/-- A name in the form in which names are compared: lower case, with an underscore for whatever
separates two words. -/
def normalize (name : Text) : Text :=
  Text.join "_" (nameWords name)

/-- The encodings with their proper names and their other names, in the form in which names are
compared. -/
def names : List (Encoding × String × List String) := [
  (utf8, "utf_8", ["u8", "utf", "utf8", "utf8_ucs2", "utf8_ucs4", "cp65001"]),
  (utf16 none, "utf_16", ["u16", "utf16"]),
  (utf16 (some .little), "utf_16_le", ["unicodelittleunmarked", "utf_16le"]),
  (utf16 (some .big), "utf_16_be", ["unicodebigunmarked", "utf_16be"]),
  (utf32 none, "utf_32", ["u32", "utf32"]),
  (utf32 (some .little), "utf_32_le", ["utf_32le"]),
  (utf32 (some .big), "utf_32_be", ["utf_32be"]),
  (latin1, "latin_1", ["8859", "cp819", "csisolatin1", "ibm819", "iso8859", "iso8859_1",
    "iso_8859_1", "iso_8859_1_1987", "iso_ir_100", "l1", "latin", "latin1"]),
  (ascii, "ascii", ["646", "ansi_x3.4_1968", "ansi_x3_4_1968", "ansi_x3.4_1986", "cp367",
    "csascii", "ibm367", "iso646_us", "iso_646.irv_1991", "iso_ir_6", "us", "us_ascii"])]

/-- A name with underscores in place of its dots. -/
def undotted (name : Text) : Text :=
  name.map fun c => if c = CodePoint.ofChar '.' then CodePoint.ofChar '_' else c

/-- Whether a name in the form in which names are compared belongs to an encoding. Dots may take the
place of the underscores of its other names, but not of its proper name. -/
def isNameOf (name : Text) (proper : String) (others : List String) : Bool :=
  name == Text.ofString proper
    || others.any fun n => Text.ofString n == name || Text.ofString n == undotted name

/-- The encoding with the given name. -/
def ofName? (name : Text) : Option Encoding :=
  (names.find? fun (_, proper, others) => isNameOf (normalize name) proper others).map Prod.fst

/-- The names under which the common encodings are found directly, in the form in which names are
compared. -/
def directNames : List String :=
  ["utf_8", "utf8", "utf_16", "utf16", "utf_32", "utf32", "latin_1", "latin1", "iso_8859_1",
    "iso8859_1", "ascii", "us_ascii"]

/-- Whether a name is one under which an encoding is found directly. -/
def isDirect (name : Text) : Bool :=
  directNames.any fun n => Text.ofString n == normalize name

end Encoding

/-- What is said about a handler that was needed while bytes were read in the named encoding: unless
the encoding is found directly, it is named too. -/
def UnknownName.within (encodingName : Text) : UnknownName → UnknownName
  | handler name =>
    if Encoding.isDirect encodingName then handler name else handlerWithin encodingName name
  | other => other

/-- The handler with the given name; one that names characters has no table of names yet. An unknown
name does no harm until the handler is needed. -/
def Handler.ofName (name : Text) : Handler :=
  match (([("strict", strict), ("surrogatepass", passSurrogates),
      ("surrogateescape", escapeBytes), ("replace", replace), ("ignore", ignore),
      ("xmlcharrefreplace", characterReference), ("backslashreplace", backslashEscape),
      ("namereplace", characterName fun _ => none)] : List (Text × Handler)).lookup name) with
  | some h => h
  | none => unknown name

/-- The handler with a table of the names of characters, if it needs one. -/
def Handler.withNames (name? : CodePoint → Option Text) : Handler → Handler
  | characterName _ => characterName name?
  | h => h

end JavaText
