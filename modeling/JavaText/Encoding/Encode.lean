import JavaText.Encoding.Basic

/-!
# From text to bytes

Each code point is written on its own. One that the encoding has no place for (a surrogate in the
Unicode encodings, a character out of range in the others) is left to the handler.
-/

namespace JavaText

/-- Why a text could not be encoded. -/
inductive EncodeError
  | unencodable
  | unknown (name : UnknownName)
  /-- The name of an encoding or a handler holds the null character. -/
  | nullInName
  deriving DecidableEq, Repr

/-- The message about a name with the null character in it. -/
def EncodeError.nullMessage : Text := "embedded null character"

namespace Encoding

/-- The two bytes of a 16-bit code unit. -/
def unit16 : ByteOrder → Nat → Bytes
  | .little, n => [UInt8.ofNat (n % 256), UInt8.ofNat (n / 256)]
  | .big, n => [UInt8.ofNat (n / 256), UInt8.ofNat (n % 256)]

/-- The four bytes of a 32-bit code unit. -/
def unit32 : ByteOrder → Nat → Bytes
  | .little, n => unit16 .little (n % 65536) ++ unit16 .little (n / 65536)
  | .big, n => unit16 .big (n / 65536) ++ unit16 .big (n % 65536)

/-- The bytes of a code point in UTF-8, surrogates included. -/
def utf8Bytes (n : Nat) : Bytes :=
  if n < 0x80 then [UInt8.ofNat n]
  else if n < 0x800 then [UInt8.ofNat (0xc0 + n / 64), UInt8.ofNat (0x80 + n % 64)]
  else if n < 0x10000 then
    [UInt8.ofNat (0xe0 + n / 4096), UInt8.ofNat (0x80 + n / 64 % 64), UInt8.ofNat (0x80 + n % 64)]
  else
    [UInt8.ofNat (0xf0 + n / 262144), UInt8.ofNat (0x80 + n / 4096 % 64),
      UInt8.ofNat (0x80 + n / 64 % 64), UInt8.ofNat (0x80 + n % 64)]

/-- The bytes of a code point, in an encoding that is Unicode, surrogates included. -/
def rawBytes? (e : Encoding) (c : CodePoint) : Option Bytes :=
  match e with
  | utf8 => some (utf8Bytes c.val)
  | utf16 order =>
    let order := order.getD .little
    if c.val < 0x10000 then some (unit16 order c.val)
    else some (unit16 order c.highSurrogate.val ++ unit16 order c.lowSurrogate.val)
  | utf32 order => some (unit32 (order.getD .little) c.val)
  | latin1 => none
  | ascii => none

/-- The bytes of a code point that the encoding has a place for. -/
def charBytes? (e : Encoding) (c : CodePoint) : Option Bytes :=
  match e with
  | latin1 => if c.val < 0x100 then some [UInt8.ofNat c.val] else none
  | ascii => if c.val < 0x80 then some [UInt8.ofNat c.val] else none
  | e => if c.isSurrogate then none else e.rawBytes? c

/-- The bytes of a text of ASCII, which every encoding has a place for. -/
def asciiBytes (e : Encoding) (t : Text) : Bytes :=
  t.flatMap fun c => (e.charBytes? c).getD []

/-- The byte that a surrogate stands for, in the encodings that are made of single bytes. -/
def escapedByte? (e : Encoding) (c : CodePoint) : Option Bytes :=
  match e with
  | utf16 _ | utf32 _ => none
  | _ => if 0xdc80 ≤ c.val ∧ c.val ≤ 0xdcff then some [UInt8.ofNat (c.val - 0xdc00)] else none

/-- A character by its name, or by its number if it has none. -/
def nameEscape (name? : CodePoint → Option Text) (c : CodePoint) : Text :=
  match name? c with
  | some name => Text.ofString "\\N\x7b" ++ name ++ Text.ofString "\x7d"
  | none => Text.numericEscape c

/-- What the handler writes for a code point that the encoding has no place for. -/
def handleChar (e : Encoding) (h : Handler) (c : CodePoint) : Except EncodeError Bytes :=
  match h with
  | .strict => .error .unencodable
  | .passSurrogates =>
    match e.rawBytes? c with
    | some bs => .ok bs
    | none => .error .unencodable
  | .escapeBytes =>
    match e.escapedByte? c with
    | some bs => .ok bs
    | none => .error .unencodable
  | .replace => .ok (e.asciiBytes "?")
  | .ignore => .ok []
  | .characterReference =>
    .ok (e.asciiBytes (Text.ofString "&#" ++ Text.ofNat c.val ++ Text.ofString ";"))
  | .backslashEscape => .ok (e.asciiBytes (Text.numericEscape c))
  | .characterName name? => .ok (e.asciiBytes (nameEscape name? c))
  | .unknown name => .error (.unknown (.handler name))

/-- The bytes of the code points one after another. -/
def encodeChars (e : Encoding) (h : Handler) : Text → Except EncodeError Bytes
  | [] => .ok []
  | c :: t =>
    let here : Except EncodeError Bytes := match e.charBytes? c with
      | some bs => .ok bs
      | none => e.handleChar h c
    match here with
    | .error err => .error err
    | .ok bs => (encodeChars e h t).map (bs ++ ·)

/-- The byte order mark that a text starts with. -/
def byteOrderMark : Encoding → Bytes
  | utf16 none => unit16 .little 0xfeff
  | utf32 none => unit32 .little 0xfeff
  | _ => []

/-- The bytes of a text. -/
def encode (e : Encoding) (h : Handler) (t : Text) : Except EncodeError Bytes :=
  (e.encodeChars h t).map (e.byteOrderMark ++ ·)

end Encoding

end JavaText
